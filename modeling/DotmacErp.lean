import DotmacErp.Consolidation.EliminatedOnce
import DotmacErp.GL.PeriodAgreement
import DotmacErp.GL.ReversalLink
import DotmacErp.Inventory.LotHistory
import DotmacErp.Inventory.LotInvariant
import DotmacErp.Inventory.ReservationRuns
import DotmacErp.Inventory.WacIssueCost
import DotmacErp.Inventory.WacReplay
import DotmacErp.Inventory.WacTracking
import DotmacErp.Platform.OutboxOnce
import DotmacErp.Platform.OutboxReconciler
import DotmacErp.Platform.SagaTrace
import DotmacErp.Payroll.LoanRecovery
import DotmacErp.Payroll.ProgressiveTax
import DotmacErp.Receivables.AmountPaidReconciler
import DotmacErp.Receivables.PostedDocuments
import DotmacErp.Receivables.ReceiptPosting
import DotmacErp.Revenue.ContractRuns
import DotmacErp.Purchasing.ReceiptRuns
import DotmacErp.Sales.OrderRuns
import DotmacErp.Taxes.ReturnRuns
import DotmacErp.Banking.ImportRuns
import DotmacErp.Banking.MatchRuns
import DotmacErp.Posting.Residue
import DotmacErp.GL.YearPeriods
import DotmacErp.GL.IncrementalBalances
import DotmacErp.GL.YearToDate
import DotmacErp.GL.RevaluationJournal
import DotmacErp.GL.BalanceLists
import DotmacErp.Automation.ScheduleRuns
import DotmacErp.Platform.IdempotencyTransactions
import DotmacErp.Payroll.ProrationSplit
import DotmacErp.Inventory.FifoConsumption
import DotmacErp.Payroll.LoanCompletion
import DotmacErp.Payroll.NetPayFloor
import DotmacErp.Payroll.NewBands
import DotmacErp.Taxes.InclusiveTaxes
import DotmacErp.FixedAssets.Revaluations
import DotmacErp.FixedAssets.Disposals
import DotmacErp.FixedAssets.MonthEnds
import DotmacErp.Platform.ExchangeRates
import DotmacErp.Consolidation.InvestmentEliminations
import DotmacErp.Consolidation.OwnershipPaths
import DotmacErp.Leases.AmortizationSchedules
import DotmacErp.Ipsas.CommitmentAmounts
import DotmacErp.Payroll.DeductionClamp
import DotmacErp.Banking.ExactTies
import DotmacErp.Taxes.DeferredTax
import DotmacErp.Banking.ContraMatching
import DotmacErp.GL.BalanceQueue
import DotmacErp.Platform.ApprovalAuthority
import DotmacErp.Payables.SupplierCoverage
