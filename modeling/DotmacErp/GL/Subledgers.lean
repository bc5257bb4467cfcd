import DotmacErp.Foundation.Rounding
import DotmacErp.GL.Models

/-!
# What a revaluation reads of other modules

The exchange rates and their types. Nothing in the general ledger writes them, so they are one part
of the database (`Subledgers`) that other modules may replace between two calls; the bank accounts
are a table of their own.
-/

namespace DotmacErp

open Calendar Relational Rounding

/-- `BankAccount`, the columns the close gate and a revaluation read. -/
structure BankAccount where
  organizationId : UUID
  accountName : String
  active : Bool
  currencyCode : String
  glAccountId : UUID
  lastStatementBalance : Option ℚ
  lastStatementDate : Option Date

/-- `core_fx.exchange_rate_type`. -/
structure ExchangeRateType where
  organizationId : UUID
  typeCode : String

/-- `core_fx.exchange_rate`, the columns a spot rate is read from. -/
structure ExchangeRate where
  organizationId : UUID
  fromCurrencyCode : String
  toCurrencyCode : String
  rateTypeId : UUID
  effectiveDate : Date
  exchangeRate : ℚ

/-- `inverse_rate`, a quotient in the default decimal context of 28 significant digits. -/
def ExchangeRate.inverseRate (r : ExchangeRate) : ℚ :=
  if r.exchangeRate = 0 then 0 else significant 28 (1 / r.exchangeRate)

/-- The records of other modules. -/
structure Subledgers where
  exchangeRateTypes : Table ExchangeRateType := .empty
  exchangeRates : Table ExchangeRate := .empty

end DotmacErp
