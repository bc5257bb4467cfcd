import DotmacErp.Banking.Statements
import DotmacErp.Foundation.Scripts
import DotmacErp.Foundation.Selections
import DotmacErp.Foundation.TableSums

/-!
# Imports over whole runs

A line is judged by its first namesake: the first line of its account with its date, amount and
type, among those stored before the call and those that stand before it in the call
(`firstNamesake`). Lines that were skipped do not matter for this, as a line is skipped only where
it has a namesake already (`importLines_eq`).

So a list that is imported again stores nothing if and only if each of its lines agrees with its
first namesake, a line of an unknown transaction is stored if and only if its first namesake has
neither its bank reference nor its words, and the totals of a statement are those of its lines if
and only if no line of it was skipped (`imports_characterized`).
-/

namespace DotmacErp.Banking

open Relational Session Table Rounding

namespace BankStatementService

variable {c : TextRules} {autoflush : Bool} {s s' before : BankingStore}
  {org bankAccountId k : UUID} {line : StatementLineInput} {input : ImportInput}

/-! ### Namesakes -/

def sameKey (line : StatementLineInput) (existing : BankStatementLine) : Bool :=
  decide (existing.transactionDate = line.transactionDate ∧ existing.amount = line.amount ∧
    existing.transactionType = line.transactionType)

def ofAccount (statements : Table BankStatement) (org bankAccountId : UUID)
    (existing : BankStatementLine) : Bool :=
  (statements.get? existing.statementId).any fun statement =>
    decide (statement.organizationId = org ∧ statement.bankAccountId = bankAccountId)

def accountRows (s : BankingStore) (org bankAccountId : UUID) :
    List BankStatementLine :=
  (s.statementLines.select (ofAccount s.statements org bankAccountId)).map Stored.row

def firstNamesake (s : BankingStore) (input : ImportInput) (lines : List StatementLineInput)
    (line : StatementLineInput) : Option BankStatementLine :=
  (accountRows s input.organizationId input.bankAccountId ++
    lines.map (newLine s.statements.next)).find? (sameKey line)

/-- A line agrees with its first namesake. -/
def IsDuplicate (c : TextRules) (s : BankingStore) (input : ImportInput)
    (lines : List StatementLineInput) (line : StatementLineInput) : Prop :=
  ∃ existing ∈ firstNamesake s input lines line, agrees c line existing = true

instance (c : TextRules) (s : BankingStore) (input : ImportInput)
    (lines : List StatementLineInput) (line : StatementLineInput) :
    Decidable (IsDuplicate c s input lines line) :=
  inferInstanceAs (Decidable (∃ existing ∈ firstNamesake s input lines line, _))

theorem find?_isLike : (s.statementLines.find? (isLike s.statements org bankAccountId
    line)).map Stored.row =
      (accountRows s org bankAccountId).find? (sameKey line) := by
  rw [accountRows, List.find?_map, select, List.find?_filter, Table.find?]
  congr 1
  refine List.find?_congr fun r _ => ?_
  simp [isLike, ofAccount, sameKey]

/-- **What a check finds**: the first namesake, if the line agrees with it. -/
theorem checkDuplicateLine_isSome :
    (checkDuplicateLine c s org bankAccountId line).isSome = true ↔
      ∃ existing ∈ (accountRows s org bankAccountId).find? (sameKey line),
        agrees c line existing = true := by
  rw [← find?_isLike, checkDuplicateLine, Option.isSome_iff_exists]
  constructor
  · rintro ⟨r, hr⟩
    obtain ⟨hfound, hagrees⟩ := Option.filter_eq_some_iff.mp hr
    exact ⟨r.row, Option.mem_map_of_mem Stored.row hfound, hagrees⟩
  · rintro ⟨existing, hexisting, hagrees⟩
    obtain ⟨r, hr, rfl⟩ := Option.mem_map.mp hexisting
    exact ⟨r, Option.filter_eq_some_iff.mpr ⟨hr, hagrees⟩⟩

/-! ### The loop -/

def seen (autoflush : Bool) (earlier : List StatementLineInput) : List StatementLineInput :=
  if autoflush = true then earlier else []

def keptFrom (c : TextRules) (autoflush : Bool) (s : BankingStore) (input : ImportInput) :
    List StatementLineInput → List StatementLineInput → List StatementLineInput
  | _, [] => []
  | earlier, line :: rest =>
    if IsDuplicate c s input (seen autoflush earlier) line then
      keptFrom c autoflush s input (earlier ++ [line]) rest
    else line :: keptFrom c autoflush s input (earlier ++ [line]) rest

theorem keptFrom_sublist (earlier lines : List StatementLineInput) :
    (keptFrom c autoflush s input earlier lines).Sublist lines := by
  induction lines generalizing earlier with
  | nil => exact List.Sublist.refl []
  | cons line rest ih =>
    rw [keptFrom]
    split_ifs
    · exact (ih _).cons line
    · exact (ih _).cons_cons line

theorem keptFrom_append (earlier lines others : List StatementLineInput) :
    keptFrom c autoflush s input earlier (lines ++ others) =
      keptFrom c autoflush s input earlier lines ++
        keptFrom c autoflush s input (earlier ++ lines) others := by
  induction lines generalizing earlier with
  | nil => rw [List.nil_append, keptFrom, List.nil_append, List.append_nil]
  | cons line rest ih =>
    rw [List.cons_append, keptFrom, keptFrom, ih, List.append_assoc, List.singleton_append]
    split_ifs
    · rfl
    · rfl

variable {earlier lines : List StatementLineInput}

theorem keptFrom_eq_self :
    keptFrom c autoflush s input earlier lines = lines ↔
      ∀ l line l', lines = l ++ line :: l' →
        ¬ IsDuplicate c s input (seen autoflush (earlier ++ l)) line := by
  induction lines generalizing earlier with
  | nil =>
    refine iff_of_true rfl fun l line l' h => ?_
    exact absurd h (List.ne_nil_of_mem (List.mem_append_right l List.mem_cons_self)).symm
  | cons first rest ih =>
    rw [keptFrom]
    split_ifs with hduplicate
    · refine iff_of_false (fun h => ?_) fun h => ?_
      · -- a list is not a part of its tail
        have hle : (keptFrom c autoflush s input (earlier ++ [first]) rest).length ≤ rest.length :=
          (keptFrom_sublist _ rest).length_le
        rw [h, List.length_cons] at hle
        omega
      · refine h [] first rest rfl ?_
        rw [List.append_nil]
        exact hduplicate
    · rw [List.cons.injEq, and_iff_right rfl, ih]
      constructor
      · intro h l line l' hsplit
        rcases List.cons_eq_append_iff.mp hsplit with ⟨rfl, hhead⟩ | ⟨l₁, rfl, hrest⟩
        · rw [List.cons.injEq] at hhead
          rw [List.append_nil, hhead.1]
          exact hduplicate
        · have hnot := h l₁ line l' hrest
          rw [List.append_assoc, List.singleton_append] at hnot
          exact hnot
      · intro h l line l' hsplit
        rw [List.append_assoc, List.singleton_append]
        exact h (first :: l) line l' (by rw [hsplit, List.cons_append])

theorem sameKey_newLine {existing : BankStatementLine} {other : StatementLineInput}
    (hscale : AtScale 4 existing.amount) (hline : sameKey line existing = true)
    (hother : sameKey other (newLine k line) = true) : sameKey other existing = true := by
  obtain ⟨hdate, hamount, htype⟩ := of_decide_eq_true hline
  obtain ⟨hdate', hamount', htype'⟩ := of_decide_eq_true hother
  have hstored : moneyColumn line.amount = line.amount :=
    halfUp_of_atScale (hamount ▸ hscale)
  refine decide_eq_true ⟨hdate.trans hdate', ?_, htype.trans htype'⟩
  rw [hamount, ← hamount']
  exact hstored.symm

/-- **A line that has a namesake** is the first namesake of nothing. -/
theorem find?_append_of_namesake {rows : List BankStatementLine}
    (hscale : ∀ r ∈ rows, AtScale 4 r.amount) (hline : (rows.find? (sameKey line)).isSome = true)
    (other : StatementLineInput) :
    (rows ++ [newLine k line]).find? (sameKey other) = rows.find? (sameKey other) := by
  rw [List.find?_append]
  cases hfound : rows.find? (sameKey other) with
  | some r => rfl
  | none =>
    rw [Option.none_or]
    refine List.find?_eq_none.mpr fun r hr hother => ?_
    obtain rfl := List.mem_singleton.mp hr
    obtain ⟨existing, hexisting⟩ := Option.isSome_iff_exists.mp hline
    have hmem := List.mem_of_find?_eq_some hexisting
    exact List.find?_eq_none.mp hfound existing hmem
      (sameKey_newLine (hscale existing hmem) (List.find?_some hexisting) hother)

theorem accountRows_insertAll {statement : BankStatement}
    (hk : s.statements.get? k = some statement) (horg : statement.organizationId = org)
    (haccount : statement.bankAccountId = bankAccountId) (lines : List StatementLineInput) :
    accountRows { s with
      statementLines := s.statementLines.insertAll (lines.map (newLine k)) } org
        bankAccountId =
      accountRows s org bankAccountId ++ lines.map (newLine k) := by
  rw [accountRows, rows_select_insertAll]
  refine congrArg₂ _ rfl (List.filter_eq_self.mpr fun r hr => ?_)
  obtain ⟨line, -, rfl⟩ := List.mem_map.mp hr
  rw [ofAccount]
  change ((s.statements.get? k).any _) = true
  rw [hk]
  exact decide_eq_true ⟨horg, haccount⟩

/-- Duplicates are checked for, and skipped. -/
def ImportInput.InScope (input : ImportInput) : Prop :=
  input.checkDuplicates = true ∧ input.skipDuplicates = true

def RowsAtScale (s : BankingStore) : Prop := s.statementLines.All fun r => AtScale 4 r.amount

theorem RowsAtScale.accountRows (h : RowsAtScale s) {existing : BankStatementLine}
    (hmem : existing ∈ accountRows s org bankAccountId) : AtScale 4 existing.amount := by
  obtain ⟨r, hr, rfl⟩ := List.mem_map.mp hmem
  exact h r.id r.row (mem_select.mp hr).1

theorem duplicateOf_isSome {t : BankingStore} (hscope : input.InScope)
    (hbefore : accountRows before input.organizationId input.bankAccountId =
      accountRows s input.organizationId input.bankAccountId)
    (hnames : ∀ other, (accountRows t input.organizationId input.bankAccountId).find?
      (sameKey other) = firstNamesake s input earlier other) :
    (duplicateOf c autoflush before t input line).isSome = true ↔
      IsDuplicate c s input (seen autoflush earlier) line := by
  rw [duplicateOf, if_pos hscope.1, checkDuplicateLine_isSome, IsDuplicate, seen]
  by_cases hflush : autoflush = true
  · rw [if_pos hflush, if_pos hflush, hnames]
  · rw [if_neg hflush, if_neg hflush, hbefore, firstNamesake, List.map_nil, List.append_nil]

/-- **The loop** stores the lines that do not agree with their first namesakes, and keeps the first
namesake of every line. -/
theorem importLines_eq {statement : BankStatement} (hscope : input.InScope)
    (hk : before.statements.get? s.statements.next = some statement)
    (horg : statement.organizationId = input.organizationId)
    (haccount : statement.bankAccountId = input.bankAccountId) (hscale : RowsAtScale s)
    (hbefore : accountRows before input.organizationId input.bankAccountId =
      accountRows s input.organizationId input.bankAccountId) (lines : List StatementLineInput)
    (t : BankingStore) (result : StatementImportResult) (ht : t.statements = before.statements)
    (hnames : ∀ other, (accountRows t input.organizationId input.bankAccountId).find?
      (sameKey other) = firstNamesake s input earlier other) :
    (importLines c autoflush before input s.statements.next lines (t, result)).1 =
      { t with
        statementLines := t.statementLines.insertAll
          ((keptFrom c autoflush s input earlier lines).map (newLine s.statements.next)) } ∧
    ∀ other, (accountRows (importLines c autoflush before input s.statements.next lines
      (t, result)).1 input.organizationId input.bankAccountId).find? (sameKey other) =
        firstNamesake s input (earlier ++ lines) other := by
  induction lines generalizing earlier t result with
  | nil =>
    refine ⟨rfl, fun other => ?_⟩
    rw [List.append_nil]
    exact hnames other
  | cons line rest ih =>
    have hlist : earlier ++ line :: rest = (earlier ++ [line]) ++ rest := by
      rw [List.append_assoc, List.singleton_append]
    have hmore : ∀ other, firstNamesake s input (earlier ++ [line]) other =
        ((accountRows s input.organizationId input.bankAccountId ++
          earlier.map (newLine s.statements.next)) ++ [newLine s.statements.next line]).find?
            (sameKey other) := by
      intro other
      rw [firstNamesake, List.map_append, List.append_assoc]
      rfl
    have hcheck : (duplicateOf c autoflush before t input line).isSome = true ↔
        IsDuplicate c s input (seen autoflush earlier) line :=
      duplicateOf_isSome hscope hbefore hnames
    rw [hlist, keptFrom]
    cases hfound : duplicateOf c autoflush before t input line with
    | none =>
      have hnot : ¬ IsDuplicate c s input (seen autoflush earlier) line := by
        rw [← hcheck, hfound]
        exact Bool.false_ne_true
      have hstep : importLine c autoflush before input s.statements.next (t, result) line =
          storeLine s.statements.next line (t, result) := by
        rw [importLine, hfound]
      have hrun : importLines c autoflush before input s.statements.next (line :: rest)
          (t, result) = importLines c autoflush before input s.statements.next rest
            (storeLine s.statements.next line (t, result)) :=
        congrArg (importLines c autoflush before input s.statements.next rest) hstep
      have hrows := accountRows_insertAll (s := t) (ht ▸ hk) horg haccount [line]
      have hnames' : ∀ other, (accountRows (storeLine s.statements.next line (t, result)).1
          input.organizationId input.bankAccountId).find? (sameKey other) =
            firstNamesake s input (earlier ++ [line]) other := by
        intro other
        rw [hmore, List.find?_append, ← firstNamesake, ← hnames, ← List.find?_append]
        exact congrArg _ hrows
      obtain ⟨hout, hnamed⟩ := ih (storeLine s.statements.next line (t, result)).1
        (storeLine s.statements.next line (t, result)).2 ht hnames'
      rw [if_neg hnot, hrun]
      exact ⟨hout, hnamed⟩
    | some duplicate =>
      have hduplicate : IsDuplicate c s input (seen autoflush earlier) line := by
        rw [← hcheck, hfound]
        rfl
      have hstep : importLine c autoflush before input s.statements.next (t, result) line =
          (t, result.withDuplicate line duplicate input.skipDuplicates) := by
        rw [importLine, hfound]
        exact if_pos hscope.2
      have hrun : importLines c autoflush before input s.statements.next (line :: rest)
          (t, result) = importLines c autoflush before input s.statements.next rest
            (t, result.withDuplicate line duplicate input.skipDuplicates) :=
        congrArg (importLines c autoflush before input s.statements.next rest) hstep
      have hnamesake : ((accountRows s input.organizationId input.bankAccountId ++
          earlier.map (newLine s.statements.next)).find? (sameKey line)).isSome = true := by
        obtain ⟨existing, hexisting, -⟩ := hduplicate
        rw [firstNamesake, seen] at hexisting
        split_ifs at hexisting
        · exact Option.isSome_iff_exists.mpr ⟨existing, hexisting⟩
        · rw [List.map_nil, List.append_nil] at hexisting
          rw [List.find?_append, Option.mem_def.mp hexisting]
          rfl
      rw [if_pos hduplicate, hrun]
      refine ih t _ ht fun other => ?_
      rw [hmore, find?_append_of_namesake (fun r hr => ?_) hnamesake]
      · exact hnames other
      · rcases List.mem_append.mp hr with hr | hr
        · exact hscale.accountRows hr
        · obtain ⟨other', -, rfl⟩ := List.mem_map.mp hr
          exact atScale_halfUp 4 _

/-! ### One import -/

/-- Every line is one of a statement. -/
def Filed (s : BankingStore) : Prop :=
  s.statementLines.All fun r => r.statementId < s.statements.next

def linesOf (s : BankingStore) (statementId : UUID) : List BankStatementLine :=
  (s.statementLines.select fun r => decide (r.statementId = statementId)).map Stored.row

theorem select_insertStatement (h : Filed s) (statement : BankStatement) :
    s.statementLines.select (ofAccount (s.statements.insert statement) org
      bankAccountId) =
    s.statementLines.select (ofAccount s.statements org bankAccountId) := by
  refine List.filter_congr fun r hr => ?_
  have hlt := h r.id r.row (get?_of_mem hr)
  rw [ofAccount, ofAccount, get?_insert, if_neg hlt.ne]

theorem accountRows_openStatement (h : Filed s) (account : BankAccount) :
    accountRows (openStatement input account s) org bankAccountId =
      accountRows s org bankAccountId :=
  congrArg (List.map Stored.row) (select_insertStatement h _)

/-- **The first lines of an import**, and the namesakes they leave. -/
theorem linesSoFar_eq (c : TextRules) (autoflush : Bool) (hscope : input.InScope)
    (hscale : RowsAtScale s) (hfiled : Filed s) (account : BankAccount)
    (lines : List StatementLineInput) :
    (linesSoFar c autoflush input account s lines).1 =
      { openStatement input account s with
        statementLines := s.statementLines.insertAll
          ((keptFrom c autoflush s input [] lines).map (newLine s.statements.next)) } ∧
    ∀ other, (accountRows (linesSoFar c autoflush input account s lines).1 input.organizationId
      input.bankAccountId).find? (sameKey other) = firstNamesake s input lines other := by
  have hk : (openStatement input account s).statements.get? s.statements.next =
      some (newStatement input input.number account.currencyCode) := get?_insert_self _ _
  refine importLines_eq hscope hk rfl rfl hscale (accountRows_openStatement hfiled account) lines
    (openStatement input account s) { statementId := s.statements.next } rfl fun other => ?_
  rw [accountRows_openStatement hfiled, firstNamesake, List.map_nil, List.append_nil]

variable {result : StatementImportResult}

/-- **An import** stores its statement, and of its lines those that are kept. -/
theorem importStatement_eq_ok (hscope : input.InScope) (hscale : RowsAtScale s) (hfiled : Filed s)
    (h : importStatement c autoflush input s = .ok result s') :
    ∃ account, s.accounts.get? input.bankAccountId = some account ∧
      s'.statements = s.statements.insert
        (newStatement input input.number account.currencyCode) ∧
      s'.statementLines = s.statementLines.insertAll
        ((keptFrom c autoflush s input [] input.lines).map (newLine s.statements.next)) ∧
      ∀ other, (accountRows s' input.organizationId input.bankAccountId).find? (sameKey other) =
        firstNamesake s input input.lines other := by
  rw [importStatement, get_bind, orRaise_bind] at h
  obtain ⟨account, haccount, h⟩ := h
  obtain ⟨-, h⟩ := refuse_bind.mp h
  obtain ⟨-, h⟩ := refuse_bind.mp h
  obtain ⟨-, h⟩ := refuse_bind.mp h
  obtain ⟨-, h⟩ := refuse_bind.mp h
  obtain ⟨_, s₁, hset, h⟩ := bind_eq_ok.mp h
  obtain rfl := set_eq_ok.mp hset
  obtain ⟨-, rfl⟩ := pure_eq_ok.mp h
  obtain ⟨hout, hnames⟩ := linesSoFar_eq c autoflush hscope hscale hfiled account
    input.lines
  exact ⟨account, haccount, congrArg BankingStore.statements hout,
    congrArg BankingStore.statementLines hout, hnames⟩

/-! ### What a later import leaves -/

structure Extends (s s' : BankingStore) : Prop where
  statements : ∀ k statement, s.statements.get? k = some statement →
    s'.statements.get? k = some statement
  next : s.statements.next ≤ s'.statements.next
  rows : ∀ organizationId bankAccountId, ∃ extra, accountRows s' organizationId bankAccountId =
    accountRows s organizationId bankAccountId ++ extra
  lines : ∀ k, k < s.statements.next → linesOf s' k = linesOf s k

theorem Extends.refl (s : BankingStore) : Extends s s :=
  ⟨fun _ _ h => h, le_refl _, fun _ _ => ⟨[], (List.append_nil _).symm⟩, fun _ _ => rfl⟩

theorem Extends.trans {s'' : BankingStore} (h : Extends s s') (h' : Extends s' s'') :
    Extends s s'' := by
  refine ⟨fun k statement hk => h'.statements k statement (h.statements k statement hk),
    h.next.trans h'.next, fun org bankAccountId => ?_, fun k hk => ?_⟩
  · obtain ⟨extra, hextra⟩ := h.rows org bankAccountId
    obtain ⟨extra', hextra'⟩ := h'.rows org bankAccountId
    exact ⟨extra ++ extra', by rw [hextra', hextra, List.append_assoc]⟩
  · rw [h'.lines k (hk.trans_le h.next), h.lines k hk]

/-- Amounts are stored and every line is filed under its statement. -/
structure Sound (s : BankingStore) : Prop where
  scale : RowsAtScale s
  filed : Filed s

theorem linesOf_import
    (hlines : s'.statementLines = s.statementLines.insertAll
      (lines.map (newLine s.statements.next))) (k : UUID) :
    linesOf s' k = linesOf s k ++
      if k = s.statements.next then lines.map (newLine s.statements.next) else [] := by
  rw [linesOf, hlines, rows_select_insertAll, linesOf]
  congr 1
  split_ifs with hk
  · refine List.filter_eq_self.mpr fun r hr => ?_
    obtain ⟨line, -, rfl⟩ := List.mem_map.mp hr
    exact decide_eq_true hk.symm
  · refine List.filter_eq_nil_iff.mpr fun r hr hid => ?_
    obtain ⟨line, -, rfl⟩ := List.mem_map.mp hr
    exact hk (of_decide_eq_true hid).symm

/-- **One import** keeps what is stored. -/
theorem Sound.import (h : Sound s) (hscope : input.InScope)
    (hrun : importStatement c autoflush input s = .ok result s') : Sound s' ∧ Extends s s' := by
  obtain ⟨account, -, hstatements, hlines, -⟩ := importStatement_eq_ok hscope h.scale h.filed hrun
  refine ⟨⟨fun i r hr => ?_, fun i r hr => ?_⟩, fun k statement hk => ?_, ?_,
    fun org bankAccountId => ?_, fun k hk => ?_⟩
  · rw [hlines] at hr
    rcases get?_insertAll_cases hr with hold | ⟨hmem, -⟩
    · exact h.scale i r hold
    · obtain ⟨line, -, rfl⟩ := List.mem_map.mp hmem
      exact atScale_halfUp 4 _
  · rw [hlines] at hr
    rw [hstatements, next_insert]
    rcases get?_insertAll_cases hr with hold | ⟨hmem, -⟩
    · exact (h.filed i r hold).trans (Nat.lt_succ_self _)
    · obtain ⟨line, -, rfl⟩ := List.mem_map.mp hmem
      exact Nat.lt_succ_self _
  · rw [hstatements]
    exact get?_insert_of_some hk _
  · rw [hstatements, next_insert]
    exact Nat.le_succ _
  · rw [accountRows, hlines, rows_select_insertAll, hstatements, select_insertStatement h.filed]
    exact ⟨_, rfl⟩
  · rw [linesOf_import hlines k, if_neg hk.ne, List.append_nil]

/-! ### Totals -/

def sumOf (transactionType : StatementLineType) (rows : List BankStatementLine) : ℚ :=
  ((rows.filter fun r => decide (r.transactionType = transactionType)).map
    BankStatementLine.amount).sum

/-- The totals of a statement are those of its lines. -/
def TotalsAgree (s : BankingStore) (statementId : UUID) : Prop :=
  ∀ statement ∈ s.statements.get? statementId,
    statement.totalLines = (linesOf s statementId).length ∧
    statement.totalCredits = sumOf .credit (linesOf s statementId) ∧
    statement.totalDebits = sumOf .debit (linesOf s statementId) ∧
    statement.unmatchedLines = ((linesOf s statementId).filter fun r => !r.isMatched).length

/-- The rounding to the column does not move the total. -/
def TotalCarries (transactionType : StatementLineType) (lines : List StatementLineInput) : Prop :=
  moneyColumn (totalOf transactionType lines) =
    ((lines.filter fun line => decide (line.transactionType = transactionType)).map
      fun line => moneyColumn line.amount).sum

instance (transactionType : StatementLineType) (lines : List StatementLineInput) :
    Decidable (TotalCarries transactionType lines) :=
  inferInstanceAs (Decidable ((_ : ℚ) = _))

theorem sumOf_newLine (transactionType : StatementLineType) (lines : List StatementLineInput) :
    sumOf transactionType (lines.map (newLine k)) =
      ((lines.filter fun line => decide (line.transactionType = transactionType)).map
        fun line => moneyColumn line.amount).sum := by
  rw [sumOf, List.filter_map, List.map_map]
  rfl

/-- **The totals of a new statement** are those of its lines if and only if all lines of the import
are stored, and nothing is lost to rounding. -/
theorem totalsAgree_import (h : Sound s) (hscope : input.InScope)
    (hrun : importStatement c autoflush input s = .ok result s') :
    TotalsAgree s' s.statements.next ↔
      keptFrom c autoflush s input [] input.lines = input.lines ∧
        TotalCarries .credit input.lines ∧ TotalCarries .debit input.lines := by
  obtain ⟨account, -, hstatements, hlines, -⟩ := importStatement_eq_ok hscope h.scale h.filed hrun
  have hnone : linesOf s s.statements.next = [] := by
    refine List.map_eq_nil_iff.mpr (List.filter_eq_nil_iff.mpr fun r hr hid => ?_)
    exact absurd (of_decide_eq_true hid) (h.filed r.id r.row (get?_of_mem hr)).ne
  have hnew : linesOf s' s.statements.next =
      (keptFrom c autoflush s input [] input.lines).map (newLine s.statements.next) := by
    rw [linesOf_import hlines, if_pos rfl, hnone, List.nil_append]
  have hunmatched : ∀ lines : List StatementLineInput,
      ((lines.map (newLine s.statements.next)).filter fun r => !r.isMatched).length =
        lines.length := by
    intro lines
    rw [List.filter_eq_self.mpr, List.length_map]
    intro r hr
    obtain ⟨line, -, rfl⟩ := List.mem_map.mp hr
    rfl
  rw [TotalsAgree, hstatements, get?_insert_self, hnew]
  constructor
  · intro hagree
    obtain ⟨hcount, hcredits, hdebits, -⟩ := hagree _ rfl
    have hkept : keptFrom c autoflush s input [] input.lines = input.lines := by
      refine (keptFrom_sublist [] input.lines).eq_of_length ?_
      rw [List.length_map] at hcount
      exact (Int.ofNat.inj hcount).symm
    rw [hkept, sumOf_newLine] at hcredits hdebits
    exact ⟨hkept, hcredits, hdebits⟩
  · rintro ⟨hkept, hcredits, hdebits⟩ statement hstatement
    obtain rfl := Option.some.inj hstatement
    rw [hkept, sumOf_newLine, sumOf_newLine, hunmatched, List.length_map]
    exact ⟨rfl, hcredits, hdebits, rfl⟩

/-! ### Runs -/

def ImportInput.after (c : TextRules) (autoflush : Bool) (s : BankingStore) (input : ImportInput) :
    BankingStore := commit (importStatement c autoflush input) s

/-- No statement yet. -/
structure NoStatements (s : BankingStore) : Prop where
  statements : s.statements = Table.empty
  statementLines : s.statementLines = Table.empty

def importSystem (c : TextRules) (autoflush : Bool) : System BankingStore ImportInput :=
  System.ofFunction NoStatements (ImportInput.after c autoflush)

theorem NoStatements.sound (h : NoStatements s) : Sound s := by
  constructor
  · rw [RowsAtScale, h.statementLines]
    exact all_empty
  · rw [Filed, h.statementLines]
    exact all_empty

/-- **One step** of a run. -/
theorem Sound.after (h : Sound s) (hscope : input.InScope) :
    Sound (input.after c autoflush s) ∧ Extends s (input.after c autoflush s) :=
  commit_induction (P := fun t => Sound t ∧ Extends s t) ⟨h, Extends.refl s⟩
    fun _ _ hrun => h.import hscope hrun

theorem sound_of_reachable
    (h : (importSystem c autoflush).ReachableWithin (fun _ input => input.InScope) s) :
    Sound s := by
  refine h.invariant (P := Sound) (fun s₀ hinit => hinit.sound) ?_
  rintro s₁ input s₂ hs₁ hscope rfl
  exact (hs₁.after hscope).1

/-- **A run** of imports keeps what was stored. -/
theorem extends_of_run (hs : Sound s)
    (h : (importSystem c autoflush).RunWithin (fun _ input => input.InScope) s s') :
    Sound s' ∧ Extends s s' := by
  have hstep : ∀ t input t', Sound t → ImportInput.InScope input →
      (importSystem c autoflush).step t input t' → Sound t' := by
    rintro t input t' ht hscope rfl
    exact (ht.after hscope).1
  refine ⟨h.preserves hstep hs, h.relates (P := Sound) (R := Extends) hstep hs Extends.refl
    (fun _ _ _ => Extends.trans) ?_⟩
  rintro t input t' ht hscope rfl
  exact (ht.after hscope).2

/-! ### Lists that are imported again -/

theorem find?_append_stored {rows extra : List BankStatementLine}
    (hnone : rows.find? (sameKey line) = none → ¬ AtScale 4 line.amount)
    (hextra : ∀ r ∈ extra, AtScale 4 r.amount) :
    (rows ++ extra).find? (sameKey line) = rows.find? (sameKey line) := by
  rw [List.find?_append]
  cases hfound : rows.find? (sameKey line) with
  | some r => rfl
  | none =>
    rw [Option.none_or]
    refine List.find?_eq_none.mpr fun r hr hsame => hnone hfound ?_
    rw [← (of_decide_eq_true hsame).2.1]
    exact hextra r hr

theorem firstNamesake_eq_none (hmem : line ∈ lines)
    (h : firstNamesake s input lines line = none) : ¬ AtScale 4 line.amount := by
  intro hscale
  refine List.find?_eq_none.mp h (newLine s.statements.next line)
    (List.mem_append_right _ (List.mem_map_of_mem hmem)) ?_
  exact decide_eq_true ⟨rfl, halfUp_of_atScale hscale, rfl⟩

theorem keptFrom_eq_nil :
    keptFrom c autoflush s input earlier lines = [] ↔
      ∀ l line l', lines = l ++ line :: l' →
        IsDuplicate c s input (seen autoflush (earlier ++ l)) line := by
  induction lines generalizing earlier with
  | nil =>
    refine iff_of_true rfl fun l line l' h => ?_
    exact absurd h (List.ne_nil_of_mem (List.mem_append_right l List.mem_cons_self)).symm
  | cons first rest ih =>
    rw [keptFrom]
    split_ifs with hduplicate
    · rw [ih]
      constructor
      · intro h l line l' hsplit
        rcases List.cons_eq_append_iff.mp hsplit with ⟨rfl, hhead⟩ | ⟨l₁, rfl, hrest⟩
        · rw [List.cons.injEq] at hhead
          rw [List.append_nil, hhead.1]
          exact hduplicate
        · have hyes := h l₁ line l' hrest
          rw [List.append_assoc, List.singleton_append] at hyes
          exact hyes
      · intro h l line l' hsplit
        rw [List.append_assoc, List.singleton_append]
        exact h (first :: l) line l' (by rw [hsplit, List.cons_append])
    · refine iff_of_false not_false fun h => hduplicate ?_
      have hyes := h [] first rest rfl
      rw [List.append_nil] at hyes
      exact hyes

/-- **A list that is imported again** stores nothing if and only if each of its lines agrees with
the first namesake that it had the first time. -/
theorem stores_nothing_iff (hs : Sound s) (hscope : input.InScope) {result' : StatementImportResult}
    {s₁ s₂ s₃ : BankingStore} (hfirst : importStatement c autoflush input s = .ok result s₁)
    (hrun : (importSystem c autoflush).RunWithin (fun _ input => input.InScope) s₁ s₂)
    {again : ImportInput} (hscope' : again.InScope)
    (horg : again.organizationId = input.organizationId)
    (haccount : again.bankAccountId = input.bankAccountId) (hlines : again.lines = input.lines)
    (hagain : importStatement c autoflush again s₂ = .ok result' s₃) :
    s₃.statementLines = s₂.statementLines ↔
      ∀ line ∈ input.lines, IsDuplicate c s input input.lines line := by
  obtain ⟨-, -, -, -, hnames⟩ := importStatement_eq_ok hscope hs.scale hs.filed hfirst
  obtain ⟨hs₂, hextends⟩ := extends_of_run (hs.import hscope hfirst).1 hrun
  obtain ⟨-, -, -, hstored, -⟩ := importStatement_eq_ok hscope' hs₂.scale hs₂.filed hagain
  obtain ⟨extra, hextra⟩ := hextends.rows input.organizationId input.bankAccountId
  have hscale₂ : ∀ r ∈ accountRows s₂ input.organizationId input.bankAccountId,
      AtScale 4 r.amount := fun r hr => hs₂.scale.accountRows hr
  have hnow : ∀ line ∈ input.lines, (accountRows s₂ input.organizationId
      input.bankAccountId).find? (sameKey line) = firstNamesake s input input.lines line := by
    intro line hline
    rw [hextra, find?_append_stored, hnames]
    · rw [hnames]
      exact firstNamesake_eq_none hline
    · exact fun r hr => hscale₂ r (hextra ▸ List.mem_append_right _ hr)
  have hjudged : ∀ l, ∀ line ∈ input.lines,
      IsDuplicate c s₂ again l line ↔ IsDuplicate c s input input.lines line := by
    intro l line hline
    rw [IsDuplicate, IsDuplicate, firstNamesake, horg, haccount, find?_append_stored,
      hnow line hline]
    · rw [hnow line hline]
      exact firstNamesake_eq_none hline
    · intro r hr
      obtain ⟨other, -, rfl⟩ := List.mem_map.mp hr
      exact atScale_halfUp 4 _
  have hkept : s₃.statementLines = s₂.statementLines ↔
      keptFrom c autoflush s₂ again [] input.lines = [] := by
    rw [hstored, hlines]
    constructor
    · intro hsame
      have hlength := congrArg (fun t => (t.rows.map Stored.row).length) hsame
      rw [rows_insertAll, List.length_append, List.length_map] at hlength
      refine List.length_eq_zero_iff.mp ?_
      rw [List.length_map] at hlength
      omega
    · intro hnothing
      rw [hnothing]
      rfl
  rw [hkept, keptFrom_eq_nil]
  constructor
  · intro h line hline
    obtain ⟨l, l', hsplit⟩ := List.append_of_mem hline
    exact (hjudged _ line hline).mp (h l line l' hsplit)
  · intro h l line l' hsplit
    have hline : line ∈ input.lines := by
      rw [hsplit]
      exact List.mem_append_right l List.mem_cons_self
    exact (hjudged _ line hline).mpr (h line hline)

/-! ### Lines of unknown transactions -/

/-- The line resembles the first that is stored with its date and amount. -/
def ResemblesNamesake (c : TextRules) (s : BankingStore) (input : ImportInput)
    (lines : List StatementLineInput) (line : StatementLineInput) : Prop :=
  ∃ existing ∈ firstNamesake s input lines line,
    (sameText line.bankReference existing.bankReference ||
      similar c line.description existing.description) = true

instance (c : TextRules) (s : BankingStore) (input : ImportInput)
    (lines : List StatementLineInput) (line : StatementLineInput) :
    Decidable (ResemblesNamesake c s input lines line) :=
  inferInstanceAs (Decidable (∃ existing ∈ firstNamesake s input lines line, _))

/-- **A line of an unknown transaction** is stored if and only if it does not resemble its first
namesake. -/
theorem stores_iff (hs : Sound s) (hscope : input.InScope) (account : BankAccount)
    (earlier : List StatementLineInput) (line : StatementLineInput)
    (hunknown : ∀ existing ∈ accountRows (linesSoFar c autoflush input account s earlier).1
      input.organizationId input.bankAccountId, existing.transactionId ≠ line.transactionId) :
    (linesSoFar c autoflush input account s (earlier ++ [line])).1.statementLines =
        (linesSoFar c autoflush input account s earlier).1.statementLines.insert
          (newLine s.statements.next line) ↔
      ¬ ResemblesNamesake c s input (seen autoflush earlier) line := by
  have hseen : ∀ existing ∈ firstNamesake s input (seen autoflush earlier) line,
      existing ∈ accountRows (linesSoFar c autoflush input account s earlier).1
        input.organizationId input.bankAccountId := by
    obtain ⟨hout, hnames⟩ := linesSoFar_eq c autoflush hscope hs.scale hs.filed account
      earlier
    intro existing hexisting
    rw [seen] at hexisting
    split_ifs at hexisting
    · rw [← hnames] at hexisting
      exact List.mem_of_find?_eq_some hexisting
    · rw [firstNamesake, List.map_nil, List.append_nil] at hexisting
      rw [hout]
      have hrows := accountRows_insertAll (s := openStatement input account s)
        (get?_insert_self s.statements _) rfl rfl (keptFrom c autoflush s input [] earlier)
      refine hrows.symm ▸ List.mem_append_left _ ?_
      rw [accountRows_openStatement hs.filed]
      exact List.mem_of_find?_eq_some hexisting
  have hresembles : IsDuplicate c s input (seen autoflush earlier) line ↔
      ResemblesNamesake c s input (seen autoflush earlier) line := by
    refine exists_congr fun existing => and_congr_right fun hexisting => ?_
    have hother : sameText line.transactionId existing.transactionId = false :=
      decide_eq_false fun hsame => hunknown existing (hseen existing hexisting) hsame.1.symm
    rw [agrees, hother, Bool.or_false]
  have hkept : keptFrom c autoflush s input [] (earlier ++ [line]) =
      keptFrom c autoflush s input [] earlier ++
        if IsDuplicate c s input (seen autoflush earlier) line then [] else [line] := by
    rw [keptFrom_append, List.nil_append, keptFrom]
    split_ifs
    · rfl
    · rfl
  rw [(linesSoFar_eq c autoflush hscope hs.scale hs.filed account (earlier ++ [line])).1,
    (linesSoFar_eq c autoflush hscope hs.scale hs.filed account earlier).1, hkept, ← hresembles]
  dsimp only
  rw [List.map_append, insertAll_append]
  split_ifs with hduplicate
  · refine iff_of_false (fun hsame => ?_) (not_not.mpr hduplicate)
    have hnext := congrArg Table.next hsame
    rw [next_insert] at hnext
    exact absurd hnext (Nat.ne_of_lt (Nat.lt_succ_self _))
  · exact iff_of_true rfl hduplicate

/-- **Imports, characterized.** A list that is imported again stores nothing if and only if each of
its lines agrees with its first namesake; a line of an unknown transaction is stored if and only if
it does not resemble its first namesake; and the totals of a statement are those of its lines if and
only if no line of its import agreed with its first namesake, and no total lost to rounding. -/
theorem imports_characterized : ∀ s,
    (importSystem c autoflush).ReachableWithin (fun _ input => input.InScope) s →
    ∀ input result s₁, ImportInput.InScope input →
      importStatement c autoflush input s = .ok result s₁ →
      (∀ s₂, (importSystem c autoflush).RunWithin (fun _ input => input.InScope) s₁ s₂ →
        ∀ again result' s₃, ImportInput.InScope again →
          again.organizationId = input.organizationId →
          again.bankAccountId = input.bankAccountId → again.lines = input.lines →
          importStatement c autoflush again s₂ = .ok result' s₃ →
          (s₃.statementLines = s₂.statementLines ↔
            ∀ line ∈ input.lines, IsDuplicate c s input input.lines line)) ∧
      (∀ account, s.accounts.get? input.bankAccountId = some account →
        ∀ earlier line later, input.lines = earlier ++ line :: later →
          (∀ existing ∈ accountRows (linesSoFar c autoflush input account s earlier).1
            input.organizationId input.bankAccountId,
              existing.transactionId ≠ line.transactionId) →
          ((linesSoFar c autoflush input account s (earlier ++ [line])).1.statementLines =
            (linesSoFar c autoflush input account s earlier).1.statementLines.insert
              (newLine s.statements.next line) ↔
            ¬ ResemblesNamesake c s input (seen autoflush earlier) line)) ∧
      ∀ s₂, (importSystem c autoflush).RunWithin (fun _ input => input.InScope) s₁ s₂ →
        (TotalsAgree s₂ s.statements.next ↔
          (∀ earlier line later, input.lines = earlier ++ line :: later →
            ¬ IsDuplicate c s input (seen autoflush earlier) line) ∧
          TotalCarries .credit input.lines ∧ TotalCarries .debit input.lines) := by
  intro s hreached input result s₁ hscope hrun
  have hs := sound_of_reachable hreached
  refine ⟨fun s₂ hlater again result' s₃ hscope' horg haccount hlines hagain => ?_,
    fun account _ earlier line later _ hunknown => ?_, fun s₂ hlater => ?_⟩
  · exact stores_nothing_iff hs hscope hrun hlater hscope' horg haccount hlines hagain
  · exact stores_iff hs hscope account earlier line hunknown
  · obtain ⟨-, hextends⟩ := extends_of_run (hs.import hscope hrun).1 hlater
    obtain ⟨account, -, hstatements, -, -⟩ := importStatement_eq_ok hscope hs.scale hs.filed hrun
    have hthere := get?_insert_self s.statements
      (newStatement input input.number account.currencyCode)
    have hkept : TotalsAgree s₂ s.statements.next ↔ TotalsAgree s₁ s.statements.next := by
      rw [TotalsAgree, TotalsAgree, hextends.lines s.statements.next (by
        rw [hstatements, next_insert]
        exact Nat.lt_succ_self _), hextends.statements _ _ (hstatements ▸ hthere), hstatements,
        hthere]
    rw [hkept, totalsAgree_import hs hscope hrun, keptFrom_eq_self]
    rfl

/-! ### Two runs -/

/-- Letters as they are in English. -/
def asciiRules : TextRules where
  upper letter := [letter.toUpper]
  isSpace letter := decide (letter = ' ')

def oneAccount : BankingStore where
  accounts := Table.empty.insert { organizationId := 1, glAccountId := 4, currencyCode := "NGN" }
  statements := Table.empty
  statementLines := Table.empty
  lineMatches := []
  journalLines := Table.empty
  reconciliations := Table.empty
  reconciliationLines := []

theorem noStatements_oneAccount : NoStatements oneAccount := ⟨rfl, rfl⟩

def feeLine (lineNumber : ℤ) (transactionId description : String) : StatementLineInput where
  lineNumber
  transactionDate := ⟨2024, 5, 21, by decide⟩
  transactionType := .debit
  amount := 50
  description := some description
  transactionId := some transactionId

def statementOfMay (number : String) (lines : List StatementLineInput) : ImportInput where
  organizationId := 1
  bankAccountId := 0
  statementNumber := some number
  periodStart := ⟨2024, 5, 1, by decide⟩
  periodEnd := ⟨2024, 5, 31, by decide⟩
  lines

instance (input : ImportInput) : Decidable input.InScope := inferInstanceAs (Decidable (_ ∧ _))

def oneFee : ImportInput := statementOfMay "S-1" [feeLine 1 "T-1" "Transfer fee"]

def oneFeeAgain : ImportInput := statementOfMay "S-2" [feeLine 1 "T-1" "Transfer fee"]

def twoFees (number : String) : ImportInput :=
  statementOfMay number [feeLine 1 "T-1" "Transfer fee", feeLine 2 "T-2" "SMS charge"]

theorem imports_characterized_sample :
    let s := oneFee.after asciiRules true oneAccount
    (oneFeeAgain.after asciiRules true s).statementLines = s.statementLines ∧ TotalsAgree s 0 ∧
      ∀ account, oneAccount.accounts.get? 0 = some account →
        (linesSoFar asciiRules true (twoFees "S-1") account oneAccount
          (twoFees "S-1").lines).1.statementLines.next = 2 := by
  have hreached : (importSystem asciiRules true).ReachableWithin (fun _ input => input.InScope)
      oneAccount := ⟨oneAccount, noStatements_oneAccount, Relation.ReflTransGen.refl⟩
  have hreturns : returns (importStatement asciiRules true oneFee) oneAccount = true := by
    decide +kernel
  have hreturns' : returns (importStatement asciiRules true oneFeeAgain)
      (oneFee.after asciiRules true oneAccount) = true := by
    decide +kernel
  obtain ⟨result, s₁, hrun⟩ := returns_iff.mp hreturns
  obtain ⟨result', s₃, hagain⟩ := returns_iff.mp hreturns'
  have hs₁ : oneFee.after asciiRules true oneAccount = s₁ := commit_of_ok hrun
  have hs₃ : oneFeeAgain.after asciiRules true s₁ = s₃ := commit_of_ok (hs₁ ▸ hagain)
  obtain ⟨hnothing, -, htotals⟩ := imports_characterized oneAccount hreached oneFee result s₁
    (by decide) hrun
  rw [hs₁] at hagain
  intro s
  change (oneFeeAgain.after asciiRules true
    (oneFee.after asciiRules true oneAccount)).statementLines =
      (oneFee.after asciiRules true oneAccount).statementLines ∧
    TotalsAgree (oneFee.after asciiRules true oneAccount) 0 ∧ _
  rw [hs₁, hs₃]
  refine ⟨?_, ?_, fun account haccount => ?_⟩
  · refine (hnothing s₁ Relation.ReflTransGen.refl oneFeeAgain result' s₃ (by decide) rfl rfl rfl
      hagain).mpr ?_
    decide +kernel
  · refine (htotals s₁ Relation.ReflTransGen.refl).mpr ⟨?_, by decide +kernel, by decide +kernel⟩
    have hkept : keptFrom asciiRules true oneAccount oneFee [] oneFee.lines = oneFee.lines := by
      decide +kernel
    exact keptFrom_eq_self.mp hkept
  · obtain rfl := Option.some.inj haccount
    have hboth : returns (importStatement asciiRules true (twoFees "S-1")) oneAccount = true := by
      decide +kernel
    obtain ⟨result, s₂, hrun⟩ := returns_iff.mp hboth
    obtain ⟨-, hstored, -⟩ := imports_characterized oneAccount hreached (twoFees "S-1") result s₂
      (by decide) hrun
    have hsecond := (hstored _ haccount [feeLine 1 "T-1" "Transfer fee"]
      (feeLine 2 "T-2" "SMS charge") [] rfl (by decide +kernel)).mpr (by decide +kernel)
    exact congrArg Table.next hsecond

/-- Imports as they should be: lists are not stored twice, lines of unknown transactions are stored,
and totals are those of the lines. -/
def ImportsExact (c : TextRules) (autoflush : Bool) : Prop := ∀ s,
  (importSystem c autoflush).ReachableWithin (fun _ input => input.InScope) s →
    ∀ input result s₁, ImportInput.InScope input →
      importStatement c autoflush input s = .ok result s₁ →
      (∀ s₂, (importSystem c autoflush).RunWithin (fun _ input => input.InScope) s₁ s₂ →
        ∀ again result' s₃, ImportInput.InScope again →
          again.organizationId = input.organizationId →
          again.bankAccountId = input.bankAccountId → again.lines = input.lines →
          importStatement c autoflush again s₂ = .ok result' s₃ →
          s₃.statementLines = s₂.statementLines) ∧
      (∀ account, s.accounts.get? input.bankAccountId = some account →
        ∀ earlier line later, input.lines = earlier ++ line :: later →
          (∀ existing ∈ accountRows (linesSoFar c autoflush input account s earlier).1
            input.organizationId input.bankAccountId,
              existing.transactionId ≠ line.transactionId) →
          (linesSoFar c autoflush input account s (earlier ++ [line])).1.statementLines =
            (linesSoFar c autoflush input account s earlier).1.statementLines.insert
              (newLine s.statements.next line)) ∧
      ∀ s₂, (importSystem c autoflush).RunWithin (fun _ input => input.InScope) s₁ s₂ →
        TotalsAgree s₂ s.statements.next

/-- **The second fee is stored twice**: it is judged by the first. -/
theorem imports_not_exact : ¬ ImportsExact asciiRules true := by
  intro h
  have hreached : (importSystem asciiRules true).ReachableWithin (fun _ input => input.InScope)
      oneAccount := ⟨oneAccount, noStatements_oneAccount, Relation.ReflTransGen.refl⟩
  have hreturns : returns (importStatement asciiRules true (twoFees "S-1")) oneAccount = true := by
    decide +kernel
  have hreturns' : returns (importStatement asciiRules true (twoFees "S-2"))
      ((twoFees "S-1").after asciiRules true oneAccount) = true := by
    decide +kernel
  obtain ⟨result, s₁, hrun⟩ := returns_iff.mp hreturns
  obtain ⟨result', s₃, hagain⟩ := returns_iff.mp hreturns'
  have hs₁ : (twoFees "S-1").after asciiRules true oneAccount = s₁ := commit_of_ok hrun
  have hs₃ : (twoFees "S-2").after asciiRules true s₁ = s₃ := commit_of_ok (hs₁ ▸ hagain)
  have hsame := (h oneAccount hreached (twoFees "S-1") result s₁ (by decide) hrun).1 s₁
    Relation.ReflTransGen.refl (twoFees "S-2") result' s₃ (by decide) rfl rfl rfl (hs₁ ▸ hagain)
  have hnext := congrArg Table.next hsame
  rw [← hs₃, ← hs₁] at hnext
  exact absurd hnext (by decide +kernel)

end BankStatementService

end DotmacErp.Banking
