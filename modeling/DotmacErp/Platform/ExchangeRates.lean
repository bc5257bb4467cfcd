import DotmacErp.GL.Database
import Mathlib.Data.List.MinMax

/-!
# Looking up an exchange rate

`FXService` finds the rate of a pair of currencies at a date: the latest rate of the pair on or
before the date, and if there is none the inverse of the latest rate of the opposite pair.

The two directions of a pair agree if both are read from one record, the latest of either direction.
They do if and only if at most one of the directions has a rate at the date
(`directionConsistent_iff`): with rates in both directions each lookup takes the one of its own
direction, even if the other is more recent.

A rate that is found is either a stored record or made for the answer; the two are told apart.
-/

namespace DotmacErp.FXService

open Calendar Relational

structure SyntheticRate where
  organizationId : UUID
  fromCurrencyCode : String
  toCurrencyCode : String
  rateTypeId : Option UUID
  exchangeRate : ℚ
  effectiveDate : Date

/-- What `get_rate` answers. -/
inductive FoundRate
  | stored (record : Stored ExchangeRate)
  | synthetic (rate : SyntheticRate)

def FoundRate.exchangeRate : FoundRate → ℚ
  | .stored record => record.row.exchangeRate
  | .synthetic rate => rate.exchangeRate

def IsEffective (org : UUID) (fromCurrency toCurrency : String) (rateTypeId : UUID)
    (effectiveDate : Date) (rate : ExchangeRate) : Prop :=
  rate.organizationId = org ∧ rate.fromCurrencyCode = fromCurrency ∧
    rate.toCurrencyCode = toCurrency ∧ rate.rateTypeId = rateTypeId ∧
    rate.effectiveDate ≤ effectiveDate

instance (org : UUID) (fromCurrency toCurrency : String) (rateTypeId : UUID)
    (effectiveDate : Date) (rate : ExchangeRate) :
    Decidable (IsEffective org fromCurrency toCurrency rateTypeId effectiveDate rate) :=
  inferInstanceAs (Decidable (_ ∧ _ ∧ _ ∧ _ ∧ _))

def latestRate (s : Subledgers) (org : UUID) (fromCurrency toCurrency : String)
    (rateTypeId : UUID) (effectiveDate : Date) : Option (Stored ExchangeRate) :=
  (s.exchangeRates.select fun rate => decide (IsEffective org fromCurrency toCurrency
    rateTypeId effectiveDate rate)).argmax fun rate => rate.row.effectiveDate

def rateTypeOf (s : Subledgers) (org : UUID) (rateTypeCode : String) :
    Option (Stored ExchangeRateType) :=
  s.exchangeRateTypes.find? fun rateType =>
    decide (rateType.organizationId = org ∧ rateType.typeCode = rateTypeCode)

def inverseAnswer (org : UUID) (fromCurrency toCurrency : String) (rateTypeId : UUID)
    (record : Stored ExchangeRate) : FoundRate :=
  .synthetic
    { organizationId := org
      fromCurrencyCode := fromCurrency
      toCurrencyCode := toCurrency
      rateTypeId := some rateTypeId
      exchangeRate := record.row.inverseRate
      effectiveDate := record.row.effectiveDate }

def getRate (s : Subledgers) (org : UUID) (fromCurrency toCurrency : String)
    (rateTypeCode : String) (effectiveDate : Date) : Except ServiceError FoundRate :=
  if fromCurrency = toCurrency then
    .ok (.synthetic
      { organizationId := org
        fromCurrencyCode := fromCurrency
        toCurrencyCode := toCurrency
        rateTypeId := none
        exchangeRate := 1
        effectiveDate })
  else
    match rateTypeOf s org rateTypeCode with
    | none => .error (.http 404 ("Exchange rate type '" ++ rateTypeCode ++ "' not found"))
    | some rateType =>
      match latestRate s org fromCurrency toCurrency rateType.id effectiveDate with
      | some directRate => .ok (.stored directRate)
      | none =>
        match latestRate s org toCurrency fromCurrency rateType.id effectiveDate with
        | some inverseRate =>
          .ok (inverseAnswer org fromCurrency toCurrency rateType.id inverseRate)
        | none =>
          .error (.http 404 ("No exchange rate found for " ++ fromCurrency ++ "/" ++ toCurrency ++
            " (" ++ rateTypeCode ++ ") on or before " ++ effectiveDate.iso))

/-! ### The latest rate -/

section Lookup

variable {s : Subledgers} {org : UUID} {fromCurrency toCurrency rateTypeCode : String}
  {rateTypeId : UUID} {effectiveDate : Date} {record : Stored ExchangeRate}

/-- A stored record that is effective at a date for a pair. -/
def Applies (s : Subledgers) (org : UUID) (fromCurrency toCurrency : String)
    (rateTypeId : UUID) (effectiveDate : Date) (record : Stored ExchangeRate) : Prop :=
  s.exchangeRates.get? record.id = some record.row ∧
    IsEffective org fromCurrency toCurrency rateTypeId effectiveDate record.row

def HasRate (s : Subledgers) (org : UUID) (fromCurrency toCurrency : String)
    (rateTypeId : UUID) (effectiveDate : Date) : Prop :=
  ∃ record, Applies s org fromCurrency toCurrency rateTypeId effectiveDate record

theorem mem_effective : record ∈ s.exchangeRates.select (fun rate => decide (IsEffective
      org fromCurrency toCurrency rateTypeId effectiveDate rate)) ↔
    Applies s org fromCurrency toCurrency rateTypeId effectiveDate record := by
  rw [Table.mem_select, decide_eq_true_eq, Applies]

/-- **The rate that is found is the latest of its direction.** -/
theorem latestRate_eq_some (h : latestRate s org fromCurrency toCurrency rateTypeId
      effectiveDate = some record) :
    Applies s org fromCurrency toCurrency rateTypeId effectiveDate record ∧
      ∀ other, Applies s org fromCurrency toCurrency rateTypeId effectiveDate other →
        other.row.effectiveDate ≤ record.row.effectiveDate := by
  refine ⟨mem_effective.mp (List.argmax_mem h), fun other hother => ?_⟩
  exact List.le_of_mem_argmax (f := fun rate : Stored ExchangeRate => rate.row.effectiveDate)
    (mem_effective.mpr hother) h

theorem latestRate_eq_none : latestRate s org fromCurrency toCurrency rateTypeId
      effectiveDate = none ↔
    ¬ HasRate s org fromCurrency toCurrency rateTypeId effectiveDate := by
  rw [latestRate, List.argmax_eq_none, List.eq_nil_iff_forall_not_mem, HasRate, not_exists]
  exact forall_congr' fun record => not_congr mem_effective

theorem exists_latestRate (h : HasRate s org fromCurrency toCurrency rateTypeId
      effectiveDate) :
    ∃ record, latestRate s org fromCurrency toCurrency rateTypeId effectiveDate =
      some record := by
  refine Option.ne_none_iff_exists'.mp fun hnone => ?_
  exact latestRate_eq_none.mp hnone h

end Lookup

/-! ### The two directions of a pair -/

/-- A record as the answer for a pair: itself, or the rate made from its inverse. -/
def readAs (org : UUID) (fromCurrency toCurrency : String) (rateTypeId : UUID)
    (record : Stored ExchangeRate) : FoundRate :=
  if record.row.fromCurrencyCode = fromCurrency then .stored record
  else inverseAnswer org fromCurrency toCurrency rateTypeId record

theorem fromCurrency_of_readAs {org : UUID} {fromCurrency toCurrency : String}
    {rateTypeId : UUID} {record answer : Stored ExchangeRate}
    (h : FoundRate.stored answer =
      readAs org fromCurrency toCurrency rateTypeId record) :
    record.row.fromCurrencyCode = fromCurrency := by
  by_contra hnot
  rw [readAs, if_neg hnot] at h
  exact FoundRate.noConfusion h

def IsLatest (s : Subledgers) (org : UUID) (currency other : String)
    (rateTypeId : UUID) (effectiveDate : Date) (record : Stored ExchangeRate) : Prop :=
  (Applies s org currency other rateTypeId effectiveDate record ∨
    Applies s org other currency rateTypeId effectiveDate record) ∧
  ∀ later, Applies s org currency other rateTypeId effectiveDate later ∨
    Applies s org other currency rateTypeId effectiveDate later →
      later.row.effectiveDate ≤ record.row.effectiveDate

/-- The two directions of a pair are answered alike: by one for a currency and itself; by an error
if the rate type is missing or neither direction has a rate; and else from one record, the latest of
either direction. -/
def DirectionConsistent (s : Subledgers) (org : UUID) (currency other : String)
    (rateTypeCode : String) (effectiveDate : Date) : Prop :=
  match getRate s org currency other rateTypeCode effectiveDate,
    getRate s org other currency rateTypeCode effectiveDate with
  | .ok rate, .ok opposite =>
    (currency = other ∧ rate.exchangeRate = 1 ∧ opposite.exchangeRate = 1) ∨
    ∃ rateType record, rateTypeOf s org rateTypeCode = some rateType ∧
      IsLatest s org currency other rateType.id effectiveDate record ∧
      rate = readAs org currency other rateType.id record ∧
      opposite = readAs org other currency rateType.id record
  | .error _, .error _ =>
    ∀ rateType, rateTypeOf s org rateTypeCode = some rateType →
      ¬ HasRate s org currency other rateType.id effectiveDate ∧
      ¬ HasRate s org other currency rateType.id effectiveDate
  | _, _ => False

section Directions

variable {s : Subledgers} {org : UUID} {currency other rateTypeCode : String}
  {effectiveDate : Date} {rateType : Stored ExchangeRateType}

variable {record : Stored ExchangeRate}

theorem getRate_of_direct (hne : currency ≠ other)
    (htype : rateTypeOf s org rateTypeCode = some rateType)
    (hdirect : latestRate s org currency other rateType.id effectiveDate =
      some record) :
    getRate s org currency other rateTypeCode effectiveDate = .ok (.stored record) := by
  rw [getRate, if_neg hne, htype]
  simp only [hdirect]

theorem getRate_of_inverse (hne : currency ≠ other)
    (htype : rateTypeOf s org rateTypeCode = some rateType)
    (hdirect : latestRate s org currency other rateType.id effectiveDate = none)
    (hinverse : latestRate s org other currency rateType.id effectiveDate =
      some record) :
    getRate s org currency other rateTypeCode effectiveDate =
      .ok (inverseAnswer org currency other rateType.id record) := by
  rw [getRate, if_neg hne, htype]
  simp only [hdirect, hinverse]

theorem consistent_of_one_direction (hne : currency ≠ other)
    (htype : rateTypeOf s org rateTypeCode = some rateType)
    (hrate : HasRate s org currency other rateType.id effectiveDate)
    (hnone : ¬ HasRate s org other currency rateType.id effectiveDate) :
    ∃ record, IsLatest s org currency other rateType.id effectiveDate record ∧
      getRate s org currency other rateTypeCode effectiveDate =
        .ok (readAs org currency other rateType.id record) ∧
      getRate s org other currency rateTypeCode effectiveDate =
        .ok (readAs org other currency rateType.id record) := by
  obtain ⟨record, hrecord⟩ := exists_latestRate hrate
  obtain ⟨happlies, hlatest⟩ := latestRate_eq_some hrecord
  have hfrom : record.row.fromCurrencyCode = currency := happlies.2.2.1
  have hnotFrom : record.row.fromCurrencyCode ≠ other := by rwa [hfrom]
  refine ⟨record, ⟨Or.inl happlies, ?_⟩, ?_, ?_⟩
  · rintro later (hlater | hlater)
    · exact hlatest later hlater
    · exact absurd ⟨later, hlater⟩ hnone
  · rw [getRate_of_direct hne htype hrecord, readAs, if_pos hfrom]
  · rw [getRate_of_inverse hne.symm htype (latestRate_eq_none.mpr hnone) hrecord, readAs,
      if_neg hnotFrom]

theorem IsLatest.symm {rateTypeId : UUID}
    (h : IsLatest s org currency other rateTypeId effectiveDate record) :
    IsLatest s org other currency rateTypeId effectiveDate record :=
  ⟨h.1.symm, fun later hlater => h.2 later hlater.symm⟩

/-- **The two directions of a pair agree** if and only if the currencies are the same, or at most
one of the directions has a rate at the date. -/
theorem directionConsistent_iff (s : Subledgers) (org : UUID)
    (currency other rateTypeCode : String) (effectiveDate : Date) :
    DirectionConsistent s org currency other rateTypeCode effectiveDate ↔
      currency = other ∨ ∀ rateType, rateTypeOf s org rateTypeCode = some rateType →
        ¬ (HasRate s org currency other rateType.id effectiveDate ∧
          HasRate s org other currency rateType.id effectiveDate) := by
  by_cases hne : currency = other
  · subst hne
    refine iff_of_true ?_ (Or.inl rfl)
    rw [DirectionConsistent, getRate, if_pos rfl]
    exact Or.inl ⟨rfl, rfl, rfl⟩
  · rw [or_iff_right hne]
    have hne' : other ≠ currency := fun h => hne h.symm
    cases htype : rateTypeOf s org rateTypeCode with
    | none =>
      refine iff_of_true ?_ (fun rateType h => absurd h (by simp))
      rw [DirectionConsistent, getRate, if_neg hne, getRate, if_neg hne', htype]
      exact fun rateType h => absurd h (by simp)
    | some rateType =>
      have honly : (∀ rateType', some rateType = some rateType' →
          ¬ (HasRate s org currency other rateType'.id effectiveDate ∧
            HasRate s org other currency rateType'.id effectiveDate)) ↔
          ¬ (HasRate s org currency other rateType.id effectiveDate ∧
            HasRate s org other currency rateType.id effectiveDate) := by
        constructor
        · exact fun h => h rateType rfl
        · rintro h rateType' hsame
          rwa [← Option.some.inj hsame]
      rw [honly]
      by_cases hdirect : HasRate s org currency other rateType.id effectiveDate
      · by_cases hopposite : HasRate s org other currency rateType.id effectiveDate
        · -- each direction is answered by a record of its own
          refine iff_of_false ?_ (not_not.mpr ⟨hdirect, hopposite⟩)
          obtain ⟨record, hrecord⟩ := exists_latestRate hdirect
          obtain ⟨record', hrecord'⟩ := exists_latestRate hopposite
          rw [DirectionConsistent, getRate_of_direct hne htype hrecord,
            getRate_of_direct hne' htype hrecord']
          rintro (⟨hsame, -, -⟩ | ⟨rateType', shared, -, -, hread, hread'⟩)
          · exact hne hsame
          · have hfrom := fromCurrency_of_readAs hread
            have hfrom' := fromCurrency_of_readAs hread'
            exact hne (hfrom.symm.trans hfrom')
        · refine iff_of_true ?_ (fun h => hopposite h.2)
          obtain ⟨record, hlatest, hrate, hrate'⟩ :=
            consistent_of_one_direction hne htype hdirect hopposite
          rw [DirectionConsistent, hrate, hrate']
          exact Or.inr ⟨rateType, record, htype, hlatest, rfl, rfl⟩
      · refine iff_of_true ?_ (fun h => hdirect h.1)
        by_cases hopposite : HasRate s org other currency rateType.id effectiveDate
        · obtain ⟨record, hlatest, hrate, hrate'⟩ :=
            consistent_of_one_direction hne' htype hopposite hdirect
          rw [DirectionConsistent, hrate, hrate']
          exact Or.inr ⟨rateType, record, htype, hlatest.symm, rfl, rfl⟩
        · have hnone := latestRate_eq_none.mpr hdirect
          have hnone' := latestRate_eq_none.mpr hopposite
          rw [DirectionConsistent, getRate, if_neg hne, getRate, if_neg hne', htype]
          simp only [hnone, hnone']
          intro rateType' hsame
          rw [← Option.some.inj hsame]
          exact ⟨hdirect, hopposite⟩

end Directions

def crossRates : Subledgers where
  exchangeRateTypes := Table.empty.insert ⟨1, "SPOT"⟩
  exchangeRates := (Table.empty.insert
    ⟨1, "USD", "EUR", 0, ⟨2022, 3, 1, by decide⟩, 4 / 5⟩).insert
    ⟨1, "EUR", "USD", 0, ⟨2022, 4, 1, by decide⟩, 3 / 2⟩

/-- The later rate is ignored from dollars to euros, and is used from euros to dollars. -/
theorem later_rate_ignored : ¬ ∀ (s : Subledgers) (org : UUID)
    (currency other rateTypeCode : String) (effectiveDate : Date),
    DirectionConsistent s org currency other rateTypeCode effectiveDate := by
  intro h
  have hconsistent : DirectionConsistent crossRates 1 "USD" "EUR" "SPOT"
    ⟨2022, 4, 15, by decide⟩ := h _ _ _ _ _ _
  have htype : rateTypeOf crossRates 1 "SPOT" = some ⟨0, ⟨1, "SPOT"⟩⟩ := rfl
  have hdollars : latestRate crossRates 1 "USD" "EUR" 0 ⟨2022, 4, 15, by decide⟩ =
    some ⟨0, ⟨1, "USD", "EUR", 0, ⟨2022, 3, 1, by decide⟩, 4 / 5⟩⟩ := rfl
  have heuros : latestRate crossRates 1 "EUR" "USD" 0 ⟨2022, 4, 15, by decide⟩ =
    some ⟨1, ⟨1, "EUR", "USD", 0, ⟨2022, 4, 1, by decide⟩, 3 / 2⟩⟩ := rfl
  rw [DirectionConsistent, getRate_of_direct (by decide) htype hdollars,
    getRate_of_direct (by decide) htype heuros] at hconsistent
  obtain ⟨hsame, -⟩ | ⟨rateType, record, -, -, hread, hread'⟩ := hconsistent
  · exact absurd hsame (by decide)
  · have hfrom := fromCurrency_of_readAs hread
    have hfrom' := fromCurrency_of_readAs hread'
    exact absurd (hfrom.symm.trans hfrom') (by decide)

end DotmacErp.FXService
