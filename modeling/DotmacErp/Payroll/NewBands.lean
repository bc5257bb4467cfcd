import DotmacErp.Foundation.Scripts
import DotmacErp.Payroll.TaxBands

/-!
# New tax bands

`validate_new_band` compares the range of a band that is to be added, or put in the place of one,
with those of the bands in force on the day. An end that is missing is replaced by a number
(`unboundedMax`), so that a range beyond that number is not seen to meet one without an end
(`beyond_sentinel`), and an empty range is seen to meet what it straddles. The check is exact on
some bands, and on any of them alone, if and only if each is one it can judge: no range begins at
the number or beyond where it meets one without an end, and no empty range lies within the other
(`Judged`).

A register is a table of bands that are added and edited through accepted calls. As long as the
bands that a new one would collide with on some day are in force on the day of the call, and begin
below the number where it matters (`BandCall.InSight`), the bands of a register stay apart on every
day (`newBandCheck_exact`).
-/

namespace DotmacErp.Payroll

open Calendar Relational

/-! ### The check -/

def unboundedMax : ℚ := 999999999999

def TaxBand.rangeDisplay (band : TaxBand) : String :=
  match band.maxAmount with
  | none => "₦" ++ wholeText band.minAmount ++ "+"
  | some maxAmount => "₦" ++ wholeText band.minAmount ++ " - ₦" ++ wholeText maxAmount

structure NewBand where
  minAmount : ℚ
  maxAmount : Option ℚ
  rate : ℚ
  name : String

def NewBand.tier (input : NewBand) : Tier ℚ := ⟨input.minAmount, input.maxAmount⟩

def NewBand.error (input : NewBand) (bandId : Option UUID) (errorType : BandErrorType)
    (message : String) : TaxBandValidationError :=
  { bandId, bandName := input.name, errorType, message }

def comparedBands (taxBands : List TaxBand) (org : UUID) (today : Date)
    (excludeBandId : Option UUID) : List TaxBand :=
  (getActiveBands taxBands org today).filter fun band =>
    !(excludeBandId.isSome && band.taxBandId = excludeBandId)

def RangesOverlap (range other : Tier ℚ) : Prop :=
  range.lower < other.upper.getD unboundedMax ∧ range.upper.getD unboundedMax > other.lower

instance (range other : Tier ℚ) : Decidable (RangesOverlap range other) :=
  inferInstanceAs (Decidable (_ ∧ _))

def NewBand.ownErrors (input : NewBand) : List TaxBandValidationError :=
  (if input.minAmount < 0 then
    [input.error none .negativeMin "Minimum amount cannot be negative"]
  else []) ++
  (match input.maxAmount with
    | none => []
    | some maxAmount =>
      if maxAmount ≤ input.minAmount then
        [input.error none .invalidRange ("Maximum (" ++ wholeText maxAmount ++
          ") must be greater than minimum (" ++ wholeText input.minAmount ++ ")")]
      else []) ++
  (if input.rate < 0 ∨ input.rate > maxRate then
    [input.error none .invalidRate ("Rate must be between 0% and 100%, got " ++
      tenthText (input.rate * 100) ++ "%")]
  else [])

def NewBand.overlapErrors (input : NewBand) (bands : List TaxBand) :
    List TaxBandValidationError :=
  (bands.filter fun band => RangesOverlap input.tier band.tier).map fun band =>
    input.error band.taxBandId .overlap ("Range overlaps with existing band '" ++ band.name ++
      "' (" ++ band.rangeDisplay ++ ")")

def validateNewBand (taxBands : List TaxBand) (org : UUID) (today : Date)
    (input : NewBand) (excludeBandId : Option UUID) : TaxBandValidationResult where
  errors := input.ownErrors ++
    input.overlapErrors (comparedBands taxBands org today excludeBandId)
  warnings := []

def TaxBandValidationResult.ReportsOverlap (result : TaxBandValidationResult) : Prop :=
  ∃ e ∈ result.errors, e.errorType = .overlap

instance (result : TaxBandValidationResult) : Decidable result.ReportsOverlap :=
  inferInstanceAs (Decidable (∃ e ∈ result.errors, e.errorType = .overlap))

/-! ### What the check can judge -/

/-- Neither of two ranges begins at the number for a missing end, or beyond, where the other has
none. -/
def BelowSentinel (range other : Tier ℚ) : Prop :=
  (other.upper = none → range.lower < unboundedMax) ∧
    (range.upper = none → other.lower < unboundedMax)

/-- Of two ranges with something in them, one that begins at the number or beyond ends before the
other, without an end, begins; and an empty range does not lie within the other. -/
def Judged (range other : Tier ℚ) : Prop :=
  (range.EndsAfter range.lower ∧ other.EndsAfter other.lower →
    (other.upper = none → range.lower < unboundedMax ∨ ¬ range.EndsAfter other.lower) ∧
      (range.upper = none → other.lower < unboundedMax ∨ ¬ other.EndsAfter range.lower)) ∧
  (¬ (range.EndsAfter range.lower ∧ other.EndsAfter other.lower) →
    other.upper.getD unboundedMax ≤ range.lower ∨ range.upper.getD unboundedMax ≤ other.lower)

instance (range other : Tier ℚ) : Decidable (BelowSentinel range other) :=
  inferInstanceAs (Decidable ((_ → _) ∧ (_ → _)))

instance (range other : Tier ℚ) : Decidable (Judged range other) :=
  inferInstanceAs (Decidable ((_ → (_ → _) ∧ (_ → _)) ∧ (_ → _)))

/-- An overlap is reported if and only if the range of the band meets one that it is compared with.
-/
def CheckExact (taxBands : List TaxBand) (org : UUID) (today : Date) (input : NewBand)
    (excludeBandId : Option UUID) : Prop :=
  (validateNewBand taxBands org today input excludeBandId).ReportsOverlap ↔
    ∃ band ∈ comparedBands taxBands org today excludeBandId,
      input.tier.Meets band.tier

section Check

variable {taxBands : List TaxBand} {org : UUID} {today : Date} {input : NewBand}
  {excludeBandId : Option UUID} {range other : Tier ℚ}

theorem lt_getD_iff {upper : Option ℚ} {a : ℚ} :
    a < upper.getD unboundedMax ↔
      (∀ u ∈ upper, a < u) ∧ (upper = none → a < unboundedMax) := by
  cases upper with
  | none => simp
  | some u => simp

theorem rangesOverlap_iff : RangesOverlap range other ↔
    (other.EndsAfter range.lower ∧ range.EndsAfter other.lower) ∧ BelowSentinel range other := by
  rw [RangesOverlap, gt_iff_lt, lt_getD_iff, lt_getD_iff]
  exact and_and_and_comm

theorem endsAfter_of_none {a : ℚ} (h : range.upper = none) : range.EndsAfter a := by
  rw [Tier.EndsAfter, h]
  exact fun u hu => absurd hu (by simp)

/-- What is reported of one band is whether the ranges meet, if and only if the check can judge
it. -/
theorem reports_iff_meets_iff : (RangesOverlap range other ↔ range.Meets other) ↔
    Judged range other := by
  rw [Judged]
  by_cases hproper : range.EndsAfter range.lower ∧ other.EndsAfter other.lower
  · rw [and_iff_left fun h => absurd hproper h, forall_prop_of_true hproper]
    have hrange : range.upper = none → range.EndsAfter other.lower := endsAfter_of_none
    have hother : other.upper = none → other.EndsAfter range.lower := endsAfter_of_none
    rw [rangesOverlap_iff, Tier.meets_iff, BelowSentinel]
    simp only [hproper.1, hproper.2, true_and]
    tauto
  · rw [and_iff_right fun h => absurd h hproper, forall_prop_of_true hproper]
    have hapart : ¬ range.Meets other := by
      rw [Tier.meets_iff]
      exact fun h => hproper ⟨h.1, h.2.1⟩
    rw [iff_false_right hapart, RangesOverlap, not_and_or, not_lt, gt_iff_lt, not_lt]

theorem ownErrors_errorType : ∀ e ∈ input.ownErrors, e.errorType ≠ .overlap := by
  intro e he
  rw [NewBand.ownErrors, List.mem_append, List.mem_append] at he
  rcases he with (he | he) | he
  · split_ifs at he
    · rw [List.mem_singleton.mp he]
      simp [NewBand.error]
    · exact absurd he (by simp)
  · cases hmax : input.maxAmount with
    | none =>
      rw [hmax] at he
      exact absurd he (by simp)
    | some maxAmount =>
      simp only [hmax] at he
      split_ifs at he
      · rw [List.mem_singleton.mp he]
        simp [NewBand.error]
      · exact absurd he (by simp)
  · split_ifs at he
    · rw [List.mem_singleton.mp he]
      simp [NewBand.error]
    · exact absurd he (by simp)

theorem reportsOverlap_iff :
    (validateNewBand taxBands org today input excludeBandId).ReportsOverlap ↔
      ∃ band ∈ comparedBands taxBands org today excludeBandId,
        RangesOverlap input.tier band.tier := by
  constructor
  · rintro ⟨e, he, htype⟩
    rw [validateNewBand, List.mem_append] at he
    rcases he with he | he
    · exact absurd htype (ownErrors_errorType e he)
    · obtain ⟨band, hband, -⟩ := List.mem_map.mp he
      rw [List.mem_filter, decide_eq_true_eq] at hband
      exact ⟨band, hband⟩
  · rintro ⟨band, hband, hoverlap⟩
    refine ⟨_, List.mem_append_right _ (List.mem_map.mpr ⟨band, ?_, rfl⟩), rfl⟩
    rw [List.mem_filter, decide_eq_true_eq]
    exact ⟨hband, hoverlap⟩

theorem mem_comparedBands {band : TaxBand} :
    band ∈ comparedBands taxBands org today excludeBandId ↔
      (band ∈ taxBands ∧ band.InForce org today) ∧
        ¬ (excludeBandId.isSome ∧ band.taxBandId = excludeBandId) := by
  rw [comparedBands, List.mem_filter, getActiveBands, List.mem_insertionSort, List.mem_filter,
    decide_eq_true_eq, Bool.not_eq_true', Bool.and_eq_false_iff, not_and_or, Bool.not_eq_true,
    decide_eq_false_iff_not]

/-- **The check is exact** on some bands and on any of them, if and only if it can judge each that
the range is compared with. -/
theorem checkExact_iff :
    (∀ bands : List TaxBand, (∀ band ∈ bands, band ∈ taxBands) →
      CheckExact bands org today input excludeBandId) ↔
      ∀ band ∈ comparedBands taxBands org today excludeBandId, Judged input.tier band.tier := by
  simp only [CheckExact, reportsOverlap_iff]
  constructor
  · intro h band hband
    obtain ⟨⟨hmem, hforce⟩, hother⟩ := mem_comparedBands.mp hband
    have hsingle : ∀ b, b ∈ comparedBands [band] org today excludeBandId ↔ b = band := by
      intro b
      rw [mem_comparedBands, List.mem_singleton]
      refine ⟨fun hb => hb.1.1, ?_⟩
      rintro rfl
      exact ⟨⟨rfl, hforce⟩, hother⟩
    have hexact := h [band] fun b hb => by rwa [List.mem_singleton.mp hb]
    simp only [hsingle, exists_eq_left] at hexact
    exact reports_iff_meets_iff.mp hexact
  · intro h bands hbands
    refine exists_congr fun band => and_congr_right fun hband => reports_iff_meets_iff.mpr ?_
    obtain ⟨⟨hmem, hforce⟩, hother⟩ := mem_comparedBands.mp hband
    exact h band (mem_comparedBands.mpr ⟨⟨hbands band hmem, hforce⟩, hother⟩)

theorem not_overlap_of_isValid
    (h : (validateNewBand taxBands org today input excludeBandId).isValid = true) :
    ∀ band ∈ comparedBands taxBands org today excludeBandId,
      ¬ RangesOverlap input.tier band.tier := by
  intro band hband hoverlap
  obtain ⟨e, he, -⟩ := reportsOverlap_iff.mpr ⟨band, hband, hoverlap⟩
  rw [TaxBandValidationResult.isValid, List.isEmpty_iff] at h
  rw [h] at he
  exact absurd he (by simp)

end Check

/-! ### Registers -/

def bandsOf (register : Table TaxBand) : List TaxBand :=
  register.rows.map fun stored => { stored.row with taxBandId := some stored.id }

/-- What is done to a register: a band is added, or put in the place of another. -/
inductive BandCall where
  | add (today : Date) (band : TaxBand)
  | edit (today : Date) (taxBandId : UUID) (band : TaxBand)

namespace BandCall

def today : BandCall → Date
  | add today _ => today
  | edit today _ _ => today

def band : BandCall → TaxBand
  | add _ band => band
  | edit _ _ band => band

def edited : BandCall → Option UUID
  | add _ _ => none
  | edit _ taxBandId _ => some taxBandId

def input (call : BandCall) : NewBand :=
  ⟨call.band.minAmount, call.band.maxAmount, call.band.rate, call.band.name⟩

def accepted (register : Table TaxBand) (call : BandCall) : Bool :=
  (validateNewBand (bandsOf register) call.band.organizationId call.today call.input
    call.edited).isValid

def write (register : Table TaxBand) : BandCall → Table TaxBand
  | add _ band => register.insert band
  | edit _ taxBandId band => register.modify taxBandId fun _ => band

def act (register : Table TaxBand) (call : BandCall) : Table TaxBand :=
  if call.accepted register then write register call else register

end BandCall

/-- Two bands are in force on some day, with ranges that meet. -/
def TaxBand.Collides (band other : TaxBand) : Prop :=
  ∃ day, band.InForce band.organizationId day ∧ other.InForce band.organizationId day ∧
    band.tier.Meets other.tier

/-- **The bands of a register are apart**: on every day, the ranges of those in force are
disjoint. -/
def BandsApart (register : Table TaxBand) : Prop :=
  ∀ k k' band other, k ≠ k' → register.get? k = some band → register.get? k' = some other →
    ¬ band.Collides other

def bandSystem : System (Table TaxBand) BandCall := .ofFunction BandsApart BandCall.act

/-- The bands that the band of a call would collide with are in force on the day of the call, and of
the two ranges neither begins at the number for a missing end, or beyond, where the other has
none. -/
def BandCall.InSight (register : Table TaxBand) (call : BandCall) : Prop :=
  ∀ k other, register.get? k = some other → call.edited ≠ some k → call.band.Collides other →
    other.InForce call.band.organizationId call.today ∧ BelowSentinel call.band.tier other.tier

section Registers

variable {register : Table TaxBand} {band other : TaxBand} {call : BandCall}

theorem TaxBand.Collides.symm (h : band.Collides other) : other.Collides band := by
  obtain ⟨day, hband, hother, hmeets⟩ := h
  have horganization : other.organizationId = band.organizationId := hother.1
  exact ⟨day, horganization ▸ hother, horganization ▸ hband, hmeets.symm⟩

theorem mem_comparedBands_bandsOf {org k : UUID} {today : Date} {edited : Option UUID}
    (hother : register.get? k = some other) (hforce : other.InForce org today)
    (hk : edited ≠ some k) :
    { other with taxBandId := some k } ∈ comparedBands (bandsOf register) org today edited := by
  refine mem_comparedBands.mpr ⟨⟨List.mem_map.mpr ⟨⟨k, other⟩, Table.get?_eq_some.mp hother, rfl⟩,
    hforce⟩, ?_⟩
  rintro ⟨-, heq⟩
  exact hk heq.symm

/-- A call in sight that is accepted collides with no other band. -/
theorem BandCall.InSight.apart (h : call.InSight register)
    (haccepted : call.accepted register = true) {k : UUID} (hother : register.get? k = some other)
    (hk : call.edited ≠ some k) : ¬ call.band.Collides other := by
  intro hcollides
  obtain ⟨hforce, hbelow⟩ := h k other hother hk hcollides
  obtain ⟨day, -, -, hmeets⟩ := hcollides
  obtain ⟨-, -, hrange, hends⟩ := Tier.meets_iff.mp hmeets
  exact not_overlap_of_isValid haccepted _ (mem_comparedBands_bandsOf hother hforce hk)
    (rangesOverlap_iff.mpr ⟨⟨hends, hrange⟩, hbelow⟩)

/-- **A call keeps the bands apart**, if what it would collide with is in sight. -/
theorem BandsApart.act (h : BandsApart register) (hsight : call.InSight register) :
    BandsApart (BandCall.act register call) := by
  rw [BandCall.act]
  by_cases haccepted : call.accepted register = true
  · rw [if_pos haccepted]
    cases call with
    | add today band =>
      rw [BandCall.write]
      have hnew : ∀ k other, register.get? k = some other → ¬ band.Collides other :=
        fun k other hother => hsight.apart haccepted hother (by simp [BandCall.edited])
      intro k k' first second hne hfirst hsecond
      rw [Table.get?_insert] at hfirst hsecond
      split_ifs at hfirst hsecond with hk hk' hk'
      · exact absurd (hk.trans hk'.symm) hne
      · rw [← Option.some.inj hfirst]
        exact hnew k' second hsecond
      · rw [← Option.some.inj hsecond]
        exact fun hcollides => hnew k first hfirst hcollides.symm
      · exact h k k' first second hne hfirst hsecond
    | edit today taxBandId band =>
      rw [BandCall.write]
      have hnew : ∀ k other, k ≠ taxBandId → register.get? k = some other →
          ¬ band.Collides other := by
        intro k other hk hother
        refine hsight.apart haccepted hother ?_
        exact fun hedited => hk (Option.some.inj hedited).symm
      have hput : ∀ {first : TaxBand}, (register.get? taxBandId).map (fun _ => band) = some first →
          band = first := by
        intro first hfirst
        obtain ⟨old, -, heq⟩ := Option.map_eq_some_iff.mp hfirst
        exact heq
      intro k k' first second hne hfirst hsecond
      rw [Table.get?_modify] at hfirst hsecond
      split_ifs at hfirst hsecond with hk hk' hk'
      · exact absurd (hk.trans hk'.symm) hne
      · rw [hk] at hfirst
        rw [← hput hfirst]
        exact hnew k' second hk' hsecond
      · rw [hk'] at hsecond
        rw [← hput hsecond]
        exact fun hcollides => hnew k first hk hfirst hcollides.symm
      · exact h k k' first second hne hfirst hsecond
  · rw [if_neg haccepted]
    exact h

/-- **The check of a new band is exact** on some bands and on any of them if and only if it can
judge each, and registers keep their bands apart in every run whose calls have in sight what they
would collide with. -/
theorem newBandCheck_exact (taxBands : List TaxBand) (org : UUID) (today : Date)
    (input : NewBand) (excludeBandId : Option UUID)
    (hregister : bandSystem.ReachableWithin (fun register call => call.InSight register)
      register) :
    ((∀ bands : List TaxBand, (∀ band ∈ bands, band ∈ taxBands) →
        CheckExact bands org today input excludeBandId) ↔
      ∀ band ∈ comparedBands taxBands org today excludeBandId,
        Judged input.tier band.tier) ∧
      BandsApart register := by
  refine ⟨checkExact_iff, hregister.invariant (fun _ h => h) ?_⟩
  rintro register call _ hapart hsight rfl
  exact hapart.act hsight

end Registers

/-! ### Beyond the sentinel -/

def bandBetween (minAmount : ℚ) (maxAmount : Option ℚ) : TaxBand where
  taxBandId := none
  organizationId := 1
  name := "NTA 2025 - 25%"
  minAmount := minAmount
  maxAmount := maxAmount
  rate := 1 / 4
  effectiveFrom := ⟨2025, 7, 1, by decide⟩
  effectiveTo := none
  sequence := 0
  isActive := true

def newBetween (minAmount : ℚ) (maxAmount : Option ℚ) : NewBand :=
  ⟨minAmount, maxAmount, 1 / 4, "New"⟩

/-- Two bands, and one between them that is refused. -/
def threeBands : List BandCall :=
  [.add ⟨2025, 7, 1, by decide⟩ (bandBetween 0 (some 50000000)),
    .add ⟨2025, 7, 1, by decide⟩ (bandBetween 50000000 none),
    .add ⟨2025, 7, 1, by decide⟩ (bandBetween 40000000 (some 60000000))]

theorem get?_act {register : Table TaxBand} {call : BandCall} {k : UUID} {other : TaxBand}
    (h : (BandCall.act register call).get? k = some other) :
    other = call.band ∨ register.get? k = some other := by
  rw [BandCall.act] at h
  split_ifs at h
  · cases call with
    | add today band =>
      rw [BandCall.write, Table.get?_insert] at h
      split_ifs at h
      · exact .inl (Option.some.inj h).symm
      · exact .inr h
    | edit today taxBandId band =>
      rw [BandCall.write, Table.get?_modify] at h
      split_ifs at h
      · obtain ⟨old, -, heq⟩ := Option.map_eq_some_iff.mp h
        exact .inl heq.symm
      · exact .inr h
  · exact .inr h

theorem bandsApart_empty : BandsApart Table.empty := by
  intro k k' band other _ hband
  rw [Table.get?_empty] at hband
  exact absurd hband (by simp)

theorem newBandCheck_exact_sample :
    (∀ bands : List TaxBand, (∀ band ∈ bands, band ∈ [bandBetween 50000000 none]) →
      CheckExact bands 1 ⟨2025, 7, 1, by decide⟩ (newBetween 40000000 (some 60000000)) none) ∧
      BandsApart (System.after BandCall.act Table.empty threeBands) := by
  have hrun : System.AllowedAlong (fun register call => BandCall.InSight register call)
      BandCall.act Table.empty threeBands := by
    refine ⟨?_, ?_, ?_, trivial⟩
    · intro k other hother
      rw [Table.get?_empty] at hother
      exact absurd hother (by simp)
    · rintro k other hother - ⟨day, -, -, hmeets⟩
      rcases get?_act hother with rfl | hother
      · exact absurd hmeets (by decide +kernel)
      · rw [Table.get?_empty] at hother
        exact absurd hother (by simp)
    · rintro k other hother - -
      rcases get?_act hother with rfl | hother
      · decide +kernel
      · rcases get?_act hother with rfl | hother
        · decide +kernel
        · rw [Table.get?_empty] at hother
          exact absurd hother (by simp)
  have hchecked := newBandCheck_exact [bandBetween 50000000 none] 1 ⟨2025, 7, 1, by decide⟩
    (newBetween 40000000 (some 60000000)) none (System.reachableWithin_after bandsApart_empty hrun)
  exact ⟨hchecked.1.mpr (by decide +kernel), hchecked.2⟩

/-- A band from a million millions on is not seen to meet the one without an end. -/
theorem beyond_sentinel :
    ¬ ∀ (taxBands : List TaxBand) (org : UUID) (today : Date) (input : NewBand)
      (excludeBandId : Option UUID) (register : Table TaxBand), bandSystem.Reachable register →
      CheckExact taxBands org today input excludeBandId ∧ BandsApart register := by
  intro h
  have hexact := (h [bandBetween 50000000 none] 1 ⟨2025, 7, 1, by decide⟩
    (newBetween 1000000000000 (some 2000000000000)) none Table.empty
    (System.reachable_after bandsApart_empty [])).1
  rw [CheckExact] at hexact
  revert hexact
  decide +kernel

end DotmacErp.Payroll
