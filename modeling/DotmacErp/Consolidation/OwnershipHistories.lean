import DotmacErp.Consolidation.Ownership
import DotmacErp.Foundation.Selections

/-!
# Histories of ownership

What the accepted calls of `create_ownership` and `update_ownership_percentage` do to the rows, one
after the other. A change of a percentage is a new interest with the entities of the one it changes
(`changeInput`), so a history is the list of the interests that were recorded (`OwnershipHistory`);
a call that is refused leaves everything as it was and is no part of it.

Each interest that was recorded has a current row of its owner and entity, and it is the only one
(`Tracks`): the row that was current before has ended at the date of the one that superseded it.
-/

namespace DotmacErp.Consolidation

open Calendar Relational Session Table OwnershipService

variable {s s' s'' : OwnershipStore} {input : OwnershipInput} {inputs : List OwnershipInput}
  {groupId interestId k : UUID}

/-! ### Recording an interest -/

def OwnershipInput.IsOf (input : OwnershipInput) (interest : OwnershipInterest) : Prop :=
  interest.investorEntityId = input.investorEntityId ∧
    interest.investeeEntityId = input.investeeEntityId

def OwnershipInput.SamePair (input input' : OwnershipInput) : Prop :=
  input.investorEntityId = input'.investorEntityId ∧
    input.investeeEntityId = input'.investeeEntityId

instance (input : OwnershipInput) (interest : OwnershipInterest) :
    Decidable (input.IsOf interest) :=
  inferInstanceAs (Decidable (_ ∧ _))

instance (input input' : OwnershipInput) : Decidable (input.SamePair input') :=
  inferInstanceAs (Decidable (_ ∧ _))

namespace OwnershipService

def recordedInterest (s : OwnershipStore) (input : OwnershipInput) : OwnershipInterest :=
  newInterest (calculateEffectiveOwnershipForInvestor s input.investorEntityId) input

def endCurrent (s : OwnershipStore) (input : OwnershipInput) : Table OwnershipInterest :=
  match currentInterest s input.investorEntityId input.investeeEntityId with
  | some existing => s.interests.modify existing.id (supersede input.effectiveFrom)
  | none => s.interests

def record (s : OwnershipStore) (input : OwnershipInput) : OwnershipStore where
  entities := s.entities.modify input.investeeEntityId fun investee =>
    { investee with consolidationMethod := consolidationMethodOf (recordedInterest s input) }
  interests := (endCurrent s input).insert (recordedInterest s input)

def changeInput (existing : OwnershipInterest) (newPercentage newVotingRights : ℚ)
    (effectiveDate : Date) : OwnershipInput where
  investorEntityId := existing.investorEntityId
  investeeEntityId := existing.investeeEntityId
  ownershipPercentage := newPercentage
  votingRightsPercentage := newVotingRights
  effectiveFrom := effectiveDate
  investmentCost := existing.investmentCost

/-- What is asked of an interest that is recorded. -/
structure Admits (s : OwnershipStore) (groupId : UUID) (input : OwnershipInput) : Prop where
  investor : ∃ e, s.entities.get? input.investorEntityId = some e ∧ e.groupId = groupId
  investee : ∃ e, s.entities.get? input.investeeEntityId = some e ∧ e.groupId = groupId
  notSelf : input.investorEntityId ≠ input.investeeEntityId
  percentage : 0 ≤ input.ownershipPercentage ∧ input.ownershipPercentage ≤ 100
  notRepeated : repeatedInterest s input = none

theorem createOwnership_eq_ok (h : createOwnership groupId input s = .ok k s') :
    Admits s groupId input ∧ k = s.interests.next ∧ s' = record s input := by
  rw [createOwnership, get_bind, orRaise_bind] at h
  obtain ⟨investor, hinvestor, h⟩ := h
  rw [orRaise_bind] at h
  obtain ⟨investee, hinvestee, h⟩ := h
  rw [refuse_bind, refuse_bind] at h
  obtain ⟨hself, hpercentage, h⟩ := h
  rw [not_not] at hpercentage
  have hfound {entityId : UUID} {e : GroupEntity}
      (hentity : (s.entities.get? entityId).filter (·.groupId = groupId) = some e) :
      ∃ e, s.entities.get? entityId = some e ∧ e.groupId = groupId := by
    obtain ⟨hget, hgroup⟩ := Option.filter_eq_some_iff.mp hentity
    exact ⟨e, hget, of_decide_eq_true hgroup⟩
  have hadmits (hrepeated : ¬ (repeatedInterest s input).isSome) : Admits s groupId input :=
    ⟨hfound hinvestor, hfound hinvestee, hself, hpercentage,
      Option.not_isSome_iff_eq_none.mp hrepeated⟩
  have hend : s' = record s input ↔ s' =
      { entities := (record s input).entities
        interests := (endCurrent s input).insert (recordedInterest s input) } := Iff.rfl
  rw [hend, endCurrent]
  cases hcurrent : currentInterest s input.investorEntityId input.investeeEntityId with
  | none =>
    simp only [hcurrent] at h
    rw [refuse_bind, modify_bind, updateConsolidationMethod, modify_bind,
      pure_eq_ok] at h
    obtain ⟨hrepeated, rfl, rfl⟩ := h
    exact ⟨hadmits hrepeated, rfl, rfl⟩
  | some existing =>
    simp only [hcurrent] at h
    rw [modify_bind, refuse_bind, modify_bind, updateConsolidationMethod,
      modify_bind, pure_eq_ok] at h
    obtain ⟨hrepeated, rfl, rfl⟩ := h
    exact ⟨hadmits hrepeated, rfl, rfl⟩

theorem updateOwnershipPercentage_eq_ok {newPercentage newVotingRights : ℚ} {effectiveDate : Date}
    (h : updateOwnershipPercentage groupId interestId newPercentage newVotingRights effectiveDate
      s = .ok k s') :
    ∃ existing, s.interests.get? interestId = some existing ∧
      createOwnership groupId (changeInput existing newPercentage newVotingRights effectiveDate) s =
        .ok k s' := by
  rw [updateOwnershipPercentage, get_bind, orRaise_bind] at h
  obtain ⟨existing, hexisting, h⟩ := h
  rw [orRaise_bind] at h
  obtain ⟨_, _, h⟩ := h
  exact ⟨existing, hexisting, h⟩

end OwnershipService

/-! ### The rows of an owner and an entity -/

def OneCurrent (t : Table OwnershipInterest) : Prop :=
  ∀ k k' r r', t.get? k = some r → t.get? k' = some r' → r.isCurrent = true →
    r'.isCurrent = true → r.investorEntityId = r'.investorEntityId →
    r.investeeEntityId = r'.investeeEntityId → k = k'

variable {r : OwnershipInterest}

theorem currentInterest_eq_some (hone : OneCurrent s.interests)
    (hget : s.interests.get? k = some r) (hcurrent : r.isCurrent = true) (hof : input.IsOf r) :
    currentInterest s input.investorEntityId input.investeeEntityId = some ⟨k, r⟩ := by
  have hsome : (currentInterest s input.investorEntityId input.investeeEntityId).isSome :=
    find?_isSome hget (decide_eq_true ⟨hof.1, hof.2, hcurrent⟩)
  obtain ⟨found, hfound⟩ := Option.isSome_iff_exists.mp hsome
  obtain ⟨hmem, hpred⟩ := find?_eq_some hfound
  obtain ⟨hinvestor, hinvestee, hfound_current⟩ := of_decide_eq_true hpred
  have hid : found.id = k := hone _ _ _ _ hmem hget hfound_current hcurrent
    (hinvestor.trans hof.1.symm) (hinvestee.trans hof.2.symm)
  have hrow : found.row = r := by
    rw [← hid, hmem] at hget
    exact Option.some.inj hget
  rw [hfound, ← hid, ← hrow]

theorem get?_record_of_current (hone : OneCurrent s.interests)
    (hget : s.interests.get? k = some r) (hcurrent : r.isCurrent = true) (hof : input.IsOf r) :
    (record s input).interests.get? k = some (supersede input.effectiveFrom r) := by
  have hended : (endCurrent s input).get? k = some (supersede input.effectiveFrom r) := by
    rw [endCurrent, currentInterest_eq_some hone hget hcurrent hof, get?_modify_self, hget,
      Option.map_some]
  exact get?_insert_of_some hended _

theorem get?_record_of_kept (hget : s.interests.get? k = some r)
    (hkept : r.isCurrent = true → ¬ input.IsOf r) :
    (record s input).interests.get? k = some r := by
  have hended : (endCurrent s input).get? k = some r := by
    rw [endCurrent]
    cases hfound : currentInterest s input.investorEntityId input.investeeEntityId with
    | none => exact hget
    | some existing =>
      obtain ⟨hmem, hpred⟩ := find?_eq_some hfound
      obtain ⟨hinvestor, hinvestee, hcurrent⟩ := of_decide_eq_true hpred
      have hne : k ≠ existing.id := by
        rintro rfl
        rw [hmem] at hget
        obtain rfl := Option.some.inj hget
        exact hkept hcurrent ⟨hinvestor, hinvestee⟩
      exact (get?_modify_of_ne hne _).trans hget
  exact get?_insert_of_some hended _

@[simp] theorem next_endCurrent : (endCurrent s input).next = s.interests.next := by
  rw [endCurrent]
  cases currentInterest s input.investorEntityId input.investeeEntityId with
  | none => rfl
  | some existing => rfl

theorem exists_of_endCurrent (h : (endCurrent s input).get? k = some r) :
    ∃ old, s.interests.get? k = some old := by
  rw [endCurrent] at h
  cases hfound : currentInterest s input.investorEntityId input.investeeEntityId with
  | none => exact ⟨r, by simpa only [hfound] using h⟩
  | some existing =>
    simp only [hfound] at h
    obtain ⟨old, hold, -⟩ := get?_modify_eq_some.mp h
    exact ⟨old, hold⟩

theorem get?_record_next : (record s input).interests.get? s.interests.next =
    some (recordedInterest s input) := by
  have hinserted := get?_insert_self (endCurrent s input) (recordedInterest s input)
  rwa [next_endCurrent] at hinserted

theorem get?_record_cases (hone : OneCurrent s.interests)
    (h : (record s input).interests.get? k = some r) :
    (k = s.interests.next ∧ r = recordedInterest s input) ∨
    (∃ old, s.interests.get? k = some old ∧ old.isCurrent = true ∧ input.IsOf old ∧
      r = supersede input.effectiveFrom old) ∨
    (s.interests.get? k = some r ∧ (r.isCurrent = true → ¬ input.IsOf r)) := by
  by_cases hk : k = s.interests.next
  · subst hk
    exact Or.inl ⟨rfl, Option.some.inj (h.symm.trans get?_record_next)⟩
  · right
    obtain ⟨old, hold⟩ : ∃ old, s.interests.get? k = some old := by
      rcases get?_insert_cases h with hended | ⟨hnext, -⟩
      · exact exists_of_endCurrent hended
      · exact absurd (hnext.trans next_endCurrent) hk
    by_cases hended : old.isCurrent = true ∧ input.IsOf old
    · exact Or.inl ⟨old, hold, hended.1, hended.2, Option.some.inj
        (h.symm.trans (get?_record_of_current hone hold hended.1 hended.2))⟩
    · have hkept : old.isCurrent = true → ¬ input.IsOf old := not_and.mp hended
      obtain rfl := Option.some.inj (h.symm.trans (get?_record_of_kept hold hkept))
      exact Or.inr ⟨hold, hkept⟩

theorem get?_record_current (hone : OneCurrent s.interests)
    (h : (record s input).interests.get? k = some r) (hcurrent : r.isCurrent = true) :
    (k = s.interests.next ∧ r = recordedInterest s input) ∨
    (s.interests.get? k = some r ∧ ¬ input.IsOf r) := by
  rcases get?_record_cases hone h with hnew | ⟨old, -, -, -, rfl⟩ | ⟨hgot, hkept⟩
  · exact Or.inl hnew
  · exact absurd hcurrent (by simp [supersede])
  · exact Or.inr ⟨hgot, hkept hcurrent⟩

theorem OneCurrent.record (hone : OneCurrent s.interests) :
    OneCurrent (OwnershipService.record s input).interests := by
  intro k k' r r' hget hget' hcurrent hcurrent' hinvestor hinvestee
  rcases get?_record_current hone hget hcurrent with ⟨hk, rfl⟩ | ⟨hgot, hnot⟩
  · rcases get?_record_current hone hget' hcurrent' with ⟨hk', -⟩ | ⟨-, hnot'⟩
    · exact hk.trans hk'.symm
    · exact absurd ⟨hinvestor.symm, hinvestee.symm⟩ hnot'
  · rcases get?_record_current hone hget' hcurrent' with ⟨-, rfl⟩ | ⟨hgot', -⟩
    · exact absurd ⟨hinvestor, hinvestee⟩ hnot
    · exact hone _ _ _ _ hgot hgot' hcurrent hcurrent' hinvestor hinvestee

/-! ### Histories -/

/-- The stores the calls lead to, one after the other. -/
inductive OwnershipHistory (s : OwnershipStore) : List OwnershipInput → OwnershipStore → Prop
  | start : OwnershipHistory s [] s
  | create {s' s'' : OwnershipStore} {inputs : List OwnershipInput} {groupId k : UUID}
      {input : OwnershipInput} (h : OwnershipHistory s inputs s')
      (hrun : createOwnership groupId input s' = .ok k s'') :
      OwnershipHistory s (inputs ++ [input]) s''
  | update {s' s'' : OwnershipStore} {inputs : List OwnershipInput} {groupId interestId k : UUID}
      {existing : OwnershipInterest} {newPercentage newVotingRights : ℚ} {effectiveDate : Date}
      (h : OwnershipHistory s inputs s') (hexisting : s'.interests.get? interestId = some existing)
      (hrun : updateOwnershipPercentage groupId interestId newPercentage newVotingRights
        effectiveDate s' = .ok k s'') :
      OwnershipHistory s
        (inputs ++ [changeInput existing newPercentage newVotingRights effectiveDate]) s''

namespace OwnershipHistory

/-- What holds at the start and is kept when an admitted interest is recorded holds of every
history. -/
theorem preserves {P : List OwnershipInput → OwnershipStore → Prop}
    (h : OwnershipHistory s inputs s') (hstart : P [] s)
    (hstep : ∀ inputs s' groupId input, P inputs s' → Admits s' groupId input →
      P (inputs ++ [input]) (record s' input)) : P inputs s' := by
  induction h with
  | start => exact hstart
  | create _ hrun ih =>
    obtain ⟨hadmits, -, rfl⟩ := createOwnership_eq_ok hrun
    exact hstep _ _ _ _ ih hadmits
  | update _ hexisting hrun ih =>
    obtain ⟨existing', hexisting', hcreate⟩ := updateOwnershipPercentage_eq_ok hrun
    obtain rfl := Option.mem_unique hexisting hexisting'
    obtain ⟨hadmits, -, rfl⟩ := createOwnership_eq_ok hcreate
    exact hstep _ _ _ _ ih hadmits

theorem split {earlier later : List OwnershipInput}
    (h : OwnershipHistory s (earlier ++ later) s'') :
    ∃ s', OwnershipHistory s earlier s' ∧ OwnershipHistory s' later s'' := by
  generalize hall : earlier ++ later = all at h
  induction h generalizing later with
  | start =>
    obtain ⟨rfl, rfl⟩ := List.append_eq_nil_iff.mp hall
    exact ⟨s, .start, .start⟩
  | @create _ _ inputs _ _ input h hrun ih =>
    rcases later.eq_nil_or_concat with rfl | ⟨init, last, rfl⟩
    · rw [List.append_nil] at hall
      exact ⟨_, hall ▸ h.create hrun, .start⟩
    · rw [List.concat_eq_append, ← List.append_assoc] at hall
      obtain ⟨hinit, hlast⟩ := List.append_inj' hall rfl
      obtain rfl := List.singleton_inj.mp hlast
      obtain ⟨s₁, hearlier, hlater⟩ := ih hinit
      exact ⟨s₁, hearlier, by simpa only [List.concat_eq_append] using hlater.create hrun⟩
  | @update _ _ inputs _ _ _ _ _ _ _ h hexisting hrun ih =>
    rcases later.eq_nil_or_concat with rfl | ⟨init, last, rfl⟩
    · rw [List.append_nil] at hall
      exact ⟨_, hall ▸ h.update hexisting hrun, .start⟩
    · rw [List.concat_eq_append, ← List.append_assoc] at hall
      obtain ⟨hinit, hlast⟩ := List.append_inj' hall rfl
      obtain rfl := List.singleton_inj.mp hlast
      obtain ⟨s₁, hearlier, hlater⟩ := ih hinit
      exact ⟨s₁, hearlier, by simpa only [List.concat_eq_append] using hlater.update hexisting hrun⟩

end OwnershipHistory

/-- The rows of a history from no interests: each is of one of its inputs, from its date on; it is
current and has no end, or one of the inputs has ended it at its date; and each input has a current
row of its owner and entity, the only one. -/
structure Tracks (inputs : List OwnershipInput) (t : Table OwnershipInterest) : Prop where
  origin : ∀ k r, t.get? k = some r → ∃ input ∈ inputs, input.IsOf r ∧
    r.effectiveFrom = input.effectiveFrom
  current : ∀ k r, t.get? k = some r → r.isCurrent = true → r.effectiveTo = none
  ended : ∀ k r, t.get? k = some r → r.isCurrent = false → ∃ input ∈ inputs, input.IsOf r ∧
    r.effectiveTo = some input.effectiveFrom
  one : OneCurrent t
  covered : ∀ input ∈ inputs, ∃ k r, t.get? k = some r ∧ r.isCurrent = true ∧ input.IsOf r

namespace Tracks

theorem empty : Tracks [] (Table.empty : Table OwnershipInterest) := by
  refine ⟨?_, ?_, ?_, ?_, ?_⟩
  · intro k r h
    exact absurd h (by simp)
  · intro k r h
    exact absurd h (by simp)
  · intro k r h
    exact absurd h (by simp)
  · intro k k' r r' h
    exact absurd h (by simp)
  · intro input h
    exact absurd h (by simp)

theorem record (h : Tracks inputs s.interests) (input : OwnershipInput) :
    Tracks (inputs ++ [input]) (OwnershipService.record s input).interests := by
  have hnew : input ∈ inputs ++ [input] := List.mem_append_right _ (List.mem_singleton_self _)
  have hold {input' : OwnershipInput} (hmem : input' ∈ inputs) : input' ∈ inputs ++ [input] :=
    List.mem_append_left _ hmem
  refine ⟨?_, ?_, ?_, ?_, ?_⟩
  · intro k r hget
    rcases get?_record_cases h.one hget with ⟨-, rfl⟩ | ⟨old, hgot, -, -, rfl⟩ | ⟨hgot, -⟩
    · exact ⟨input, hnew, ⟨rfl, rfl⟩, rfl⟩
    · obtain ⟨origin, hmem, hof, hfrom⟩ := h.origin _ _ hgot
      exact ⟨origin, hold hmem, hof, hfrom⟩
    · obtain ⟨origin, hmem, hof, hfrom⟩ := h.origin _ _ hgot
      exact ⟨origin, hold hmem, hof, hfrom⟩
  · intro k r hget hcurrent
    rcases get?_record_cases h.one hget with ⟨-, rfl⟩ | ⟨old, hgot, -, -, rfl⟩ | ⟨hgot, -⟩
    · rfl
    · exact absurd hcurrent (by simp [supersede])
    · exact h.current _ _ hgot hcurrent
  · intro k r hget hended
    rcases get?_record_cases h.one hget with ⟨-, rfl⟩ | ⟨old, hgot, -, hof, rfl⟩ | ⟨hgot, -⟩
    · exact absurd hended (by simp [recordedInterest, newInterest])
    · exact ⟨input, hnew, hof, rfl⟩
    · obtain ⟨origin, hmem, hof, hto⟩ := h.ended _ _ hgot hended
      exact ⟨origin, hold hmem, hof, hto⟩
  · exact h.one.record
  · intro input' hmem
    have hrecorded := @get?_record_next s input
    rcases List.mem_append.mp hmem with hmem | hmem
    · obtain ⟨k, r, hgot, hcurrent, hof⟩ := h.covered input' hmem
      by_cases hsame : input.IsOf r
      · have hof' : input'.IsOf (recordedInterest s input) :=
          ⟨hsame.1.symm.trans hof.1, hsame.2.symm.trans hof.2⟩
        exact ⟨_, _, hrecorded, rfl, hof'⟩
      · exact ⟨k, r, get?_record_of_kept hgot fun _ => hsame, hcurrent, hof⟩
    · obtain rfl := List.mem_singleton.mp hmem
      exact ⟨_, _, hrecorded, rfl, rfl, rfl⟩

theorem of_recorded (hempty : s.interests = Table.empty) (h : OwnershipHistory s inputs s') :
    Tracks inputs s'.interests := by
  refine h.preserves (P := fun inputs s' => Tracks inputs s'.interests) ?_ ?_
  · rw [hempty]
    exact .empty
  · intro inputs s' groupId input ih _
    exact ih.record input

end Tracks

end DotmacErp.Consolidation
