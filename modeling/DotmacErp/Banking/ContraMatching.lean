import Mathlib.Data.Prod.Lex
import Mathlib.Data.String.Basic
import DotmacErp.Foundation.Greedy
import DotmacErp.Foundation.Days
import DotmacErp.Foundation.Rounding
import DotmacErp.GL.Models

/-!
# Contra transfers

A transfer between two bank accounts shows on both: `choose_best_contra_matches` scores every pair
of a source and a destination line and takes the best ones first, each line once. The pairs it
chooses are a stable matching of the pairs that may be matched, the same for every order of the
lines (`contraMatches_iff`), as long as the least score is above zero: a pair that is rejected has
the score zero, and where that is enough it is chosen like any other.
-/

namespace DotmacErp.Banking

open Calendar Greedy Rounding

/-! ### Scores -/

structure ContraLineCandidate where
  lineId : UUID
  bankAccountId : UUID
  transactionDate : Date
  amount : ℚ
  reference : Option String := none
  description : Option String := none

/-- What the scoring reads of texts and characters: `lower`, `isalnum` and `isspace`. -/
structure CaseRules where
  lower : List Char → List Char
  isAlnum : Char → Bool
  isSpace : Char → Bool

/-- Why a pair is rejected, or what its score is made of. -/
inductive ContraReasons where
  | sameBankAccount
  | amountOutOfTolerance (amountDiff : ℚ)
  | dateOutOfWindow (dateDiffDays : ℕ)
  | scored (amountDiff : ℚ) (dateDiffDays : ℕ) (amountScore dateScore referenceScore : ℤ)
      (referenceOverlap : List (List Char)) (descriptionScore : ℤ)
      (descriptionOverlap : List (List Char)) (hintScore : ℤ)

structure ContraMatch where
  sourceLineId : UUID
  destinationLineId : UUID
  score : ℤ
  dateDiffDays : ℕ
  amountDiff : ℚ
  reasons : ContraReasons

/-- `_tokenize`: the words of three characters or more, each once. -/
def CaseRules.tokenize (c : CaseRules) (value : Option String) : List (List Char) :=
  let normalized := (value.getD "").toList.flatMap fun ch =>
    if c.isAlnum ch then c.lower [ch] else [' ']
  ((normalized.splitOnP c.isSpace).filter fun token => decide (3 ≤ token.length)).dedup

/-- The words of both texts, in their order. -/
def CaseRules.overlap (c : CaseRules) (first second : Option String) : List (List Char) :=
  ((c.tokenize first).filter (c.tokenize second).contains).insertionSort (· ≤ ·)

def CaseRules.hinted (c : CaseRules) (targetBankHint : Option String)
    (destination : ContraLineCandidate) : Prop :=
  let text := ((targetBankHint.getD "").toList.dropWhile c.isSpace).reverse.dropWhile c.isSpace
  let hint := c.lower text.reverse
  hint ≠ [] ∧ hint <:+: c.lower ((destination.reference.getD "") ++ " " ++
    (destination.description.getD "")).toList

instance : Decidable (CaseRules.hinted c targetBankHint destination) :=
  inferInstanceAs (Decidable (_ ∧ _))

def amountDiff (source destination : ContraLineCandidate) : ℚ :=
  |(|source.amount| - |destination.amount|)|

def dateDiffDays (source destination : ContraLineCandidate) : ℕ :=
  ((destination.transactionDate.number : ℤ) - source.transactionDate.number).natAbs

/-- The part of the score for the amounts: fifty if they are equal. -/
def amountScore (amountDiff amountTolerance : ℚ) : ℤ :=
  let closeness :=
    if 0 < amountTolerance then max 0 (1 - significant 28 (amountDiff / amountTolerance))
    else if amountDiff = 0 then 1 else 0
  halfEven (50 * closeness)

def scoreContraPair (c : CaseRules) (source destination : ContraLineCandidate)
    (amountTolerance : ℚ) (dateWindowDays : ℤ) (targetBankHint : Option String) :
    ℤ × ContraReasons :=
  if source.bankAccountId = destination.bankAccountId then (0, .sameBankAccount)
  else if amountTolerance < amountDiff source destination then
    (0, .amountOutOfTolerance (amountDiff source destination))
  else if dateWindowDays < dateDiffDays source destination then
    (0, .dateOutOfWindow (dateDiffDays source destination))
  else
    let amount := amountScore (amountDiff source destination) amountTolerance
    let date := max 0 (25 - (dateDiffDays source destination : ℤ) * 8)
    let referenceOverlap := c.overlap source.reference destination.reference
    let reference := if referenceOverlap = [] then 0 else 15
    let descriptionOverlap := c.overlap source.description destination.description
    let description := min ((descriptionOverlap.length : ℤ) * 3) 10
    let hint := if c.hinted targetBankHint destination then 5 else 0
    (min (amount + date + reference + description + hint) 100,
      .scored (amountDiff source destination) (dateDiffDays source destination) amount date
        reference referenceOverlap description descriptionOverlap hint)

/-! ### The choice -/

structure ContraPolicy where
  rules : CaseRules
  amountTolerance : ℚ
  dateWindowDays : ℤ
  minScore : ℤ

/-- The score of a pair, without a hint. -/
def ContraPolicy.scored (p : ContraPolicy) (source destination : ContraLineCandidate) :
    ℤ × ContraReasons :=
  scoreContraPair p.rules source destination p.amountTolerance p.dateWindowDays none

def ContraPolicy.pair (p : ContraPolicy) (source destination : ContraLineCandidate) :
    ContraMatch where
  sourceLineId := source.lineId
  destinationLineId := destination.lineId
  score := (p.scored source destination).1
  dateDiffDays := dateDiffDays source destination
  amountDiff := amountDiff source destination
  reasons := (p.scored source destination).2

def contraCandidates (p : ContraPolicy) (sources destinations : List ContraLineCandidate) :
    List ContraMatch :=
  sources.flatMap fun source =>
    (destinations.map (p.pair source)).filter fun m => decide (p.minScore ≤ m.score)

/-- The order of candidates: by score, the days and the amount between the lines, and the texts of
their ids. -/
def ContraMatch.key (m : ContraMatch) : ℤ ×ₗ ℕ ×ₗ ℚ ×ₗ UUID ×ₗ UUID :=
  toLex (-m.score, toLex (m.dateDiffDays, toLex (m.amountDiff,
    toLex (m.sourceLineId, m.destinationLineId))))

/-- The loop over the candidates. -/
def chooseFrom (usedSources usedDestinations : List UUID) : List ContraMatch → List ContraMatch
  | [] => []
  | candidate :: rest =>
    if candidate.sourceLineId ∈ usedSources then chooseFrom usedSources usedDestinations rest
    else if candidate.destinationLineId ∈ usedDestinations then
      chooseFrom usedSources usedDestinations rest
    else candidate :: chooseFrom (candidate.sourceLineId :: usedSources)
      (candidate.destinationLineId :: usedDestinations) rest

def chooseBestContraMatches (p : ContraPolicy) (sources destinations : List ContraLineCandidate) :
    List ContraMatch :=
  chooseFrom [] [] (sortOn ContraMatch.key (contraCandidates p sources destinations))

/-! ### Stable matchings -/

variable {p : ContraPolicy} {sources destinations : List ContraLineCandidate}
  {source destination : ContraLineCandidate} {m : ContraMatch}

/-- A pair that may be matched. -/
structure Admissible (p : ContraPolicy) (source destination : ContraLineCandidate) : Prop where
  accounts : source.bankAccountId ≠ destination.bankAccountId
  amounts : amountDiff source destination ≤ p.amountTolerance
  dates : (dateDiffDays source destination : ℤ) ≤ p.dateWindowDays
  score : p.minScore ≤ (p.scored source destination).1

/-- Two pairs of one line. -/
def Shares (a b : ContraMatch) : Prop :=
  a.sourceLineId = b.sourceLineId ∨ a.destinationLineId = b.destinationLineId

instance : DecidableRel Shares := fun _ _ => inferInstanceAs (Decidable (_ ∨ _))

/-- Pairs that may be matched, each line once, where a pair that is left out has a line in a better
one. -/
structure IsStableMatching (p : ContraPolicy) (sources destinations : List ContraLineCandidate)
    (chosen : List ContraMatch) : Prop where
  once : (chosen.map ContraMatch.sourceLineId ++ chosen.map ContraMatch.destinationLineId).Nodup
  admissible : ∀ m ∈ chosen, ∃ source ∈ sources, ∃ destination ∈ destinations,
    m = p.pair source destination ∧ Admissible p source destination
  stable : ∀ source ∈ sources, ∀ destination ∈ destinations, Admissible p source destination →
    p.pair source destination ∈ chosen ∨
      ∃ m ∈ chosen, Shares m (p.pair source destination) ∧
        m.key < (p.pair source destination).key

/-- No line is given twice. -/
def DistinctLines (sources destinations : List ContraLineCandidate) : Prop :=
  (sources.map ContraLineCandidate.lineId ++ destinations.map ContraLineCandidate.lineId).Nodup

theorem mem_contraCandidates : m ∈ contraCandidates p sources destinations ↔
    ∃ source ∈ sources, ∃ destination ∈ destinations, m = p.pair source destination ∧
      p.minScore ≤ (p.scored source destination).1 := by
  simp only [contraCandidates, List.mem_flatMap, List.mem_filter, List.mem_map, decide_eq_true_eq]
  constructor
  · rintro ⟨source, hsource, ⟨destination, hdestination, rfl⟩, hscore⟩
    exact ⟨source, hsource, destination, hdestination, rfl, hscore⟩
  · rintro ⟨source, hsource, destination, hdestination, rfl, hscore⟩
    exact ⟨source, hsource, ⟨destination, hdestination, rfl⟩, hscore⟩

theorem admissible_of_pos (hmin : 0 < p.minScore)
    (hscore : p.minScore ≤ (p.scored source destination).1) : Admissible p source destination := by
  have hzero : ¬ p.minScore ≤ 0 := not_le.mpr hmin
  have hscored := hscore
  rw [ContraPolicy.scored, scoreContraPair] at hscored
  by_cases haccounts : source.bankAccountId = destination.bankAccountId
  · rw [if_pos haccounts] at hscored
    exact absurd hscored hzero
  rw [if_neg haccounts] at hscored
  by_cases hamounts : p.amountTolerance < amountDiff source destination
  · rw [if_pos hamounts] at hscored
    exact absurd hscored hzero
  rw [if_neg hamounts] at hscored
  by_cases hdates : p.dateWindowDays < dateDiffDays source destination
  · rw [if_pos hdates] at hscored
    exact absurd hscored hzero
  exact ⟨haccounts, not_lt.mp hamounts, not_lt.mp hdates, hscore⟩

theorem chooseFrom_eq_select (taken l : List ContraMatch) :
    chooseFrom (taken.map ContraMatch.sourceLineId) (taken.map ContraMatch.destinationLineId) l =
      select Shares taken l := by
  induction l generalizing taken with
  | nil => rfl
  | cons c rest ih =>
    have hshares : (∃ b ∈ taken, Shares b c) ↔
        c.sourceLineId ∈ taken.map ContraMatch.sourceLineId ∨
          c.destinationLineId ∈ taken.map ContraMatch.destinationLineId := by
      simp only [Shares, List.mem_map, and_or_left, exists_or]
    rw [chooseFrom, select]
    by_cases hsource : c.sourceLineId ∈ taken.map ContraMatch.sourceLineId
    · rw [if_pos hsource, if_pos (hshares.mpr (.inl hsource)), ih]
    · by_cases hdestination : c.destinationLineId ∈ taken.map ContraMatch.destinationLineId
      · rw [if_neg hsource, if_pos hdestination, if_pos (hshares.mpr (.inr hdestination)), ih]
      · have hfree : ¬ ∃ b ∈ taken, Shares b c := by
          rw [hshares, not_or]
          exact ⟨hsource, hdestination⟩
        rw [if_neg hsource, if_neg hdestination, if_neg hfree, ← ih]
        rfl

theorem chooseBestContraMatches_eq : chooseBestContraMatches p sources destinations =
    select Shares [] (sortOn ContraMatch.key (contraCandidates p sources destinations)) :=
  chooseFrom_eq_select [] _

theorem DistinctLines.nodup_keys (h : DistinctLines sources destinations) :
    ((contraCandidates p sources destinations).map ContraMatch.key).Nodup := by
  obtain ⟨hsources, hdestinations, -⟩ := List.nodup_append.mp h
  -- the keys end with the ids of the two lines
  refine List.Nodup.of_map (fun k => ofLex (ofLex (ofLex (ofLex k).2).2).2) ?_
  rw [List.map_map, contraCandidates, List.map_flatMap, List.nodup_flatMap]
  constructor
  · intro source _
    refine List.Nodup.of_map Prod.snd ?_
    rw [List.map_map]
    refine (List.filter_sublist.map _).nodup ?_
    have heq : (Prod.snd ∘ (fun k => ofLex (ofLex (ofLex (ofLex k).2).2).2) ∘
        ContraMatch.key) ∘ p.pair source = ContraLineCandidate.lineId := rfl
    rw [List.map_map, heq]
    exact hdestinations
  · refine (List.pairwise_map.mp hsources).imp fun {first second} hne => ?_
    refine List.disjoint_left.mpr fun ids hfirst hsecond => hne ?_
    obtain ⟨a, ha, rfl⟩ := List.mem_map.mp hfirst
    obtain ⟨b, hb, hab⟩ := List.mem_map.mp hsecond
    obtain ⟨d, -, rfl⟩ := List.mem_map.mp (List.mem_filter.mp ha).1
    obtain ⟨e, -, rfl⟩ := List.mem_map.mp (List.mem_filter.mp hb).1
    exact (congrArg Prod.fst hab).symm

theorem contraCandidates_perm {sources' destinations' : List ContraLineCandidate}
    (hsources : sources'.Perm sources) (hdestinations : destinations'.Perm destinations) :
    (contraCandidates p sources' destinations').Perm (contraCandidates p sources destinations) :=
  hsources.flatMap fun source _ => (hdestinations.map (p.pair source)).filter _

/-- **Above zero** the choice is a stable matching. -/
theorem isStableMatching_of_pos (hmin : 0 < p.minScore) (h : DistinctLines sources destinations) :
    IsStableMatching p sources destinations
      (chooseBestContraMatches p sources destinations) := by
  obtain ⟨-, -, hapart⟩ := List.nodup_append.mp h
  rw [chooseBestContraMatches_eq]
  have hcandidate : ∀ m ∈ select Shares []
      (sortOn ContraMatch.key (contraCandidates p sources destinations)),
      ∃ source ∈ sources, ∃ destination ∈ destinations, m = p.pair source destination ∧
        p.minScore ≤ (p.scored source destination).1 := fun m hm =>
    mem_contraCandidates.mp ((sortOn_perm _ _).mem_iff.mp (select_subset hm))
  refine ⟨?_, fun m hm => ?_, fun source hsource destination hdestination hadmissible => ?_⟩
  · have hfree : (select Shares [] (sortOn ContraMatch.key
        (contraCandidates p sources destinations))).Pairwise fun a b => ¬ Shares a b :=
      pairwise_select
    refine List.nodup_append.mpr ⟨List.pairwise_map.mpr (hfree.imp fun hab => ?_),
      List.pairwise_map.mpr (hfree.imp fun hab => ?_), fun i hi j hj => ?_⟩
    · exact fun heq => hab (.inl heq)
    · exact fun heq => hab (.inr heq)
    · obtain ⟨a, ha, rfl⟩ := List.mem_map.mp hi
      obtain ⟨b, hb, rfl⟩ := List.mem_map.mp hj
      obtain ⟨source, hsource, _, _, rfl, _⟩ := hcandidate a ha
      obtain ⟨_, _, destination, hdestination, rfl, _⟩ := hcandidate b hb
      exact hapart _ (List.mem_map.mpr ⟨source, hsource, rfl⟩) _
        (List.mem_map.mpr ⟨destination, hdestination, rfl⟩)
  · obtain ⟨source, hsource, destination, hdestination, hm, hscore⟩ := hcandidate m hm
    exact ⟨source, hsource, destination, hdestination, hm, admissible_of_pos hmin hscore⟩
  · have hmem : p.pair source destination ∈
        sortOn ContraMatch.key (contraCandidates p sources destinations) :=
      (sortOn_perm _ _).mem_iff.mpr (mem_contraCandidates.mpr
        ⟨source, hsource, destination, hdestination, rfl, hadmissible.score⟩)
    have hselected : _ ∈ select Shares [] _ ∨ _ := mem_select_or (pairwise_sortOn h.nodup_keys) hmem
    rcases hselected with hchosen | ⟨b, hb, -⟩ | hbetter
    · exact .inl hchosen
    · exact absurd hb List.not_mem_nil
    · exact .inr hbetter

/-- At or below zero two lines of one account are matched. -/
theorem same_account_chosen (hmin : p.minScore ≤ 0)
    (haccounts : source.bankAccountId = destination.bankAccountId) :
    chooseBestContraMatches p [source] [destination] = [p.pair source destination] := by
  have hscore : p.minScore ≤ (p.pair source destination).score := by
    change p.minScore ≤ (p.scored source destination).1
    rw [ContraPolicy.scored, scoreContraPair, if_pos haccounts]
    exact hmin
  have hcandidates : contraCandidates p [source] [destination] = [p.pair source destination] := by
    simp [contraCandidates, hscore]
  rw [chooseBestContraMatches, hcandidates]
  rfl

def contraLine (lineId : UUID) : ContraLineCandidate :=
  ⟨lineId, 0, ⟨2024, 1, 5, by decide⟩, 100, none, none⟩

/-- **Contra matches** are a stable matching of the pairs that may be matched, the same for every
order of the lines, exactly where the least score is above zero. -/
theorem contraMatches_iff (p : ContraPolicy) :
    (∀ sources destinations, DistinctLines sources destinations →
      IsStableMatching p sources destinations
        (chooseBestContraMatches p sources destinations) ∧
      ∀ sources' destinations', sources'.Perm sources → destinations'.Perm destinations →
        chooseBestContraMatches p sources' destinations' =
          chooseBestContraMatches p sources destinations) ↔
      0 < p.minScore := by
  constructor
  · intro h
    by_contra hmin
    have hchosen : chooseBestContraMatches p [contraLine 0] [contraLine 1] =
        [p.pair (contraLine 0) (contraLine 1)] := same_account_chosen (not_lt.mp hmin) rfl
    have hdistinct : DistinctLines [contraLine 0] [contraLine 1] := by
      simp [DistinctLines, contraLine]
    obtain ⟨source, hsource, destination, hdestination, -, hadmissible⟩ :=
      (h _ _ hdistinct).1.admissible _ (hchosen ▸ List.mem_singleton_self _)
    rw [List.mem_singleton.mp hsource, List.mem_singleton.mp hdestination] at hadmissible
    exact hadmissible.accounts rfl
  · intro hmin sources destinations h
    refine ⟨isStableMatching_of_pos hmin h, fun sources' destinations' hsources hdestinations => ?_⟩
    have hperm := contraCandidates_perm (p := p) hsources hdestinations
    rw [chooseBestContraMatches, chooseBestContraMatches,
      sortOn_eq_of_perm hperm.symm h.nodup_keys]

end DotmacErp.Banking
