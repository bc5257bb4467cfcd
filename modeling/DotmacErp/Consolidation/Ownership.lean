import DotmacErp.Consolidation.Intercompany

/-!
# Ownership interests of a group

The rows and the calls of `OwnershipService`. An interest says what share of an entity another one
owns from a date on. A new interest of the same two entities supersedes the current one; a change of
a percentage records a new interest. With each interest goes the effective ownership: the share of
the investor, as far as it is known when the interest is recorded, times the percentage.

`calculateEffectiveOwnership` traces each entity up to its owners, one owner for each entity, and
multiplies the percentages on the way; at a date it takes the current interests that are in force.

Shares held, the names of entities and the basis of measurement are left out. Rows come in creation
order.
-/

namespace DotmacErp.Consolidation

open Calendar Relational Session Rounding

/-! ### Rows -/

inductive ConsolidationMethod
  | full
  | proportionate
  | equity
  | notConsolidated
  deriving DecidableEq

/-- `LegalEntity`, with what ownership reads and writes. -/
structure GroupEntity extends LegalEntity where
  parentEntityId : Option UUID := none
  consolidationMethod : ConsolidationMethod
  goodwillAtAcquisition : Option ℚ := none

def percentageColumn (q : ℚ) : ℚ := halfUp 6 q

structure OwnershipInterest where
  investorEntityId : UUID
  investeeEntityId : UUID
  ownershipPercentage : ℚ
  votingRightsPercentage : ℚ
  effectiveOwnershipPercentage : ℚ
  effectiveFrom : Date
  effectiveTo : Option Date := none
  investmentCost : Option ℚ := none
  nciPercentage : ℚ
  nciAtAcquisition : Option ℚ := none
  hasControl : Bool
  hasSignificantInfluence : Bool
  hasJointControl : Bool
  isCurrent : Bool := true

/-- The entities of a group and the interests between them. -/
structure OwnershipStore where
  entities : Table GroupEntity
  interests : Table OwnershipInterest

abbrev OwnershipSession (α : Type) := Session ServiceError OwnershipStore α

structure OwnershipInput where
  investorEntityId : UUID
  investeeEntityId : UUID
  ownershipPercentage : ℚ
  votingRightsPercentage : ℚ
  effectiveFrom : Date
  investmentCost : Option ℚ := none
  nciAtAcquisition : Option ℚ := none
  deriving DecidableEq

structure EffectiveOwnershipResult where
  entityId : UUID
  entityCode : String
  directOwnership : ℚ
  effectiveOwnership : ℚ
  nciPercentage : ℚ
  ownershipChain : List String
  hasControl : Bool
  consolidationMethod : ConsolidationMethod

namespace OwnershipService

/-! ### Recording -/

def calculateEffectiveOwnershipForInvestor (s : OwnershipStore) (investorEntityId : UUID) : ℚ :=
  match s.entities.get? investorEntityId with
  | none => 0
  | some investor =>
    match investor.parentEntityId with
    | none => 100
    | some _ =>
      match s.interests.find? fun interest =>
          decide (interest.investeeEntityId = investorEntityId ∧ interest.isCurrent = true) with
      | some ownership => ownership.row.effectiveOwnershipPercentage
      | none => 100

def ofPercentage (effective percentage : ℚ) : ℚ := halfUp 6 (effective * percentage / 100)

def newInterest (effectiveOwnership : ℚ) (input : OwnershipInput) : OwnershipInterest :=
  let hasControl := decide (50 < input.votingRightsPercentage)
  { investorEntityId := input.investorEntityId
    investeeEntityId := input.investeeEntityId
    ownershipPercentage := percentageColumn input.ownershipPercentage
    votingRightsPercentage := percentageColumn input.votingRightsPercentage
    effectiveOwnershipPercentage := ofPercentage effectiveOwnership input.ownershipPercentage
    effectiveFrom := input.effectiveFrom
    investmentCost := input.investmentCost.map (halfUp 6)
    nciPercentage := percentageColumn (100 - input.ownershipPercentage)
    nciAtAcquisition := input.nciAtAcquisition.map (halfUp 6)
    hasControl
    hasSignificantInfluence := decide (20 ≤ input.votingRightsPercentage ∧
      input.votingRightsPercentage ≤ 50) && !hasControl
    hasJointControl := decide (input.votingRightsPercentage = 50) }

def consolidationMethodOf (ownership : OwnershipInterest) : ConsolidationMethod :=
  if ownership.hasControl then .full
  else if ownership.hasJointControl then .proportionate
  else if ownership.hasSignificantInfluence then .equity
  else .notConsolidated

def updateConsolidationMethod (investeeEntityId : UUID) (ownership : OwnershipInterest) :
    OwnershipSession PUnit :=
  modify fun s => { s with
    entities := s.entities.modify investeeEntityId fun investee =>
      { investee with consolidationMethod := consolidationMethodOf ownership } }

def supersede (effectiveFrom : Date) (interest : OwnershipInterest) : OwnershipInterest :=
  { interest with isCurrent := false, effectiveTo := some effectiveFrom }

def currentInterest (s : OwnershipStore) (investorEntityId investeeEntityId : UUID) :
    Option (Stored OwnershipInterest) :=
  s.interests.find? fun interest => decide (interest.investorEntityId = investorEntityId ∧
    interest.investeeEntityId = investeeEntityId ∧ interest.isCurrent = true)

/-- The rows under `uq_ownership_interest` that an interest would repeat. -/
def repeatedInterest (s : OwnershipStore) (input : OwnershipInput) :
    Option (Stored OwnershipInterest) :=
  s.interests.find? fun interest => decide (interest.investorEntityId = input.investorEntityId ∧
    interest.investeeEntityId = input.investeeEntityId ∧
    interest.effectiveFrom = input.effectiveFrom)

def createOwnership (groupId : UUID) (input : OwnershipInput) : OwnershipSession UUID := do
  let s ← get
  let _ ← orRaise ((s.entities.get? input.investorEntityId).filter (·.groupId = groupId))
    (.http 404 "Investor entity not found")
  let _ ← orRaise ((s.entities.get? input.investeeEntityId).filter (·.groupId = groupId))
    (.http 404 "Investee entity not found")
  refuse (input.investorEntityId = input.investeeEntityId) (.http 400 "Entity cannot own itself")
  refuse (¬ (0 ≤ input.ownershipPercentage ∧ input.ownershipPercentage ≤ 100))
    (.http 400 "Ownership percentage must be between 0 and 100")
  match currentInterest s input.investorEntityId input.investeeEntityId with
  | some existing => modify fun s => { s with
      interests := s.interests.modify existing.id (supersede input.effectiveFrom) }
  | none => pure ⟨⟩
  let effectiveOwnership := calculateEffectiveOwnershipForInvestor s input.investorEntityId
  refuse ((repeatedInterest s input).isSome) (.integrity "uq_ownership_interest")
  let ownership := newInterest effectiveOwnership input
  modify fun s => { s with interests := s.interests.insert ownership }
  updateConsolidationMethod input.investeeEntityId ownership
  pure s.interests.next

def updateOwnershipPercentage (groupId interestId : UUID) (newPercentage newVotingRights : ℚ)
    (effectiveDate : Date) : OwnershipSession UUID := do
  let s ← get
  let existing ← orRaise (s.interests.get? interestId)
    (.http 404 "Ownership interest not found")
  let _ ← orRaise ((s.entities.get? existing.investorEntityId).filter (·.groupId = groupId))
    (.http 404 "Investor entity not in group")
  createOwnership groupId
    { investorEntityId := existing.investorEntityId
      investeeEntityId := existing.investeeEntityId
      ownershipPercentage := newPercentage
      votingRightsPercentage := newVotingRights
      effectiveFrom := effectiveDate
      investmentCost := existing.investmentCost }

/-! ### Effective ownership -/

abbrev OwnershipMap := UUID → Option (UUID × ℚ × Bool)

def interestsAsOf (s : OwnershipStore) (asOfDate : Option Date) :
    List (Stored OwnershipInterest) :=
  s.interests.select fun interest => decide (interest.isCurrent = true ∧
    ∀ d ∈ asOfDate, interest.effectiveFrom ≤ d ∧ ∀ e ∈ interest.effectiveTo, d < e)

def ownershipMapOf (ownerships : List (Stored OwnershipInterest)) : OwnershipMap :=
  ownerships.foldl (fun map o => Function.update map o.row.investeeEntityId
    (some (o.row.investorEntityId, o.row.ownershipPercentage, o.row.hasControl))) fun _ => none

def chainLink (entity : GroupEntity) (percentage : String) : String :=
  entity.entityCode ++ "(" ++ percentage ++ "%)"

/-- The loop of `_trace_ownership_chain`, with the entities it has not visited. It ends where the
map has no owner, or at an entity that was visited. -/
def traceLoop (entityMap : UUID → Option GroupEntity) (ownershipMap : OwnershipMap) :
    ℕ → List UUID → UUID → ℚ → List String → ℚ × List String × UUID × List UUID
  | 0, visited, current, effective, chain => (effective, chain, current, visited)
  | fuel + 1, visited, current, effective, chain =>
    match ownershipMap current with
    | none => (effective, chain, current, visited)
    | some (investorId, percentage, _) =>
      if current ∈ visited then (effective, chain, current, visited)
      else
        let link := match entityMap current with
          | some entity => [chainLink entity (fixedText 6 percentage)]
          | none => []
        traceLoop entityMap ownershipMap fuel (current :: visited) investorId
          (ofPercentage effective percentage) (chain ++ link)

/-- `_trace_ownership_chain`. No entity is visited twice, so as many steps as there are entities
with an owner are enough. -/
def traceOwnershipChain (entityMap : UUID → Option GroupEntity) (ownershipMap : OwnershipMap)
    (steps : ℕ) (entityId : UUID) : ℚ × List String :=
  let (effective, chain, current, visited) :=
    traceLoop entityMap ownershipMap steps [] entityId 100 []
  let top := match entityMap current with
    | some entity => if current ∈ visited then [] else [chainLink entity "100"]
    | none => []
  (effective, (chain ++ top).reverse)

def activeEntities (s : OwnershipStore) (groupId : UUID) : List (Stored GroupEntity) :=
  s.entities.select fun entity => decide (entity.groupId = groupId ∧ entity.isActive = true)

def calculateEffectiveOwnership (s : OwnershipStore) (groupId : UUID) (asOfDate : Option Date) :
    List EffectiveOwnershipResult :=
  let entities := activeEntities s groupId
  let ownerships := interestsAsOf s asOfDate
  let ownershipMap := ownershipMapOf ownerships
  let entityMap : UUID → Option GroupEntity := fun k =>
    (entities.find? fun e => decide (e.id = k)).map Stored.row
  entities.map fun entity =>
    let (effective, chain) :=
      traceOwnershipChain entityMap ownershipMap (ownerships.length + 1) entity.id
    let (directOwnership, hasControl) := match ownershipMap entity.id with
      | some (_, direct, control) => (direct, control)
      | none => (100, true)
    { entityId := entity.id
      entityCode := entity.row.entityCode
      directOwnership
      effectiveOwnership := effective
      nciPercentage := 100 - effective
      ownershipChain := chain
      hasControl
      consolidationMethod := entity.row.consolidationMethod }

end OwnershipService

end DotmacErp.Consolidation
