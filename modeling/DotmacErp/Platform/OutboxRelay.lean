import DotmacErp.Foundation.Pool
import DotmacErp.Platform.EventOutbox

/-!
# The outbox relay

A run of the relay claims a batch in a transaction of its own and then delivers the events one
by one, each in its own transaction: the handler's mutations and the settlement commit together
or not at all. A delivery that raised is rolled back and settled as a failure in a further
transaction, and a claim that was taken over in the meantime is left to its new owner.

The relay is a program of workers over the outbox (`relayProgram`), with the calls an
administrator makes beside it. `mark_dead` without a token is the one of these that does not lock
the row: it reads it in one transaction and what it flushes is worked out from what it read.

The handlers are the program's parameter. Since the business state may change under them
(`business`), a handler that raises also stands for a delivery whose commit fails.
-/

namespace DotmacErp.Outbox

open Relational Session OutboxPublisher

variable {β : Type}

/-- The handler of an event, by its name, and what it makes of the business state. -/
abbrev Handlers (β : Type) := String → Option (EventOutbox → Session OutboxError β PUnit)

/-- `_ClaimedEvent`: what a worker keeps of an event it claimed. -/
structure ClaimedEvent where
  eventId : UUID
  eventName : String
  producerModule : String
  organizationId : Option UUID

inductive RelayOutcome where
  | published
  | noConsequence
  | retried
  | dead
  | unsupported
  | staleClaims
  | commitFailed

/-- Where a relay stands between its transactions. -/
inductive RelayPc where
  | delivering (token : UUID) (claimed : List ClaimedEvent) (outcomes : List RelayOutcome)
  | settlingFailure (token : UUID) (event : ClaimedEvent) (exc : OutboxError)
      (claimed : List ClaimedEvent) (outcomes : List RelayOutcome)
  | markingDead (k : UUID) (loaded : EventOutbox) (message : String)
      (errorClass : Option String) (reason : TerminalReason)

/-- What a call hands to its caller. -/
inductive RelayReply where
  | outcomes (outcomes : List RelayOutcome)
  | done
  | raised (exc : OutboxError)

/-- What a transaction leaves. -/
abbrev RelayBlock (β : Type) := OutboxStore β × Outcome RelayPc RelayReply

/-! ### Claiming and delivering -/

/-- `_is_declared_no_consequence`: no event name is declared, and the producer "hooks" is. -/
def isDeclaredNoConsequence (producerModule : String) : Bool := producerModule = "hooks"

def claimedEvents (rows : List (Stored EventOutbox)) : List ClaimedEvent :=
  rows.map fun r => ⟨r.id, r.row.eventName, r.row.producerModule, r.row.organizationId⟩

/-- `_claim_batch`, at the start of `relay_outbox_events`. -/
def claimBatch (workerId : String) (batchSize maxRetryCount leaseSeconds : ℕ) (token : UUID)
    (locked : List UUID) (s : OutboxStore β) : RelayBlock β :=
  match claimPendingEvents workerId batchSize (some maxRetryCount) (some leaseSeconds) token
      locked s with
  | .ok rows s' =>
    if rows.isEmpty then (s', .returned (.outcomes []))
    else (s', .running (.delivering token (claimedEvents rows) []))
  | .error exc _ => (s, .returned (.raised exc))

def applyHandler (handler : EventOutbox → Session OutboxError β PUnit) (k : UUID)
    (event : EventOutbox) : OutboxSession β PUnit := fun s =>
  match handler event s.business with
  | .ok _ business => .ok ⟨⟩ ({ s with business }.mark k .applied)
  | .error exc business => .error exc { s with business }

def settle (settlement : OutboxSession β PUnit) (outcome ifRaised : RelayOutcome)
    (s : OutboxStore β) : OutboxStore β × RelayOutcome :=
  match settlement s with
  | .ok _ s' => (s', outcome)
  | .error (.staleClaim _) _ => (s, .staleClaims)
  | .error _ _ => (s, ifRaised)

def settleWithoutHandler (token : UUID) (event : ClaimedEvent) (s : OutboxStore β) :
    OutboxStore β × RelayOutcome :=
  if isDeclaredNoConsequence event.producerModule then
    settle (markPublished event.eventId token (some .declaredNoConsequence)) .noConsequence
      .commitFailed s
  else settle (markUnsupported event.eventId token) .unsupported .commitFailed s

def settleMissingOrganization (token : UUID) (event : ClaimedEvent) (s : OutboxStore β) :
    OutboxStore β × RelayOutcome :=
  settle (markDead event.eventId token "Event headers carry no valid organization_id"
    (some "MissingOrganizationContext") .missingOrganizationContext) .dead .staleClaims s

def next (token : UUID) (claimed : List ClaimedEvent) (outcomes : List RelayOutcome)
    (r : OutboxStore β × RelayOutcome) : RelayBlock β :=
  (r.1, .running (.delivering token claimed (outcomes ++ [r.2])))

/-- `_deliver_one`, up to and including its first commit or rollback. -/
def deliverOne (handlers : Handlers β) (token : UUID) (event : ClaimedEvent)
    (claimed : List ClaimedEvent) (outcomes : List RelayOutcome) (s : OutboxStore β) :
    RelayBlock β :=
  match handlers event.eventName with
  | none => next token claimed outcomes (settleWithoutHandler token event s)
  | some handler =>
    match event.organizationId, s.events.get? event.eventId with
    | none, _ => next token claimed outcomes (settleMissingOrganization token event s)
    | some _, none => (s, .running (.delivering token claimed outcomes))
    | some _, some row =>
      -- handler mutations and settlement in one transaction
      match (do applyHandler handler event.eventId row
                markPublished event.eventId token none : OutboxSession β PUnit) s with
      | .ok _ s' => next token claimed outcomes (s', .published)
      | .error (.staleClaim _) _ => next token claimed outcomes (s, .staleClaims)
      | .error exc _ => (s, .running (.settlingFailure token event exc claimed outcomes))

/-- Whether `handle_retry` puts the event at the end of the ladder. -/
def retryOutcome (k : UUID) (s : OutboxStore β) : RelayOutcome :=
  match s.events.get? k with
  | some row => if maxRetryCount ≤ row.retryCount + 1 then .dead else .retried
  | none => .retried

def settleFailure (token : UUID) (event : ClaimedEvent) (exc : OutboxError)
    (s : OutboxStore β) : OutboxStore β × RelayOutcome :=
  match exc with
  | .nonRetryable message =>
    settle (markDead event.eventId token message (some exc.className) .invalidPayload) .dead
      .commitFailed s
  | _ =>
    settle (handleRetry event.eventId token exc.message (some exc.className))
      (retryOutcome event.eventId s) .commitFailed s

/-- The transaction from a program point. -/
def RelayPc.advance (handlers : Handlers β) : RelayPc → OutboxStore β → RelayBlock β
  | delivering _ [] outcomes, s => (s, .returned (.outcomes outcomes))
  | delivering token (event :: claimed) outcomes, s =>
    deliverOne handlers token event claimed outcomes s
  | settlingFailure token event exc claimed outcomes, s =>
    next token claimed outcomes (settleFailure token event exc s)
  | markingDead k loaded message errorClass reason, s =>
    -- the row as it was loaded decides what is written to the row as it is
    (s.modifyEvent k (flushed loaded (deadLettered s.clock message errorClass reason loaded)),
      .returned .done)

/-! ### The calls -/

/-- What may happen to the outbox besides: an event is published, the relay runs, an
administrator steps in, time passes, the retention job purges an e-mail, and anybody else
commits. -/
inductive RelayCall (β : Type) where
  | publishEvent (eventName producerModule : String) (org : Option UUID)
      (idempotencyKey : String)
  | relayOutboxEvents (workerId : String) (batchSize maxRetryCount leaseSeconds : ℕ)
      (token : UUID) (locked : List UUID)
  | markDead (k : UUID) (message : String) (errorClass : Option String)
      (reason : TerminalReason)
  | requeueDeadEvent (k : UUID)
  | retryDeadEvent (k : UUID) (actorId reason : String)
  | purgeEmail (k : UUID)
  | tick (seconds : ℕ)
  | business (b : β)

def transaction {α : Type} (x : OutboxSession β α) (s : OutboxStore β) : RelayBlock β :=
  match x s with
  | .ok _ s' => (s', .returned .done)
  | .error exc _ => (s, .returned (.raised exc))

def RelayCall.start : RelayCall β → OutboxStore β → RelayBlock β
  | .publishEvent name producer org key, s =>
    transaction (OutboxPublisher.publishEvent name producer org key) s
  | relayOutboxEvents workerId batch maxRetry lease token locked, s =>
    claimBatch workerId batch maxRetry lease token locked s
  | .markDead k message errorClass reason, s =>
    match s.events.get? k with
    | none => (s, .returned (.raised (.valueError ("Event not found: " ++ k.str))))
    | some event => (s, .running (.markingDead k event message errorClass reason))
  | .requeueDeadEvent k, s => transaction (OutboxPublisher.requeueDeadEvent k) s
  | .retryDeadEvent k actorId reason, s =>
    transaction (OutboxPublisher.retryDeadEvent k actorId reason) s
  | purgeEmail k, s =>
    (s.modifyEvent k fun event => { event with emailPayloadPurgedAt := some s.clock },
      .returned .done)
  | tick seconds, s => ({ s with clock := s.clock + seconds }, .returned .done)
  | business b, s => ({ s with business := b }, .returned .done)

def relayProgram (handlers : Handlers β) :
    Program (OutboxStore β) (RelayCall β) RelayPc RelayReply where
  start := RelayCall.start
  advance := RelayPc.advance handlers

def relaySystem (handlers : Handlers β) :
    System (Pool (OutboxStore β) RelayPc) (Pool.Event (RelayCall β)) :=
  (relayProgram handlers).system fun s => s.events = Table.empty ∧ ∀ k, s.marks k = []

end DotmacErp.Outbox
