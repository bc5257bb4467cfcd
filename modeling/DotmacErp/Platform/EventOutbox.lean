import DotmacErp.Foundation.Session
import DotmacErp.GL.Models
import Mathlib.Data.List.Sort

/-!
# The event outbox

Events are written with the business data they tell about and delivered later by a relay, which
claims a batch of them under a token and a lease, runs the handler of each and settles it with
the token it claimed it under. This module has the rows and the publisher's functions. All of
them work in the caller's session and none commits; a settlement raises when the row is not held
under the token it presents, and a locked read is taken to return the committed row.

The store keeps, for every event, an account of its life that no code reads: when it was reset
to PENDING and when the mutations of its handler were made (`DeliveryMark`).

Time stamps are numbers of seconds, and `clock` is the time it is. Of the headers there is the
organization, when it is a well-formed identifier; the payload is the handler's business.
-/

namespace DotmacErp.Outbox

open Relational Session

/-- `TerminalReason`: why an event reached a terminal status. -/
inductive TerminalReason where
  | unsupportedEvent
  | maxRetriesExceeded
  | declaredNoConsequence
  | missingOrganizationContext
  | invalidPayload
  | manualDeadLetter
  deriving DecidableEq

structure EventOutbox where
  eventName : String
  producerModule : String
  organizationId : Option UUID
  idempotencyKey : String
  occurredAt : ℕ
  status : EventStatus := .pending
  retryCount : ℕ := 0
  nextRetryAt : Option ℕ := none
  publishedAt : Option ℕ := none
  terminalAt : Option ℕ := none
  terminalReason : Option TerminalReason := none
  lastError : Option String := none
  errorClass : Option String := none
  claimedBy : Option String := none
  claimToken : Option UUID := none
  claimedAt : Option ℕ := none
  leaseExpiresAt : Option ℕ := none
  emailPayloadPurgedAt : Option ℕ := none

inductive DeliveryMark where
  | reset
  | applied
  deriving DecidableEq

/-- The outbox, the business state the handlers work on, the time, and the accounts. -/
structure OutboxStore (β : Type) where
  events : Table EventOutbox := Table.empty
  business : β
  clock : ℕ := 0
  marks : UUID → List DeliveryMark := fun _ => []

/-- What a delivery or a settlement may raise. -/
inductive OutboxError where
  | staleClaim (message : String)
  | valueError (message : String)
  | nonRetryable (message : String)
  | raised (className message : String)

/-- `type(exc).__name__`. -/
def OutboxError.className : OutboxError → String
  | staleClaim _ => "StaleClaimError"
  | valueError _ => "ValueError"
  | nonRetryable _ => "NonRetryableEventError"
  | raised className _ => className

/-- `str(exc)`. -/
def OutboxError.message : OutboxError → String
  | staleClaim message | valueError message | nonRetryable message | raised _ message => message

variable {β : Type}

abbrev OutboxSession (β α : Type) := Session OutboxError (OutboxStore β) α

def OutboxStore.modifyEvent (s : OutboxStore β) (k : UUID) (f : EventOutbox → EventOutbox) :
    OutboxStore β :=
  { s with events := s.events.modify k f }

def OutboxStore.mark (s : OutboxStore β) (k : UUID) (m : DeliveryMark) : OutboxStore β :=
  { s with marks := Function.update s.marks k (m :: s.marks k) }

namespace OutboxPublisher

def maxRetryCount : ℕ := 5

/-- `RETRY_DELAYS`, in seconds. -/
def retryDelays : List ℕ := [60, 300, 900, 3600, 86400]

def defaultLeaseSeconds : ℕ := 300

/-- `_trim_error`, to `MAX_ERROR_LENGTH` characters. -/
def trimError (message : String) : String := String.ofList (message.toList.take 2000)

/-- `_release_lease`: `claimed_by` and `claimed_at` are kept as evidence. -/
def releaseLease (event : EventOutbox) : EventOutbox :=
  { event with claimToken := none, leaseExpiresAt := none }

/-- `publish_event`; the idempotency key is unique. -/
def publishEvent (eventName producerModule : String) (org : Option UUID)
    (idempotencyKey : String) : OutboxSession β UUID := do
  let s ← get
  refuse (s.events.find? fun event => event.idempotencyKey = idempotencyKey).isSome
    (.raised "IntegrityError" "uq_outbox_idempotency")
  let event :=
    { eventName, producerModule, organizationId := org, idempotencyKey, occurredAt := s.clock }
  set ({ s with events := s.events.insert event }.mark s.events.next .reset)
  pure s.events.next

/-! ### Claiming -/

/-- The rows `claim_pending_events` asks for: due, and not under an unexpired lease. -/
def deliverable (now maxRetries : ℕ) (event : EventOutbox) : Bool :=
  (event.status = .pending || event.status = .failed) && event.retryCount < maxRetries &&
    event.nextRetryAt.all (· ≤ now) && event.leaseExpiresAt.all (· ≤ now)

/-- The rows a claim gets: the oldest of those that are not locked by someone else. -/
def claimable (s : OutboxStore β) (maxRetries batchSize : ℕ) (locked : List UUID) :
    List (Stored EventOutbox) :=
  (((s.events.select (deliverable s.clock maxRetries)).filter fun r => r.id ∉ locked).insertionSort
    fun r r' => r.row.occurredAt ≤ r'.row.occurredAt).take batchSize

def claimedRow (now lease : ℕ) (workerId : String) (token : UUID) (event : EventOutbox) :
    EventOutbox :=
  { event with
    claimedBy := some workerId
    claimToken := some token
    claimedAt := some now
    leaseExpiresAt := some (now + lease) }

def claimRows (s : OutboxStore β) (claimed : List (Stored EventOutbox)) (lease : ℕ)
    (workerId : String) (token : UUID) : Table EventOutbox :=
  s.events.mapRows fun r =>
    if r.id ∈ claimed.map Stored.id then claimedRow s.clock lease workerId token r.row else r.row

/-- `claim_pending_events`: stamp the token and the lease on a batch of rows. The token is the
caller's draw, and `locked` are the rows other transactions hold. -/
def claimPendingEvents (workerId : String) (batchSize : ℕ) (maxRetries leaseSeconds : Option ℕ)
    (token : UUID) (locked : List UUID) : OutboxSession β (List (Stored EventOutbox)) := do
  let s ← get
  let lease := (leaseSeconds.filter (· ≠ 0)).getD defaultLeaseSeconds
  let claimed := claimable s ((maxRetries.filter (· ≠ 0)).getD maxRetryCount) batchSize locked
  set { s with events := claimRows s claimed lease workerId token }
  pure claimed

/-! ### Settling -/

/-- `_get_claimed_event`: the locked row, if it is held under the token. -/
def getClaimedEvent (k token : UUID) : OutboxSession β EventOutbox := do
  let s ← get
  let event ← orRaise (s.events.get? k) (.valueError ("Event not found: " ++ k.str))
  refuse (event.claimToken ≠ some token)
    (.staleClaim ("Claim token mismatch for event " ++ k.str ++
      ": lease was reclaimed by another worker"))
  pure event

def published (now : ℕ) (reason : Option TerminalReason) (event : EventOutbox) : EventOutbox :=
  releaseLease { event with
    status := .published
    publishedAt := some now
    terminalAt := some now
    lastError := none
    errorClass := none
    terminalReason := reason }

def markPublished (k token : UUID) (reason : Option TerminalReason) : OutboxSession β PUnit := do
  let _ ← getClaimedEvent k token
  modify fun s => s.modifyEvent k (published s.clock reason)

/-- A row after a failed delivery: on the retry ladder, or dead at its end. -/
def retried (now : ℕ) (message : String) (errorClass : Option String) (event : EventOutbox) :
    EventOutbox :=
  let event := { event with
    retryCount := event.retryCount + 1, lastError := some (trimError message), errorClass }
  releaseLease <|
    if maxRetryCount ≤ event.retryCount then
      { event with
        status := .dead, terminalAt := some now, terminalReason := some .maxRetriesExceeded }
    else
      let delay := retryDelays.getD (min (event.retryCount - 1) (retryDelays.length - 1)) 0
      { event with nextRetryAt := some (now + delay), status := .failed }

def handleRetry (k token : UUID) (message : String) (errorClass : Option String) :
    OutboxSession β PUnit := do
  let _ ← getClaimedEvent k token
  modify fun s => s.modifyEvent k (retried s.clock message errorClass)

def deadLettered (now : ℕ) (message : String) (errorClass : Option String)
    (reason : TerminalReason) (event : EventOutbox) : EventOutbox :=
  releaseLease { event with
    terminalAt :=
      if event.status ≠ .dead ∨ event.terminalAt = none then some now else event.terminalAt
    status := .dead
    lastError := some (trimError message)
    errorClass
    terminalReason := some reason }

/-- `mark_dead` with a claim token. -/
def markDead (k token : UUID) (message : String) (errorClass : Option String)
    (reason : TerminalReason) : OutboxSession β PUnit := do
  let _ ← getClaimedEvent k token
  modify fun s => s.modifyEvent k (deadLettered s.clock message errorClass reason)

def markUnsupported (k token : UUID) : OutboxSession β PUnit :=
  markDead k token "No registered handler and event is not declared no-consequence"
    (some "UnsupportedEventError") .unsupportedEvent

/-! ### Administration -/

/-- The columns of a flush: those whose value differs from the one that was loaded are written,
the others stay as they are in the row by then. -/
def flushed (loaded changed current : EventOutbox) : EventOutbox :=
  { current with
    status := if changed.status = loaded.status then current.status else changed.status
    terminalAt :=
      if changed.terminalAt = loaded.terminalAt then current.terminalAt else changed.terminalAt
    lastError :=
      if changed.lastError = loaded.lastError then current.lastError else changed.lastError
    errorClass :=
      if changed.errorClass = loaded.errorClass then current.errorClass else changed.errorClass
    terminalReason :=
      if changed.terminalReason = loaded.terminalReason then current.terminalReason
      else changed.terminalReason
    claimToken :=
      if changed.claimToken = loaded.claimToken then current.claimToken else changed.claimToken
    leaseExpiresAt :=
      if changed.leaseExpiresAt = loaded.leaseExpiresAt then current.leaseExpiresAt
      else changed.leaseExpiresAt }

def requireReplayablePayload (event : EventOutbox) : OutboxSession β PUnit :=
  refuse (event.eventName = "email.delivery.requested" ∧ event.emailPayloadPurgedAt ≠ none)
    (.valueError "Email delivery content was purged and cannot be replayed")

/-- A row reset for redelivery. -/
def requeued (event : EventOutbox) : EventOutbox :=
  releaseLease { event with
    status := .pending
    terminalAt := none
    retryCount := 0
    nextRetryAt := none
    lastError := none
    errorClass := none
    terminalReason := none }

def requeueDeadEvent (k : UUID) : OutboxSession β PUnit := do
  let s ← get
  let event ← orRaise (s.events.get? k) (.valueError ("Event not found: " ++ k.str))
  refuse (event.status ≠ .failed ∧ event.status ≠ .dead)
    (.valueError ("Event " ++ k.str ++ " is not failed or dead"))
  requireReplayablePayload event
  modify fun s => (s.modifyEvent k requeued).mark k .reset

def statusName : EventStatus → String
  | .pending => "PENDING"
  | .published => "PUBLISHED"
  | .failed => "FAILED"
  | .dead => "DEAD"

def blank (text : String) : Bool := text.toList.all Char.isWhitespace

def retryDeadEvent (k : UUID) (actorId reason : String) : OutboxSession β PUnit := do
  refuse (blank actorId = true) (.valueError "Replay requires an actor_id")
  refuse (blank reason = true) (.valueError "Replay requires a reason")
  let s ← get
  let event ← orRaise (s.events.get? k) (.valueError ("Event not found: " ++ k.str))
  refuse (event.status ≠ .dead)
    (.valueError ("Only DEAD events can be replayed (event " ++ k.str ++ " is " ++
      statusName event.status ++ ")"))
  requireReplayablePayload event
  modify fun s => (s.modifyEvent k fun event =>
    { requeued event with claimedBy := none, claimedAt := none }).mark k .reset

end OutboxPublisher

end DotmacErp.Outbox
