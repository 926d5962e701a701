import TokenBridge.Backend
import TokenBridge.Transfer.Receipt

/-!
# Following a transfer

`Tracker.advance` asks the backends whether the next step of a transfer has happened and
makes at most that one step; `track` repeats it until the transfer is over, waits for its
release, or makes no progress for too long. The other steps act: `initiate` submits a
transfer, `complete` redeems by hand what the relay did not, and `finalize` releases what
waited at the destination. Questions are repeated after transient errors, actions never
are.
-/

namespace TokenBridge

structure Tracker where
  retry : RetryPolicy
  /-- For the first word of the executor on a new transfer. -/
  status : PollSchedule
  /-- For polls without progress between two steps. -/
  progress : PollSchedule

namespace Tracker

open Conversation

/-! ## Starting -/

/-- Submits a transfer with a quote that is still good. -/
def initiate (request : TransferRequest) (quote : RelayQuote) (now : Instant) :
    Conversation Receipt := do
  if request.recipient.isZero then throw (.invalidPayload "transfer recipient is required")
  quote.validate request.recipient now
  let txs : List Transaction ← call (.submitTransfer request quote)
  if txs.isEmpty then throw (.backend "transfer produced no transactions")
  return .new request.source request.destination txs

/-- The first status that the executor reports, so that it takes notice of a transfer. -/
def firstStatus (t : Tracker) (tx : Transaction) : Conversation RelayStatus :=
  ExceptT.mk (Dialogue.polling t.status fun _ => Dialogue.question (Call.relayStatus tx))

/-- The receipt of an attested transfer, rebuilt from its source transaction. -/
def resume (t : Tracker) (tx : Transaction) : Conversation Receipt := do
  match ← callPatiently t.retry (.fetchAttestation tx) with
  | some a => return .attested a [tx]
  | none => throw .missingAttestation

/-! ## Observing -/

def finalizeSource (t : Tracker) (r : Receipt) : Conversation (Option Receipt) := do
  let tx ← r.requireSourceTx
  if ← callPatiently t.retry (.isFinalized tx) then return some (← r.advanceTo .sourceFinalized)
  else return none

def awaitAttestation (t : Tracker) (r : Receipt) : Conversation (Option Receipt) := do
  let tx ← r.requireSourceTx
  match ← callPatiently t.retry (.fetchAttestation tx) with
  | some a => return some { ← r.advanceTo .attested with attestation := some a }
  | none => return none

/-- A receipt that fails for what the executor said, unless the relay may still succeed. -/
def failureOf (r : Receipt) (status : RelayStatus) : Except Error (Option Receipt) :=
  if status.isFailure then
    let e := Error.relayFailed status
    some <$> r.fail e.failureClass e.message (some status)
  else .ok none

def awaitRedemption (t : Tracker) (r : Receipt) : Conversation (Option Receipt) := do
  let a ← r.requireAttestation
  if ← callPatiently t.retry (.isApproved a) then return some (← r.advanceTo .destinationInitiated)
  else
    match r.sourceTx? with
    | none => return none
    | some tx =>
      match ← callPatiently t.retry (.relayStatus tx) with
      | some status => failureOf r status
      | none => return none

def awaitExecution (t : Tracker) (r : Receipt) (a : Attestation) :
    Conversation (Option Receipt) := do
  if ← callPatiently t.retry (.isExecuted a) then return some (← r.advanceTo .destinationFinalized)
  else return none

/-- The receipt of a transfer that waits at the destination. -/
def queuedUntil (r : Receipt) (expiry : UInt64) : Except Error Receipt :=
  match Instant.ofSeconds? expiry.toNat with
  | some time => do
    return { ← r.advanceTo .destinationQueued with queueReleaseTime := some time }
  | none => .error (.overflow "queue release time")

def awaitRelease (t : Tracker) (r : Receipt) : Conversation (Option Receipt) := do
  let a ← r.requireAttestation
  match ← callPatiently t.retry (.waitingTransfer a) with
  | some (waiting : WaitingTransfer) => return some (← queuedUntil r waiting.expiry)
  | none => t.awaitExecution r a

/-- The receipt after the next step, or nothing if it has not happened yet. -/
def advance (t : Tracker) (r : Receipt) : Conversation (Option Receipt) :=
  match r.stage with
  | .sourceInitiated => t.finalizeSource r
  | .sourceFinalized => t.awaitAttestation r
  | .attested => t.awaitRedemption r
  | .destinationInitiated => t.awaitRelease r
  | .destinationQueued => do
    let a ← r.requireAttestation
    t.awaitExecution r a
  | .destinationFinalized | .failed => throw (.wrongStage "track" r.stage)

/-! ## Tracking -/

/-- The next receipt, when `idle` polls in a row have found nothing new. -/
def nextReceipt (t : Tracker) (r : Receipt) (idle : Nat) : Conversation Receipt := do
  match ← t.advance r with
  | some next => return next
  | none =>
    if t.progress.maxAttempts.toNat ≤ idle + 1 then throw (.timeout (.ofNat (idle + 1)))
    else
      wait (.exactly t.progress.interval)
      t.nextReceipt r (idle + 1)
termination_by t.progress.maxAttempts.toNat - idle

/-- Tracking goes no further from here. -/
def isLast (r : Receipt) : Bool := r.stage.isTerminal || r.stage == .destinationQueued

/-- A place in the stream of receipts that tracking yields. -/
structure Cursor where
  receipt : Receipt
  done : Bool

/-- The place after an item. -/
def Cursor.after (c : Cursor) : Except Error Receipt → Cursor
  | .ok next => ⟨next, isLast next⟩
  | .error _ => { c with done := true }

/-- The next item of the stream and the place after it, unless the stream has ended. -/
def pull (t : Tracker) (c : Cursor) :
    Dialogue Call Call.Outcome (Option (Except Error Receipt × Cursor)) := do
  if c.done then return none
  let item ← (t.nextReceipt c.receipt 0).run
  return some (item, c.after item)

/-- What the next `n` pulls yield. -/
def pulls (t : Tracker) :
    (n : Nat) → Cursor → Dialogue Call Call.Outcome (List (Except Error Receipt))
  | 0, _ => return []
  | n + 1, c => do
    match ← t.pull c with
    | none => return []
    | some (item, next) => return item :: (← t.pulls n next)

/-- The receipts of a transfer as it advances, up to the last one or the first error. These are at
most four receipts and an error, so that the sixth pull finds the end. -/
def track (t : Tracker) (r : Receipt) :
    Dialogue Call Call.Outcome (List (Except Error Receipt)) :=
  t.pulls 6 ⟨r, false⟩

/-! ## Acting -/

/-- Redeems by hand. A transfer that is past redemption stays as it is. -/
def complete (r : Receipt) : Conversation Receipt := do
  match r.stage with
  | .attested | .failed =>
    let a ← r.requireAttestation
    let txs : List Transaction ← call (.redeem a)
    let next ← r.advanceTo .destinationInitiated
    return { next with destinationTxs := r.destinationTxs ++ txs, failure := none }
  | .destinationInitiated | .destinationQueued | .destinationFinalized => return r
  | .sourceInitiated | .sourceFinalized => throw (.wrongStage "complete" r.stage)

/-- Whether the time to release a waiting transfer has come. -/
def checkReleaseTime (r : Receipt) (now : Instant) : Except Error Unit :=
  match r.queueReleaseTime with
  | some time =>
    if time.le now then .ok () else .error (.releaseNotReady (UInt64.ofNat time.seconds.toNat))
  | none => .ok ()

/-- Releases a transfer that waited at the destination. -/
def finalize (r : Receipt) (now : Instant) : Conversation Receipt := do
  if r.stage ≠ .destinationQueued then throw (.wrongStage "finalize" r.stage)
  checkReleaseTime r now
  let a ← r.requireAttestation
  let txs : List Transaction ← call (.completeWaiting a)
  let next ← r.advanceTo .destinationFinalized
  return { next with destinationTxs := r.destinationTxs ++ txs }

end Tracker

end TokenBridge
