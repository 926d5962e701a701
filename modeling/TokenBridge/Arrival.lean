import TokenBridge.IndexSet
import TokenBridge.Message
import TokenBridge.Table

/-!
# Arriving messages

An `Arrival` collects the votes for one message of another chain. Its `ReleaseStatus`
only moves forward, from `notApproved` to `released` directly or by way of a waiting
time. `Arrivals` holds one entry for each source chain and message id, and refuses a
second message under the same key.
-/

namespace TokenBridge

inductive ReleaseStatus where
  | notApproved
  | releaseAfter (time : UInt64)
  | released
  deriving DecidableEq, Repr

structure Arrival where
  message : TransferMessage
  /-- The amount in the decimals of the inbound quota. -/
  amount : Amount
  votes : IndexSet
  status : ReleaseStatus
  deriving DecidableEq, Repr

namespace Arrival

def new (message : TransferMessage) (amount : Amount) : Arrival :=
  ⟨message, amount, .empty, .notApproved⟩

/-- Records a vote and tells whether it is a new one. -/
def vote (a : Arrival) (index : UInt8) : Except Error (Bool × Arrival) := do
  if ← a.votes.get index then return (false, a)
  else return (true, { a with votes := ← a.votes.set index true })

def voteCount (a : Arrival) (enabled : IndexSet) : UInt8 := a.votes.sharedCount enabled

def isApproved (a : Arrival) (enabled : IndexSet) (threshold : UInt8) : Bool :=
  0 < threshold && threshold ≤ a.voteCount enabled

def isReleased (a : Arrival) : Bool := a.status == .released

/-- Sets the waiting time of a message that has neither waited nor been released. -/
def schedule (a : Arrival) (time : UInt64) : Bool × Arrival :=
  match a.status with
  | .notApproved => (true, { a with status := .releaseAfter time })
  | _ => (false, a)

/-- Releases a message whose waiting time is over. -/
def tryRelease (a : Arrival) (now : UInt64) : Except Error (Bool × Arrival) :=
  match a.status with
  | .releaseAfter time =>
    if now < time then .error (.releaseNotReady time)
    else .ok (true, { a with status := .released })
  | _ => .ok (false, a)

/-- Releases a message that need not wait. -/
def releaseNow (a : Arrival) : Bool × Arrival :=
  match a.status with
  | .notApproved => (true, { a with status := .released })
  | _ => (false, a)

end Arrival

abbrev Arrivals := Table (ChainId × MessageId) Arrival

namespace Arrivals

def key (m : TransferMessage) : ChainId × MessageId := (m.sourceChain, m.id)

def require (as : Arrivals) (chain : ChainId) (id : MessageId) : Except Error Arrival :=
  match as.get? (chain, id) with
  | some a => .ok a
  | none => .error (.unknownMessage id chain)

/-- The entry for a message, a new one when there is none. -/
def entryFor (as : Arrivals) (m : TransferMessage) (amount : Amount) : Except Error Arrival :=
  match as.get? (key m) with
  | none => .ok (.new m amount)
  | some a =>
    if a.message = m then .ok a
    else .error (.invalidPayload
      s!"conflicting message for id {m.id.text} from chain {m.sourceChain.text}")

def put (as : Arrivals) (a : Arrival) : Arrivals := as.set (key a.message) a

end Arrivals

end TokenBridge
