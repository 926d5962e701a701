import TokenBridge.IndexSet
import TokenBridge.Message
import TokenBridge.Table

/-!
# Departing messages

Every transfer that leaves a chain is a `Departure`, which each transceiver releases
once. A departure that the outbound quota `queued` cannot be released before its time,
and may be cancelled as long as no transceiver has released it. `Departures` numbers
them from zero and never gives a number twice.
-/

namespace TokenBridge

structure Departure where
  id : UInt64
  message : TransferMessage
  /-- The amount in the decimals of the outbound quota. -/
  amount : Amount
  /-- What trimming left behind, in the token's own decimals. -/
  dust : UInt64
  releaseTime : UInt64
  queued : Bool
  releasedBy : IndexSet
  deriving DecidableEq, Repr

namespace Departure

/-- Records a release by a transceiver and tells whether it is its first. -/
def tryRelease (d : Departure) (index : UInt8) (now : UInt64) : Except Error (Bool × Departure) := do
  if now < d.releaseTime then throw (.releaseNotReady d.releaseTime)
  if ← d.releasedBy.get index then return (false, d)
  else return (true, { d with releasedBy := ← d.releasedBy.set index true })

def isReleasedBy (d : Departure) (index : UInt8) : Bool := d.releasedBy.has index.toNat

def isUntouched (d : Departure) : Bool := d.releasedBy.isEmpty

end Departure

structure Departures where
  nextId : UInt64
  items : Table UInt64 Departure
  deriving DecidableEq, Repr

namespace Departures

def none : Departures := ⟨0, .empty⟩

def add (ds : Departures) (message : TransferMessage) (amount : Amount) (dust releaseTime : UInt64)
    (queued : Bool) : Departure × Departures :=
  let d : Departure := ⟨ds.nextId, message, amount, dust, releaseTime, queued, .empty⟩
  (d, ⟨ds.nextId + 1, ds.items.set ds.nextId d⟩)

def get? (ds : Departures) (id : UInt64) : Option Departure := ds.items.get? id

def require (ds : Departures) (id : UInt64) : Except Error Departure :=
  match ds.get? id with
  | some d => .ok d
  | .none => .error (.unknownDeparture id)

def put (ds : Departures) (d : Departure) : Departures := { ds with items := ds.items.set d.id d }

/-- Removes a queued departure that no transceiver has released. -/
def cancel (ds : Departures) (id : UInt64) : Except Error (Departure × Departures) := do
  let d ← ds.require id
  if !d.queued then throw (.cannotCancel id "transfer was not queued")
  if !d.isUntouched then throw (.cannotCancel id "transfer was already released")
  return (d, { ds with items := ds.items.erase id })

/-- The departures that still wait, by number. -/
def waiting (ds : Departures) : List Departure :=
  ds.items.values.filter fun d => d.queued && d.isUntouched

end Departures

end TokenBridge
