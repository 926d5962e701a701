import TokenBridge.Endpoint.Incoming
import TokenBridge.Endpoint.Outgoing

/-!
# Runs of an endpoint

A `Command` is one action with its arguments, `perform` carries it out, and `run`
carries out a list of commands from a state, collecting the answers. Whether a command
fails or not, the next one starts from the state it left.
-/

namespace TokenBridge

inductive Command where
  | registerPeer (chain : ChainId) (manager : Address) (tokenDecimals : UInt8) (limit now : UInt64)
  | updatePeer (chain : ChainId) (manager : Address) (tokenDecimals : UInt8)
  | registerTransceiver (address : Address)
  | deregisterTransceiver (index : UInt8)
  | setTransceiverPeer (index : UInt8) (chain : ChainId) (address : Address)
  | setThreshold (threshold : UInt8)
  | setOutboundLimit (limit now : UInt64)
  | setInboundLimit (chain : ChainId) (limit now : UInt64)
  | transfer (order : TransferOrder) (now : UInt64)
  | releaseDeparture (id : UInt64) (index : UInt8) (now : UInt64)
  | cancelDeparture (id : UInt64)
  | attest (index : UInt8) (emitter : Address) (message : TransferMessage) (now : UInt64)
  | deliver (index : UInt8) (emitter : Address) (attestation : Attestation) (now : UInt64)
  | release (chain : ChainId) (id : MessageId) (now : UInt64)
  deriving DecidableEq, Repr

inductive Answer where
  | nothing
  | peer (p : Peer)
  | index (i : UInt8)
  | flag (b : Bool)
  | ticket (t : TransferTicket)
  | departure (d : Departure)
  | report (r : AttestReport)
  | release (r : ReleaseReport)
  deriving DecidableEq, Repr

namespace Endpoint

/-- The action with its answer put into `Answer`. -/
def Action.as {α : Type} (a : Action α) (f : α → Answer) : Action Answer := fun e =>
  ((a e).1.map f, (a e).2)

def perform : Command → Action Answer
  | .registerPeer chain manager tokenDecimals limit now =>
    (registerPeer chain manager tokenDecimals limit now).as .peer
  | .updatePeer chain manager tokenDecimals => (updatePeer chain manager tokenDecimals).as .peer
  | .registerTransceiver address => (registerTransceiver address).as .index
  | .deregisterTransceiver index => (deregisterTransceiver index).as fun _ => .nothing
  | .setTransceiverPeer index chain address =>
    (setTransceiverPeer index chain address).as fun _ => .nothing
  | .setThreshold threshold => (setThreshold threshold).as fun _ => .nothing
  | .setOutboundLimit limit now => (setOutboundLimit limit now).as fun _ => .nothing
  | .setInboundLimit chain limit now => (setInboundLimit chain limit now).as fun _ => .nothing
  | .transfer order now => (transfer order now).as .ticket
  | .releaseDeparture id index now => (releaseDeparture id index now).as .flag
  | .cancelDeparture id => (cancelDeparture id).as .departure
  | .attest index emitter message now => (attest index emitter message now).as .report
  | .deliver index emitter attestation now => (deliver index emitter attestation now).as .report
  | .release chain id now => (release chain id now).as .release

/-- The answers to a list of commands and the state after them. -/
def run (e : Endpoint) : List Command → List (Except Error Answer) × Endpoint
  | [] => ([], e)
  | c :: cs =>
    let (answer, next) := perform c e
    let (answers, last) := next.run cs
    (answer :: answers, last)

theorem run_append (e : Endpoint) (cs ds : List Command) :
    e.run (cs ++ ds) = ((e.run cs).1 ++ ((e.run cs).2.run ds).1, ((e.run cs).2.run ds).2) := by
  induction cs generalizing e with
  | nil => rfl
  | cons c cs ih => simp [run, ih]

end Endpoint

end TokenBridge
