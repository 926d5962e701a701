import TokenBridge.Attestation
import TokenBridge.Error

/-!
# Receipts

A `Receipt` is what a client knows of one transfer. `advanceTo` changes its stage by a
step that the stages allow; `fail` also records why the relay was given up.
-/

namespace TokenBridge

structure TransferFailure where
  cause : FailureClass
  reason : String
  relayStatus : Option RelayStatus
  lastStage : Stage
  deriving DecidableEq, Repr

structure Receipt where
  source : ChainId
  destination : ChainId
  stage : Stage
  sourceTxs : List Transaction
  attestation : Option Attestation
  destinationTxs : List Transaction
  /-- When a transfer that waits at the destination can be released. -/
  queueReleaseTime : Option Instant
  failure : Option TransferFailure
  deriving DecidableEq, Repr

namespace Receipt

/-- The receipt of a transfer that was just submitted. -/
def new (source destination : ChainId) (txs : List Transaction) : Receipt :=
  ⟨source, destination, .sourceInitiated, txs, none, [], none, none⟩

/-- The receipt of a transfer whose attestation is at hand. -/
def attested (a : Attestation) (txs : List Transaction) : Receipt :=
  ⟨a.message.sourceChain, a.message.recipientChain, .attested, txs, some a, [], none, none⟩

/-- The transaction that emitted the message. -/
def sourceTx? (r : Receipt) : Option Transaction := r.sourceTxs.getLast?

def messageId? (r : Receipt) : Option MessageId := r.attestation.map (·.message.id)

def requireSourceTx (r : Receipt) : Except Error Transaction :=
  match r.sourceTx? with
  | some tx => .ok tx
  | none => .error (.backend "receipt has no source transaction")

def requireAttestation (r : Receipt) : Except Error Attestation :=
  match r.attestation with
  | some a => .ok a
  | none => .error .missingAttestation

def advanceTo (r : Receipt) (next : Stage) : Except Error Receipt :=
  if r.stage.canAdvanceTo next then .ok { r with stage := next }
  else .error (.wrongStage "advance" r.stage)

def fail (r : Receipt) (cause : FailureClass) (reason : String) (status : Option RelayStatus) :
    Except Error Receipt := do
  let failed ← r.advanceTo .failed
  return { failed with failure := some ⟨cause, reason, status, r.stage⟩ }

end Receipt

end TokenBridge
