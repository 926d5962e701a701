import TokenBridge.Decimal.Integer
import TokenBridge.Relay.Instruction
import TokenBridge.Table

/-!
# What an executor offers

For each chain an executor publishes the kinds of request that it relays there and the
limits that it sets. The published form names chains by decimal text: `byChain` reads
those names. `plan` builds the instructions of one relay and holds them against the
limits.
-/

namespace TokenBridge

/-- Kinds of relay request. -/
inductive RequestKind where
  | message
  | approval
  | nativeTransfer
  | burnAndMint
  | fastBurnAndMint
  | unknown
  deriving DecidableEq, Repr

namespace RequestKind

/-- The tag that stands for a kind; all other tags are `unknown`. -/
def tag? : RequestKind → Option String
  | message => some "ERM1"
  | approval => some "ERV1"
  | nativeTransfer => some "ERN1"
  | burnAndMint => some "ERC1"
  | fastBurnAndMint => some "ERC2"
  | unknown => none

def ofTag : String → RequestKind
  | "ERM1" => message
  | "ERV1" => approval
  | "ERN1" => nativeTransfer
  | "ERC1" => burnAndMint
  | "ERC2" => fastBurnAndMint
  | _ => unknown

theorem ofTag_tag? {k : RequestKind} {t : String} (h : k.tag? = some t) : ofTag t = k := by
  cases k <;> simp only [tag?, Option.some.injEq, reduceCtorEq] at h <;> subst h <;> rfl

end RequestKind

structure Capabilities where
  kinds : List RequestKind
  dropOffLimit : Wide
  maxGasLimit : Wide
  /-- For the message value and the drop-off together. -/
  maxMsgValue : Wide
  deriving DecidableEq, Repr

abbrev CapabilityTable := Table ChainId Capabilities

namespace Capabilities

def supports (c : Capabilities) (k : RequestKind) : Bool := c.kinds.contains k

/-- Adds what is published under a name. -/
def enter (table : CapabilityTable) (entry : String × Capabilities) :
    Except Error CapabilityTable :=
  match Decimal.Integer.parseUInt16 entry.1 with
  | .ok n => .ok (table.set ⟨n⟩ entry.2)
  | .error _ => .error (.invalidPayload s!"invalid chain id key: {entry.1}")

def byChain (entries : List (String × Capabilities)) : Except Error CapabilityTable :=
  entries.foldlM enter .empty

def checkLimits (c : Capabilities) (instructions : List RelayInstruction) : Except Error Unit := do
  let totals ← RelayInstruction.totals instructions
  if c.maxGasLimit < totals.gasLimit then
    throw (.relayRequestTooLarge
      s!"gas limit {totals.gasLimit.toNat} exceeds {c.maxGasLimit.toNat}")
  let value ← RelayInstruction.addWide "msg value" totals.msgValue totals.dropOff
  if c.maxMsgValue < value then
    throw (.relayRequestTooLarge s!"msg value {value.toNat} exceeds {c.maxMsgValue.toNat}")

/-- The instructions of a relay within the limits; nothing is dropped off if `dropOff` is zero. -/
def plan (c : Capabilities) (gasLimit msgValue dropOff : Wide) (recipient : Address) :
    Except Error (List RelayInstruction) := do
  let gas := RelayInstruction.gas gasLimit msgValue
  let instructions := if dropOff = 0 then [gas] else [gas, .dropOff dropOff recipient]
  c.checkLimits instructions
  return instructions

end Capabilities

end TokenBridge
