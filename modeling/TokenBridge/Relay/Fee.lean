import TokenBridge.Amount

/-!
# Referrer fees

A referrer may keep a share of a transfer, in tenths of a basis point. The recipient
loses only the part of the fee that both chains can count (`deductFee`), so what
remains carries the dust of the fee.
-/

namespace TokenBridge

structure ReferrerFee where
  /-- The whole share, in source decimals. -/
  fee : UInt64
  /-- What is sent on, in source decimals. -/
  remaining : UInt64
  rate : UInt16
  deriving DecidableEq, Repr

/-- A rate of this many units is the whole amount. -/
def feeDenominator : Wide := 100000

/-- The part of an amount that a rate takes, rounded down. -/
def feeShare (amount : UInt64) (rate : UInt16) : Except Error UInt64 :=
  match Wide.mul? (Word.widen amount) (Word.widen rate.toUInt64) with
  | some product => .ok (UInt64.ofBitVec ((product / feeDenominator).setWidth 64))
  | none => .error (.overflow "referrer fee")

/-- The fee at a rate, and what remains of the amount after it. -/
def deductFee (amount : UInt64) (sourceDecimals : UInt8) (rate : UInt16)
    (destinationDecimals cap : UInt8) : Except Error (UInt64 × UInt64) :=
  if rate = 0 then return (0, amount)
  else do
    let fee ← feeShare amount rate
    let trimmed ← scaled (Amount.trim fee sourceDecimals destinationDecimals cap)
    let kept ← scaled (trimmed.untrim sourceDecimals)
    if amount < kept then throw (.overflow "amount after referrer fee")
    return (fee, amount - kept)

def referrerFee (amount : UInt64) (sourceDecimals : UInt8) (rate : UInt32)
    (destinationDecimals cap : UInt8) : Except Error ReferrerFee := do
  if UInt16.size ≤ rate.toNat then throw (.invalidFee s!"{rate.toNat} dBps exceeds u16")
  let rate := rate.toUInt16
  let (fee, remaining) ← deductFee amount sourceDecimals rate destinationDecimals cap
  if remaining = 0 then throw (.invalidFee "amount after fee is zero")
  return ⟨fee, remaining, rate⟩

/-- Who gets the fee on a chain if nobody else is named. -/
def defaultReferrer (chain : ChainId) : Except Error Address :=
  match chain.platform? with
  | some .evm => .ok ⟨Bytes32.ofNat 0x9b2A3B92b1D86938D3Ed37B0519952C227bA6D09⟩
  | some .solana =>
    .ok ⟨Bytes32.ofNat 0x832b71035ad8e65f7cca3368f6d0be36325f8e66a06ecc548c5ed5be56d9a538⟩
  | _ => .error (.unsupportedRoute chain "no default referrer")

/-- The gas that a redemption needs on a chain if its backend knows no better. -/
def defaultGasLimit? (chain : ChainId) : Option Wide :=
  match chain.platform? with
  | some .evm => some (if chain.number = 23 then 800000 else 500000)
  | some .solana => some 250000
  | _ => none

end TokenBridge
