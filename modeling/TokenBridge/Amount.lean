import TokenBridge.Error
import TokenBridge.Word

/-!
# Token amounts across chains

Chains count the same token with different numbers of decimals. `rescale` moves a
count between them, truncating on the way down and refusing what does not fit on the
way up. An amount that leaves a chain is `trim`med to the decimals both sides share,
never above a cap; `split` also gives the dust that stays behind, and `untrim` counts
an amount in a chain's own decimals again.
-/

namespace TokenBridge

structure Amount where
  units : UInt64
  decimals : UInt8
  deriving DecidableEq, Repr

namespace Amount

/-- The cap used unless a deployment sets its own. -/
def defaultCap : UInt8 := 8

/-- Nineteen is the last exponent whose power of ten is a 64-bit word. -/
def powerOfTen (exponent : UInt8) : Except ScalingFault UInt64 :=
  if exponent ≤ 19 then .ok (UInt64.ofNat (Nat.pow 10 exponent.toNat)) else .error .exponent

def rescale (units : UInt64) (source target : UInt8) : Except ScalingFault UInt64 :=
  if source = target then .ok units
  else if target < source then do
    return units / (← powerOfTen (source - target))
  else do
    match Word.mul? units (← powerOfTen (target - source)) with
    | some n => return n
    | none => throw .amount

def isZero (a : Amount) : Bool := a.units == 0

/-- The decimals that two chains share under a cap. -/
def sharedDecimals (source target cap : UInt8) : UInt8 := min (min cap source) target

def trim (units : UInt64) (source target cap : UInt8) : Except ScalingFault Amount := do
  let decimals := sharedDecimals source target cap
  return ⟨← rescale units source decimals, decimals⟩

def untrim (a : Amount) (decimals : UInt8) : Except ScalingFault UInt64 :=
  rescale a.units a.decimals decimals

def withDecimals (a : Amount) (decimals : UInt8) : Except ScalingFault Amount := do
  return ⟨← a.untrim decimals, decimals⟩

/-- An amount's trimmed form and, in source decimals, what trimming leaves behind. -/
def split (units : UInt64) (source target cap : UInt8) : Except ScalingFault (Amount × UInt64) := do
  let trimmed ← trim units source target cap
  let kept ← trimmed.untrim source
  return (trimmed, units - kept)

end Amount

/-- A scaling fault as an error of the bridge. -/
def scaled {α : Type} (r : Except ScalingFault α) : Except Error α := r.mapError .scaling

end TokenBridge
