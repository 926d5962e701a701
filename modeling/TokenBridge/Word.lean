/-!
# Machine words

Token amounts, limits and times are 64-bit words, and products of two of them are
computed at 128 bits. `add?`, `mul?` and `narrow?` refuse a result that does not fit;
`addSat` and `subSat` stop at the end of the range.
-/

namespace TokenBridge

/-- Words of 128 bits. -/
abbrev Wide := BitVec 128

namespace Word

def add? (a b : UInt64) : Option UInt64 :=
  if a.toNat + b.toNat < UInt64.size then some (a + b) else none

def mul? (a b : UInt64) : Option UInt64 :=
  if a.toNat * b.toNat < UInt64.size then some (a * b) else none

def addSat (a b : UInt64) : UInt64 := (add? a b).getD (UInt64.ofNat (UInt64.size - 1))

def subSat (a b : UInt64) : UInt64 := if b ≤ a then a - b else 0

def widen (a : UInt64) : Wide := a.toBitVec.setWidth 128

end Word

namespace Wide

/-- How many words of 128 bits there are. -/
def size : Nat := 340282366920938463463374607431768211456

def add? (a b : Wide) : Option Wide :=
  if a.toNat + b.toNat < size then some (a + b) else none

def mul? (a b : Wide) : Option Wide :=
  if a.toNat * b.toNat < size then some (a * b) else none

def narrow? (a : Wide) : Option UInt64 :=
  if a.toNat < UInt64.size then some (UInt64.ofBitVec (a.setWidth 64)) else none

/-- The least `q` with `a ≤ q * b`, for a positive `b`. -/
def divCeil (a b : Wide) : Wide := if a % b = 0 then a / b else a / b + 1

def text (a : Wide) : String := toString a.toNat

end Wide

/-- A result that is refused if it does not fit is what it should be, or it is not there. -/
theorem fitting_eq_some {α : Type} {value : α → Nat} (hinj : ∀ a b, value a = value b → a = b)
    {size n : Nat} {a c : α} (hc : value c < size) (ha : n < size → value a = n) :
    (if n < size then some a else none) = some c ↔ value c = n := by
  split
  · rename_i h
    rw [Option.some.injEq]
    exact ⟨fun hac => hac ▸ ha h, fun hn => hinj a c ((ha h).trans hn.symm)⟩
  · constructor
    · exact nofun
    · omega

namespace Wide

theorem add?_eq_some {a b c : Wide} : add? a b = some c ↔ c.toNat = a.toNat + b.toNat :=
  fitting_eq_some (fun _ _ => BitVec.toNat_inj.1) c.isLt fun h =>
    (BitVec.toNat_add ..).trans (Nat.mod_eq_of_lt h)

theorem narrow?_eq_some {a : Wide} {c : UInt64} : narrow? a = some c ↔ c.toNat = a.toNat :=
  fitting_eq_some (fun _ _ => UInt64.toNat_inj.1) c.toNat_lt fun h => by
    rw [UInt64.toNat_ofBitVec, BitVec.toNat_setWidth, Nat.mod_eq_of_lt h]

end Wide

namespace Word

@[simp] theorem toNat_widen (a : UInt64) : (widen a).toNat = a.toNat := by
  have h := a.toNat_lt
  simp only [widen, BitVec.toNat_setWidth, UInt64.toNat_toBitVec]
  exact Nat.mod_eq_of_lt (by omega)

theorem add?_eq_some {a b c : UInt64} : add? a b = some c ↔ c.toNat = a.toNat + b.toNat :=
  fitting_eq_some (fun _ _ => UInt64.toNat_inj.1) c.toNat_lt fun h => by
    rw [UInt64.toNat_add, Nat.mod_eq_of_lt h]

theorem mul?_eq_some {a b c : UInt64} : mul? a b = some c ↔ c.toNat = a.toNat * b.toNat :=
  fitting_eq_some (fun _ _ => UInt64.toNat_inj.1) c.toNat_lt fun h => by
    rw [UInt64.toNat_mul, Nat.mod_eq_of_lt h]

theorem toNat_addSat (a b : UInt64) :
    (addSat a b).toNat = min (a.toNat + b.toNat) (UInt64.size - 1) := by
  unfold addSat add?
  have hs : UInt64.size = 18446744073709551616 := rfl
  split
  · rename_i h
    rw [Option.getD_some, UInt64.toNat_add, Nat.mod_eq_of_lt h]
    omega
  · rw [Option.getD_none, UInt64.toNat_ofNat']
    omega

theorem toNat_subSat (a b : UInt64) : (subSat a b).toNat = a.toNat - b.toNat := by
  unfold subSat
  split
  · rename_i h
    exact UInt64.toNat_sub_of_le _ _ h
  · rename_i h
    have hlt : a.toNat < b.toNat := UInt64.lt_iff_toNat_lt.1 (UInt64.not_le.1 h)
    have h0 : (0 : UInt64).toNat = 0 := rfl
    omega

end Word

end TokenBridge
