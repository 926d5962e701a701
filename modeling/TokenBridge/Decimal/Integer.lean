import TokenBridge.Word

/-!
# Decimal integers in text

`Integer.parse` reads a non-negative integer of at most a given bound, with an
optional plus sign. Characters are taken from the left and the first problem
decides: a character that is no digit, or the digit that carries the value past
the bound.
-/

namespace TokenBridge.Decimal.Integer

inductive Fault where
  | empty
  | badDigit
  | tooLarge
  deriving DecidableEq, Repr

def Fault.message : Fault → String
  | .empty => "cannot parse integer from empty string"
  | .badDigit => "invalid digit found in string"
  | .tooLarge => "number too large to fit in target type"

def digit? (c : Char) : Option Nat :=
  if '0' ≤ c ∧ c ≤ '9' then some (c.toNat - 48) else none

/-- Appends the digits to `value`. -/
def readDigits (bound value : Nat) : List Char → Except Fault Nat
  | [] => .ok value
  | c :: rest =>
    match digit? c with
    | none => .error .badDigit
    | some d =>
      if bound < value * 10 + d then .error .tooLarge
      else readDigits bound (value * 10 + d) rest

def parse (bound : Nat) (text : String) : Except Fault Nat :=
  match text.toList with
  | [] => .error .empty
  | ['+'] => .error .badDigit
  | '+' :: rest => readDigits bound 0 rest
  | cs => readDigits bound 0 cs

theorem readDigits_le {bound value n : Nat} {cs : List Char} (hv : value ≤ bound)
    (h : readDigits bound value cs = .ok n) : n ≤ bound := by
  induction cs generalizing value with
  | nil => simp only [readDigits, Except.ok.injEq] at h; omega
  | cons c cs ih =>
    simp only [readDigits] at h
    split at h
    · cases h
    · split at h
      · cases h
      · exact ih (by omega) h

def parseUInt8 (text : String) : Except Fault UInt8 := UInt8.ofNat <$> parse (UInt8.size - 1) text
def parseUInt16 (text : String) : Except Fault UInt16 := UInt16.ofNat <$> parse (UInt16.size - 1) text
def parseUInt32 (text : String) : Except Fault UInt32 := UInt32.ofNat <$> parse (UInt32.size - 1) text
def parseUInt64 (text : String) : Except Fault UInt64 := UInt64.ofNat <$> parse (UInt64.size - 1) text

/-- Integers of 128 bits. -/
def parseWide (text : String) : Except Fault Wide :=
  BitVec.ofNat 128 <$> parse (Wide.size - 1) text

end TokenBridge.Decimal.Integer
