import TokenBridge.Bytes

/-!
# Hexadecimal text

`Hex.encode` writes two lower-case digits for each byte. `Hex.decode` accepts
either case and reports the first offending position; an odd number of digits is
reported before any bad digit. Positions count bytes of the text's UTF-8 form,
and a byte that is no digit is shown as the character with that number.
-/

namespace TokenBridge.Hex

inductive Fault where
  | badDigit (byte : UInt8) (position : Nat)
  | oddLength
  deriving DecidableEq, Repr

def digit (n : Nat) : Char :=
  if n < 10 then Char.ofNat (48 + n) else Char.ofNat (87 + n)

def value? (c : UInt8) : Option Nat :=
  let n := c.toNat
  if 48 ≤ n ∧ n ≤ 57 then some (n - 48)
  else if 97 ≤ n ∧ n ≤ 102 then some (n - 87)
  else if 65 ≤ n ∧ n ≤ 70 then some (n - 55)
  else none

def encode (b : Bytes) : List Char :=
  b.flatMap fun x => [digit (x.toNat / 16), digit (x.toNat % 16)]

/-- Pairs of digits, the first of them at `position`. -/
def decodePairs (position : Nat) : Bytes → Except Fault Bytes
  | hi :: lo :: rest =>
    match value? hi, value? lo with
    | none, _ => .error (.badDigit hi position)
    | _, none => .error (.badDigit lo (position + 1))
    | some h, some l => (UInt8.ofNat (16 * h + l) :: ·) <$> decodePairs (position + 2) rest
  | _ => .ok []

def decodeBytes (digits : Bytes) : Except Fault Bytes :=
  if digits.length % 2 = 1 then .error .oddLength else decodePairs 0 digits

def decode (text : String) : Except Fault Bytes :=
  decodeBytes text.toUTF8.toList

def toString (b : Bytes) : String := String.ofList (encode b)

/-- The `0x` form used wherever a value is shown. -/
def prefixed (b : Bytes) : String := "0x" ++ toString b

/-- The text without one leading `0x`, if it has one. -/
def unprefixed (text : String) : String :=
  match text.toList with
  | '0' :: 'x' :: rest => String.ofList rest
  | _ => text

/-- The number of a control code or of another byte that has no visible form. -/
def hidden (n : Nat) : Bool := n < 32 || (127 ≤ n && n ≤ 160) || n == 173

/-- A byte as a quoted character, with backslash forms for quotes and invisible codes. -/
def quotedByte (byte : UInt8) : String :=
  let n := byte.toNat
  let body :=
    if n = 0 then "\\0"
    else if n = 9 then "\\t"
    else if n = 10 then "\\n"
    else if n = 13 then "\\r"
    else if n = 39 then "\\\x27"
    else if n = 92 then "\\\\"
    else if hidden n then
      "\\u\x7b" ++ String.ofList (Nat.toDigits 16 n) ++ "\x7d"
    else String.singleton (Char.ofNat n)
  "\x27" ++ body ++ "\x27"

def Fault.message : Fault → String
  | .badDigit byte position => s!"Invalid character {quotedByte byte} at position {position}"
  | .oddLength => "Odd number of digits"

end TokenBridge.Hex
