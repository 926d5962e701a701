import TokenBridge.Bytes.Hex
import TokenBridge.Text.Split
import TokenBridge.Url.Domain

/-!
# Hosts of URLs

A host is an address of 128 bits in brackets, an address of 32 bits as dotted numbers, or a
domain name. The hosts of web schemes may be percent-encoded, and what remains after decoding
is a domain name in any script. The hosts of other schemes are opaque.
-/

namespace TokenBridge.Url

/-- Why a text is no URL. -/
inductive Problem where
  | relative
  | emptyHost
  | badDomain
  | badDomainCharacter
  | badIpv4
  | badIpv6
  | badPort
  deriving DecidableEq, Repr

def Problem.message : Problem → String
  | .relative => "relative URL without a base"
  | .emptyHost => "empty host"
  | .badDomain => "invalid international domain name"
  | .badDomainCharacter => "invalid domain character"
  | .badIpv4 => "invalid IPv4 address"
  | .badIpv6 => "invalid IPv6 address"
  | .badPort => "invalid port number"

namespace Host

/-! ## Numbers -/

/-- The number of some digits of a base, which may be none. -/
def ofDigits? (base : Nat) (cs : List Char) : Option Nat :=
  cs.foldlM (fun n c => do
    let d ← Hex.value? (UInt8.ofNat c.toNat)
    if c.toNat < 128 ∧ d < base then some (n * base + d) else none) 0

/-- A number of a dotted address: decimal, octal after `0`, or hexadecimal after `0x`. -/
def number? : List Char → Option Nat
  | [] => none
  | '0' :: 'x' :: digits | '0' :: 'X' :: digits => ofDigits? 16 digits
  | '0' :: c :: digits => ofDigits? 8 (c :: digits)
  | digits => ofDigits? 10 digits

/-! ## Addresses of 32 bits -/

/-- The parts of a name between dots, without the empty one after a final dot. -/
def labels (name : List Char) : List (List Char) :=
  let parts := Text.split '.' name
  if parts.getLast? = some [] then parts.dropLast else parts

/-- A name whose last label is a number is taken for an address. -/
def endsInNumber (name : List Char) : Bool :=
  match (labels name).getLast? with
  | some last => !last.isEmpty && last.all Char.isDigit || (number? last).isSome
  | none => false

/-- At most four numbers, of which the last fills what the others leave of 32 bits. -/
def isIpv4 (name : List Char) : Bool :=
  match (labels name).mapM number? with
  | some numbers =>
    numbers.length ≤ 4 && numbers.dropLast.all (· < 256) &&
      (numbers.getLast?.any fun n => n < Bytes.capacity (5 - numbers.length))
  | none => false

/-! ## Addresses of 128 bits -/

/-- A decimal number below 256 without leading zeros. -/
def isOctet (cs : List Char) : Bool :=
  (cs == ['0'] || cs.head? ≠ some '0') && !cs.isEmpty && (ofDigits? 10 cs).any (· < 256)

def isDotted (cs : List Char) : Bool :=
  let parts := Text.split '.' cs
  parts.length = 4 && parts.all isOctet

def isHexGroup (cs : List Char) : Bool :=
  !cs.isEmpty && cs.length ≤ 4 && (ofDigits? 16 cs).isSome

/-- How many groups of 16 bits some parts fill; only the last may be a dotted address. -/
def groups? (mayEndDotted : Bool) : List (List Char) → Option Nat
  | [] => some 0
  | [part] =>
    if isHexGroup part then some 1 else if mayEndDotted && isDotted part then some 2 else none
  | part :: parts => do
    if isHexGroup part then (· + 1) <$> groups? mayEndDotted parts else none

def groupsOf? (mayEndDotted : Bool) (cs : List Char) : Option Nat :=
  if cs.isEmpty then some 0 else groups? mayEndDotted (Text.split ':' cs)

/-- The texts before and after the first double colon. -/
def cutAtGap? : List Char → Option (List Char × List Char)
  | ':' :: ':' :: rest => some ([], rest)
  | c :: rest => (fun (before, after) => (c :: before, after)) <$> cutAtGap? rest
  | [] => none

/-- Eight groups, or fewer around one double colon. -/
def isIpv6 (cs : List Char) : Bool :=
  match cutAtGap? cs with
  | none => groupsOf? true cs == some 8
  | some (before, after) =>
    match groupsOf? false before, groupsOf? true after with
    | some a, some b => a + b < 8
    | _, _ => false

def checkBracketed (host : List Char) : Except Problem Unit :=
  if host.getLast? = some ']' ∧ isIpv6 host.tail.dropLast then .ok () else .error .badIpv6

/-! ## Names -/

/-- The bytes of a text with percent-encoded bytes decoded. -/
def decoded : List Char → Bytes
  | '%' :: hi :: lo :: rest =>
    match ofDigits? 16 [hi, lo] with
    | some n => UInt8.ofNat n :: decoded rest
    | none => '%'.toUInt8 :: decoded (hi :: lo :: rest)
  | c :: rest => String.utf8EncodeChar c ++ decoded rest
  | [] => []

/-- Characters that no opaque host holds. -/
def forbiddenInOpaque (c : Char) : Bool := "\x00\t\n\r #/:<>?@[\\]^|".toList.contains c

/-- A host of a web scheme. -/
def check (host : List Char) : Except Problem Unit :=
  if host.head? = some '[' then checkBracketed host
  else
    match (String.fromUTF8? ⟨(decoded host).toArray⟩).bind (Domain.normal? ·.toList) with
    | none => .error .badDomain
    | some name =>
      if name.isEmpty then .error .emptyHost
      else if endsInNumber name && !isIpv4 name then .error .badIpv4
      else .ok ()

/-- A host of another scheme. -/
def checkOpaque (host : List Char) : Except Problem Unit :=
  if host.head? = some '[' then checkBracketed host
  else if host.any forbiddenInOpaque then .error .badDomainCharacter
  else .ok ()

end Host

end TokenBridge.Url
