import TokenBridge.Text.Split
import TokenBridge.Url.Host

/-!
# URLs

`Url.check` decides whether a text is an absolute URL, the way browsers read one: blanks
and control characters around it do not count, nor do line breaks and tabs inside. Web
schemes need a host, files may have one, and any other scheme has one after two slashes.
What follows the host is not restricted.
-/

namespace TokenBridge.Url

inductive SchemeKind where
  | web
  | file
  | other
  deriving DecidableEq, Repr

def SchemeKind.ofName (name : String) : SchemeKind :=
  match name with
  | "http" | "https" | "ws" | "wss" | "ftp" => web
  | "file" => file
  | _ => other

/-- The characters that count. -/
def relevant (text : String) : List Char :=
  let inner := (text.toList.dropWhile (· ≤ ' ')).reverse.dropWhile (· ≤ ' ')
  inner.reverse.filter fun c => c ≠ '\t' ∧ c ≠ '\n' ∧ c ≠ '\r'

def isSchemeChar (c : Char) : Bool := c.isAlphanum || c == '+' || c == '-' || c == '.'

/-- The kind of the scheme and the text after its colon. -/
def scheme? (cs : List Char) : Option (SchemeKind × List Char) :=
  match cs.dropWhile isSchemeChar with
  | ':' :: rest =>
    if cs.head?.any Char.isAlpha then
      some (.ofName (String.ofList ((cs.takeWhile isSchemeChar).map Char.toLower)), rest)
    else none
  | _ => none

/-- Whether a character ends the part with the host. -/
def endsAuthority (kind : SchemeKind) (c : Char) : Bool :=
  c == '/' || c == '?' || c == '#' || (c == '\\' && kind ≠ .other)

/-- What stands before the last `@`, if there is one, and what stands after it. -/
def splitUser (authority : List Char) : Option (List Char) × List Char :=
  match (Text.split '@' authority).reverse with
  | [] => (none, [])
  | [host] => (none, host)
  | host :: user => (some (Text.join '@' user.reverse), host)

/-- The host and what follows it, which is nothing or starts with a colon. -/
def splitHost (bracketed : Bool) : List Char → List Char × List Char
  | [] => ([], [])
  | c :: cs =>
    if c = ':' ∧ !bracketed then ([], c :: cs)
    else
      let (host, port) := splitHost (c = '[' ∨ (bracketed ∧ c ≠ ']')) cs
      (c :: host, port)

/-- A number of 16 bits, which may be missing and ends at a backslash. -/
def checkPort (port : List Char) : Except Problem Unit :=
  let rest := port.dropWhile Char.isDigit
  if (Host.ofDigits? 10 (port.takeWhile Char.isDigit)).any (· < 65536) ∧
      (rest.isEmpty ∨ rest.head? = some '\\') then .ok ()
  else .error .badPort

/-- The part between two slashes and the path, with an optional user and an optional port. -/
def checkAuthority (kind : SchemeKind) (cs : List Char) : Except Problem Unit := do
  let authority := cs.takeWhile (!endsAuthority kind ·)
  let (user, rest) := splitUser authority
  if user = some [] ∧ rest.isEmpty ∧ authority.length < cs.length then throw .emptyHost
  let (host, port) := splitHost false rest
  if host.isEmpty then
    if kind = .web ∨ !port.isEmpty then throw .emptyHost
  else if kind = .web then Host.check host
  else Host.checkOpaque host
  checkPort port.tail
  if host.isEmpty ∧ user.any (fun u => u ≠ [] ∧ u ≠ [':']) then throw .emptyHost

/-- A letter with a colon or bar names a drive, not a host. -/
def isDrive : List Char → Bool
  | [c, mark] => c.isAlpha && (mark == ':' || mark == '|')
  | _ => false

def checkFile : List Char → Except Problem Unit
  | a :: b :: rest =>
    let host := rest.takeWhile (!endsAuthority .file ·)
    if (a = '/' ∨ a = '\\') ∧ (b = '/' ∨ b = '\\') ∧ !host.isEmpty ∧ !isDrive host then
      Host.check host
    else .ok ()
  | _ => .ok ()

def check (text : String) : Except Problem Unit :=
  match scheme? (relevant text) with
  | none => .error .relative
  | some (.web, rest) => checkAuthority .web (rest.dropWhile fun c => c = '/' ∨ c = '\\')
  | some (.file, rest) => checkFile rest
  | some (.other, '/' :: '/' :: rest) => checkAuthority .other rest
  | some (.other, _) => .ok ()

end TokenBridge.Url
