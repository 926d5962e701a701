/-!
# Relay status

What the executor says about one relay request. A word that is not known reads as
`unknown`; `isFailure` marks the answers after which only a manual redemption helps.
-/

namespace TokenBridge

inductive RelayStatus where
  | pending
  | failed
  | unsupported
  | submitted
  | underpaid
  | aborted
  | unknown
  deriving DecidableEq, Repr

namespace RelayStatus

def name : RelayStatus → String
  | pending => "pending"
  | failed => "failed"
  | unsupported => "unsupported"
  | submitted => "submitted"
  | underpaid => "underpaid"
  | aborted => "aborted"
  | unknown => "unknown"

def ofName : String → RelayStatus
  | "pending" => pending
  | "failed" => failed
  | "unsupported" => unsupported
  | "submitted" => submitted
  | "underpaid" => underpaid
  | "aborted" => aborted
  | _ => unknown

theorem ofName_name (s : RelayStatus) : ofName s.name = s := by cases s <;> rfl

def isFailure : RelayStatus → Bool
  | failed | unsupported | underpaid | aborted => true
  | _ => false

end RelayStatus

end TokenBridge
