/-!
# Stages of a transfer

A transfer goes from the source chain to the destination one stage at a time.
`canAdvanceTo` lists the single steps: stages are not skipped, and the only way back
is the manual redemption of a transfer whose relay `failed`.
-/

namespace TokenBridge

inductive Stage where
  | sourceInitiated
  | sourceFinalized
  | attested
  | destinationInitiated
  | destinationQueued
  | destinationFinalized
  | failed
  deriving DecidableEq, Repr

namespace Stage

def name : Stage → String
  | sourceInitiated => "SourceInitiated"
  | sourceFinalized => "SourceFinalized"
  | attested => "Attested"
  | destinationInitiated => "DestinationInitiated"
  | destinationQueued => "DestinationQueued"
  | destinationFinalized => "DestinationFinalized"
  | failed => "Failed"

def all : List Stage :=
  [sourceInitiated, sourceFinalized, attested, destinationInitiated, destinationQueued,
    destinationFinalized, failed]

def ofName? (n : String) : Option Stage := all.find? (·.name == n)

theorem ofName?_name (s : Stage) : ofName? s.name = some s := by cases s <;> decide

def isTerminal : Stage → Bool
  | destinationFinalized | failed => true
  | _ => false

def canAdvanceTo : Stage → Stage → Bool
  | sourceInitiated, sourceFinalized => true
  | sourceInitiated, failed => true
  | sourceFinalized, attested => true
  | sourceFinalized, failed => true
  | attested, destinationInitiated => true
  | attested, failed => true
  | failed, destinationInitiated => true
  | destinationInitiated, destinationQueued => true
  | destinationInitiated, destinationFinalized => true
  | destinationQueued, destinationFinalized => true
  | _, _ => false

/-- A number that every step increases. -/
def rank : Stage → Nat
  | sourceInitiated => 0
  | sourceFinalized => 1
  | attested => 2
  | failed => 3
  | destinationInitiated => 4
  | destinationQueued => 5
  | destinationFinalized => 6

theorem rank_lt_of_canAdvanceTo {a b : Stage} (h : a.canAdvanceTo b = true) : a.rank < b.rank := by
  cases a <;> cases b <;> first | decide | cases h

end Stage

end TokenBridge
