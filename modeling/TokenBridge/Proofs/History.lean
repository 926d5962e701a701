import Mathlib.Data.List.Induction
import TokenBridge.Endpoint.Run

/-!
# Histories of an endpoint

`Step` is one command of a run together with the state it found, its answer and the state
it left; `steps` lists the steps of a run. What holds of every history is proved by
`steps_induction`: the last step is taken off, since a step's claims are about the ones
before it. `Reachable` says which states a run can lead to, whatever the deployment.
-/

namespace TokenBridge

structure Step where
  before : Endpoint
  command : Command
  answer : Except Error Answer
  after : Endpoint

/-- A vote as a transceiver hands it in. -/
structure Vote where
  index : UInt8
  emitter : Address
  message : TransferMessage
  now : UInt64

/-- The vote that a command puts to the endpoint. -/
def Command.vote? : Command → Option Vote
  | .attest index emitter message now => some ⟨index, emitter, message, now⟩
  | .deliver index emitter att now =>
    if att.emitterChain = att.message.sourceChain then some ⟨index, emitter, att.message, now⟩
    else none
  | _ => none

/-- A vote comes alone or in an attestation. -/
theorem Command.eq_of_vote? {c : Command} {v : Vote} (h : c.vote? = some v) :
    c = .attest v.index v.emitter v.message v.now ∨
      ∃ att, att.message = v.message ∧ c = .deliver v.index v.emitter att v.now := by
  cases c with
  | attest =>
    cases h
    exact .inl rfl
  | deliver index emitter att now =>
    simp only [vote?] at h
    split at h
    · cases h
      exact .inr ⟨att, rfl, rfl⟩
    · cases h
  | _ => cases h

/-- The time that a command brings along. -/
def Command.now? : Command → Option UInt64
  | .registerPeer _ _ _ _ now | .setOutboundLimit _ now | .setInboundLimit _ _ now
  | .transfer _ now | .releaseDeparture _ _ now | .attest _ _ _ now | .deliver _ _ _ now
  | .release _ _ now => some now
  | .updatePeer .. | .registerTransceiver _ | .deregisterTransceiver _
  | .setTransceiverPeer .. | .setThreshold _ | .cancelDeparture _ => none

def Payout.key (p : Payout) : ChainId × MessageId := (p.sourceChain, p.id)

/-- The value that an answer hands out. -/
def payoutOfAnswer : Except Error Answer → Option Payout
  | .ok (.report r) => r.payout
  | .ok (.release (.released p)) => some p
  | _ => none

/-- The payouts among some answers, in their order. -/
def payouts (answers : List (Except Error Answer)) : List Payout := answers.filterMap payoutOfAnswer

theorem payouts_append (as bs : List (Except Error Answer)) :
    payouts (as ++ bs) = payouts as ++ payouts bs := List.filterMap_append

theorem payouts_singleton (a : Except Error Answer) : payouts [a] = (payoutOfAnswer a).toList := by
  cases h : payoutOfAnswer a <;> simp [payouts, h]

namespace Endpoint

def step (e : Endpoint) (c : Command) : Step := ⟨e, c, (perform c e).1, (perform c e).2⟩

def steps (e : Endpoint) : List Command → List Step
  | [] => []
  | c :: cs => e.step c :: (perform c e).2.steps cs

@[simp] theorem steps_nil (e : Endpoint) : e.steps [] = [] := rfl

@[simp] theorem run_nil (e : Endpoint) : e.run [] = ([], e) := rfl

theorem steps_append (e : Endpoint) (cs ds : List Command) :
    e.steps (cs ++ ds) = e.steps cs ++ (e.run cs).2.steps ds := by
  induction cs generalizing e with
  | nil => rfl
  | cons c cs ih => simp [steps, run, ih]

theorem steps_concat (e : Endpoint) (cs : List Command) (c : Command) :
    e.steps (cs ++ [c]) = e.steps cs ++ [(e.run cs).2.step c] := by
  rw [steps_append]; rfl

theorem run_concat (e : Endpoint) (cs : List Command) (c : Command) :
    e.run (cs ++ [c]) =
      ((e.run cs).1 ++ [(perform c (e.run cs).2).1], (perform c (e.run cs).2).2) := by
  rw [run_append]; rfl

theorem run_append_snd (e : Endpoint) (cs ds : List Command) :
    (e.run (cs ++ ds)).2 = ((e.run cs).2.run ds).2 := by rw [run_append]

@[simp] theorem length_steps (e : Endpoint) (cs : List Command) :
    (e.steps cs).length = cs.length := by
  induction cs generalizing e with
  | nil => rfl
  | cons c cs ih => simp [steps, ih]

theorem answers_eq_map_steps (e : Endpoint) (cs : List Command) :
    (e.run cs).1 = (e.steps cs).map Step.answer := by
  induction cs generalizing e with
  | nil => rfl
  | cons c cs ih => simp [steps, run, step, ih]

/-- The step at a place starts from the state that the commands before it lead to. -/
theorem steps_getElem? (e : Endpoint) (cs : List Command) (n : Nat) :
    (e.steps cs)[n]? = cs[n]?.map (e.run (cs.take n)).2.step := by
  induction cs generalizing e n with
  | nil => rfl
  | cons c cs ih =>
    cases n with
    | zero => rfl
    | succ n => simp [steps, run, ih]

theorem steps_getElem?_eq_some {e : Endpoint} {cs : List Command} {n : Nat} {s : Step} :
    (e.steps cs)[n]? = some s ↔ ∃ c, cs[n]? = some c ∧ (e.run (cs.take n)).2.step c = s := by
  rw [steps_getElem?, Option.map_eq_some_iff]

theorem mem_steps {e : Endpoint} {cs : List Command} {s : Step} :
    s ∈ e.steps cs ↔ ∃ n c, cs[n]? = some c ∧ (e.run (cs.take n)).2.step c = s := by
  simp only [List.mem_iff_getElem?, steps_getElem?_eq_some]

theorem steps_take (e : Endpoint) (cs : List Command) (n : Nat) :
    (e.steps cs).take n = e.steps (cs.take n) := by
  induction cs generalizing e n with
  | nil => simp
  | cons c cs ih =>
    cases n with
    | zero => rfl
    | succ n => simp [steps, ih]

theorem steps_drop (e : Endpoint) (cs : List Command) (n : Nat) :
    (e.steps cs).drop n = (e.run (cs.take n)).2.steps (cs.drop n) := by
  induction cs generalizing e n with
  | nil => simp
  | cons c cs ih =>
    cases n with
    | zero => rfl
    | succ n => simp [steps, run, ih]

/-- Later commands of a run take its states further. -/
theorem run_take_of_le {i j : Nat} (h : i ≤ j) (e : Endpoint) (cs : List Command) :
    ∃ ds, (e.run (cs.take j)).2 = ((e.run (cs.take i)).2.run ds).2 := by
  refine ⟨(cs.take j).drop i, ?_⟩
  have htake : cs.take i = (cs.take j).take i := by rw [List.take_take, Nat.min_eq_left h]
  rw [← run_append_snd, htake, List.take_append_drop]

theorem run_take_succ {cs : List Command} {n : Nat} {c : Command} (h : cs[n]? = some c)
    (e : Endpoint) : (e.run (cs.take (n + 1))).2 = (perform c (e.run (cs.take n)).2).2 := by
  rw [List.take_add_one, h, Option.toList_some, run_concat]

/-- What holds of the empty history and stays true from step to step holds of every history
and the state after it. -/
theorem steps_induction {e : Endpoint} {P : List Step → Endpoint → Prop} (nil : P [] e)
    (concat : ∀ cs c, P (e.steps cs) (e.run cs).2 →
      P (e.steps cs ++ [(e.run cs).2.step c]) (perform c (e.run cs).2).2)
    (cs : List Command) : P (e.steps cs) (e.run cs).2 := by
  induction cs using List.reverseRecOn with
  | nil => exact nil
  | append_singleton cs c ih =>
    rw [steps_concat, run_concat]
    exact concat cs c ih

/-- The states of all runs of all endpoints. -/
inductive Reachable : Endpoint → Prop where
  | start {site : Site} {terms : Terms} {limit now : UInt64} {e : Endpoint} :
      establish site terms limit now = .ok e → Reachable e
  | next {e : Endpoint} (c : Command) : Reachable e → Reachable (perform c e).2

theorem Reachable.run {e : Endpoint} (h : Reachable e) (cs : List Command) :
    Reachable (e.run cs).2 := by
  induction cs generalizing e with
  | nil => exact h
  | cons c cs ih => exact ih (h.next c)

end Endpoint

/-! ## A small deployment

Chain 1 holds a token of 18 decimals, of which 8 cross, and opens to chain 2 with two
transceivers whose votes are both needed. Concrete runs start from here. -/

namespace Sample

def address (n : Nat) : Address := ⟨Bytes32.ofNat n⟩

def site : Site := ⟨⟨1⟩, address 85, address 102, 18⟩

def terms : Terms := ⟨.day, 8, true⟩

def endpoint : Endpoint where
  site := site
  terms := terms
  peers := .empty
  transceivers := .none
  threshold := 0
  outbound := Quota.full 1000 100
  arrivals := .empty
  departures := .none
  nextSequence := 0

theorem establish_eq : Endpoint.establish site terms 1000 100 = .ok endpoint := rfl

/-- Opens the way from chain 2, for `limit` units a day. -/
def opening (limit : UInt64) : List Command := [
  .registerPeer ⟨2⟩ (address 238) 18 limit 100,
  .registerTransceiver (address 10),
  .registerTransceiver (address 11),
  .setTransceiverPeer 0 ⟨2⟩ (address 161),
  .setTransceiverPeer 1 ⟨2⟩ (address 177),
  .setThreshold 2]

def message (sequence units : UInt64) : TransferMessage where
  id := .ofSequence sequence
  sourceChain := ⟨2⟩
  sourceManager := address 238
  sender := address 1
  sourceToken := address 2
  recipientChain := ⟨1⟩
  recipient := address 3
  amount := ⟨units, 8⟩
  payload := []

/-- Both transceivers vote for a message. -/
def votes (m : TransferMessage) (now : UInt64) : List Command :=
  [.attest 0 (address 161) m now, .attest 1 (address 177) m now]

end Sample

end TokenBridge
