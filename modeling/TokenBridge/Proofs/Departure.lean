import Mathlib.Data.List.TakeWhile
import TokenBridge.Proofs.Spending

/-!
# The life of a departure

A number stands for one departure from the transfer that issues it to the next one that issues it
again, which takes 2 ^ 64 transfers (`lifetime_eq_self`). Within this `lifetime` every step is
one of three `Turn`s for the departure: a transceiver releases it, its sender cancels it, or it
stays as it is. So the stored departure tells which transceivers have released it so far
(`Stands`), and the two flags that a release reads before it writes decide what the history
decides: whether this is the first release of a departure that has waited.
-/

namespace TokenBridge

/-- The command is a release or the cancellation of the departure with this number. -/
def Command.concerns (id : UInt64) : Command → Bool
  | .releaseDeparture id' _ _ | .cancelDeparture id' => id' = id
  | _ => false

namespace Step

/-- The number that a transfer gives to its departure. -/
def issued? (s : Step) : Option UInt64 :=
  match s.answer with
  | .ok (.ticket t) => some t.departure
  | _ => none

/-- The transceiver that releases the departure with this number, and had not done so before. -/
def releaser? (id : UInt64) (s : Step) : Option UInt8 :=
  match s.command, s.answer with
  | .releaseDeparture id' index _, .ok (.flag true) => if id' = id then some index else none
  | _, _ => none

structure Cancels (id : UInt64) (s : Step) : Prop where
  command : s.command = .cancelDeparture id
  answer : ∃ a, s.answer = .ok a

theorem releaser?_eq_some {id : UInt64} {s : Step} {index : UInt8} :
    s.releaser? id = some index ↔
      ∃ now, s.command = .releaseDeparture id index now ∧ s.answer = .ok (.flag true) := by
  constructor
  · intro h
    unfold releaser? at h
    split at h
    · rename_i now hc ha
      split at h
      · rename_i hid
        cases h
        exact ⟨now, by rw [hc, hid], ha⟩
      · cases h
    · cases h
  · rintro ⟨now, hc, ha⟩
    simp [releaser?, hc, ha]

theorem releaser?_of_cancelDeparture {id id' : UInt64} {s : Step}
    (h : s.command = .cancelDeparture id') : s.releaser? id = none := by
  simp [releaser?, h]

/-- The step leaves the quotas of both directions as they are. -/
structure KeepsQuotas (s : Step) : Prop where
  outbound : s.after.outbound = s.before.outbound
  peers : s.after.peers = s.before.peers

/-- The step takes the amount of a departure out of the outbound quota, and credits it to the chain
that it goes to. -/
structure Charges (d : Departure) (now : UInt64) (s : Step) : Prop where
  outbound : s.after.outbound = s.before.outbound.drain s.before.terms.period now d.amount.units
  lowers : Quota.Lowers s.before.terms.period now d.amount.units s.before.outbound s.after.outbound
  peers : ∃ credited, s.before.creditInbound d.message.recipientChain d.amount.units now
    = .ok credited ∧ s.after.peers = credited.peers

end Step

/-- The steps in which a number stands for the departure that it was issued for before them. -/
def lifetime (id : UInt64) (later : List Step) : List Step :=
  later.takeWhile fun s => s.issued? ≠ some id

/-- The transceivers that release the departure with this number, in their order. -/
def releasers (id : UInt64) (ss : List Step) : List UInt8 := ss.filterMap (Step.releaser? id)

theorem releasers_concat (id : UInt64) (ss : List Step) (s : Step) :
    releasers id (ss ++ [s]) = releasers id ss ++ (s.releaser? id).toList := by
  rw [releasers, releasers, List.filterMap_append]
  cases h : s.releaser? id <;> simp [h]

theorem releasers_concat_none {id : UInt64} (ss : List Step) {s : Step}
    (h : s.releaser? id = none) : releasers id (ss ++ [s]) = releasers id ss := by
  rw [releasers_concat, h, Option.toList_none, List.append_nil]

/-- How the steps of its lifetime treat a departure. -/
structure Course (d : Departure) (own : List Step) : Prop where
  /-- Nothing is charged but the first release of a departure that has waited. -/
  charge : ∀ i s, own[i]? = some s → s.command.concerns d.id = true →
    if d.queued = true ∧ (s.releaser? d.id).isSome = true ∧
      releasers d.id (own.take i) = [] then
        ∃ now, s.command.now? = some now ∧ s.Charges d now
    else s.KeepsQuotas
  /-- No transceiver releases it twice. -/
  once : (releasers d.id own).Nodup
  due : ∀ s ∈ own, (s.releaser? d.id).isSome = true →
    ∃ now, s.command.now? = some now ∧ d.releaseTime ≤ now
  /-- Only a departure that waits is cancelled, and then it is gone. -/
  cancel : ∀ i s, own[i]? = some s → s.Cancels d.id →
    d.queued = true ∧ releasers d.id (own.take i) = [] ∧
      ∀ w ∈ own.drop (i + 1), w.command.concerns d.id = true → ∃ err, w.answer = .error err

namespace Endpoint

variable {e next : Endpoint} {c : Command} {answer : Except Error Answer} {id : UInt64}

/-! ## A step -/

/-- What a step does to the departure with a number, unless it issues this number. -/
inductive Turn (id : UInt64) (s : Step) : Prop where
  | keep : s.releaser? id = none → ¬ s.Cancels id →
      s.after.departures.get? id = s.before.departures.get? id →
      (s.command.concerns id = true → s.KeepsQuotas ∧
        ((∃ err, s.answer = .error err) ∨ ∃ d, s.before.departures.get? id = some d)) → Turn id s
  | release {d : Departure} {index : UInt8} {now : UInt64} {released : IndexSet} :
      s.command = .releaseDeparture id index now → s.answer = .ok (.flag true) →
      s.before.departures.get? id = some d → d.releaseTime ≤ now →
      d.releasedBy.has index.toNat = false → d.releasedBy.set index true = .ok released →
      s.after.departures.get? id = some { d with releasedBy := released } →
      (if d.queued = true ∧ d.isUntouched = true then s.Charges d now else s.KeepsQuotas) →
      Turn id s
  | cancel {d : Departure} :
      s.command = .cancelDeparture id → s.answer = .ok (.departure d) →
      s.before.departures.get? id = some d → d.queued = true → d.isUntouched = true →
      s.after.departures.get? id = none → s.KeepsQuotas → Turn id s

/-- A command about other things leaves a departure as it is. -/
theorem turn_of_unconcerned {s : Step} (hc : s.command.concerns id = false)
    (hd : s.after.departures.get? id = s.before.departures.get? id) : Turn id s := by
  refine .keep ?_ ?_ hd ?_
  · rw [Option.eq_none_iff_forall_ne_some]
    intro index hindex
    obtain ⟨now, hcommand, -⟩ := Step.releaser?_eq_some.1 hindex
    simp [hcommand, Command.concerns] at hc
  · intro hcancel
    simp [hcancel.command, Command.concerns] at hc
  · intro hc'
    rw [hc] at hc'
    cases hc'

theorem unconcerned_of_vote? {v : Vote} (h : c.vote? = some v) : c.concerns id = false := by
  obtain rfl | ⟨att, -, rfl⟩ := Command.eq_of_vote? h
  · rfl
  · rfl

theorem get?_dispatch {o : TransferOrder} {trimmed amount : Amount} {dust time : UInt64}
    {queued : Bool} (h : (e.dispatch o trimmed dust amount time queued).1.departure ≠ id) :
    (e.dispatch o trimmed dust amount time queued).2.departures.get? id = e.departures.get? id := by
  rw [dispatch_departures]
  exact Table.get?_set_of_ne _ _ h

/-- A credit looks at the peers and the terms only. -/
theorem exists_creditInbound {f credited : Endpoint} {chain : ChainId} {amount now : UInt64}
    (h : f.creditInbound chain amount now = .ok credited) (hp : f.peers = e.peers)
    (ht : f.terms = e.terms) :
    ∃ other, e.creditInbound chain amount now = .ok other ∧ credited.peers = other.peers := by
  obtain ⟨peer, hpeer, rfl⟩ := creditInbound_eq_ok.1 h
  rw [hp] at hpeer
  refine ⟨_, creditInbound_eq_ok.2 ⟨peer, hpeer, rfl⟩, ?_⟩
  rw [ht, hp]
  split
  · rfl
  · exact hp

/-- A release that is recorded is one by a transceiver that had not released the departure. -/
theorem turn_of_release {id' now : UInt64} {index : UInt8} {d d' : Departure}
    (hr : Regular e) (hd : e.departures.get? id' = some d)
    (htry : d.tryRelease index now = .ok (true, d')) (hnext : next.departures = e.departures.put d')
    (hquotas : let s : Step := ⟨e, .releaseDeparture id' index now, .ok (.flag true), next⟩
      if d.queued = true ∧ d.isUntouched = true then s.Charges d now else s.KeepsQuotas) :
    Turn id ⟨e, .releaseDeparture id' index now, .ok (.flag true), next⟩ := by
  obtain ⟨hdue, -, hfirst, released, hset, rfl⟩ := tryRelease_eq_ok.1 htry
  have hhad : d.releasedBy.has index.toNat = false := by simpa using hfirst
  have hid : d.id = id' := hr.departures _ _ hd
  have hget : next.departures.get? id =
      if id' = id then some { d with releasedBy := released } else e.departures.get? id := by
    rw [hnext, ← hid]
    exact Table.get?_set ..
  by_cases heq : id' = id
  · subst heq
    rw [if_pos rfl] at hget
    exact .release rfl rfl hd hdue hhad hset hget hquotas
  · rw [if_neg heq] at hget
    exact turn_of_unconcerned (decide_eq_false heq) hget

theorem Effect.turn (h : Effect e c answer next) (hr : Regular e)
    (hi : Step.issued? ⟨e, c, answer, next⟩ ≠ some id) : Turn id ⟨e, c, answer, next⟩ := by
  cases h with
  | refused err =>
    refine .keep ?_ ?_ rfl fun _ => ⟨⟨rfl, rfl⟩, .inl ⟨err, rfl⟩⟩
    · unfold Step.releaser?
      split
      · cases ‹Except.error err = _›
      · rfl
    · rintro ⟨-, a, ha⟩
      cases ha
  | sent _ _ hc =>
    refine turn_of_unconcerned rfl ?_
    rw [get?_dispatch fun heq => hi (congrArg some heq), (credited_of_creditInbound hc).departures]
  | deferred =>
    refine turn_of_unconcerned rfl ?_
    rw [get?_dispatch fun heq => hi (congrArg some heq)]
  | @departedBefore id' _ _ d _ _ hd =>
    refine .keep rfl ?_ rfl fun hc => ⟨⟨rfl, rfl⟩, .inr ⟨d, ?_⟩⟩
    · rintro ⟨hcommand, -⟩
      cases hcommand
    · have hid : id' = id := of_decide_eq_true hc
      rwa [← hid]
  | departed _ hd htry hnot =>
    refine turn_of_release hr hd htry rfl ?_
    rw [if_neg hnot]
    exact ⟨rfl, rfl⟩
  | departedCharged _ hd htry hq hu hc =>
    have hcr := credited_of_creditInbound hc
    refine turn_of_release hr hd htry hcr.departures ?_
    rw [if_pos ⟨hq, hu⟩]
    refine ⟨hcr.outbound, ?_, exists_creditInbound hc rfl rfl⟩
    show Quota.Lowers _ _ _ _ next.outbound
    rw [hcr.outbound]
    exact Quota.lowers_drain ..
  | departedUnpeered _ _ hd _ _ _ hnone =>
    obtain ⟨peer, hp⟩ := (hr.charted _ _ hd).peer
    rw [hp] at hnone
    cases hnone
  | @cancelled id' d hd hq hu =>
    by_cases heq : id' = id
    · subst heq
      exact .cancel rfl rfl hd hq hu (by simp [Departures.get?, Table.get?_erase]) ⟨rfl, rfl⟩
    · refine turn_of_unconcerned (decide_eq_false heq) ?_
      simp [Departures.get?, Table.get?_erase, heq]
  | voted hv => exact turn_of_unconcerned (unconcerned_of_vote? hv) rfl
  | unsettled _ hv => exact turn_of_unconcerned (unconcerned_of_vote? hv) rfl
  | scheduled hv => exact turn_of_unconcerned (unconcerned_of_vote? hv) rfl
  | paid hv =>
    exact turn_of_unconcerned (unconcerned_of_vote? hv) (by rw [creditOutbound_departures]; rfl)
  | lost _ hv => exact turn_of_unconcerned (unconcerned_of_vote? hv) rfl
  | released => exact turn_of_unconcerned rfl (by rw [creditOutbound_departures]; rfl)
  | _ => exact turn_of_unconcerned rfl rfl

/-- A departure that is not there stays away, and cannot be released or cancelled. -/
theorem Turn.of_absent {s : Step} (h : Turn id s) (hn : s.before.departures.get? id = none) :
    s.after.departures.get? id = none ∧
      (s.command.concerns id = true → ∃ err, s.answer = .error err) := by
  have absent {d : Departure} {P : Prop} (hd : s.before.departures.get? id = some d) : P := by
    rw [hn] at hd
    cases hd
  cases h with
  | keep _ _ hget hkeeps =>
    refine ⟨hget.trans hn, fun hc => ?_⟩
    obtain herr | ⟨d, hd⟩ := (hkeeps hc).2
    · exact herr
    · exact absent hd
  | release _ _ hd => exact absent hd
  | cancel _ _ hd => exact absent hd

/-! ## The stored departure and its history -/

section
variable {d : Departure} {past : List Step} {s : Step}

/-- What is stored of a departure after some steps of its lifetime: who has released it so far,
unless it has been cancelled. -/
structure Stands (d : Departure) (past : List Step) (e : Endpoint) : Prop where
  stored : e.departures.get? d.id = none ∨
    ∃ released, e.departures.get? d.id = some { d with releasedBy := released } ∧
      ∀ index : UInt8, released.has index.toNat = true ↔ index ∈ releasers d.id past
  once : (releasers d.id past).Nodup

/-- A departure that is found is the one that was issued, with those who have released it. -/
theorem Stands.exists_released {d' : Departure} (h : Stands d past e)
    (hd : e.departures.get? d.id = some d') :
    ∃ released, d' = { d with releasedBy := released } ∧
      ∀ index : UInt8, released.has index.toNat = true ↔
        index ∈ releasers d.id past := by
  obtain hnone | ⟨released, hget, hhas⟩ := h.stored
  · rw [hnone] at hd
    cases hd
  · rw [hget] at hd
    cases hd
    exact ⟨released, rfl, hhas⟩

theorem Stands.isUntouched_iff {d' : Departure} (h : Stands d past e)
    (hd : e.departures.get? d.id = some d') :
    d'.isUntouched = true ↔ releasers d.id past = [] := by
  obtain ⟨released, rfl, hhas⟩ := h.exists_released hd
  rw [Departure.isUntouched, IndexSet.isEmpty_eq_true, List.eq_nil_iff_forall_not_mem]
  refine forall_congr' fun index => ?_
  rw [← hhas index, Bool.not_eq_true]

theorem Stands.after (h : Stands d past s.before) (ht : Turn d.id s) :
    Stands d (past ++ [s]) s.after := by
  have hstored := h.stored
  have honce := h.once
  cases ht with
  | keep hnone _ hget =>
    rw [← releasers_concat_none past hnone] at hstored honce
    rw [← hget] at hstored
    exact ⟨hstored, honce⟩
  | @release d' index now released hc ha hget _ hhad hset hafter =>
    obtain ⟨before, rfl, hhas⟩ := h.exists_released hget
    have hsome : s.releaser? d.id = some index := Step.releaser?_eq_some.2 ⟨now, hc, ha⟩
    have hmore : releasers d.id (past ++ [s]) = releasers d.id past ++ [index] := by
      rw [releasers_concat, hsome, Option.toList_some]
    have hfirst : index ∉ releasers d.id past := by
      rw [← hhas index, hhad]
      exact Bool.false_ne_true
    constructor
    · refine .inr ⟨released, hafter, fun i => ?_⟩
      rw [hmore, IndexSet.has_set hset, List.mem_append, List.mem_singleton, ← hhas i]
      by_cases hi : i = index
      · simp [hi]
      · have hi' : i.toNat ≠ index.toNat := fun heq => hi (UInt8.toNat_inj.1 heq)
        simp [hi, hi']
    · rw [hmore]
      exact honce.append (List.nodup_singleton _) (List.disjoint_singleton.2 hfirst)
  | cancel hc _ _ _ _ hafter =>
    rw [← releasers_concat_none past (Step.releaser?_of_cancelDeparture hc)] at honce
    exact ⟨.inl hafter, honce⟩

/-- The charge of a step, as the history before it decides. -/
theorem Stands.charge (h : Stands d past s.before) (ht : Turn d.id s)
    (hc : s.command.concerns d.id = true) :
    if d.queued = true ∧ (s.releaser? d.id).isSome = true ∧ releasers d.id past = [] then
      ∃ now, s.command.now? = some now ∧ s.Charges d now
    else s.KeepsQuotas := by
  cases ht with
  | keep hnone _ _ hkeeps =>
    rw [hnone]
    simpa using (hkeeps hc).1
  | @release d' index now released hcommand ha hget _ _ _ _ hquotas =>
    have hsome : s.releaser? d.id = some index := Step.releaser?_eq_some.2 ⟨now, hcommand, ha⟩
    simp only [h.isUntouched_iff hget] at hquotas
    obtain ⟨before, rfl, -⟩ := h.exists_released hget
    rw [hsome]
    by_cases hfirst : d.queued = true ∧ releasers d.id past = []
    · rw [if_pos hfirst] at hquotas
      rw [if_pos ⟨hfirst.1, rfl, hfirst.2⟩]
      exact ⟨now, by rw [hcommand]; rfl, hquotas.outbound, hquotas.lowers, hquotas.peers⟩
    · rw [if_neg hfirst] at hquotas
      rw [if_neg fun hall => hfirst ⟨hall.1, hall.2.2⟩]
      exact hquotas
  | cancel hcommand _ _ _ _ _ hkeeps =>
    rw [Step.releaser?_of_cancelDeparture hcommand]
    simpa using hkeeps

theorem Stands.due (h : Stands d past s.before) (ht : Turn d.id s)
    (hrel : (s.releaser? d.id).isSome = true) :
    ∃ now, s.command.now? = some now ∧ d.releaseTime ≤ now := by
  cases ht with
  | keep hnone =>
    rw [hnone] at hrel
    cases hrel
  | @release _ _ now _ hcommand _ hget hdue =>
    obtain ⟨released, rfl, -⟩ := h.exists_released hget
    exact ⟨now, by rw [hcommand]; rfl, hdue⟩
  | cancel hcommand =>
    rw [Step.releaser?_of_cancelDeparture hcommand] at hrel
    cases hrel

theorem Stands.cancel (h : Stands d past s.before) (ht : Turn d.id s) (hcan : s.Cancels d.id) :
    d.queued = true ∧ releasers d.id past = [] ∧ s.after.departures.get? d.id = none := by
  cases ht with
  | keep _ hnot => exact absurd hcan hnot
  | release hcommand =>
    have hboth := hcommand.symm.trans hcan.command
    cases hboth
  | cancel _ _ hget hqueued huntouched hafter =>
    have hnobody := (h.isUntouched_iff hget).1 huntouched
    obtain ⟨released, rfl, -⟩ := h.exists_released hget
    exact ⟨hqueued, hnobody, hafter⟩

end

/-! ## A run -/

section
variable {d : Departure} {cs : List Command}

/-- While its number is not issued again, a departure that is gone is neither released nor
cancelled. -/
theorem error_of_gone (hr : Regular e) (hn : e.departures.get? id = none)
    (hfresh : ∀ s ∈ e.steps cs, s.issued? ≠ some id) :
    ∀ w ∈ e.steps cs, w.command.concerns id = true → ∃ err, w.answer = .error err := by
  induction cs generalizing e with
  | nil => exact fun w hw => absurd hw List.not_mem_nil
  | cons c cs ih =>
    rw [steps, List.forall_mem_cons] at hfresh ⊢
    obtain ⟨hgone, herr⟩ := ((perform_effect e c).turn hr hfresh.1).of_absent hn
    exact ⟨herr, ih (regular_perform hr c) hgone hfresh.2⟩

theorem stands_run (hr : Regular e) (h : Stands d [] e)
    (hfresh : ∀ s ∈ e.steps cs, s.issued? ≠ some d.id) : Stands d (e.steps cs) (e.run cs).2 := by
  refine steps_induction (P := fun past f => (∀ s ∈ past, s.issued? ≠ some d.id) →
    Stands d past f) (fun _ => h) (fun cs c ih hfresh => ?_) cs hfresh
  rw [List.forall_mem_append, List.forall_mem_singleton] at hfresh
  have heff := perform_effect (e.run cs).2 c
  exact (ih hfresh.1).after (heff.turn (regular_run hr cs) hfresh.2)

theorem course_of_run (hr : Regular e) (h : Stands d [] e)
    (hfresh : ∀ s ∈ e.steps cs, s.issued? ≠ some d.id) : Course d (e.steps cs) := by
  have stands (i : Nat) : Stands d ((e.steps cs).take i) (e.run (cs.take i)).2 := by
    rw [steps_take]
    refine stands_run hr h fun s hs => hfresh s ?_
    rw [← steps_take] at hs
    exact List.mem_of_mem_take hs
  have turn {i : Nat} {c : Command} (hc : cs[i]? = some c) :
      Turn d.id ((e.run (cs.take i)).2.step c) := by
    have hmem : (e.run (cs.take i)).2.step c ∈ e.steps cs := mem_steps.2 ⟨i, c, hc, rfl⟩
    exact (perform_effect _ c).turn (regular_run hr _) (hfresh _ hmem)
  constructor
  case charge =>
    intro i s hs hcon
    obtain ⟨c, hc, rfl⟩ := steps_getElem?_eq_some.1 hs
    exact (stands i).charge (turn hc) hcon
  case once => exact (stands_run hr h hfresh).once
  case due =>
    intro s hs hrel
    obtain ⟨i, c, hc, rfl⟩ := mem_steps.1 hs
    exact (stands i).due (turn hc) hrel
  case cancel =>
    intro i s hs hcan
    obtain ⟨c, hc, rfl⟩ := steps_getElem?_eq_some.1 hs
    obtain ⟨hqueued, hnobody, hgone⟩ := (stands i).cancel (turn hc) hcan
    refine ⟨hqueued, hnobody, ?_⟩
    have hafter : (e.run (cs.take (i + 1))).2 = (perform c (e.run (cs.take i)).2).2 :=
      run_take_succ hc e
    rw [steps_drop, hafter]
    refine error_of_gone (regular_perform (regular_run hr _) c) hgone fun w hw => hfresh w ?_
    rw [← hafter, ← steps_drop] at hw
    exact List.mem_of_mem_drop hw

end

/-! ## The lifetime of a number -/

/-- Numbers are issued one after the other. -/
theorem Effect.nextId (h : Effect e c answer next) :
    (Step.issued? ⟨e, c, answer, next⟩ = none ∧
      next.departures.nextId = e.departures.nextId) ∨
    (Step.issued? ⟨e, c, answer, next⟩ = some e.departures.nextId ∧
      next.departures.nextId = e.departures.nextId + 1) := by
  cases h with
  | @sent o now dust trimmed amount _ credited _ _ hc =>
    have hcr := (credited_of_creditInbound hc).departures
    refine .inr ⟨?_, ?_⟩
    · show some credited.departures.nextId = _
      rw [hcr]
    · show credited.departures.nextId + 1 = _
      rw [hcr]
  | deferred => exact .inr ⟨rfl, rfl⟩
  | departedCharged _ _ _ _ _ hc =>
    have hcr := (credited_of_creditInbound hc).departures
    exact .inl ⟨rfl, by rw [hcr]; rfl⟩
  | paid => exact .inl ⟨rfl, by rw [creditOutbound_departures]; rfl⟩
  | released => exact .inl ⟨rfl, by rw [creditOutbound_departures]; rfl⟩
  | _ => exact .inl ⟨rfl, rfl⟩

theorem issued_getElem? {cs : List Command} {i : Nat}
    (h : ((e.steps cs).filterMap Step.issued?)[i]? = some id) :
    id.toNat = (e.departures.nextId.toNat + i) % 2 ^ 64 := by
  induction cs generalizing e i with
  | nil => cases h
  | cons c cs ih =>
    have hstep : ((e.step c).issued? = none ∧ _) ∨ ((e.step c).issued? = some _ ∧ _) :=
      (perform_effect e c).nextId
    rw [steps] at h
    obtain ⟨hnone, hsame⟩ | ⟨hsome, hmore⟩ := hstep
    · rw [List.filterMap_cons_none hnone] at h
      rw [ih h, hsame]
    · rw [List.filterMap_cons_some hsome] at h
      cases i with
      | zero =>
        cases h
        have := UInt64.toNat_lt e.departures.nextId
        omega
      | succ i =>
        rw [ih h, hmore, UInt64.toNat_add, UInt64.toNat_one]
        omega

/-- The lifetime of a number is a run of its own, and does not issue the number. -/
theorem lifetime_steps (e : Endpoint) (id : UInt64) (cs : List Command) :
    ∃ ds, lifetime id (e.steps cs) = e.steps ds ∧ ∀ s ∈ e.steps ds, s.issued? ≠ some id := by
  have hown : lifetime id (e.steps cs) = e.steps (cs.take (lifetime id (e.steps cs)).length) := by
    rw [← steps_take]
    exact List.prefix_iff_eq_take.1 (List.takeWhile_prefix _)
  refine ⟨_, hown, fun s hs => ?_⟩
  rw [← hown] at hs
  have hother := List.mem_takeWhile_imp (p := fun s : Step => s.issued? ≠ some id) hs
  exact of_decide_eq_true hother

/-- A number that was just issued is not issued again in fewer than 2 ^ 64 transfers. -/
theorem lifetime_eq_self {cs : List Command} (hnext : e.departures.nextId = id + 1)
    (hlen : ((e.steps cs).filterMap Step.issued?).length < 2 ^ 64) :
    lifetime id (e.steps cs) = e.steps cs := by
  refine List.takeWhile_eq_self_iff.2 fun s hs => decide_eq_true fun hid => ?_
  have hmem : id ∈ (e.steps cs).filterMap Step.issued? := List.mem_filterMap.2 ⟨s, hs, hid⟩
  obtain ⟨i, hi⟩ := List.mem_iff_getElem?.1 hmem
  have hlt : i < _ := (List.getElem?_eq_some_iff.1 hi).1
  have hplace := issued_getElem? hi
  rw [hnext, UInt64.toNat_add, UInt64.toNat_one] at hplace
  have := UInt64.toNat_lt id
  omega

/-- The departure that a transfer stores, and what the transfer does to the quotas. -/
theorem Effect.stored_departure {o : TransferOrder} {now : UInt64} {t : TransferTicket}
    (h : Effect e (.transfer o now) (.ok (.ticket t)) next) :
    ∃ d, next.departures.get? t.departure = some d ∧ d.id = t.departure ∧
      d.message = t.message ∧ d.queued = t.queuedUntil.isSome ∧ d.releasedBy = .empty ∧
      next.departures.nextId = t.departure + 1 ∧
      if d.queued = true then next.outbound = e.outbound ∧ next.peers = e.peers
      else e.outbound.spend e.terms.period now d.amount.units (TransferOrder.onShortage o)
          = .ok (.spent next.outbound) ∧
        d.amount.units ≤ e.outbound.available e.terms.period now ∧
        Quota.Lowers e.terms.period now d.amount.units e.outbound next.outbound := by
  cases h with
  | sent _ hs hc =>
    refine ⟨_, departures_dispatch .., rfl, rfl, rfl, rfl, rfl, ?_⟩
    rw [if_neg Bool.false_ne_true, dispatch_outbound, (credited_of_creditInbound hc).outbound]
    exact ⟨hs, UInt64.le_iff_toNat_le.2 (Quota.spend_eq_spent hs).1, Quota.lowers_spend hs⟩
  | deferred => exact ⟨_, departures_dispatch .., rfl, rfl, rfl, rfl, rfl, rfl, rfl⟩

/-- **A departure is charged once, and a cancelled one is never released.** A transfer is charged
when it is made, or if it has to wait, at the first release that succeeds; nothing else that is
done to the departure changes a quota. Each transceiver releases it at most once, and none before
its time. Only a departure that waits, and that nobody has released, is cancelled, and then all
that is tried with its number fails. -/
theorem departure_charged_once (h : Reachable e) {o : TransferOrder} {now : UInt64}
    {t : TransferTicket} (ht : (perform (.transfer o now) e).1 = .ok (.ticket t))
    (cs : List Command) :
    let s := e.step (.transfer o now)
    let later := s.after.steps cs
    ∃ d, s.after.departures.get? t.departure = some d ∧ d.id = t.departure ∧
      d.message = t.message ∧ d.queued = t.queuedUntil.isSome ∧
      (if d.queued = true then s.after.outbound = e.outbound ∧ s.after.peers = e.peers
        else e.outbound.spend e.terms.period now d.amount.units (TransferOrder.onShortage o)
            = .ok (.spent s.after.outbound) ∧
          d.amount.units ≤ e.outbound.available e.terms.period now ∧
          Quota.Lowers e.terms.period now d.amount.units e.outbound s.after.outbound) ∧
      Course d (lifetime t.departure later) ∧
      ((later.filterMap Step.issued?).length < 2 ^ 64 → lifetime t.departure later = later) := by
  intro s later
  have heff := perform_effect e (.transfer o now)
  rw [ht] at heff
  obtain ⟨d, hget, hid, hmessage, hqueued, hreleased, hnext, hquotas⟩ := heff.stored_departure
  have hr : Regular s.after := regular_perform h.regular _
  refine ⟨d, hget, hid, hmessage, hqueued, hquotas, ?_, lifetime_eq_self hnext⟩
  obtain ⟨ds, hown, hfresh⟩ := lifetime_steps s.after t.departure cs
  rw [hown]
  rw [← hid] at hfresh hget
  have hstored : s.after.departures.get? d.id = some { d with releasedBy := .empty } := by
    rw [← hreleased]
    exact hget
  refine course_of_run hr ⟨.inr ⟨.empty, hstored, fun i => ?_⟩, List.nodup_nil⟩ hfresh
  simp [releasers]

/-- A transfer of 2000 units waits, as the quota has 1000. A release that comes too early fails; the
first one that does not is charged, and a cancellation then fails. If the transfer is cancelled
first, a release fails. -/
theorem departure_charged_once_sample :
    let order : TransferOrder :=
      ⟨20000000000000, ⟨2⟩, Sample.address 3, Sample.address 1, true, []⟩
    let e := (Sample.endpoint.run (Sample.opening 1000)).2
    let m := e.nextMessage order ⟨2000, 8⟩
    let d : Departure := ⟨0, m, ⟨2000, 8⟩, 0, 86550, true, .empty⟩
    let next := (perform (.transfer order 150) e).2
    let releasing : List Command := [.releaseDeparture 0 1 86549, .releaseDeparture 0 1 86550,
      .releaseDeparture 0 0 90000, .releaseDeparture 0 1 90000, .cancelDeparture 0]
    let cancelling : List Command := [.cancelDeparture 0, .releaseDeparture 0 1 86550]
    Reachable e ∧ (perform (.transfer order 150) e).1 = .ok (.ticket ⟨0, m, 0, some 86550⟩) ∧
      next.departures.get? 0 = some d ∧
      (next.run releasing).1 = [.error (.releaseNotReady 86550), .ok (.flag true),
        .ok (.flag true), .ok (.flag false),
        .error (.cannotCancel 0 "transfer was already released")] ∧
      Course d (next.steps releasing) ∧
      (next.run cancelling).1 = [.ok (.departure d), .error (.unknownDeparture 0)] ∧
      Course d (next.steps cancelling) := by
  intro order e m d next releasing cancelling
  have he : Reachable e := (Reachable.start Sample.establish_eq).run _
  have ht : (perform (.transfer order 150) e).1 = .ok (.ticket ⟨0, m, 0, some 86550⟩) := by
    decide +kernel
  have hd : next.departures.get? 0 = some d := by decide +kernel
  have course (cs : List Command)
      (hlen : ((next.steps cs).filterMap Step.issued?).length < 2 ^ 64) :
      Course d (next.steps cs) := by
    obtain ⟨d', hget, -, -, -, -, hcourse, hall⟩ := departure_charged_once he ht cs
    have hsame : some d' = some d := hget.symm.trans hd
    cases hsame
    rwa [hall hlen] at hcourse
  exact ⟨he, ht, hd, by decide +kernel, course _ (by decide +kernel), by decide +kernel,
    course _ (by decide +kernel)⟩

end Endpoint

end TokenBridge
