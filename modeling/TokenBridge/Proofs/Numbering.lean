import TokenBridge.Proofs.Departure

/-!
# The numbers of departures

An endpoint counts its transfers twice, for the numbers of its departures and for those of its
messages. Only a transfer that hands out a ticket moves the counters, and it moves both (`Issues`);
any other step leaves them as they are, and stores nothing that was not stored before (`Retains`).
So the tickets of a run are numbered in their order, and what is stored is what some ticket names
(`Numbered`).
-/

namespace TokenBridge

namespace Step

/-- The ticket of a transfer that succeeds. -/
def ticket? (s : Step) : Option TransferTicket :=
  match s.answer with
  | .ok (.ticket t) => some t
  | _ => none

end Step

/-- The tickets that some steps hand out, in their order. -/
def tickets (ss : List Step) : List TransferTicket := ss.filterMap Step.ticket?

theorem tickets_append (ss later : List Step) :
    tickets (ss ++ later) = tickets ss ++ tickets later := List.filterMap_append

theorem tickets_singleton (s : Step) : tickets [s] = s.ticket?.toList := by
  cases h : s.ticket? <;> simp [tickets, h]

namespace Endpoint

variable {e f next : Endpoint} {c : Command} {answer : Except Error Answer} {t : TransferTicket}

/-! ## A step -/

/-- The ticket has the next two numbers, and what it names is stored. -/
structure Issues (e : Endpoint) (t : TransferTicket) (next : Endpoint) : Prop where
  departure : t.departure = e.departures.nextId
  message : t.message.id = .ofSequence e.nextSequence
  nextId : next.departures.nextId = e.departures.nextId + 1
  nextSequence : next.nextSequence = e.nextSequence + 1
  stored : ∃ d, d.id = t.departure ∧ d.message = t.message ∧
    ∀ id, next.departures.get? id = if t.departure = id then some d else e.departures.get? id

/-- No number is given, and what is stored was stored before. -/
structure Retains (e next : Endpoint) : Prop where
  nextId : next.departures.nextId = e.departures.nextId
  nextSequence : next.nextSequence = e.nextSequence
  stored : ∀ id d, next.departures.get? id = some d →
    ∃ before, e.departures.get? id = some before ∧ d.message = before.message

theorem issues_dispatch (e : Endpoint) (o : TransferOrder) (trimmed amount : Amount)
    (dust time : UInt64) (queued : Bool) :
    Issues e (e.dispatch o trimmed dust amount time queued).1
      (e.dispatch o trimmed dust amount time queued).2 :=
  ⟨rfl, rfl, rfl, rfl, _, rfl, rfl, fun _ => Table.get?_set ..⟩

/-- A ticket depends on what is numbered only. -/
theorem Issues.congr (h : Issues f t next) (hd : f.departures = e.departures)
    (hs : f.nextSequence = e.nextSequence) : Issues e t next := by
  obtain ⟨hdeparture, hmessage, hnextId, hnextSequence, hstored⟩ := h
  rw [hd] at hdeparture hnextId hstored
  rw [hs] at hmessage hnextSequence
  exact ⟨hdeparture, hmessage, hnextId, hnextSequence, hstored⟩

theorem retains_of_eq (hd : next.departures = e.departures)
    (hs : next.nextSequence = e.nextSequence) : Retains e next := by
  refine ⟨by rw [hd], hs, fun id d hget => ⟨d, ?_, rfl⟩⟩
  rwa [← hd]

/-- A release puts back what it found, with one more transceiver that has released it. -/
theorem retains_of_put {id now : UInt64} {index : UInt8} {d d' : Departure} (hr : Regular e)
    (hget : e.departures.get? id = some d) (htry : d.tryRelease index now = .ok (true, d'))
    (hd : next.departures = e.departures.put d') (hs : next.nextSequence = e.nextSequence) :
    Retains e next := by
  have hsame := eq_of_tryRelease htry
  have hid : d'.id = id := by
    rw [hsame]
    exact hr.departures id d hget
  have hmessage : d'.message = d.message := by rw [hsame]
  refine ⟨by rw [hd]; rfl, hs, fun id' stored hstored => ?_⟩
  rw [hd, Departures.get?, Departures.put, Table.get?_set, hid] at hstored
  split at hstored
  · cases hstored
    subst id'
    exact ⟨d, hget, hmessage⟩
  · exact ⟨stored, hstored, rfl⟩

theorem retains_of_erase {id : UInt64}
    (hd : next.departures = { e.departures with items := e.departures.items.erase id })
    (hs : next.nextSequence = e.nextSequence) : Retains e next := by
  refine ⟨by rw [hd], hs, fun id' stored hstored => ?_⟩
  rw [hd, Departures.get?, Table.get?_erase] at hstored
  split at hstored
  · cases hstored
  · exact ⟨stored, hstored, rfl⟩

theorem Effect.numbers (h : Effect e c answer next) (hr : Regular e) :
    (Step.ticket? ⟨e, c, answer, next⟩ = none ∧ Retains e next) ∨
      ∃ t, Step.ticket? ⟨e, c, answer, next⟩ = some t ∧ Issues e t next := by
  cases h with
  | sent _ _ hc =>
    have hcr := credited_of_creditInbound hc
    exact .inr ⟨_, rfl, (issues_dispatch ..).congr hcr.departures hcr.nextSequence⟩
  | deferred => exact .inr ⟨_, rfl, issues_dispatch ..⟩
  | departed _ hd htry => exact .inl ⟨rfl, retains_of_put hr hd htry rfl rfl⟩
  | departedCharged _ hd htry _ _ hc =>
    have hcr := credited_of_creditInbound hc
    exact .inl ⟨rfl, retains_of_put hr hd htry hcr.departures hcr.nextSequence⟩
  | departedUnpeered _ _ hd htry => exact .inl ⟨rfl, retains_of_put hr hd htry rfl rfl⟩
  | cancelled => exact .inl ⟨rfl, retains_of_erase rfl rfl⟩
  | paid =>
    exact .inl ⟨rfl, retains_of_eq (creditOutbound_departures ..) (creditOutbound_nextSequence ..)⟩
  | released =>
    exact .inl ⟨rfl, retains_of_eq (creditOutbound_departures ..) (creditOutbound_nextSequence ..)⟩
  | _ => exact .inl ⟨rfl, retains_of_eq rfl rfl⟩

/-! ## A run -/

/-- The tickets handed out so far count the transfers, and stand for all that is stored. -/
structure Numbered (ts : List TransferTicket) (e : Endpoint) : Prop where
  nextId : e.departures.nextId = .ofNat ts.length
  nextSequence : e.nextSequence = .ofNat ts.length
  ticket : ∀ (k : Nat) (t : TransferTicket), ts[k]? = some t →
    t.departure = .ofNat k ∧ t.message.id = .ofSequence (.ofNat k)
  stored : ∀ id d, e.departures.get? id = some d →
    ∃ t ∈ ts, t.departure = id ∧ d.message = t.message

variable {ts : List TransferTicket}

theorem numbered_establish {site : Site} {terms : Terms} {limit now : UInt64}
    (h : establish site terms limit now = .ok e) : Numbered [] e := by
  rw [establish_eq_ok h]
  constructor
  · rfl
  · rfl
  · intro k t ht
    cases ht
  · intro id d hd
    cases hd

theorem Numbered.retain (h : Numbered ts e) (hkeep : Retains e next) : Numbered ts next := by
  refine ⟨hkeep.nextId.trans h.nextId, hkeep.nextSequence.trans h.nextSequence, h.ticket,
    fun id d hd => ?_⟩
  obtain ⟨before, hbefore, hmessage⟩ := hkeep.stored id d hd
  obtain ⟨t, ht, hid, hnamed⟩ := h.stored id before hbefore
  exact ⟨t, ht, hid, hmessage.trans hnamed⟩

theorem Numbered.issue (h : Numbered ts e) (hissue : Issues e t next) :
    Numbered (ts ++ [t]) next := by
  have hcount : (.ofNat (ts ++ [t]).length : UInt64) = .ofNat ts.length + 1 := by
    rw [List.length_append]
    exact UInt64.ofNat_add ..
  constructor
  case nextId => rw [hissue.nextId, h.nextId, hcount]
  case nextSequence => rw [hissue.nextSequence, h.nextSequence, hcount]
  case ticket =>
    intro k t' ht'
    by_cases hk : k < ts.length
    · rw [List.getElem?_append_left hk] at ht'
      exact h.ticket k t' ht'
    · have hlast : k = ts.length := by
        have hmost := (List.getElem?_eq_some_iff.1 ht').1
        rw [List.length_append, List.length_singleton] at hmost
        omega
      subst hlast
      rw [List.getElem?_concat_length] at ht'
      cases ht'
      exact ⟨hissue.departure.trans h.nextId, by rw [hissue.message, h.nextSequence]⟩
  case stored =>
    intro id d hd
    obtain ⟨new, -, hmessage, hget⟩ := hissue.stored
    rw [hget] at hd
    split at hd
    · cases hd
      exact ⟨t, List.mem_append_right _ List.mem_cons_self, ‹_›, hmessage⟩
    · obtain ⟨t', ht', hnamed⟩ := h.stored id d hd
      exact ⟨t', List.mem_append_left _ ht', hnamed⟩

theorem numbered_run {site : Site} {terms : Terms} {limit now : UInt64}
    (h : establish site terms limit now = .ok e) (cs : List Command) :
    Numbered (tickets (e.steps cs)) (e.run cs).2 := by
  have hr := regular_establish h
  refine steps_induction (P := fun past f => Numbered (tickets past) f)
    (numbered_establish h) (fun cs c ih => ?_) cs
  rw [tickets_append, tickets_singleton]
  have hstep : ((e.run cs).2.step c).ticket? = none ∧ Retains (e.run cs).2 _ ∨
      ∃ t, ((e.run cs).2.step c).ticket? = some t ∧ Issues (e.run cs).2 t _ :=
    (perform_effect (e.run cs).2 c).numbers (regular_run hr cs)
  obtain ⟨hnone, hkeep⟩ | ⟨t, hsome, hissue⟩ := hstep
  · rw [hnone, Option.toList_none, List.append_nil]
    exact ih.retain hkeep
  · rw [hsome, Option.toList_some]
    exact ih.issue hissue

/-! ## Fewer than 2 ^ 64 transfers -/

theorem Numbered.toNat_departure (h : Numbered ts e) (hlen : ts.length < 2 ^ 64) {k : Nat}
    (ht : ts[k]? = some t) : t.departure.toNat = k ∧ t.message.id = .ofSequence t.departure := by
  have hk := (List.getElem?_eq_some_iff.1 ht).1
  obtain ⟨hdeparture, hmessage⟩ := h.ticket k t ht
  rw [hmessage, hdeparture]
  exact ⟨UInt64.toNat_ofNat_of_lt' (Nat.lt_trans hk hlen), rfl⟩

theorem Numbered.toNat_nextId (h : Numbered ts e) (hlen : ts.length < 2 ^ 64) :
    e.departures.nextId.toNat = ts.length := by
  rw [h.nextId]
  exact UInt64.toNat_ofNat_of_lt' hlen

theorem Numbered.lt_nextId (h : Numbered ts e) (hlen : ts.length < 2 ^ 64) {id : UInt64}
    {d : Departure} (hd : e.departures.get? id = some d) :
    id < e.departures.nextId ∧ d.message.id = .ofSequence id := by
  obtain ⟨t, ht, rfl, hmessage⟩ := h.stored id d hd
  obtain ⟨k, hk⟩ := List.mem_iff_getElem?.1 ht
  obtain ⟨hplace, hid⟩ := h.toNat_departure hlen hk
  refine ⟨?_, by rw [hmessage, hid]⟩
  rw [UInt64.lt_iff_toNat_lt, hplace, h.toNat_nextId hlen]
  exact (List.getElem?_eq_some_iff.1 hk).1

theorem Numbered.nodup_messages (h : Numbered ts e) (hlen : ts.length < 2 ^ 64) :
    (ts.map fun t => t.message.id).Nodup := by
  refine List.nodup_iff_getElem?_ne_getElem?.2 fun i j hij hj heq => ?_
  rw [List.length_map] at hj
  rw [List.getElem?_map, List.getElem?_map, List.getElem?_eq_getElem hj,
    List.getElem?_eq_getElem (Nat.lt_trans hij hj)] at heq
  obtain ⟨hi, hidi⟩ := h.toNat_departure hlen (List.getElem?_eq_getElem (Nat.lt_trans hij hj))
  obtain ⟨hj, hidj⟩ := h.toNat_departure hlen (List.getElem?_eq_getElem hj)
  have hsame : ts[i].departure = ts[j].departure := by
    rw [← MessageId.ofSequence_inj, ← hidi, ← hidj]
    exact Option.some.inj heq
  rw [hsame, hj] at hi
  omega

section
variable {site : Site} {terms : Terms} {limit now : UInt64} {first : Endpoint} {cs : List Command}

/-- Later tickets have numbers from the counter on. -/
theorem nextId_le_departure (h : establish site terms limit now = .ok first)
    (hlen : (tickets (first.steps cs)).length < 2 ^ 64) (n : Nat)
    (ht : t ∈ tickets ((first.steps cs).drop n)) :
    (first.run (cs.take n)).2.departures.nextId ≤ t.departure := by
  have hall := numbered_run h cs
  have hbefore := numbered_run h (cs.take n)
  have hsplit : tickets (first.steps cs) =
      tickets (first.steps (cs.take n)) ++ tickets ((first.steps cs).drop n) := by
    rw [← steps_take, ← tickets_append, List.take_append_drop]
  rw [hsplit] at hall hlen
  have hfew := hlen
  rw [List.length_append] at hfew
  obtain ⟨k, hk⟩ := List.mem_iff_getElem?.1 ht
  rw [← Nat.add_sub_cancel_left (tickets (first.steps (cs.take n))).length k,
    ← List.getElem?_append_right (Nat.le_add_right ..)] at hk
  rw [UInt64.le_iff_toNat_le, hbefore.toNat_nextId (by omega), (hall.toNat_departure hlen hk).1]
  exact Nat.le_add_right ..

/-- No later ticket has the number of a departure that is stored now. -/
theorem departure_ne_of_stored (h : establish site terms limit now = .ok first)
    (hlen : (tickets (first.steps cs)).length < 2 ^ 64) {n : Nat} {id : UInt64} {d : Departure}
    (hd : (first.run (cs.take n)).2.departures.get? id = some d)
    (ht : t ∈ tickets ((first.steps cs).drop n)) : t.departure ≠ id := by
  have hfew : (tickets (first.steps (cs.take n))).length < 2 ^ 64 := by
    rw [← steps_take]
    exact Nat.lt_of_le_of_lt ((List.take_sublist n _).filterMap _).length_le hlen
  have hlt := ((numbered_run h (cs.take n)).lt_nextId hfew hd).1
  have hle := nextId_le_departure h hlen n ht
  rintro rfl
  rw [UInt64.le_iff_toNat_le] at hle
  rw [UInt64.lt_iff_toNat_lt] at hlt
  omega

theorem Effect.exists_cancelled {id : UInt64} {a : Answer}
    (h : Effect e (.cancelDeparture id) (.ok a) next) :
    ∃ d, e.departures.get? id = some d := by
  cases h with
  | cancelled hd => exact ⟨_, hd⟩
  | voted hv => cases hv
  | scheduled hv => cases hv
  | paid hv => cases hv

/-- What is cancelled was stored. -/
theorem exists_of_cancels {i : Nat} {s : Step} {id : UInt64} (hs : (e.steps cs)[i]? = some s)
    (hcancel : s.Cancels id) : ∃ d, (e.run (cs.take i)).2.departures.get? id = some d := by
  obtain ⟨c, -, rfl⟩ := steps_getElem?_eq_some.1 hs
  obtain ⟨hcommand, a, hanswer⟩ := hcancel
  have hc : c = .cancelDeparture id := hcommand
  have ha : (perform c (e.run (cs.take i)).2).1 = .ok a := hanswer
  have heff := perform_effect (e.run (cs.take i)).2 c
  rw [ha, hc] at heff
  exact heff.exists_cancelled

/-- **Departures and messages are numbered together.** In a run from the start with fewer than
2 ^ 64 transfers that succeed, these have the numbers 0, 1, 2 and so on, whatever else is done in
between, and each gives its number to its departure and to its message. The two counters agree, and
what is stored is below them, under its own number. So no two messages have the same identifier,
and that of a cancelled departure is not given again. -/
theorem numbered_in_order (h : establish site terms limit now = .ok first) (cs : List Command)
    (hlen : (tickets (first.steps cs)).length < 2 ^ 64) :
    let ss := first.steps cs
    let e := (first.run cs).2
    (∀ (k : Nat) (t : TransferTicket), (tickets ss)[k]? = some t →
      t.departure.toNat = k ∧ t.message.id = .ofSequence t.departure) ∧
    e.departures.nextId.toNat = (tickets ss).length ∧ e.nextSequence = e.departures.nextId ∧
    (∀ id d, e.departures.get? id = some d →
      id < e.departures.nextId ∧ d.id = id ∧ d.message.id = .ofSequence id) ∧
    ((tickets ss).map fun t => t.message.id).Nodup ∧
    ∀ (i : Nat) (s : Step) (id : UInt64), ss[i]? = some s → s.Cancels id →
      ∀ t ∈ tickets (ss.drop (i + 1)), t.departure ≠ id ∧ t.message.id ≠ .ofSequence id := by
  intro ss e
  have hn : Numbered (tickets ss) e := numbered_run h cs
  have hr : Regular e := regular_run (regular_establish h) cs
  refine ⟨fun k t ht => hn.toNat_departure hlen ht, hn.toNat_nextId hlen,
    hn.nextSequence.trans hn.nextId.symm, fun id d hd => ?_, hn.nodup_messages hlen,
    fun i s id hs hcancel t ht => ?_⟩
  · obtain ⟨hlt, hid⟩ := hn.lt_nextId hlen hd
    exact ⟨hlt, hr.departures id d hd, hid⟩
  · obtain ⟨d, hd⟩ := exists_of_cancels hs hcancel
    have hsince : (tickets (ss.drop (i + 1))).Sublist (tickets (ss.drop i)) :=
      (List.drop_sublist_drop_left ss (Nat.le_succ i)).filterMap _
    have hne : t.departure ≠ id := departure_ne_of_stored h hlen hd (hsince.subset ht)
    have hmem : t ∈ tickets ss := ((List.drop_sublist (i + 1) ss).filterMap _).subset ht
    obtain ⟨k, hk⟩ := List.mem_iff_getElem?.1 hmem
    rw [(hn.toNat_departure hlen hk).2]
    exact ⟨hne, mt MessageId.ofSequence_inj.1 hne⟩

end

/-- A transfer has to wait and is cancelled, and one to an unknown chain fails. The next transfer
has number 1. -/
theorem numbered_in_order_sample :
    let order (amount : UInt64) (chain : ChainId) : TransferOrder :=
      ⟨amount, chain, Sample.address 3, Sample.address 1, true, []⟩
    let before := Sample.opening 1000 ++ [.transfer (order 20000000000000 ⟨2⟩) 150,
      .transfer (order 5000000000000 ⟨9⟩) 150]
    let cs := before ++ [.cancelDeparture 0, .transfer (order 5000000000000 ⟨2⟩) 150]
    let ss := Sample.endpoint.steps cs
    establish Sample.site Sample.terms 1000 100 = .ok Sample.endpoint ∧
      (tickets ss).map (fun t => t.departure) = [0, 1] ∧
      ((tickets ss).map fun t => t.message.id).Nodup ∧
      (∀ id d, (Sample.endpoint.run cs).2.departures.get? id = some d →
        id < 2 ∧ d.id = id ∧ d.message.id = .ofSequence id) ∧
      ∃ s, ss[8]? = some s ∧ s.Cancels 0 ∧
        ∀ t ∈ tickets (ss.drop 9), t.departure ≠ 0 ∧ t.message.id ≠ .ofSequence 0 := by
  intro order before cs ss
  have hlen : (tickets ss).length = 2 := by decide +kernel
  have hfew : (tickets ss).length < 2 ^ 64 := by
    rw [hlen]
    decide
  have hnext : (Sample.endpoint.run cs).2.departures.nextId = 2 := by decide +kernel
  obtain ⟨-, -, -, hstored, hnodup, hcancelled⟩ :=
    numbered_in_order Sample.establish_eq cs hfew
  rw [hnext] at hstored
  let s := (Sample.endpoint.run before).2.step (.cancelDeparture 0)
  have hs : ss[8]? = some s := rfl
  have hanswer : s.answer = .ok (.departure ⟨0, Sample.endpoint.nextMessage (order 0 ⟨2⟩) ⟨2000, 8⟩,
      ⟨2000, 8⟩, 0, 86550, true, .empty⟩) := by decide +kernel
  have hc : s.Cancels 0 := ⟨rfl, _, hanswer⟩
  exact ⟨Sample.establish_eq, by decide +kernel, hnodup, hstored, s, hs, hc,
    hcancelled 8 s 0 hs hc⟩

end Endpoint

end TokenBridge
