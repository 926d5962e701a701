import TokenBridge.Proofs.Payment
import TokenBridge.Proofs.Quota

/-!
# What a run can spend

How much value can cross while a limit stays what it is? A step moves the outbound quota by what
it sends and by what it gives back for a payout, and it moves the inbound quota of a chain
by what it pays out at a vote and by what it gives back for value that leaves to that
chain. Both are read off the effects of a command, and added up along a run they bound the
flow by the `potential` of the quota at the start.
-/

namespace TokenBridge

namespace Endpoint

/-- The amount of a stored departure, in the units of the quotas. -/
def departureUnits (e : Endpoint) (id : UInt64) : Nat :=
  (e.departures.get? id).elim 0 fun d => d.amount.units.toNat

/-- The amount of a stored arrival, in the units of the quotas. -/
def arrivalUnits (e : Endpoint) (k : ChainId × MessageId) : Nat :=
  (e.arrivals.get? k).elim 0 fun a => a.amount.units.toNat

end Endpoint

namespace Step

/-- The units of a transfer that left without a wait. -/
def sent (s : Step) : Nat :=
  match s.answer with
  | .ok (.ticket t) => if t.queuedUntil = none then s.after.departureUnits t.departure else 0
  | _ => 0

/-- The units of a payout. -/
def received (s : Step) : Nat :=
  (payoutOfAnswer s.answer).elim 0 fun p => s.after.arrivalUnits p.key

/-- The units of a payout that a vote for a message from `chain` made. -/
def receivedAtOnce (chain : ChainId) (s : Step) : Nat :=
  match s.answer with
  | .ok (.report r) =>
    r.payout.elim 0 fun p => if p.sourceChain = chain then s.after.arrivalUnits p.key else 0
  | _ => 0

/-- The departure that the step charges to the outbound quota: one that leaves without a wait,
or one that waited and is released for the first time. -/
def charged? (s : Step) : Option Departure :=
  match s.command, s.answer with
  | .transfer _ _, .ok (.ticket t) =>
    if t.queuedUntil = none then s.after.departures.get? t.departure else none
  | .releaseDeparture id _ _, .ok (.flag true) =>
    (s.before.departures.get? id).filter fun d => d.queued && d.isUntouched
  | _, _ => none

/-- The units that the step charges for value that goes to `chain`. -/
def chargedTo (chain : ChainId) (s : Step) : Nat :=
  s.charged?.elim 0 fun d =>
    if d.message.recipientChain = chain then d.amount.units.toNat else 0

end Step

/-- The latest of a time and the times that commands bring along. -/
def latest (start : UInt64) (cs : List Command) : Nat :=
  (cs.filterMap Command.now?).foldl (fun t now => max t now.toNat) start.toNat

/-- A time that no command of a list is past. -/
def Covers (t : Nat) (cs : List Command) : Prop :=
  ∀ c ∈ cs, ∀ now, c.now? = some now → now.toNat ≤ t

theorem le_foldl_max (start : Nat) (times : List UInt64) :
    start ≤ times.foldl (fun t now => max t now.toNat) start ∧
      ∀ now ∈ times, now.toNat ≤ times.foldl (fun t now => max t now.toNat) start := by
  induction times generalizing start with
  | nil => exact ⟨le_rfl, by simp⟩
  | cons first times ih =>
    obtain ⟨hstart, htimes⟩ := ih (max start first.toNat)
    rw [List.foldl_cons]
    refine ⟨by omega, fun now hnow => ?_⟩
    rcases List.mem_cons.1 hnow with rfl | hnow
    · omega
    · exact htimes now hnow

theorem le_latest (start : UInt64) (cs : List Command) : start.toNat ≤ latest start cs :=
  (le_foldl_max ..).1

theorem covers_latest (start : UInt64) (cs : List Command) : Covers (latest start cs) cs := by
  intro c hc now hnow
  exact (le_foldl_max ..).2 now (List.mem_filterMap.2 ⟨c, hc, hnow⟩)

theorem now?_of_vote? {c : Command} {v : Vote} (h : c.vote? = some v) :
    c.now? = some v.now := by
  obtain rfl | ⟨att, -, rfl⟩ := Command.eq_of_vote? h
  · rfl
  · rfl

namespace Endpoint

variable {e next : Endpoint} {c : Command} {answer : Except Error Answer} {t : Nat}

/-! ## Amounts of a step -/

theorem dispatch_outbound (e : Endpoint) (o : TransferOrder) (trimmed amount : Amount)
    (dust time : UInt64) (queued : Bool) :
    (e.dispatch o trimmed dust amount time queued).2.outbound = e.outbound := rfl

theorem sent_dispatch (o : TransferOrder) (trimmed amount : Amount) (dust time : UInt64) :
    Step.sent ⟨e, c, .ok (.ticket (next.dispatch o trimmed dust amount time false).1),
      (next.dispatch o trimmed dust amount time false).2⟩ = amount.units.toNat := by
  show (if (none : Option UInt64) = none then
    departureUnits (next.dispatch o trimmed dust amount time false).2
      (next.dispatch o trimmed dust amount time false).1.departure else 0) = amount.units.toNat
  rw [if_pos rfl, departureUnits, departures_dispatch]
  rfl

theorem chargedTo_dispatch (chain : ChainId) (o : TransferOrder) (now : UInt64)
    (trimmed amount : Amount) (dust time : UInt64) :
    Step.chargedTo chain ⟨e, .transfer o now,
      .ok (.ticket (next.dispatch o trimmed dust amount time false).1),
      (next.dispatch o trimmed dust amount time false).2⟩ =
        if o.recipientChain = chain then amount.units.toNat else 0 := by
  have hcharged : Step.charged? ⟨e, .transfer o now,
      .ok (.ticket (next.dispatch o trimmed dust amount time false).1),
      (next.dispatch o trimmed dust amount time false).2⟩ =
        some ⟨next.departures.nextId, next.nextMessage o trimmed, amount, dust, time, false,
          .empty⟩ := departures_dispatch next o trimmed amount dust time false
  rw [Step.chargedTo, hcharged]
  rfl

/-- A vote counts a stored message as it was counted when it was entered. -/
theorem Casts.amount_eq {v : Vote} {amount : Amount} {isNew : Bool} {a b : Arrival}
    (h : e.Casts v amount isNew a b) (hr : Regular e) : b.amount = amount := by
  obtain ⟨-, -, hvote⟩ := Arrival.vote_eq_ok h.vote
  obtain ⟨hmsg, hold | ⟨-, hnew⟩⟩ := Arrivals.entryFor_eq_ok h.entry
  · have ham := (hr.vetted _ _ hold).amount
    rw [hmsg, h.accepts.amount] at ham
    cases ham
    rw [hvote]
  · rw [hvote, hnew]
    rfl

/-- The arrival that was paid out is the one stored under the key of the payout. -/
theorem arrivalUnits_of_paid {p : Payout} {b : Arrival} (hpay : e.payoutOf b.message = .ok p)
    (h : next.arrivals = e.arrivals.put b) : next.arrivalUnits p.key = b.amount.units.toNat := by
  rw [arrivalUnits, h, Arrivals.put, key_of_payoutOf hpay, Table.get?_set_self]
  rfl

theorem receivedAtOnce_paid {chain : ChainId} {r : AttestReport} {p : Payout} {b : Arrival}
    (hr : r.payout = some p) (hpay : e.payoutOf b.message = .ok p)
    (h : next.arrivals = e.arrivals.put b) :
    Step.receivedAtOnce chain ⟨e, c, .ok (.report r), next⟩ =
      if b.message.sourceChain = chain then b.amount.units.toNat else 0 := by
  show r.payout.elim 0 (fun p => if p.sourceChain = chain then next.arrivalUnits p.key else 0) = _
  rw [hr, Option.elim_some, arrivalUnits_of_paid hpay h, (payoutOf_eq_ok.1 hpay).1]

theorem chargedTo_departed {chain : ChainId} {id now : UInt64} {index : UInt8} {d : Departure}
    (hd : e.departures.get? id = some d) (hq : d.queued = true) (hu : d.isUntouched = true) :
    Step.chargedTo chain ⟨e, .releaseDeparture id index now, .ok (.flag true), next⟩ =
      if d.message.recipientChain = chain then d.amount.units.toNat else 0 := by
  have hcharged : Step.charged? ⟨e, .releaseDeparture id index now, .ok (.flag true), next⟩ =
      some d := by
    show (e.departures.get? id).filter (fun d => d.queued && d.isUntouched) = some d
    rw [hd, Option.filter_some, hq, hu]
    rfl
  rw [Step.chargedTo, hcharged]
  rfl

/-! ## The outbound quota -/

theorem moves_creditOutbound (hp : e.terms.period.seconds ≠ 0) (hq : e.outbound.asOf.toNat ≤ t)
    {now : UInt64} (hn : now.toNat ≤ t) (units : UInt64) :
    Quota.Moves e.terms.period t e.outbound (e.creditOutbound units now).outbound 0
      (if e.terms.credit then units.toNat else 0) := by
  unfold creditOutbound
  by_cases hc : e.terms.credit = true
  · rw [if_pos hc, if_pos hc]
    exact Quota.moves_refund hp hq hn units
  · rw [if_neg hc, if_neg hc]
    exact .refl hq

/-- The credit for a payout is what the payout is counted as. -/
theorem moves_payout {f : Endpoint} {payout : Payout} {b : Arrival} {now : UInt64}
    (hp : e.terms.period.seconds ≠ 0) (hq : e.outbound.asOf.toNat ≤ t) (hn : now.toNat ≤ t)
    (hterms : f.terms = e.terms) (hout : f.outbound = e.outbound)
    (harr : f.arrivals = e.arrivals.put b) (hpay : e.payoutOf b.message = .ok payout)
    (hans : payoutOfAnswer answer = some payout) :
    let next := f.creditOutbound b.amount.units now
    Quota.Moves e.terms.period t e.outbound next.outbound 0
      (if e.terms.credit then Step.received ⟨e, c, answer, next⟩ else 0) := by
  intro next
  have hrec : Step.received ⟨e, c, answer, next⟩ = b.amount.units.toNat := by
    rw [Step.received, hans]
    exact arrivalUnits_of_paid hpay (by rw [creditOutbound_arrivals, harr])
  have hmoves := moves_creditOutbound (e := f) (by rwa [hterms]) (by rwa [hout]) hn b.amount.units
  rw [hterms, hout] at hmoves
  rw [hrec]
  exact hmoves

/-- A command takes out of the outbound quota what it sends, and gives it what it pays out. -/
theorem Effect.outbound_moves (h : Effect e c answer next) (hr : Regular e)
    (hp : e.terms.period.seconds ≠ 0) (hq : e.outbound.asOf.toNat ≤ t)
    (hn : ∀ now, c.now? = some now → now.toNat ≤ t) (hl : next.outbound.limit = e.outbound.limit) :
    Quota.Moves e.terms.period t e.outbound next.outbound (Step.sent ⟨e, c, answer, next⟩)
      (if e.terms.credit then Step.received ⟨e, c, answer, next⟩ else 0) := by
  cases h with
  | @outboundResized limit now =>
    have hlimit : limit = e.outbound.limit := hl
    rw [hlimit]
    exact Quota.moves_resize hp hq (hn now rfl)
  | @sent o now _ _ _ _ credited _ hs hc =>
    have hout := (credited_of_creditInbound hc).outbound
    rw [sent_dispatch, dispatch_outbound, hout]
    exact Quota.moves_spend hp hq (hn now rfl) hs
  | @departedCharged _ now _ d _ _ _ _ _ _ _ hc =>
    have hout := (credited_of_creditInbound hc).outbound
    rw [hout]
    exact Quota.moves_drain hp hq (hn now rfl) _
  | @departedUnpeered _ now _ d =>
    exact Quota.moves_drain hp hq (hn now rfl) _
  | @paid _ v amount _ _ b _ _ payout hv hcast _ _ _ hpay =>
    rw [← hcast.message_eq] at hpay
    rw [← hcast.amount_eq hr]
    exact moves_payout (b := { b with status := .released }) hp hq
      (hn v.now (now?_of_vote? hv)) rfl rfl rfl hpay rfl
  | @released _ _ now _ a _ _ _ _ _ hpay =>
    exact moves_payout (b := { a with status := .released }) hp hq (hn now rfl) rfl rfl rfl hpay rfl
  | _ => exact .refl hq

/-! ## The inbound quota of a chain -/

section
variable {chain source : ChainId} {known peer peer' : Peer} {q : Quota} {p : Period}

/-- A new quota for one peer is no change for the others. -/
theorem setInbound_cases {ps : Peers} (hk : PeersKeyed ps) (hs : ps.get? source = some known)
    (hb : ps.get? chain = some peer) (ha : (ps.setInbound known q).get? chain = some peer') :
    (source = chain ∧ known = peer ∧ peer'.inbound = q) ∨ (source ≠ chain ∧ peer' = peer) := by
  rw [hk.get?_setInbound hs] at ha
  by_cases heq : source = chain
  · rw [heq, hb] at hs
    cases hs
    rw [if_pos heq] at ha
    cases ha
    exact .inl ⟨heq, rfl, rfl⟩
  · rw [if_neg heq, hb] at ha
    cases ha
    exact .inr ⟨heq, rfl⟩

/-- The inbound quota of a chain after a credit for value that goes to some chain. -/
theorem moves_creditInbound {credited : Endpoint} {units now : UInt64}
    (h : e.creditInbound source units now = .ok credited) (hk : PeersKeyed e.peers)
    (hp : e.terms.period.seconds ≠ 0) (hq : peer.inbound.asOf.toNat ≤ t) (hn : now.toNat ≤ t)
    (hb : e.peers.get? chain = some peer) (ha : credited.peers.get? chain = some peer') :
    Quota.Moves e.terms.period t peer.inbound peer'.inbound 0
      (if e.terms.credit then if source = chain then units.toNat else 0 else 0) := by
  obtain ⟨known, hknown, rfl⟩ := creditInbound_eq_ok.1 h
  by_cases hc : e.terms.credit = true
  · rw [if_pos hc] at ha
    rw [if_pos hc]
    obtain ⟨heq, rfl, hin⟩ | ⟨hne, rfl⟩ := setInbound_cases hk hknown hb ha
    · rw [if_pos heq, hin]
      exact Quota.moves_refund hp hq hn units
    · rw [if_neg hne]
      exact .refl hq
  · rw [if_neg hc, hb] at ha
    cases ha
    rw [if_neg hc]
    exact .refl hq

theorem inbound_of_registered {manager : Address} {tokenDecimals : UInt8} {limit now : UInt64}
    (h : Peers.registered p (some known) chain manager tokenDecimals limit now = .ok peer) :
    peer.inbound = known.inbound.resize p now limit := by
  unfold Peers.registered at h
  by_cases hm : known.manager = manager
  · by_cases hd : known.tokenDecimals = tokenDecimals
    · simp only [hm, hd, ne_eq, not_true_eq_false, ↓reduceIte] at h
      cases h
      rfl
    · simp [hm, hd] at h
  · simp [hm] at h

/-- A command takes out of the inbound quota of a chain what it pays out at a vote, and gives it
what it charges for value that goes there. -/
theorem Effect.inbound_moves (h : Effect e c answer next) (hr : Regular e)
    (hp : e.terms.period.seconds ≠ 0) (hb : e.peers.get? chain = some peer)
    (ha : next.peers.get? chain = some peer') (hq : peer.inbound.asOf.toNat ≤ t)
    (hn : ∀ now, c.now? = some now → now.toNat ≤ t)
    (hl : peer'.inbound.limit = peer.inbound.limit) :
    Quota.Moves e.terms.period t peer.inbound peer'.inbound
      (Step.receivedAtOnce chain ⟨e, c, answer, next⟩)
      (if e.terms.credit then Step.chargedTo chain ⟨e, c, answer, next⟩ else 0) := by
  have unchanged (h : e.peers.get? chain = some peer') {given : Nat} :
      Quota.Moves e.terms.period t peer.inbound peer'.inbound 0 given := by
    rw [hb] at h
    cases h
    exact .refl hq
  have resized {limit now : UInt64} (hn : now.toNat ≤ t)
      (hin : peer'.inbound = peer.inbound.resize e.terms.period now limit) {given : Nat} :
      Quota.Moves e.terms.period t peer.inbound peer'.inbound 0 given := by
    have hlimit : limit = peer.inbound.limit := by
      rw [hin] at hl
      exact hl
    rw [hin, hlimit]
    exact Quota.moves_resize hp hq hn
  cases h with
  | @peerRegistered source manager tokenDecimals limit now new _ _ hreg =>
    rw [Table.get?_set] at ha
    by_cases heq : source = chain
    · rw [if_pos heq] at ha
      cases ha
      rw [heq, hb] at hreg
      exact resized (hn now rfl) (inbound_of_registered hreg)
    · rw [if_neg heq] at ha
      exact unchanged ha
  | @peerUpdated source manager tokenDecimals known _ hknown =>
    rw [Table.get?_set] at ha
    by_cases heq : source = chain
    · rw [heq, hb] at hknown
      cases hknown
      rw [if_pos heq] at ha
      cases ha
      exact .refl hq
    · rw [if_neg heq] at ha
      exact unchanged ha
  | @inboundResized source limit now known hknown =>
    obtain ⟨-, rfl, hin⟩ | ⟨-, rfl⟩ := setInbound_cases hr.peers hknown hb ha
    · exact resized (hn now rfl) hin
    · exact .refl hq
  | @sent o now dust trimmed amount _ credited _ _ hc =>
    have hmoves := moves_creditInbound hc hr.peers hp hq (hn now rfl) hb ha
    rw [chargedTo_dispatch]
    exact hmoves
  | @departedCharged id now index d d' credited _ hd _ hqueued huntouched hc =>
    have hmoves := moves_creditInbound hc hr.peers hp hq (hn now rfl) hb ha
    rw [chargedTo_departed hd hqueued huntouched]
    exact hmoves
  | @paid _ v amount _ _ b known spent payout hv hcast _ hknown hs hpay =>
    rw [creditOutbound_peers] at ha
    rw [← hcast.message_eq] at hpay hknown
    rw [receivedAtOnce_paid (b := { b with status := .released }) rfl hpay
      (creditOutbound_arrivals ..)]
    show Quota.Moves _ _ _ _ (if b.message.sourceChain = chain then b.amount.units.toNat else 0) _
    obtain ⟨heq, rfl, hin⟩ | ⟨hne, rfl⟩ := setInbound_cases hr.peers hknown hb ha
    · rw [if_pos heq, hin, hcast.amount_eq hr]
      exact Quota.moves_spend hp hq (hn v.now (now?_of_vote? hv)) hs
    · rw [if_neg hne]
      exact .refl hq
  | @lost _ v amount _ _ b known spent _ hv _ _ hknown hs =>
    obtain ⟨-, rfl, hin⟩ | ⟨-, rfl⟩ := setInbound_cases hr.peers hknown hb ha
    · rw [hin]
      exact (Quota.moves_spend hp hq (hn v.now (now?_of_vote? hv)) hs).of_le (Nat.zero_le _)
    · exact .refl hq
  | @released source _ now _ a _ known _ _ _ _ hknown =>
    rw [creditOutbound_peers] at ha
    obtain ⟨-, rfl, hin⟩ | ⟨-, rfl⟩ := setInbound_cases hr.peers hknown hb ha
    · rw [hin]
      exact Quota.moves_drain hp hq (hn now rfl) _
    · exact .refl hq
  | _ => exact unchanged ha

end

/-! ## Runs -/

/-- What a run takes out of a quota that every step moves is covered by the potential at the
start and what the run gives to it. -/
theorem sum_taken_le {p : Period} {P : Endpoint → Quota → Prop} {taken given : Step → Nat}
    {cs : List Command} {q : Quota} (hq : P e q)
    (hstep : ∀ f, ∀ c ∈ cs, f.step c ∈ e.steps cs → ∀ q, P f q →
      ∃ q', P (perform c f).2 q' ∧
        Quota.Moves p t q q' (taken (f.step c)) (given (f.step c))) :
    ((e.steps cs).map taken).sum ≤ q.potential p t + ((e.steps cs).map given).sum := by
  induction cs generalizing e q with
  | nil => simp
  | cons c cs ih =>
    obtain ⟨q', hq', hmoves⟩ := hstep e c List.mem_cons_self List.mem_cons_self q hq
    have hrest := ih hq' fun f d hd hs =>
      hstep f d (List.mem_cons_of_mem _ hd) (List.mem_cons_of_mem _ hs)
    have hfirst := hmoves.potential
    simp only [steps, List.map_cons, List.sum_cons]
    omega

theorem sum_ite (credit : Bool) (ss : List Step) (f : Step → Nat) :
    (ss.map fun s => if credit then f s else 0).sum = if credit then (ss.map f).sum else 0 := by
  cases credit with
  | true => rfl
  | false => simp

/-- The transfers that leave without a wait, over a run that keeps the outbound limit. -/
theorem sum_sent_le (hr : Regular e) (hp : e.terms.period.seconds ≠ 0) {cs : List Command}
    (hl : ∀ s ∈ e.steps cs, s.after.outbound.limit = e.outbound.limit)
    (hq : e.outbound.asOf.toNat ≤ t) (hn : Covers t cs) :
    ((e.steps cs).map Step.sent).sum ≤ e.outbound.potential e.terms.period t +
      if e.terms.credit then ((e.steps cs).map Step.received).sum else 0 := by
  rw [← sum_ite]
  refine sum_taken_le (P := fun f q => Regular f ∧ f.terms = e.terms ∧ f.outbound = q ∧
    q.asOf.toNat ≤ t ∧ q.limit = e.outbound.limit) ⟨hr, rfl, rfl, hq, rfl⟩ ?_
  rintro f c hc hs _ ⟨hrf, hterms, rfl, hasOf, hlimit⟩
  have hnext : (perform c f).2.outbound.limit = f.outbound.limit := (hl _ hs).trans hlimit.symm
  have hmoves := (perform_effect f c).outbound_moves hrf (by rwa [hterms]) hasOf (hn c hc) hnext
  rw [hterms] at hmoves
  exact ⟨_, ⟨regular_perform hrf c, (perform_effect f c).terms_eq.trans hterms, rfl, hmoves.asOf,
    hmoves.limit.trans hlimit⟩, hmoves⟩

/-- The payouts at votes for messages of a chain, over a run that keeps the limit of the chain. -/
theorem sum_receivedAtOnce_le (hr : Regular e) (hp : e.terms.period.seconds ≠ 0)
    {cs : List Command} {chain : ChainId} {peer : Peer} (hb : e.peers.get? chain = some peer)
    (hl : ∀ s ∈ e.steps cs, ∀ p, s.after.peers.get? chain = some p →
      p.inbound.limit = peer.inbound.limit)
    (hq : peer.inbound.asOf.toNat ≤ t) (hn : Covers t cs) :
    ((e.steps cs).map (Step.receivedAtOnce chain)).sum ≤
      peer.inbound.potential e.terms.period t +
        if e.terms.credit then ((e.steps cs).map (Step.chargedTo chain)).sum else 0 := by
  rw [← sum_ite]
  refine sum_taken_le (P := fun f q => Regular f ∧ f.terms = e.terms ∧
    (∃ p, f.peers.get? chain = some p ∧ p.inbound = q) ∧ q.asOf.toNat ≤ t ∧
      q.limit = peer.inbound.limit) ⟨hr, rfl, ⟨peer, hb, rfl⟩, hq, rfl⟩ ?_
  rintro f c hc hs _ ⟨hrf, hterms, ⟨known, hknown, rfl⟩, hasOf, hlimit⟩
  obtain ⟨p, hp'⟩ := (perform_effect f c).peer_stays hrf.peers hknown
  have hnext : p.inbound.limit = known.inbound.limit := (hl _ hs p hp').trans hlimit.symm
  have hmoves := (perform_effect f c).inbound_moves hrf (by rwa [hterms]) hknown hp' hasOf (hn c hc)
    hnext
  rw [hterms] at hmoves
  exact ⟨_, ⟨regular_perform hrf c, (perform_effect f c).terms_eq.trans hterms, ⟨p, hp', rfl⟩,
    hmoves.asOf, hmoves.limit.trans hlimit⟩, hmoves⟩

/-- **The quotas bound what crosses in any run.** While a limit stays what it is, what leaves
without a wait, or arrives from a chain at a vote, is no more than what remained, what
refills until the latest time of the run, and, with credit, what flowed the other way. -/
theorem quotas_bound_flow (h : Reachable e) (hp : e.terms.period.seconds ≠ 0)
    (cs : List Command) :
    ((∀ s ∈ e.steps cs, s.after.outbound.limit = e.outbound.limit) →
      ((e.steps cs).map Step.sent).sum ≤
        e.outbound.potential e.terms.period (latest e.outbound.asOf cs) +
          if e.terms.credit then ((e.steps cs).map Step.received).sum else 0) ∧
    ∀ chain peer, e.peers.get? chain = some peer →
      (∀ s ∈ e.steps cs, ∀ p, s.after.peers.get? chain = some p →
        p.inbound.limit = peer.inbound.limit) →
      ((e.steps cs).map (Step.receivedAtOnce chain)).sum ≤
        peer.inbound.potential e.terms.period (latest peer.inbound.asOf cs) +
          if e.terms.credit then ((e.steps cs).map (Step.chargedTo chain)).sum else 0 :=
  ⟨fun hl => sum_sent_le h.regular hp hl (le_latest ..) (covers_latest _ _),
    fun _ _ hb hl => sum_receivedAtOnce_le h.regular hp hb hl (le_latest ..) (covers_latest _ _)⟩

/-- A transfer of 300 units and a message of 500, within quotas of 1000 a day. -/
theorem quotas_bound_flow_sample :
    let e := (Sample.endpoint.run (Sample.opening 1000)).2
    let order : TransferOrder :=
      ⟨3000000000000, ⟨2⟩, Sample.address 3, Sample.address 1, false, []⟩
    let cs := .transfer order 150 :: Sample.votes (Sample.message 7 500) 200
    ((e.steps cs).map Step.sent).sum = 300 ∧ ((e.steps cs).map Step.received).sum = 500 ∧
      ((e.steps cs).map (Step.receivedAtOnce ⟨2⟩)).sum = 500 ∧
      ((e.steps cs).map (Step.chargedTo ⟨2⟩)).sum = 300 ∧
      ((e.steps cs).map Step.sent).sum ≤ e.outbound.potential e.terms.period 200 + 500 ∧
      ∃ peer, e.peers.get? ⟨2⟩ = some peer ∧
        ((e.steps cs).map (Step.receivedAtOnce ⟨2⟩)).sum ≤
          peer.inbound.potential e.terms.period 200 + 300 := by
  intro e order cs
  have he : Reachable e := (Reachable.start Sample.establish_eq).run (Sample.opening 1000)
  have hout : ∀ s ∈ e.steps cs, s.after.outbound.limit = e.outbound.limit := by decide +kernel
  have hin : ∀ s ∈ e.steps cs, ∀ p ∈ s.after.peers.get? ⟨2⟩, p.inbound.limit = 1000 := by
    decide +kernel
  have hcredit : e.terms.credit = true := rfl
  have hlatest : latest 100 cs = 200 := rfl
  have hreceived : ((e.steps cs).map Step.received).sum = 500 := by decide +kernel
  have hcharged : ((e.steps cs).map (Step.chargedTo ⟨2⟩)).sum = 300 := by decide +kernel
  obtain ⟨hleave, harrive⟩ := quotas_bound_flow he (by decide) cs
  have hsent := hleave hout
  have hpaid := harrive ⟨2⟩ _ rfl hin
  rw [if_pos hcredit, hreceived] at hsent
  rw [if_pos hcredit, hcharged] at hpaid
  exact ⟨by decide +kernel, hreceived, by decide +kernel, hcharged, hlatest ▸ hsent, _, rfl,
    hlatest ▸ hpaid⟩

end Endpoint

end TokenBridge
