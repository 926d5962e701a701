import TokenBridge.Proofs.History
import TokenBridge.Proofs.Outcome

/-!
# What a command can do

`Effect e c answer next` lists the ways in which the command `c` can end in the state `e`:
one constructor for each, with the checks that were passed, the answer and the next state.
`perform_effect` says that there are no others. Invariants and histories are proved from it
by cases, so no later proof opens an action.

`Accepts` lists the checks of a vote, and `Casts` adds what the vote does to the arrival
that it is for.
-/

namespace TokenBridge

namespace Endpoint

/-- The checks that a vote passes before it counts; `amount` is its message's amount in the
decimals of the quotas. -/
structure Accepts (e : Endpoint) (v : Vote) (amount : Amount) : Prop where
  enabled : e.transceivers.isEnabled v.index = true
  emitter : e.transceivers.peer? v.index v.message.sourceChain = some v.emitter
  manager : ∃ peer, e.peers.get? v.message.sourceChain = some peer ∧
    peer.manager = v.message.sourceManager
  recipientChain : v.message.recipientChain = e.site.chain
  decimals : v.message.amount.decimals ≤ e.site.tokenDecimals
  amount : v.message.amount.withDecimals e.quotaDecimals = .ok amount

theorem accept_eq_ok {e : Endpoint} {v : Vote} {amount : Amount} :
    e.accept v.index v.emitter v.message = .ok amount ↔ e.Accepts v amount := by
  have hpeer (t : Transceiver) (ht : e.transceivers.get? v.index = some t) :
      e.transceivers.peer? v.index v.message.sourceChain = t.peers.get? v.message.sourceChain := by
    simp [Transceivers.peer?, ht]
  constructor
  · intro h
    unfold accept at h
    simp only [bind_eq_ok] at h
    obtain ⟨t, ht, h⟩ := h
    obtain ⟨hen, hget⟩ := Transceivers.requireEnabled_eq_ok.1 ht
    split at h
    · cases h
    · rename_i expected hexp
      simp only [guard_eq_ok, bind_eq_ok, not_not, Peers.require_eq_ok, scaled_eq_ok,
        UInt8.not_lt] at h
      obtain ⟨rfl, peer, hp, hman, hrec, hdec, ham⟩ := h
      exact ⟨hen, by rw [hpeer t hget, hexp], ⟨peer, hp, hman⟩, hrec, hdec, ham⟩
  · intro h
    obtain ⟨peer, hp, hman⟩ := h.manager
    have hen := h.enabled
    have hem := h.emitter
    cases hget : e.transceivers.get? v.index with
    | none => simp [Transceivers.peer?, hget] at hem
    | some t =>
      rw [hpeer t hget] at hem
      unfold accept
      simp only [bind_eq_ok]
      refine ⟨t, Transceivers.requireEnabled_eq_ok.2 ⟨hen, hget⟩, ?_⟩
      rw [hem]
      simp only [guard_eq_ok, bind_eq_ok, not_not, Peers.require_eq_ok, scaled_eq_ok, UInt8.not_lt]
      exact ⟨trivial, peer, hp, hman, h.recipientChain, h.decimals, h.amount⟩

/-- The vote `v` passes the checks and turns `a`, the entry for its message, into `b`. -/
structure Casts (e : Endpoint) (v : Vote) (amount : Amount) (isNew : Bool) (a b : Arrival) :
    Prop where
  accepts : e.Accepts v amount
  entry : e.arrivals.entryFor v.message amount = .ok a
  vote : a.vote v.index = .ok (isNew, b)

/-- A vote brings an arrival to its settlement. -/
def Settles (e : Endpoint) (b : Arrival) : Prop :=
  b.isApproved e.transceivers.enabled e.threshold = true ∧ b.status = .notApproved

instance (e : Endpoint) (b : Arrival) : Decidable (e.Settles b) :=
  inferInstanceAs (Decidable (_ ∧ _))

/-- How an attestation is reported that left the arrival `b` behind. -/
def reportOf (e : Endpoint) (isNew : Bool) (b : Arrival) (payout : Option Payout) : AttestReport :=
  ⟨isNew, b.voteCount e.transceivers.enabled, b.isApproved e.transceivers.enabled e.threshold,
    b.status, payout⟩

def TransferOrder.onShortage (o : TransferOrder) : OnShortage :=
  if o.mayQueue then .queue else .refuse

inductive Effect (e : Endpoint) : Command → Except Error Answer → Endpoint → Prop where
  | refused {c : Command} (err : Error) : Effect e c (.error err) e
  | peerRegistered {chain : ChainId} {manager : Address} {tokenDecimals : UInt8}
      {limit now : UInt64} {peer : Peer} :
      chain ≠ e.site.chain → Peers.validate chain manager tokenDecimals = .ok () →
      Peers.registered e.terms.period (e.peers.get? chain) chain manager tokenDecimals limit now
        = .ok peer →
      Effect e (.registerPeer chain manager tokenDecimals limit now) (.ok (.peer peer))
        { e with peers := e.peers.set chain peer }
  | peerUpdated {chain : ChainId} {manager : Address} {tokenDecimals : UInt8} {peer : Peer} :
      Peers.validate chain manager tokenDecimals = .ok () → e.peers.get? chain = some peer →
      Effect e (.updatePeer chain manager tokenDecimals)
        (.ok (.peer { peer with manager, tokenDecimals }))
        { e with peers := e.peers.set chain { peer with manager, tokenDecimals } }
  | transceiverRegistered {address : Address} {index : UInt8} {ts : Transceivers} :
      e.transceivers.register address = .ok (index, ts) →
      Effect e (.registerTransceiver address) (.ok (.index index))
        { e with transceivers := ts, threshold := if e.threshold = 0 then 1 else e.threshold }
  | transceiverDeregistered {index : UInt8} {ts : Transceivers} :
      e.transceivers.deregister index = .ok ts →
      Effect e (.deregisterTransceiver index) (.ok .nothing)
        { e with transceivers := ts, threshold := min e.threshold ts.enabledCount }
  | transceiverPeerSet {index : UInt8} {chain : ChainId} {address : Address} {ts : Transceivers} :
      e.transceivers.setPeer index chain address = .ok ts →
      Effect e (.setTransceiverPeer index chain address) (.ok .nothing)
        { e with transceivers := ts }
  | thresholdSet {threshold : UInt8} :
      threshold ≠ 0 → threshold ≤ e.transceivers.enabledCount →
      Effect e (.setThreshold threshold) (.ok .nothing) { e with threshold }
  | outboundResized {limit now : UInt64} :
      Effect e (.setOutboundLimit limit now) (.ok .nothing)
        { e with outbound := e.outbound.resize e.terms.period now limit }
  | inboundResized {chain : ChainId} {limit now : UInt64} {peer : Peer} :
      e.peers.get? chain = some peer →
      Effect e (.setInboundLimit chain limit now) (.ok .nothing)
        { e with peers := e.peers.setInbound peer (peer.inbound.resize e.terms.period now limit) }
  /-- A transfer that the outbound quota can bear. -/
  | sent {o : TransferOrder} {now dust : UInt64} {trimmed amount : Amount} {next : Quota}
      {credited : Endpoint} :
      e.measure o = .ok (trimmed, dust, amount) →
      e.outbound.spend e.terms.period now amount.units (TransferOrder.onShortage o)
        = .ok (.spent next) →
      creditInbound { e with outbound := next } o.recipientChain amount.units now = .ok credited →
      Effect e (.transfer o now)
        (.ok (.ticket (credited.dispatch o trimmed dust amount now false).1))
        (credited.dispatch o trimmed dust amount now false).2
  /-- A transfer that waits for the outbound quota. -/
  | deferred {o : TransferOrder} {now dust releaseAt : UInt64} {trimmed amount : Amount} :
      e.measure o = .ok (trimmed, dust, amount) →
      e.outbound.spend e.terms.period now amount.units (TransferOrder.onShortage o)
        = .ok (.queued releaseAt) →
      Effect e (.transfer o now)
        (.ok (.ticket (e.dispatch o trimmed dust amount releaseAt true).1))
        (e.dispatch o trimmed dust amount releaseAt true).2
  | departedBefore {id now : UInt64} {index : UInt8} {d d' : Departure} :
      e.transceivers.isEnabled index = true → e.departures.get? id = some d →
      d.tryRelease index now = .ok (false, d') →
      Effect e (.releaseDeparture id index now) (.ok (.flag false)) e
  /-- A release of a departure that has been charged already. -/
  | departed {id now : UInt64} {index : UInt8} {d d' : Departure} :
      e.transceivers.isEnabled index = true → e.departures.get? id = some d →
      d.tryRelease index now = .ok (true, d') → ¬ (d.queued = true ∧ d.isUntouched = true) →
      Effect e (.releaseDeparture id index now) (.ok (.flag true))
        { e with departures := e.departures.put d' }
  /-- The first release of a queued departure, which charges the outbound quota. -/
  | departedCharged {id now : UInt64} {index : UInt8} {d d' : Departure} {credited : Endpoint} :
      e.transceivers.isEnabled index = true → e.departures.get? id = some d →
      d.tryRelease index now = .ok (true, d') → d.queued = true → d.isUntouched = true →
      creditInbound
        { e with
          departures := e.departures.put d'
          outbound := e.outbound.drain e.terms.period now d.amount.units }
        d.message.recipientChain d.amount.units now = .ok credited →
      Effect e (.releaseDeparture id index now) (.ok (.flag true)) credited
  | departedUnpeered {id now : UInt64} {index : UInt8} {d d' : Departure} (err : Error) :
      e.transceivers.isEnabled index = true → e.departures.get? id = some d →
      d.tryRelease index now = .ok (true, d') → d.queued = true → d.isUntouched = true →
      e.peers.get? d.message.recipientChain = none →
      Effect e (.releaseDeparture id index now) (.error err)
        { e with
          departures := e.departures.put d'
          outbound := e.outbound.drain e.terms.period now d.amount.units }
  | cancelled {id : UInt64} {d : Departure} :
      e.departures.get? id = some d → d.queued = true → d.isUntouched = true →
      Effect e (.cancelDeparture id) (.ok (.departure d))
        { e with departures := { e.departures with items := e.departures.items.erase id } }
  /-- A vote that is not the one to settle its message. -/
  | voted {c : Command} {v : Vote} {amount : Amount} {isNew : Bool} {a b : Arrival} :
      c.vote? = some v → e.Casts v amount isNew a b → ¬ e.Settles b →
      Effect e c (.ok (.report (e.reportOf isNew b none))) (e.putArrival b)
  /-- The inbound quota cannot even tell when the message will fit. -/
  | unsettled {c : Command} {v : Vote} {amount : Amount} {isNew : Bool} {a b : Arrival}
      {peer : Peer} (err : Error) :
      c.vote? = some v → e.Casts v amount isNew a b → e.Settles b →
      e.peers.get? v.message.sourceChain = some peer →
      peer.inbound.spend e.terms.period v.now amount.units .queue = .error err →
      Effect e c (.error err) (e.putArrival b)
  | scheduled {c : Command} {v : Vote} {amount : Amount} {isNew : Bool} {a b : Arrival}
      {peer : Peer} {time : UInt64} :
      c.vote? = some v → e.Casts v amount isNew a b → e.Settles b →
      e.peers.get? v.message.sourceChain = some peer →
      peer.inbound.spend e.terms.period v.now amount.units .queue = .ok (.queued time) →
      Effect e c
        (.ok (.report { e.reportOf isNew b none with status := .releaseAfter time }))
        (e.putArrival { b with status := .releaseAfter time })
  | paid {c : Command} {v : Vote} {amount : Amount} {isNew : Bool} {a b : Arrival} {peer : Peer}
      {next : Quota} {payout : Payout} :
      c.vote? = some v → e.Casts v amount isNew a b → e.Settles b →
      e.peers.get? v.message.sourceChain = some peer →
      peer.inbound.spend e.terms.period v.now amount.units .queue = .ok (.spent next) →
      e.payoutOf v.message = .ok payout →
      Effect e c
        (.ok (.report { e.reportOf isNew b (some payout) with status := .released }))
        ({ e.putArrival { b with status := .released } with
            peers := e.peers.setInbound peer next }.creditOutbound amount.units v.now)
  /-- The message is marked as released, but its value cannot be counted. -/
  | lost {c : Command} {v : Vote} {amount : Amount} {isNew : Bool} {a b : Arrival} {peer : Peer}
      {next : Quota} (err : Error) :
      c.vote? = some v → e.Casts v amount isNew a b → e.Settles b →
      e.peers.get? v.message.sourceChain = some peer →
      peer.inbound.spend e.terms.period v.now amount.units .queue = .ok (.spent next) →
      e.payoutOf v.message = .error err →
      Effect e c (.error err)
        { e.putArrival { b with status := .released } with
          peers := e.peers.setInbound peer next }
  | releasedBefore {chain : ChainId} {id : MessageId} {now : UInt64} {a : Arrival} :
      e.arrivals.get? (chain, id) = some a → a.status = .released →
      Effect e (.release chain id now) (.ok (.release .alreadyReleased)) e
  | released {chain : ChainId} {id : MessageId} {now time : UInt64} {a : Arrival}
      {payout : Payout} {peer : Peer} :
      e.arrivals.get? (chain, id) = some a → a.status = .releaseAfter time → time ≤ now →
      e.payoutOf a.message = .ok payout → e.peers.get? chain = some peer →
      Effect e (.release chain id now) (.ok (.release (.released payout)))
        ({ e.putArrival { a with status := .released } with
            peers := e.peers.setInbound peer
              (peer.inbound.drain e.terms.period now a.amount.units) }.creditOutbound
          a.amount.units now)
  | releaseLost {chain : ChainId} {id : MessageId} {now time : UInt64} {a : Arrival}
      (err : Error) :
      e.arrivals.get? (chain, id) = some a → a.status = .releaseAfter time → time ≤ now →
      (e.payoutOf a.message = .error err ∨ e.peers.get? chain = none) →
      Effect e (.release chain id now) (.error err)
        (e.putArrival { a with status := .released })

theorem commit_cases {α : Type} (f : Endpoint → Except Error (α × Endpoint)) (e : Endpoint) :
    (∃ err, commit f e = (.error err, e)) ∨
      ∃ a next, f e = .ok (a, next) ∧ commit f e = (.ok a, next) := by
  unfold commit
  split
  · exact .inl ⟨_, rfl⟩
  · exact .inr ⟨_, _, ‹_›, rfl⟩

/-- An action that keeps the state when it fails needs a look at its successes only. -/
theorem effect_commit {α : Type} {f : Endpoint → Except Error (α × Endpoint)} {g : α → Answer}
    {e : Endpoint} {c : Command} (hc : perform c e = (commit f).as g e)
    (h : ∀ a next, f e = .ok (a, next) → Effect e c (.ok (g a)) next) :
    Effect e c (perform c e).1 (perform c e).2 := by
  rw [hc, Action.as]
  obtain ⟨err, hf⟩ | ⟨a, next, hf, hf'⟩ := commit_cases f e
  · rw [hf]
    exact .refused err
  · rw [hf']
    exact h a next hf

/-! ## Peers, transceivers and quotas -/

section
variable (e : Endpoint)

theorem effect_registerPeer (chain : ChainId) (manager : Address) (tokenDecimals : UInt8)
    (limit now : UInt64) :
    let c := Command.registerPeer chain manager tokenDecimals limit now
    Effect e c (perform c e).1 (perform c e).2 := by
  refine effect_commit rfl fun peer next h => ?_
  simp only [guard_eq_ok, bind_eq_ok, pure_eq_ok, Peers.register] at h
  obtain ⟨hchain, _, ⟨_, hvalid, peer, hreg, rfl⟩, hnext⟩ := h
  cases hnext
  exact .peerRegistered hchain hvalid hreg

theorem effect_updatePeer (chain : ChainId) (manager : Address) (tokenDecimals : UInt8) :
    let c := Command.updatePeer chain manager tokenDecimals
    Effect e c (perform c e).1 (perform c e).2 := by
  refine effect_commit rfl fun peer next h => ?_
  simp only [bind_eq_ok, pure_eq_ok, Peers.update, Peers.require_eq_ok] at h
  obtain ⟨_, ⟨_, hvalid, known, hknown, rfl⟩, hnext⟩ := h
  cases hnext
  exact .peerUpdated hvalid hknown

theorem effect_registerTransceiver (address : Address) :
    let c := Command.registerTransceiver address
    Effect e c (perform c e).1 (perform c e).2 := by
  refine effect_commit rfl fun index next h => ?_
  simp only [bind_eq_ok, pure_eq_ok] at h
  obtain ⟨⟨i, ts⟩, hreg, hnext⟩ := h
  cases hnext
  exact .transceiverRegistered hreg

theorem effect_deregisterTransceiver (index : UInt8) :
    let c := Command.deregisterTransceiver index
    Effect e c (perform c e).1 (perform c e).2 := by
  refine effect_commit rfl fun u next h => ?_
  simp only [bind_eq_ok, pure_eq_ok] at h
  obtain ⟨ts, hreg, hnext⟩ := h
  cases hnext
  exact .transceiverDeregistered hreg

theorem effect_setTransceiverPeer (index : UInt8) (chain : ChainId) (address : Address) :
    let c := Command.setTransceiverPeer index chain address
    Effect e c (perform c e).1 (perform c e).2 := by
  refine effect_commit rfl fun u next h => ?_
  simp only [bind_eq_ok, pure_eq_ok] at h
  obtain ⟨ts, hset, hnext⟩ := h
  cases hnext
  exact .transceiverPeerSet hset

theorem effect_setThreshold (threshold : UInt8) :
    let c := Command.setThreshold threshold
    Effect e c (perform c e).1 (perform c e).2 := by
  refine effect_commit rfl fun u next h => ?_
  simp only [guard_eq_ok, pure_eq_ok, not_or, UInt8.not_lt] at h
  obtain ⟨⟨hpos, hle⟩, hnext⟩ := h
  cases hnext
  exact .thresholdSet hpos hle

theorem effect_setInboundLimit (chain : ChainId) (limit now : UInt64) :
    let c := Command.setInboundLimit chain limit now
    Effect e c (perform c e).1 (perform c e).2 := by
  refine effect_commit rfl fun u next h => ?_
  simp only [bind_eq_ok, pure_eq_ok, Peers.require_eq_ok] at h
  obtain ⟨peer, hpeer, hnext⟩ := h
  cases hnext
  exact .inboundResized hpeer

end

/-! ## Transfers that leave -/

theorem creditInbound_eq_ok {e next : Endpoint} {chain : ChainId} {amount now : UInt64} :
    e.creditInbound chain amount now = .ok next ↔
      ∃ peer, e.peers.get? chain = some peer ∧
        (if e.terms.credit then { e with
          peers := e.peers.setInbound peer (peer.inbound.refund e.terms.period now amount) }
        else e) = next := by
  simp only [creditInbound, bind_eq_ok, Peers.require_eq_ok]
  by_cases h : e.terms.credit = true <;> simp [h, pure, Except.pure]

theorem creditInbound_eq_error {e : Endpoint} {chain : ChainId} {amount now : UInt64} {err : Error}
    (h : e.creditInbound chain amount now = .error err) : e.peers.get? chain = none := by
  cases hp : e.peers.get? chain with
  | none => rfl
  | some peer =>
    have hok : e.creditInbound chain amount now = .ok _ := creditInbound_eq_ok.2 ⟨peer, hp, rfl⟩
    rw [h] at hok
    cases hok

/-- An order is measured against the peer that it goes to. -/
theorem exists_peer_of_measure {e : Endpoint} {o : TransferOrder} {trimmed amount : Amount}
    {dust : UInt64} (h : e.measure o = .ok (trimmed, dust, amount)) :
    ∃ peer, e.peers.get? o.recipientChain = some peer := by
  unfold measure at h
  simp only [guard_eq_ok, bind_eq_ok, Peers.require_eq_ok] at h
  obtain ⟨-, -, -, peer, hp, -⟩ := h
  exact ⟨peer, hp⟩

/-- The credit for a transfer cannot fail after the measuring. -/
theorem exists_credit_of_measure {e : Endpoint} {o : TransferOrder} {trimmed amount : Amount}
    {dust : UInt64} (h : e.measure o = .ok (trimmed, dust, amount)) (charged : Quota)
    (units now : UInt64) :
    ∃ credited, { e with outbound := charged }.creditInbound o.recipientChain units now
      = .ok credited := by
  obtain ⟨peer, hp⟩ := exists_peer_of_measure h
  exact ⟨_, creditInbound_eq_ok.2 ⟨peer, hp, rfl⟩⟩

theorem effect_transfer (e : Endpoint) (o : TransferOrder) (now : UInt64) :
    let c := Command.transfer o now
    Effect e c (perform c e).1 (perform c e).2 := by
  simp only [perform, Action.as, transfer]
  split
  · exact .refused _
  · rename_i trimmed dust amount releaseAt hquoted
    simp only [bind_eq_ok, pure_eq_ok] at hquoted
    obtain ⟨_, hm, _, hs, heq⟩ := hquoted
    cases heq
    exact .deferred hm hs
  · rename_i hquoted
    simp only [bind_eq_ok, pure_eq_ok] at hquoted
    obtain ⟨⟨trimmed, dust, amount⟩, hm, outcome, hs, heq⟩ := hquoted
    cases heq
    obtain ⟨credited, hc⟩ := exists_credit_of_measure hm _ amount.units now
    rw [hc]
    exact .sent hm hs hc

/-- Charging a release that is not the first of a queued departure does nothing. -/
theorem chargeRelease_cases (e : Endpoint) (d : Departure) (now : UInt64) :
    (¬ (d.queued = true ∧ d.isUntouched = true) ∧ e.chargeRelease d now = (.ok (), e)) ∨
    (d.queued = true ∧ d.isUntouched = true ∧
      let drained := { e with outbound := e.outbound.drain e.terms.period now d.amount.units }
      (∃ credited, drained.creditInbound d.message.recipientChain d.amount.units now
          = .ok credited ∧ e.chargeRelease d now = (.ok (), credited)) ∨
      (∃ err, e.peers.get? d.message.recipientChain = none ∧
        e.chargeRelease d now = (.error err, drained))) := by
  unfold chargeRelease
  by_cases h : d.queued = true ∧ d.isUntouched = true
  · refine .inr ⟨h.1, h.2, ?_⟩
    simp only [h.1, h.2, Bool.and_self, ↓reduceIte]
    split
    · exact .inl ⟨_, ‹_›, rfl⟩
    · rename_i err herr
      have hp := creditInbound_eq_error herr
      exact .inr ⟨err, hp, rfl⟩
  · refine .inl ⟨h, ?_⟩
    rw [if_neg (by simpa using h)]

theorem effect_releaseDeparture (e : Endpoint) (id : UInt64) (index : UInt8) (now : UInt64) :
    let c := Command.releaseDeparture id index now
    Effect e c (perform c e).1 (perform c e).2 := by
  simp only [perform, Action.as, releaseDeparture]
  split
  · exact .refused _
  · rename_i d d' hattempt
    simp only [bind_eq_ok, pure_eq_ok, discard_eq_ok, Departures.require_eq_ok,
      Transceivers.requireEnabled_eq_ok] at hattempt
    obtain ⟨_, ⟨t, hen, -⟩, _, hd, _, htry, heq⟩ := hattempt
    cases heq
    exact .departedBefore hen hd htry
  · rename_i d d' hattempt
    simp only [bind_eq_ok, pure_eq_ok, discard_eq_ok, Departures.require_eq_ok,
      Transceivers.requireEnabled_eq_ok] at hattempt
    obtain ⟨_, ⟨t, hen, -⟩, _, hd, _, htry, heq⟩ := hattempt
    cases heq
    obtain ⟨hn, hc⟩ | ⟨hq, hu, ⟨credited, hcr, hc⟩ | ⟨err, hp, hc⟩⟩ :=
      chargeRelease_cases { e with departures := e.departures.put d' } d now
    · rw [hc]
      exact .departed hen hd htry hn
    · rw [hc]
      exact .departedCharged hen hd htry hq hu hcr
    · rw [hc]
      exact .departedUnpeered err hen hd htry hq hu hp

theorem effect_cancelDeparture (e : Endpoint) (id : UInt64) :
    let c := Command.cancelDeparture id
    Effect e c (perform c e).1 (perform c e).2 := by
  refine effect_commit rfl fun d next h => ?_
  simp only [bind_eq_ok, pure_eq_ok, guard_eq_ok, Departures.cancel, Departures.require_eq_ok,
    Bool.not_eq_true', Bool.not_eq_false] at h
  obtain ⟨_, ⟨d, hd, hq, hu, rfl⟩, hnext⟩ := h
  cases hnext
  exact .cancelled hd hq hu

/-! ## Transfers that arrive -/

section
variable {e : Endpoint} {v : Vote} {amount : Amount} {isNew : Bool} {a b : Arrival}

theorem Casts.entry_message_eq (h : e.Casts v amount isNew a b) : a.message = v.message :=
  (Arrivals.entryFor_eq_ok h.entry).1

theorem Casts.message_eq (h : e.Casts v amount isNew a b) : b.message = v.message := by
  obtain ⟨-, -, heq⟩ := Arrival.vote_eq_ok h.vote
  rw [heq]
  exact h.entry_message_eq

theorem Casts.status_eq (h : e.Casts v amount isNew a b) : b.status = a.status := by
  obtain ⟨-, -, heq⟩ := Arrival.vote_eq_ok h.vote
  rw [heq]

end

theorem putArrival_withStatus (e : Endpoint) (b : Arrival) (status : ReleaseStatus) :
    (e.putArrival b).putArrival { b with status } = e.putArrival { b with status } := by
  simp [putArrival, Arrivals.put]

section
variable {e : Endpoint} {b : Arrival} {peer : Peer} {units now : UInt64}

theorem settle_of_error {err : Error} (hp : e.peers.get? b.message.sourceChain = some peer)
    (hs : peer.inbound.spend e.terms.period now units .queue = .error err) :
    e.settle b units now = (.error err, e) := by
  simp [settle, Peers.require_eq_ok.2 hp, hs, bind, Except.bind]

theorem settle_of_queued {time : UInt64} (hb : b.status = .notApproved)
    (hp : e.peers.get? b.message.sourceChain = some peer)
    (hs : peer.inbound.spend e.terms.period now units .queue = .ok (.queued time)) :
    e.settle b units now = (.ok (.releaseAfter time, none),
      e.putArrival { b with status := .releaseAfter time }) := by
  simp [settle, Peers.require_eq_ok.2 hp, hs, bind, Except.bind, pure, Except.pure,
    Arrival.schedule, hb]

theorem settle_of_paid {next : Quota} {payout : Payout} (hb : b.status = .notApproved)
    (hp : e.peers.get? b.message.sourceChain = some peer)
    (hs : peer.inbound.spend e.terms.period now units .queue = .ok (.spent next))
    (hpay : e.payoutOf b.message = .ok payout) :
    e.settle b units now = (.ok (.released, some payout),
      { e.putArrival { b with status := .released } with
        peers := e.peers.setInbound peer next }.creditOutbound units now) := by
  unfold payoutOf at hpay
  simp [settle, Peers.require_eq_ok.2 hp, hs, bind, Except.bind, pure, Except.pure,
    Arrival.releaseNow, hb, payoutOf, putArrival] at hpay ⊢
  rw [hpay]

theorem settle_of_lost {next : Quota} {err : Error} (hb : b.status = .notApproved)
    (hp : e.peers.get? b.message.sourceChain = some peer)
    (hs : peer.inbound.spend e.terms.period now units .queue = .ok (.spent next))
    (hpay : e.payoutOf b.message = .error err) :
    e.settle b units now = (.error err, { e.putArrival { b with status := .released } with
      peers := e.peers.setInbound peer next }) := by
  unfold payoutOf at hpay
  simp [settle, Peers.require_eq_ok.2 hp, hs, bind, Except.bind, pure, Except.pure,
    Arrival.releaseNow, hb, payoutOf, putArrival] at hpay ⊢
  rw [hpay]

end

/-- A vote is cast, or it is refused and changes nothing. -/
theorem attest_cases (e : Endpoint) (v : Vote) :
    (∃ err, attest v.index v.emitter v.message v.now e = (.error err, e)) ∨
      ∃ amount isNew a b, e.Casts v amount isNew a b := by
  simp only [attest]
  split
  · exact .inl ⟨_, rfl⟩
  · rename_i amount isNew b hballot
    simp only [bind_eq_ok, pure_eq_ok] at hballot
    obtain ⟨_, hacc, a, hentry, ⟨_, _⟩, hvote, heq⟩ := hballot
    cases heq
    exact .inr ⟨amount, isNew, a, b, accept_eq_ok.1 hacc, hentry, hvote⟩

/-- A vote that is cast stands, and settles its message if it is the one to do so. -/
theorem attest_of_casts {e : Endpoint} {v : Vote} {amount : Amount} {isNew : Bool} {a b : Arrival}
    (h : e.Casts v amount isNew a b) :
    let settled := (e.putArrival b).settle b amount.units v.now
    attest v.index v.emitter v.message v.now e =
      if e.Settles b then
        (settled.1.map fun (status, payout) => { e.reportOf isNew b payout with status }, settled.2)
      else (.ok (e.reportOf isNew b none), e.putArrival b) := by
  intro settled
  have hballot : (do
      let amount ← e.accept v.index v.emitter v.message
      let a ← e.arrivals.entryFor v.message amount
      return (amount, ← a.vote v.index)) = Except.ok (amount, isNew, b) := by
    simp only [bind_eq_ok, pure_eq_ok]
    exact ⟨amount, accept_eq_ok.2 h.accepts, a, h.entry, _, h.vote, rfl⟩
  have hif : (b.isApproved (e.putArrival b).transceivers.enabled (e.putArrival b).threshold
      && b.status == .notApproved) = true ↔ e.Settles b := by
    rw [Bool.and_eq_true, beq_iff_eq]
    rfl
  unfold attest
  rw [hballot]
  by_cases hs : e.Settles b
  · simp only [hif.2 hs, hs, ↓reduceIte]
    rfl
  · simp only [mt hif.1 hs, hs, ↓reduceIte]
    rfl

theorem effect_attest (e : Endpoint) {c : Command} {v : Vote} (hc : c.vote? = some v)
    (hp : perform c e = (attest v.index v.emitter v.message v.now).as .report e) :
    Effect e c (perform c e).1 (perform c e).2 := by
  rw [hp, Action.as]
  obtain ⟨err, hrefused⟩ | ⟨amount, isNew, a, b, hcast⟩ := attest_cases e v
  · rw [hrefused]
    exact .refused err
  · rw [attest_of_casts hcast]
    by_cases hs : e.Settles b
    · have hmsg := hcast.message_eq
      obtain ⟨peer, hpeer, -⟩ := hcast.accepts.manager
      have hpeer' : (e.putArrival b).peers.get? b.message.sourceChain = some peer := by
        rw [hmsg]
        exact hpeer
      rw [if_pos hs]
      cases hspend : peer.inbound.spend e.terms.period v.now amount.units .queue with
      | error err =>
        rw [settle_of_error hpeer' hspend]
        exact .unsettled err hc hcast hs hpeer hspend
      | ok spending =>
        cases spending with
        | queued time =>
          rw [settle_of_queued hs.2 hpeer' hspend, putArrival_withStatus]
          exact .scheduled hc hcast hs hpeer hspend
        | spent next =>
          have hpay' : (e.putArrival b).payoutOf b.message = e.payoutOf v.message := by
            rw [hmsg]
            rfl
          cases hpay : e.payoutOf v.message with
          | error err =>
            rw [settle_of_lost hs.2 hpeer' hspend (hpay'.trans hpay), putArrival_withStatus]
            exact .lost err hc hcast hs hpeer hspend hpay
          | ok payout =>
            rw [settle_of_paid hs.2 hpeer' hspend (hpay'.trans hpay), putArrival_withStatus]
            exact .paid hc hcast hs hpeer hspend hpay
    · rw [if_neg hs]
      exact .voted hc hcast hs

theorem effect_deliver (e : Endpoint) (index : UInt8) (emitter : Address) (att : Attestation)
    (now : UInt64) :
    let c := Command.deliver index emitter att now
    Effect e c (perform c e).1 (perform c e).2 := by
  intro c
  by_cases h : att.emitterChain = att.message.sourceChain
  · have hv : c.vote? = some ⟨index, emitter, att.message, now⟩ := by simp [c, Command.vote?, h]
    refine effect_attest e hv ?_
    simp [c, perform, Action.as, deliver, h]
  · simp only [c, perform, Action.as, deliver, ne_eq, h, not_false_eq_true, ↓reduceIte]
    exact .refused _

/-- A look-up of a due arrival succeeds if the arrival was released before or waits no more. -/
theorem dueArrival_eq_ok {e : Endpoint} {chain : ChainId} {id : MessageId} {now : UInt64}
    {due : Option Arrival} (h : e.dueArrival chain id now = .ok due) :
    ∃ a, e.arrivals.get? (chain, id) = some a ∧
      ((due = none ∧ a.status = .released) ∨
        ∃ time, a.status = .releaseAfter time ∧ time ≤ now ∧
          due = some { a with status := .released }) := by
  simp only [dueArrival, bind_eq_ok, Arrivals.require_eq_ok] at h
  obtain ⟨a, ha, h⟩ := h
  refine ⟨a, ha, ?_⟩
  cases hs : a.status with
  | released =>
    simp only [hs, pure_eq_ok] at h
    exact .inl ⟨h.symm, rfl⟩
  | notApproved =>
    simp only [hs] at h
    cases h
  | releaseAfter time =>
    by_cases hlt : now < time
    · simp [hs, Arrival.tryRelease, hlt, bind, Except.bind] at h
    · simp only [hs, Arrival.tryRelease, hlt, bind_eq_ok, pure_eq_ok, ↓reduceIte] at h
      obtain ⟨r, hr, hdue⟩ := h
      cases hr
      exact .inr ⟨time, rfl, UInt64.not_lt.1 hlt, hdue.symm⟩

theorem effect_release (e : Endpoint) (chain : ChainId) (id : MessageId) (now : UInt64) :
    let c := Command.release chain id now
    Effect e c (perform c e).1 (perform c e).2 := by
  simp only [perform, Action.as, release]
  split
  · exact .refused _
  · rename_i hdue
    obtain ⟨a, ha, ⟨-, hs⟩ | ⟨time, -, -, hsome⟩⟩ := dueArrival_eq_ok hdue
    · exact .releasedBefore ha hs
    · cases hsome
  · rename_i paid hdue
    obtain ⟨a, ha, ⟨hnone, -⟩ | ⟨time, hs, hle, hsome⟩⟩ := dueArrival_eq_ok hdue
    · cases hnone
    · cases hsome
      have hpay : (e.putArrival { a with status := .released }).payoutOf a.message
          = e.payoutOf a.message := rfl
      rw [hpay]
      cases hp : e.payoutOf a.message with
      | error err => exact .releaseLost err ha hs hle (.inl hp)
      | ok payout =>
        cases hpeer : e.peers.get? chain with
        | none =>
          have hreq : (e.putArrival { a with status := .released }).peers.require chain
              = .error (.peerNotRegistered chain) := by
            unfold Peers.require
            rw [show (e.putArrival { a with status := .released }).peers = e.peers from rfl, hpeer]
          simp only [hreq]
          exact .releaseLost _ ha hs hle (.inr hpeer)
        | some peer =>
          have hreq : (e.putArrival { a with status := .released }).peers.require chain
              = .ok peer := Peers.require_eq_ok.2 hpeer
          simp only [hreq]
          exact .released ha hs hle hp hpeer

/-- What a command does is one of its effects. -/
theorem perform_effect (e : Endpoint) (c : Command) :
    Effect e c (perform c e).1 (perform c e).2 := by
  cases c with
  | registerPeer chain manager tokenDecimals limit now => exact effect_registerPeer e ..
  | updatePeer chain manager tokenDecimals => exact effect_updatePeer e ..
  | registerTransceiver address => exact effect_registerTransceiver e ..
  | deregisterTransceiver index => exact effect_deregisterTransceiver e ..
  | setTransceiverPeer index chain address => exact effect_setTransceiverPeer e ..
  | setThreshold threshold => exact effect_setThreshold e ..
  | setOutboundLimit limit now => exact .outboundResized
  | setInboundLimit chain limit now => exact effect_setInboundLimit e ..
  | transfer order now => exact effect_transfer e ..
  | releaseDeparture id index now => exact effect_releaseDeparture e ..
  | cancelDeparture id => exact effect_cancelDeparture e ..
  | attest index emitter message now =>
    exact effect_attest e (v := ⟨index, emitter, message, now⟩) rfl rfl
  | deliver index emitter attestation now => exact effect_deliver e ..
  | release chain id now => exact effect_release e ..

end Endpoint

end TokenBridge
