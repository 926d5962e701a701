import TokenBridge.Proofs.Refill
import TokenBridge.Proofs.Settlement

/-!
# Deferred arrivals

The vote that settles a message whose units do not fit defers it: the quota is not charged, and the
value waits till the release time. Does it fit by then, if nothing else happens? Votes carry their
own times and need not come in order. The release time is counted from the time of the vote, and
the quota refills from its record, so the value fits exactly if the record is not the later one
(`deferred_fits_iff`). If it is, the release takes what is there and the rest is never charged
(`deferred_beyond_capacity`).
-/

namespace TokenBridge

namespace Endpoint

variable {e : Endpoint} {v : Vote} {a : Arrival} {peer : Peer} {time : UInt64}

/-- The vote leaves its message behind as `a`, waiting till `time`, and no message waited till then
under this key before. -/
structure Defers (e : Endpoint) (v : Vote) (a : Arrival) (time : UInt64) : Prop where
  before : (e.arrivals.get? (Arrivals.key v.message)).map Arrival.status ≠ some (.releaseAfter time)
  after : (attest v.index v.emitter v.message v.now e).2.arrivals.get? (Arrivals.key v.message) =
    some a
  waits : a.status = .releaseAfter time

theorem Casts.stored {amount : Amount} {isNew : Bool} {b : Arrival} (h : e.Casts v amount isNew a b)
    (status : ReleaseStatus) :
    (e.putArrival { b with status }).arrivals.get? (Arrivals.key v.message) =
      some { b with status } := by
  rw [putArrival_arrivals, Arrivals.put, ← h.message_eq]
  exact Table.get?_set_self ..

/-- A deferred message was settled by its vote, and the quota gave the time. -/
theorem Defers.settled (h : e.Defers v a time) (hr : Regular e)
    (hpeer : e.peers.get? v.message.sourceChain = some peer) :
    a.message = v.message ∧
      peer.inbound.spend e.terms.period v.now a.amount.units .queue = .ok (.queued time) ∧
      (attest v.index v.emitter v.message v.now e).2 = e.putArrival a := by
  obtain ⟨hbefore, hafter, hwaits⟩ := h
  have hstored {b : Arrival} (hb : e.arrivals.get? (Arrivals.key v.message) = some b) :
      b.status ≠ .releaseAfter time := fun hs => hbefore (by rw [hb, Option.map_some, hs])
  have heff := effect_of_attest (e := e) (v := v) rfl
  generalize (attest v.index v.emitter v.message v.now e).1.map Answer.report = answer at heff
  generalize (attest v.index v.emitter v.message v.now e).2 = next at heff hafter ⊢
  have ofStatus {b : Arrival} (hb : some b = some a) : b.status = .releaseAfter time := by
    cases hb
    exact hwaits
  cases heff with
  | refused => exact absurd hwaits (hstored hafter)
  | @voted _ _ _ _ _ b hv hcast =>
    -- a vote does not change the status
    cases hv
    have hb := ofStatus ((hcast.stored b.status).symm.trans hafter)
    rw [hcast.status_eq] at hb
    obtain ⟨-, hold | ⟨-, rfl⟩⟩ := Arrivals.entryFor_eq_ok hcast.entry
    · exact absurd hb (hstored hold)
    · cases hb
  | @unsettled _ _ _ _ _ b _ _ hv hcast hs =>
    cases hv
    have hb := ofStatus ((hcast.stored b.status).symm.trans hafter)
    rw [hs.2] at hb
    cases hb
  | @scheduled _ _ amount _ _ b known t hv hcast hs hknown hspend =>
    cases hv
    have hab := (hcast.stored (.releaseAfter t)).symm.trans hafter
    cases hab
    cases hwaits
    rw [hpeer] at hknown
    cases hknown
    refine ⟨hcast.message_eq, ?_, rfl⟩
    rw [hcast.amount_eq hr]
    exact hspend
  | paid hv hcast =>
    cases hv
    rw [creditOutbound_arrivals] at hafter
    cases ofStatus ((hcast.stored .released).symm.trans hafter)
  | lost _ hv hcast =>
    cases hv
    cases ofStatus ((hcast.stored .released).symm.trans hafter)

/-- A message whose wait is over is released, and the quota is drained. -/
theorem release_of_due {chain : ChainId} {id : MessageId} {payout : Payout} {now : UInt64}
    (ha : e.arrivals.get? (chain, id) = some a) (hs : a.status = .releaseAfter time)
    (hle : time ≤ now) (hpay : e.payoutOf a.message = .ok payout)
    (hpeer : e.peers.get? chain = some peer) :
    release chain id now e = (.ok (.released payout),
      { e.putArrival { a with status := .released } with
        peers := e.peers.setInbound peer
          (peer.inbound.drain e.terms.period now a.amount.units) }.creditOutbound
        a.amount.units now) := by
  have hdue : e.dueArrival chain id now = .ok (some { a with status := .released }) := by
    simp only [dueArrival, bind_eq_ok, Arrivals.require_eq_ok]
    refine ⟨a, ha, ?_⟩
    simp only [hs, Arrival.tryRelease, UInt64.not_lt.2 hle, ↓reduceIte]
    rfl
  have hpay' : (e.putArrival { a with status := .released }).payoutOf a.message = .ok payout := hpay
  have hpeer' : (e.putArrival { a with status := .released }).peers.require chain = .ok peer :=
    Peers.require_eq_ok.2 hpeer
  unfold release
  simp only [hdue, hpay', hpeer']
  rfl

/-- The release of such a message takes its whole amount exactly if it fits. -/
theorem release_takes_iff {chain : ChainId} {id : MessageId} {payout : Payout} {now : UInt64}
    (hk : PeersKeyed e.peers) (ha : e.arrivals.get? (chain, id) = some a)
    (hs : a.status = .releaseAfter time) (hle : time ≤ now)
    (hpay : e.payoutOf a.message = .ok payout) (hpeer : e.peers.get? chain = some peer) :
    (release chain id now e).1 = .ok (.released payout) ∧
    ∃ known, (release chain id now e).2.peers.get? chain = some known ∧
      (known.inbound.remaining.toNat + a.amount.units.toNat =
          (peer.inbound.available e.terms.period now).toNat ↔
        a.amount.units ≤ peer.inbound.available e.terms.period now) := by
  rw [release_of_due ha hs hle hpay hpeer, creditOutbound_peers]
  refine ⟨rfl, _, (hk.get?_setInbound hpeer _ chain).trans (if_pos rfl), ?_⟩
  show (Word.subSat _ _).toNat + _ = _ ↔ _
  rw [Word.toNat_subSat, UInt64.le_iff_toNat_le]
  omega

/-- A deferred value can be paid out if it can be counted. -/
theorem Defers.exists_payout (h : e.Defers v a time) (hr : Regular e)
    (hmessage : a.message = v.message) (hcount : v.message.amount.FitsAt e.site.tokenDecimals) :
    ∃ payout, (attest v.index v.emitter v.message v.now e).2.payoutOf a.message = .ok payout := by
  have heff := perform_effect e (.attest v.index v.emitter v.message v.now)
  have hdecimals := ((heff.regular hr).vetted _ _ h.after).decimals
  rw [heff.site_eq, hmessage] at hdecimals
  obtain ⟨n, hn⟩ := (Amount.exists_untrim_iff hdecimals).2 hcount
  refine ⟨⟨v.message.sourceChain, v.message.id, v.message.recipient, n⟩, ?_⟩
  rw [hmessage]
  exact (payoutOf_congr heff.site_eq _).trans (payoutOf_eq_ok.2 ⟨rfl, rfl, rfl, hn⟩)

/-- **A deferred value fits when its wait is over exactly if its vote was not older than the record
of the quota.** If nothing else happens until then, the release then takes the whole amount from
the quota, and otherwise only a part of it. -/
theorem deferred_fits_iff (h : Reachable e) (hp : e.terms.period.seconds ≠ 0)
    (hd : e.Defers v a time) (hpeer : e.peers.get? v.message.sourceChain = some peer)
    (hle : a.amount.units ≤ peer.inbound.limit) :
    let next := (attest v.index v.emitter v.message v.now e).2
    let released := release v.message.sourceChain v.message.id time next
    ∃ capacity, next.inboundCapacity v.message.sourceChain time = .ok capacity ∧
      (a.amount.units ≤ capacity ↔ peer.inbound.asOf ≤ v.now) ∧
      (v.message.amount.FitsAt e.site.tokenDecimals →
        ∃ payout known, released.1 = .ok (.released payout) ∧
          released.2.peers.get? v.message.sourceChain = some known ∧
          (known.inbound.remaining.toNat + a.amount.units.toNat = capacity.toNat ↔
            peer.inbound.asOf ≤ v.now)) := by
  intro next released
  have hregular : Regular next := (h.next (.attest v.index v.emitter v.message v.now)).regular
  obtain ⟨hmessage, hspend, hnext⟩ := hd.settled h.regular hpeer
  obtain ⟨hlt, -, htime⟩ := Quota.spend_eq_queued.1 hspend
  have hfits := Quota.fits_at_releaseTime_iff hp hlt hle htime
  -- the vote that defers charges nothing
  have hpeers : next.peers = (e.putArrival a).peers := congrArg Endpoint.peers hnext
  have hterms : next.terms = (e.putArrival a).terms := congrArg Endpoint.terms hnext
  have hpeer' : next.peers.get? v.message.sourceChain = some peer := by rw [hpeers]; exact hpeer
  refine ⟨peer.inbound.available e.terms.period time, ?_, hfits, fun hcount => ?_⟩
  · rw [inboundCapacity, Peers.require_eq_ok.2 hpeer', hterms]
    rfl
  · obtain ⟨payout, hpay⟩ := hd.exists_payout h.regular hmessage hcount
    obtain ⟨hanswer, known, hknown, htakes⟩ := release_takes_iff hregular.peers hd.after hd.waits
      (UInt64.le_refl time) hpay hpeer'
    rw [hterms] at htakes
    exact ⟨payout, known, hanswer, hknown, htakes.trans hfits⟩

/-- A payout at 50000 leaves 200 of 1000 units, and the votes for 500 units more come at 60000. -/
theorem deferred_fits_iff_sample :
    let m := Sample.message 8 500
    let cs := Sample.opening 1000 ++ Sample.votes (Sample.message 7 800) 50000 ++
      [.attest 0 (Sample.address 161) m 60000]
    let e := (Sample.endpoint.run cs).2
    let v : Vote := ⟨1, Sample.address 177, m, 60000⟩
    let next := (attest v.index v.emitter v.message v.now e).2
    let released := release ⟨2⟩ (.ofSequence 8) 75984 next
    e.Defers v ⟨m, ⟨500, 8⟩, ⟨3⟩, .releaseAfter 75984⟩ 75984 ∧
      ∃ capacity, next.inboundCapacity ⟨2⟩ 75984 = .ok capacity ∧ 500 ≤ capacity ∧
        ∃ payout known, released.1 = .ok (.released payout) ∧
          released.2.peers.get? ⟨2⟩ = some known ∧
          known.inbound.remaining.toNat + (500 : UInt64).toNat = capacity.toNat := by
  intro m cs e v next released
  have he : Reachable e := (Reachable.start Sample.establish_eq).run cs
  have hd : e.Defers v ⟨m, ⟨500, 8⟩, ⟨3⟩, .releaseAfter 75984⟩ 75984 :=
    ⟨by decide +kernel, by decide +kernel, rfl⟩
  have hpeer : e.peers.get? v.message.sourceChain =
      some ⟨⟨2⟩, Sample.address 238, 18, ⟨1000, 200, 50000⟩⟩ := by decide +kernel
  obtain ⟨capacity, hcapacity, hfits, hrelease⟩ :=
    deferred_fits_iff he (by decide) hd hpeer (by decide)
  obtain ⟨payout, known, hanswer, hknown, htakes⟩ := hrelease (by decide)
  exact ⟨hd, capacity, hcapacity, hfits.2 (by decide), payout, known, hanswer, hknown,
    htakes.2 (by decide)⟩

/-- The same votes at 10000, before the record: 300 units are missing and waited for till 35920, but
none of them refills until 50000. The release takes the 200 units that there are for a value of
500. -/
theorem deferred_beyond_capacity :
    let m := Sample.message 8 500
    let cs := Sample.opening 1000 ++ Sample.votes (Sample.message 7 800) 50000 ++
      [.attest 0 (Sample.address 161) m 10000]
    let e := (Sample.endpoint.run cs).2
    let v : Vote := ⟨1, Sample.address 177, m, 10000⟩
    let next := (attest v.index v.emitter v.message v.now e).2
    let released := release ⟨2⟩ (.ofSequence 8) 35920 next
    Reachable e ∧ e.terms.period.seconds ≠ 0 ∧
      e.Defers v ⟨m, ⟨500, 8⟩, ⟨3⟩, .releaseAfter 35920⟩ 35920 ∧
      (e.peers.get? ⟨2⟩).map Peer.inbound = some ⟨1000, 200, 50000⟩ ∧
      next.inboundCapacity ⟨2⟩ 35920 = .ok 200 ∧ (200 : UInt64) < 500 ∧
      released.1 = .ok (.released ⟨⟨2⟩, .ofSequence 8, Sample.address 3, 5000000000000⟩) ∧
      (released.2.peers.get? ⟨2⟩).map Peer.inbound = some ⟨1000, 0, 50000⟩ := by
  intro m cs e v next released
  refine ⟨(Reachable.start Sample.establish_eq).run cs, by decide, ⟨?_, ?_, rfl⟩, ?_, ?_, by decide, ?_, ?_⟩
  · decide +kernel
  · decide +kernel
  · decide +kernel
  · decide +kernel
  · decide +kernel
  · decide +kernel

end Endpoint

end TokenBridge
