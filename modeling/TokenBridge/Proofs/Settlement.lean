import TokenBridge.Proofs.Spending
import TokenBridge.Proofs.Waiting

/-!
# Votes that settle

The vote that completes the approval of a message settles it: the inbound quota of the source
chain is asked for the units, and the value is paid out or waits. By then the vote has been
recorded, and votes have to stay wherever they come from, so a quota that has no answer does not
take it back (`failed_vote_leaves`). A vote that fails in any other way changes nothing, unless
the quota has been charged and the value cannot be counted (`Loses`).

The units that are charged count with fewer decimals than the message may have. What is less than
a unit of the quota is paid out all the same, and no quota is charged for it
(`charge_worth_payout_iff`).
-/

namespace TokenBridge

namespace Endpoint

variable {e next : Endpoint} {v : Vote} {amount : Amount} {b : Arrival} {peer : Peer}

/-- The vote turns the entry for its message into `b` and brings it to its settlement, which asks the
quota of this peer for the amount. -/
structure Completes (e : Endpoint) (v : Vote) (amount : Amount) (b : Arrival) (peer : Peer) :
    Prop where
  casts : ∃ isNew a, e.Casts v amount isNew a b
  settles : e.Settles b
  known : e.peers.get? v.message.sourceChain = some peer

theorem effect_of_attest {answer : Except Error AttestReport}
    (h : (attest v.index v.emitter v.message v.now e).1 = answer) :
    Effect e (.attest v.index v.emitter v.message v.now) (answer.map .report)
      (attest v.index v.emitter v.message v.now e).2 := by
  rw [← h]
  exact perform_effect e (.attest v.index v.emitter v.message v.now)

/-! ## Votes that fail -/

/-- The vote completes an approval, but the quota can tell no time for the amount. -/
def Stalls (e : Endpoint) (v : Vote) : Prop :=
  ∃ amount b peer, e.Completes v amount b peer ∧
    peer.inbound.NeverFits e.terms.period v.now amount.units

/-- The vote completes an approval and the quota can bear the amount, but its value cannot be
counted in the token's decimals. -/
def Loses (e : Endpoint) (v : Vote) : Prop :=
  ∃ amount b peer, e.Completes v amount b peer ∧
    amount.units ≤ peer.inbound.available e.terms.period v.now ∧
    ¬ v.message.amount.FitsAt e.site.tokenDecimals

/-- All that differs in `next` is that the vote stands under the key of its message. -/
structure Records (e : Endpoint) (v : Vote) (next : Endpoint) : Prop where
  rest : next = { e with arrivals := next.arrivals }
  others : ∀ k ≠ Arrivals.key v.message, next.arrivals.get? k = e.arrivals.get? k
  /-- A new entry holds the message and this one vote. -/
  entry : e.arrivals.get? (Arrivals.key v.message) = none →
    ∃ votes amount, next.arrivals.get? (Arrivals.key v.message) =
        some ⟨v.message, amount, votes, .notApproved⟩ ∧
      v.message.amount.withDecimals e.quotaDecimals = .ok amount ∧
      ∀ i, votes.has i = decide (i = v.index.toNat)
  /-- An entry for the message that was there gets one vote more. -/
  vote : ∀ a, e.arrivals.get? (Arrivals.key v.message) = some a →
    a.message = v.message ∧ a.status = .notApproved ∧
    ∃ votes, next.arrivals.get? (Arrivals.key v.message) = some { a with votes } ∧
      ∀ i, votes.has i = (decide (i = v.index.toNat) || a.votes.has i)

theorem records_putArrival {isNew : Bool} {a : Arrival} (h : e.Casts v amount isNew a b)
    (hs : b.status = .notApproved) : e.Records v (e.putArrival b) := by
  obtain ⟨-, hvotes, heq⟩ := Arrival.vote_eq_ok h.vote
  have hkey : Arrivals.key b.message = Arrivals.key v.message := by rw [h.message_eq]
  have hstored : (e.putArrival b).arrivals.get? (Arrivals.key v.message) =
      some { a with votes := b.votes } := by
    rw [putArrival_arrivals, Arrivals.put, hkey, Table.get?_set_self, ← heq]
  refine ⟨rfl, fun k hk => ?_, fun hnone => ?_, fun a' ha' => ?_⟩
  · rw [putArrival_arrivals, Arrivals.put, hkey, Table.get?_set_of_ne _ _ hk.symm]
  · obtain ⟨-, hold | ⟨-, rfl⟩⟩ := Arrivals.entryFor_eq_ok h.entry
    · rw [hnone] at hold
      cases hold
    · refine ⟨b.votes, amount, hstored, h.accepts.amount, fun i => ?_⟩
      rw [hvotes]
      show (_ || IndexSet.empty.has i) = _
      rw [IndexSet.has_empty, Bool.or_false]
  · obtain ⟨hmessage, hold | ⟨hnone, -⟩⟩ := Arrivals.entryFor_eq_ok h.entry
    · rw [ha'] at hold
      cases hold
      exact ⟨hmessage, by rw [← h.status_eq, hs], b.votes, hstored, hvotes⟩
    · rw [ha'] at hnone
      cases hnone

/-- A vote that completes an approval without an answer of the quota is recorded, and that is all. -/
theorem attest_of_stalls (h : e.Stalls v) :
    (∃ err, (attest v.index v.emitter v.message v.now e).1 = .error err) ∧
      e.Records v (attest v.index v.emitter v.message v.now e).2 := by
  obtain ⟨amount, b, peer, ⟨⟨isNew, a, hcast⟩, hs, hpeer⟩, hnever⟩ := h
  obtain ⟨err, hspend⟩ := Quota.spend_queue_eq_error.2 hnever
  have hpeer' : (e.putArrival b).peers.get? b.message.sourceChain = some peer := by
    rw [hcast.message_eq]
    exact hpeer
  rw [attest_of_casts hcast, if_pos hs, settle_of_error hpeer' hspend]
  exact ⟨⟨err, rfl⟩, records_putArrival hcast hs.2⟩

/-- A vote that fails is refused and does nothing, or it stalls, or it loses the value. -/
theorem attest_error_cases {err : Error}
    (h : (attest v.index v.emitter v.message v.now e).1 = .error err) :
    (attest v.index v.emitter v.message v.now e).2 = e ∨ e.Stalls v ∨ e.Loses v := by
  have heff : Effect e _ (.error err) _ := effect_of_attest h
  generalize (attest v.index v.emitter v.message v.now e).2 = next at heff
  cases heff with
  | refused => exact .inl rfl
  | unsettled _ hv hcast hs hpeer hspend =>
    cases hv
    exact .inr (.inl ⟨_, _, _, ⟨⟨_, _, hcast⟩, hs, hpeer⟩,
      Quota.spend_queue_eq_error.1 ⟨_, hspend⟩⟩)
  | lost _ hv hcast hs hpeer hspend hpay =>
    cases hv
    refine .inr (.inr ⟨_, _, _, ⟨⟨_, _, hcast⟩, hs, hpeer⟩, ?_, fun hfit => ?_⟩)
    · exact UInt64.le_iff_toNat_le.2 (Quota.spend_eq_spent hspend).1
    · obtain ⟨n, hn⟩ := (Amount.exists_untrim_iff hcast.accepts.decimals).2 hfit
      have hok := isOk_payoutOf.2 ⟨n, hn⟩
      rw [hpay] at hok
      cases hok

/-- **A vote that fails changes nothing, or is recorded and changes nothing else.** It is recorded if
it passed all checks and completed the approval, but the quota of the source chain can tell no
time for the amount. -/
theorem failed_vote_leaves (v : Vote) (hl : ¬ e.Loses v) :
    let (answer, next) := attest v.index v.emitter v.message v.now e
    (∀ err, answer = .error err → ¬ e.Stalls v → next = e) ∧
      (e.Stalls v → (∃ err, answer = .error err) ∧ e.Records v next) := by
  refine ⟨fun err h hs => ?_, attest_of_stalls⟩
  obtain heq | hstalls | hloses := attest_error_cases h
  · exact heq
  · exact absurd hstalls hs
  · exact absurd hloses hl

/-- With a limit of zero, the second of two votes stalls. -/
theorem failed_vote_leaves_sample :
    let m := Sample.message 7 500
    let e := (Sample.endpoint.run (Sample.opening 0 ++ [.attest 0 (Sample.address 161) m 200])).2
    let v : Vote := ⟨1, Sample.address 177, m, 200⟩
    let (answer, next) := attest v.index v.emitter v.message v.now e
    ¬ e.Loses v ∧ e.Stalls v ∧ (∃ err, answer = .error err) ∧ e.Records v next := by
  intro m e v
  have hloses : ¬ e.Loses v := by
    rintro ⟨-, -, -, -, -, hfit⟩
    exact hfit (by decide)
  have hcast : e.Casts v ⟨500, 8⟩ true ⟨m, ⟨500, 8⟩, .single 0, .notApproved⟩
      ⟨m, ⟨500, 8⟩, (IndexSet.single 0).union (.single 1), .notApproved⟩ :=
    ⟨accept_eq_ok.1 (by decide +kernel), by decide +kernel, by decide +kernel⟩
  have hstalls : e.Stalls v :=
    ⟨_, _, ⟨⟨2⟩, Sample.address 238, 18, ⟨0, 0, 100⟩⟩, ⟨⟨_, _, hcast⟩, by decide +kernel,
      by decide +kernel⟩, by decide +kernel⟩
  exact ⟨hloses, hstalls, (failed_vote_leaves v hloses).2 hstalls⟩

/-- The vote that the quota refuses is an error, and it is recorded. -/
theorem refused_vote_recorded :
    let m := Sample.message 7 500
    let e := (Sample.endpoint.run (Sample.opening 0 ++ [.attest 0 (Sample.address 161) m 200])).2
    let (answer, next) := attest 1 (Sample.address 177) m 200 e
    Reachable e ∧ answer = .error (.rateLimitExceeded 500 0) ∧
      next.arrivals.get? (Arrivals.key m) ≠ e.arrivals.get? (Arrivals.key m) := by
  intro m e
  refine ⟨(Reachable.start Sample.establish_eq).run _, ?_, ?_⟩
  · decide +kernel
  · decide +kernel

/-! ## Charge and payout -/

/-- A vote that pays out has charged the units of its message to the quota. -/
theorem exists_charge_of_payout (h : Reachable e) {report : AttestReport} {r : Payout}
    (hv : (attest v.index v.emitter v.message v.now e).1 = .ok report)
    (hr : report.payout = some r) :
    ∃ amount peer, e.Accepts v amount ∧ e.payoutOf v.message = .ok r ∧
      e.peers.get? v.message.sourceChain = some peer ∧
      amount.units ≤ peer.inbound.available e.terms.period v.now ∧
      (attest v.index v.emitter v.message v.now e).2.peers.get? v.message.sourceChain =
        some { peer with
          inbound := peer.inbound.recordAt v.now
            (peer.inbound.available e.terms.period v.now - amount.units) } := by
  have heff : Effect e _ (.ok (.report report)) _ := effect_of_attest hv
  generalize (attest v.index v.emitter v.message v.now e).2 = next at heff
  cases heff with
  | voted => cases hr
  | scheduled => cases hr
  | @paid _ _ amount _ _ _ peer _ _ hc hcast _ hpeer hspend hpay =>
    cases hc
    cases hr
    obtain ⟨hle, rfl⟩ := Quota.spend_eq_spent hspend
    refine ⟨amount, peer, hcast.accepts, hpay, hpeer, UInt64.le_iff_toNat_le.2 hle, ?_⟩
    rw [creditOutbound_peers]
    exact (h.regular.peers.get?_setInbound hpeer _ _).trans (if_pos rfl)

/-- **The charge for a payout is worth the payout if no digit of it is lost.** A vote that pays out
charges the quota of the source chain the payout in units of the quota, rounded down. The two
are worth the same exactly if the message counts in whole units of the quota. -/
theorem charge_worth_payout_iff (h : Reachable e) {report : AttestReport} {r : Payout}
    (hv : (attest v.index v.emitter v.message v.now e).1 = .ok report)
    (hr : report.payout = some r) :
    let scale := 10 ^ (e.site.tokenDecimals.toNat - e.quotaDecimals.toNat)
    ∃ peer charge, e.peers.get? v.message.sourceChain = some peer ∧
      charge ≤ peer.inbound.available e.terms.period v.now ∧
      (attest v.index v.emitter v.message v.now e).2.peers.get? v.message.sourceChain =
        some { peer with
          inbound := peer.inbound.recordAt v.now
            (peer.inbound.available e.terms.period v.now - charge) } ∧
      charge.toNat * scale ≤ r.amount.toNat ∧ r.amount.toNat < (charge.toNat + 1) * scale ∧
      (charge.toNat * scale = r.amount.toNat ↔
        10 ^ (v.message.amount.decimals.toNat - e.quotaDecimals.toNat) ∣
          v.message.amount.units.toNat) := by
  intro scale
  obtain ⟨amount, peer, haccepts, hpay, hpeer, hle, hafter⟩ := exists_charge_of_payout h hv hr
  obtain ⟨-, -, -, hvalue⟩ := payoutOf_eq_ok.1 hpay
  obtain ⟨hlow, hhigh, hexact⟩ :=
    Amount.withDecimals_worth e.quotaDecimals_le haccepts.decimals haccepts.amount hvalue
  exact ⟨peer, amount.units, hpeer, hle, hafter, hlow, hhigh, hexact⟩

/-- A message with 18 decimals whose units end in ten zeros is charged for what it pays. -/
theorem charge_worth_payout_iff_sample :
    let m := { Sample.message 7 0 with amount := ⟨20000000000, 18⟩ }
    let e := (Sample.endpoint.run (Sample.opening 1000 ++ [.attest 0 (Sample.address 161) m 200])).2
    let r : Payout := ⟨⟨2⟩, .ofSequence 7, Sample.address 3, 20000000000⟩
    let (answer, next) := attest 1 (Sample.address 177) m 200 e
    Reachable e ∧ answer = .ok ⟨true, 2, true, .released, some r⟩ ∧
      ∃ peer charge, e.peers.get? ⟨2⟩ = some peer ∧
        next.peers.get? ⟨2⟩ = some { peer with
          inbound := peer.inbound.recordAt 200
            (peer.inbound.available e.terms.period 200 - charge) } ∧
        charge.toNat * 10 ^ (e.site.tokenDecimals.toNat - e.quotaDecimals.toNat) =
          r.amount.toNat := by
  intro m e r
  have he : Reachable e := (Reachable.start Sample.establish_eq).run _
  have hv : (attest 1 (Sample.address 177) m 200 e).1 = .ok ⟨true, 2, true, .released, some r⟩ := by
    decide +kernel
  obtain ⟨peer, charge, hpeer, -, hafter, -, -, hexact⟩ :=
    charge_worth_payout_iff (v := ⟨1, Sample.address 177, m, 200⟩) he hv rfl
  exact ⟨he, hv, peer, charge, hpeer, hafter, hexact.2 (by decide +kernel)⟩

/-- A message of 18 decimals is paid 15000000000 units of the token and charged one unit of the
quota, which is worth 10000000000. -/
theorem charge_below_payout :
    let m := { Sample.message 7 0 with amount := ⟨15000000000, 18⟩ }
    let e := (Sample.endpoint.run (Sample.opening 1000 ++ [.attest 0 (Sample.address 161) m 200])).2
    let r : Payout := ⟨⟨2⟩, .ofSequence 7, Sample.address 3, 15000000000⟩
    let (answer, next) := attest 1 (Sample.address 177) m 200 e
    Reachable e ∧ answer = .ok ⟨true, 2, true, .released, some r⟩ ∧
      e.inboundCapacity ⟨2⟩ 200 = .ok 1000 ∧ next.inboundCapacity ⟨2⟩ 200 = .ok 999 ∧
      (1000 - 999) * 10 ^ (e.site.tokenDecimals.toNat - e.quotaDecimals.toNat) ≠
        r.amount.toNat := by
  intro m e r
  refine ⟨(Reachable.start Sample.establish_eq).run _, ?_, ?_, ?_, ?_⟩
  · decide +kernel
  · decide +kernel
  · decide +kernel
  · decide +kernel

end Endpoint

end TokenBridge
