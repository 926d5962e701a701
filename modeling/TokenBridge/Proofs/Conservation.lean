import TokenBridge.Proofs.Quorum
import TokenBridge.Relay.Quoting

/-!
# Value across two endpoints

A transfer leaves one endpoint and is paid out by another one, which may count the token with
other decimals. Both count the trimmed amount of the message up: the first when it tells the
dust apart, the second when it pays. So the payout is worth the ordered amount without its
dust (`value_conserved`). A quote trims the amount as the transfer does, if it knows the
decimals of the destination, and so it announces what will be paid.
-/

namespace TokenBridge

theorem receivedOf_eq_ok {units n : UInt64} {source destination cap : UInt8} :
    receivedOf units source destination cap = .ok n ↔
      ∃ a, Amount.trim units source destination cap = .ok a ∧ a.untrim destination = .ok n := by
  simp only [receivedOf, bind_eq_ok, scaled_eq_ok]

namespace Endpoint

/-- A transfer that succeeds has measured its order, and writes what it measured. -/
theorem measures_of_transfer {e : Endpoint} {o : TransferOrder} {now : UInt64} {t : TransferTicket}
    (h : (transfer o now e).1 = .ok t) :
    ∃ amount, e.Measures o t.message.amount t.dust amount ∧
      t.message = e.nextMessage o t.message.amount := by
  obtain ⟨d, -, -, -, hmessage, hmeasures⟩ := (effect_of_transfer h).measured_departure
  exact ⟨d.amount, hmeasures, hmessage⟩

/-- A payout of a run is the value of a vetted message that stands under its key, counted in the
decimals of the endpoint. -/
theorem payout_of_step {e : Endpoint} (h : Reachable e) {cs : List Command} {s : Step}
    (hs : s ∈ e.steps cs) {r : Payout} (hr : payoutOfAnswer s.answer = some r) {a : Arrival}
    (ha : s.after.arrivals.get? r.key = some a) :
    r.recipient = a.message.recipient ∧ a.message.recipientChain = e.site.chain ∧
      a.message.amount.decimals ≤ e.site.tokenDecimals ∧
      a.message.amount.untrim e.site.tokenDecimals = .ok r.amount := by
  obtain ⟨n, c, -, rfl⟩ := mem_steps.1 hs
  obtain ⟨b, hb, hpay, hvet, -⟩ := released_of_payout (regular_run h.regular (cs.take n)) hr
  have hab : some a = some b := ha.symm.trans hb
  cases hab
  have hto := hvet.recipientChain
  have hdec := hvet.decimals
  obtain ⟨-, -, hrec, hval⟩ := payoutOf_eq_ok.1 hpay
  rw [run_site] at hto hdec hval
  exact ⟨hrec, hto, hdec, hval⟩

/-- **A transfer conserves value from end to end.** When the message of a transfer is paid out, its
recipient gets the ordered amount without the dust, counted in the decimals over there. The
dust is less than one unit of the message. A quote that knew these decimals announced the
amount. -/
theorem value_conserved {source destination : Endpoint} (hd : Reachable destination)
    {o : TransferOrder} {now : UInt64} {t : TransferTicket} (ht : (transfer o now source).1 = .ok t)
    {cs : List Command} {s : Step} (hs : s ∈ destination.steps cs) {r : Payout}
    (hr : payoutOfAnswer s.answer = some r) {a : Arrival}
    (ha : s.after.arrivals.get? r.key = some a) (hm : a.message = t.message) :
    r.recipient = o.recipient ∧
    t.dust ≤ o.amount ∧ t.message.amount.decimals ≤ source.site.tokenDecimals ∧
    r.amount.toNat * 10 ^ source.site.tokenDecimals.toNat =
      (o.amount.toNat - t.dust.toNat) * 10 ^ destination.site.tokenDecimals.toNat ∧
    t.dust.toNat < 10 ^ (source.site.tokenDecimals.toNat - t.message.amount.decimals.toNat) ∧
    ∀ peer, source.peers.get? destination.site.chain = some peer →
      peer.tokenDecimals = destination.site.tokenDecimals →
      receivedOf o.amount source.site.tokenDecimals destination.site.tokenDecimals
        source.terms.maxDecimals = .ok r.amount := by
  obtain ⟨amount, hmeasures, hmessage⟩ := measures_of_transfer ht
  obtain ⟨known, hknown, hsplit⟩ := hmeasures.split
  obtain ⟨htrim, hsource, hsum, hdust⟩ := Amount.split_eq_ok hsplit
  obtain ⟨hrecipient, hchain, hdecimals, hvalue⟩ := payout_of_step hd hs hr ha
  rw [hm] at hrecipient hchain hdecimals hvalue
  have hpaid := ((Amount.untrim_eq_ok hdecimals).1 hvalue).2
  refine ⟨?_, ?_, hsource, ?_, hdust, ?_⟩
  · rw [hrecipient, hmessage]
    rfl
  · rw [UInt64.le_iff_toNat_le]
    omega
  · -- both sides are the units of the message, counted with the decimals of both chains
    have hle := UInt8.le_iff_toNat_le.1 hsource
    have hle' := UInt8.le_iff_toNat_le.1 hdecimals
    rw [hpaid, hsum, Nat.add_sub_cancel]
    exact Amount.scaledUp_mul_power (by omega)
  · intro peer hpeer hsame
    -- the peer that the order was measured against is the one of the destination
    have hto : o.recipientChain = destination.site.chain := by
      rw [← hchain, hmessage]
      rfl
    rw [hto, hpeer] at hknown
    cases hknown
    rw [hsame] at htrim
    exact receivedOf_eq_ok.2 ⟨_, htrim, hvalue⟩

/-- From a chain with 9 decimals to one with 18: of 5007 units 5000 cross, as 500 in the message. -/
theorem value_conserved_sample :
    let opened := { Sample.endpoint with site := ⟨⟨2⟩, Sample.address 238, Sample.address 2, 9⟩ }
    let source := (opened.run [.registerPeer ⟨1⟩ (Sample.address 85) 18 1000 100,
      .registerTransceiver (Sample.address 12)]).2
    let destination := (Sample.endpoint.run (Sample.opening 1000)).2
    let m := Sample.message 0 500
    let r : Payout := ⟨⟨2⟩, .ofSequence 0, Sample.address 3, 5000000000000⟩
    Reachable destination ∧
      (transfer ⟨5007, ⟨1⟩, Sample.address 3, Sample.address 1, false, []⟩ 150 source).1
        = .ok ⟨0, m, 7, none⟩ ∧
      ∃ s ∈ destination.steps (Sample.votes m 200), payoutOfAnswer s.answer = some r ∧
        (∃ a, s.after.arrivals.get? r.key = some a ∧ a.message = m) ∧
        r.amount.toNat * 10 ^ 9 = (5007 - 7) * 10 ^ 18 ∧
        receivedOf 5007 9 18 8 = .ok r.amount := by
  intro opened source destination m r
  have hd : Reachable destination := (Reachable.start Sample.establish_eq).run _
  have ht : (transfer ⟨5007, ⟨1⟩, Sample.address 3, Sample.address 1, false, []⟩ 150 source).1
      = .ok ⟨0, m, 7, none⟩ := by decide +kernel
  have hs : ∃ s, (destination.steps (Sample.votes m 200))[1]? = some s ∧
      payoutOfAnswer s.answer = some r ∧
      ∃ a, s.after.arrivals.get? r.key = some a ∧ a.message = m :=
    ⟨_, rfl, by decide +kernel, ⟨m, ⟨500, 8⟩, ⟨3⟩, .released⟩, by decide +kernel, rfl⟩
  obtain ⟨s, hs, hr, a, ha, hm⟩ := hs
  have hmem := List.mem_of_getElem? hs
  obtain ⟨-, -, -, hvalue, -, hquote⟩ := value_conserved hd ht hmem hr ha hm
  exact ⟨hd, ht, s, hmem, hr, ⟨a, ha, hm⟩, hvalue, hquote _ rfl rfl⟩

end Endpoint

end TokenBridge
