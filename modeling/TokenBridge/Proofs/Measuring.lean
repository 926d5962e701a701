import TokenBridge.Proofs.Amount
import TokenBridge.Proofs.Change
import TokenBridge.Proofs.Waiting

/-!
# The amount of a transfer

An endpoint counts the amount of an order three times: trimmed for the message, back in the
token's decimals to tell the dust, and in the decimals of the quota. Every unit of the order is in
the message or in the dust, and the quota is charged what is in the message (`Accounts`). The
counting fails only where the trimming has to take more than 19 digits away; whatever the trimming
leaves fits in both counts that follow.
-/

namespace TokenBridge

namespace Endpoint

variable {e : Endpoint} {o : TransferOrder} {now units dust : UInt64} {peer : Peer}
  {trimmed : Amount}

/-- The order passes all checks that come before its amount, and is for this peer. -/
structure Serves (e : Endpoint) (o : TransferOrder) (peer : Peer) : Prop where
  away : o.recipientChain ≠ e.site.chain
  recipient : o.recipient.isZero = false
  enabled : e.transceivers.enabledCount ≠ 0
  known : e.peers.get? o.recipientChain = some peer

/-- The decimals of a message to this peer. -/
def messageDecimals (e : Endpoint) (peer : Peer) : UInt8 :=
  min (min e.terms.maxDecimals e.site.tokenDecimals) peer.tokenDecimals

/-- The departure `d` of an order accounts for its whole amount. -/
structure Accounts (e : Endpoint) (o : TransferOrder) (peer : Peer) (d : Departure) : Prop where
  messageDecimals : d.message.amount.decimals = e.messageDecimals peer
  quotaDecimals : d.amount.decimals = e.quotaDecimals
  /-- What is not dust crosses in the message. -/
  message : o.amount.toNat = d.dust.toNat + d.message.amount.units.toNat *
    10 ^ (e.site.tokenDecimals.toNat - d.message.amount.decimals.toNat)
  /-- What is not dust is charged to the quota. -/
  quota : o.amount.toNat = d.dust.toNat + d.amount.units.toNat *
    10 ^ (e.site.tokenDecimals.toNat - d.amount.decimals.toNat)
  positive : 0 < d.message.amount.units
  /-- The dust is less than one unit of the message. -/
  dust : d.dust.toNat < 10 ^ (e.site.tokenDecimals.toNat - d.message.amount.decimals.toNat)

theorem messageDecimals_le (e : Endpoint) (peer : Peer) :
    e.messageDecimals peer ≤ e.quotaDecimals := Std.min_le_left

theorem split_decimals
    (h : Amount.split units e.site.tokenDecimals peer.tokenDecimals e.terms.maxDecimals
      = .ok (trimmed, dust)) :
    trimmed.decimals = e.messageDecimals peer ∧ trimmed.decimals ≤ e.quotaDecimals := by
  have hdec : trimmed.decimals = e.messageDecimals peer :=
    (Amount.trim_eq_ok.1 (Amount.split_eq_ok h).1).1
  exact ⟨hdec, hdec ▸ e.messageDecimals_le peer⟩

/-- What a split leaves can be counted with the decimals of the quota. -/
theorem exists_withDecimals_of_split
    (h : Amount.split units e.site.tokenDecimals peer.tokenDecimals e.terms.maxDecimals
      = .ok (trimmed, dust)) : ∃ amount, trimmed.withDecimals e.quotaDecimals = .ok amount := by
  obtain ⟨htrim, -⟩ := Amount.split_eq_ok h
  obtain ⟨n, hn⟩ := Amount.exists_untrim_of_trim htrim (split_decimals h).2 e.quotaDecimals_le
  exact ⟨⟨n, e.quotaDecimals⟩, Amount.withDecimals_eq_ok.2 ⟨rfl, hn⟩⟩

/-- What is measured accounts for the amount. -/
theorem Measures.accounts {d : Departure} (h : e.Measures o d.message.amount d.dust d.amount) :
    ∃ peer, e.Serves o peer ∧ e.Accounts o peer d := by
  obtain ⟨peer, hknown, hsplit⟩ := h.split
  obtain ⟨-, -, hsum, hdust⟩ := Amount.split_eq_ok hsplit
  obtain ⟨hshared, hlow⟩ := split_decimals hsplit
  have hquota := (Amount.withDecimals_eq_ok.1 h.amount).1
  have hworth := Amount.scaledUp_withDecimals hlow e.quotaDecimals_le h.amount
  have hpositive : d.message.amount.units ≠ 0 := by simpa [Amount.isZero] using h.positive
  rw [Nat.add_comm] at hsum
  have hcharged := hsum
  rw [← hworth, ← hquota] at hcharged
  exact ⟨peer, ⟨h.away, h.recipient, h.enabled, hknown⟩, hshared, hquota, hsum, hcharged,
    UInt64.pos_iff_ne_zero.2 hpositive, hdust⟩

/-- The measuring has one scaling fault, in the trimming. -/
theorem measure_eq_scaling {fault : ScalingFault} :
    e.measure o = .error (.scaling fault) ↔ fault = .exponent ∧ ∃ peer, e.Serves o peer ∧
      19 < e.site.tokenDecimals.toNat - (e.messageDecimals peer).toNat := by
  unfold measure
  simp only [guard_eq_error, bind_eq_error, pure_eq_error, Peers.require_eq_error,
    Peers.require_eq_ok, scaled_eq_error, scaled_eq_ok, Amount.split_eq_error,
    Error.scaling.injEq, exists_eq_right, reduceCtorEq, and_false, false_or, or_false,
    exists_false]
  constructor
  · rintro ⟨haway, hrecipient, henabled, peer, hknown, herr⟩
    obtain ⟨hmany, rfl⟩ | ⟨_, hsplit, -, herr⟩ := herr
    · exact ⟨rfl, peer, ⟨haway, by simpa using hrecipient, henabled, hknown⟩, hmany⟩
    · -- not in the count for the quota
      obtain ⟨amount, hamount⟩ := exists_withDecimals_of_split hsplit
      rw [hamount] at herr
      cases herr
  · rintro ⟨rfl, peer, hserves, hmany⟩
    exact ⟨hserves.away, by simp [hserves.recipient], hserves.enabled, peer, hserves.known,
      .inl ⟨hmany, rfl⟩⟩

/-- A transfer fails if its order cannot be measured, or if the outbound quota has no answer. -/
theorem transfer_eq_error {err : Error} :
    (transfer o now e).1 = .error err ↔ e.measure o = .error err ∨
      ∃ trimmed dust amount, e.measure o = .ok (trimmed, dust, amount) ∧
        e.outbound.spend e.terms.period now amount.units (TransferOrder.onShortage o)
          = .error err := by
  unfold transfer TransferOrder.onShortage
  cases hm : e.measure o with
  | error cause => simp [bind, Except.bind]
  | ok measured =>
    obtain ⟨trimmed, dust, amount⟩ := measured
    simp only [Except.ok.injEq, Prod.mk.injEq, reduceCtorEq, false_or]
    cases hs : e.outbound.spend e.terms.period now amount.units
      (if o.mayQueue = true then .queue else .refuse) with
    | error cause => simp [hs, bind, Except.bind]
    | ok spending =>
      cases spending with
      | queued t => simp [hs, bind, Except.bind, pure, Except.pure]
      | spent charged =>
        obtain ⟨credited, hc⟩ := exists_credit_of_measure hm charged amount.units now
        simp [hs, hc, bind, Except.bind, pure, Except.pure]

/-- **A transfer accounts for its whole amount.** The departure that it stores has each unit of the
order in its message or in its dust, and what is in the message is what the quota counts. No count
ever exceeds a word. The only fault is in the trimming, if more than 19 digits have to go. -/
theorem transfer_accounts_for_amount (e : Endpoint) (o : TransferOrder) (now : UInt64) :
    (∀ t, (transfer o now e).1 = .ok t →
      ∃ d peer, (transfer o now e).2.departures.get? t.departure = some d ∧
        d.message = t.message ∧ d.dust = t.dust ∧ e.Serves o peer ∧ e.Accounts o peer d) ∧
    ∀ fault, (transfer o now e).1 = .error (.scaling fault) ↔
      fault = .exponent ∧ ∃ peer, e.Serves o peer ∧
        19 < e.site.tokenDecimals.toNat - (e.messageDecimals peer).toNat := by
  refine ⟨fun t ht => ?_, fun fault => ?_⟩
  · obtain ⟨d, hstored, hmessage, hdust, -, hmeasures⟩ := (effect_of_transfer ht).measured_departure
    rw [← hmessage, ← hdust] at hmeasures
    obtain ⟨peer, hserves, haccounts⟩ := hmeasures.accounts
    exact ⟨d, peer, hstored, hmessage, hdust, hserves, haccounts⟩
  · rw [← measure_eq_scaling]
    refine transfer_eq_error.trans (or_iff_left ?_)
    rintro ⟨_, _, _, -, hspend⟩
    exact Quota.spend_ne_scaling hspend

/-- Of 5000000000007 units with 18 decimals, 5 cross with 6, the quota is charged 500 with 8, and 7
are dust. A token of 30 decimals would need 24 of them taken away. -/
theorem transfer_accounts_for_amount_sample :
    let opening : List Command :=
      [.registerPeer ⟨2⟩ (Sample.address 238) 6 1000 100, .registerTransceiver (Sample.address 10)]
    let order : TransferOrder := ⟨5000000000007, ⟨2⟩, Sample.address 3, Sample.address 1, false, []⟩
    let e := (Sample.endpoint.run opening).2
    let fine := ({ Sample.endpoint with site.tokenDecimals := 30 }.run opening).2
    Reachable e ∧ (transfer order 150 e).1 = .ok ⟨0, e.nextMessage order ⟨5, 6⟩, 7, none⟩ ∧
    (∃ d peer, (transfer order 150 e).2.departures.get? 0 = some d ∧
      d.message.amount = ⟨5, 6⟩ ∧ d.dust = 7 ∧ d.amount = ⟨500, 8⟩ ∧ e.Accounts order peer d) ∧
    Reachable fine ∧ (transfer order 150 fine).1 = .error (.scaling .exponent) := by
  intro opening order e fine
  have he : Reachable e := (Reachable.start Sample.establish_eq).run _
  have hestablish : Endpoint.establish { Sample.site with tokenDecimals := 30 } Sample.terms 1000 100
      = .ok { Sample.endpoint with site.tokenDecimals := 30 } := rfl
  have ht : (transfer order 150 e).1 = .ok ⟨0, e.nextMessage order ⟨5, 6⟩, 7, none⟩ := by
    decide +kernel
  obtain ⟨d, peer, hstored, hmessage, hdust, -, haccounts⟩ :=
    (transfer_accounts_for_amount e order 150).1 _ ht
  have hd : ((transfer order 150 e).2.departures.get? 0).map Departure.amount = some ⟨500, 8⟩ := by
    decide +kernel
  have hamount : d.amount = ⟨500, 8⟩ := by
    rw [hstored] at hd
    exact Option.some.inj hd
  refine ⟨he, ht, ⟨d, peer, hstored, by rw [hmessage]; rfl, hdust, hamount, haccounts⟩,
    (Reachable.start hestablish).run _, ?_⟩
  refine ((transfer_accounts_for_amount fine order 150).2 _).2 ⟨rfl, ⟨⟨2⟩, Sample.address 238, 6,
    Quota.full 1000 100⟩, ⟨?_, ?_, ?_, ?_⟩, ?_⟩ <;> decide +kernel

end Endpoint

end TokenBridge
