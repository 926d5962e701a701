import Mathlib.Data.List.Nodup
import TokenBridge.Proofs.Amount
import TokenBridge.Proofs.Regular

/-!
# Payment of arrivals

How often is a message paid out? The number of payouts under a key along a run equals one
if the arrival there `isPaid`, and zero otherwise (`count_payouts`); this is the invariant
from which both results follow. A message is paid out at most once, whatever the order of
commands. And a released message was paid out exactly if its value can be counted in the
token's decimals: one that cannot is marked as released all the same.
-/

namespace TokenBridge

namespace Endpoint

/-- The arrival is released and has a value to hand out. -/
def isPaid (e : Endpoint) (a : Arrival) : Bool := a.isReleased && (e.payoutOf a.message).isOk

def isPaidUnder (e : Endpoint) (k : ChainId × MessageId) : Bool :=
  (e.arrivals.get? k).any e.isPaid

variable {e next : Endpoint} {c : Command} {answer : Except Error Answer}

theorem payoutOf_eq_ok {m : TransferMessage} {p : Payout} :
    e.payoutOf m = .ok p ↔ p.sourceChain = m.sourceChain ∧ p.id = m.id ∧
      p.recipient = m.recipient ∧ m.amount.untrim e.site.tokenDecimals = .ok p.amount := by
  simp only [payoutOf, bind_eq_ok, pure_eq_ok, scaled_eq_ok]
  constructor
  · rintro ⟨n, hn, rfl⟩
    exact ⟨rfl, rfl, rfl, hn⟩
  · rintro ⟨hc, hi, hr, hn⟩
    exact ⟨p.amount, hn, by rw [← hc, ← hi, ← hr]⟩

theorem isOk_payoutOf {m : TransferMessage} :
    (e.payoutOf m).isOk = true ↔ ∃ n, m.amount.untrim e.site.tokenDecimals = .ok n := by
  constructor
  · intro h
    cases hp : e.payoutOf m with
    | ok p => exact ⟨p.amount, (payoutOf_eq_ok.1 hp).2.2.2⟩
    | error err =>
      rw [hp] at h
      cases h
  · rintro ⟨n, hn⟩
    have hp : e.payoutOf m = .ok ⟨m.sourceChain, m.id, m.recipient, n⟩ :=
      payoutOf_eq_ok.2 ⟨rfl, rfl, rfl, hn⟩
    rw [hp]
    rfl

theorem payoutOf_congr (h : next.site = e.site) (m : TransferMessage) :
    next.payoutOf m = e.payoutOf m := by simp only [payoutOf, h]

theorem isPaid_congr (h : next.site = e.site) (a : Arrival) : next.isPaid a = e.isPaid a := by
  rw [isPaid, isPaid, payoutOf_congr h]

theorem key_of_payoutOf {m : TransferMessage} {p : Payout} (h : e.payoutOf m = .ok p) :
    p.key = Arrivals.key m := by
  obtain ⟨hc, hi, -, -⟩ := payoutOf_eq_ok.1 h
  rw [Payout.key, Arrivals.key, hc, hi]

theorem isPaid_of_ne_released {a : Arrival} (h : a.status ≠ .released) : e.isPaid a = false := by
  simp [isPaid, Arrival.isReleased, h]

theorem isPaid_releaseAfter (b : Arrival) (time : UInt64) :
    e.isPaid { b with status := .releaseAfter time } = false := isPaid_of_ne_released nofun

theorem isPaid_new (m : TransferMessage) (amount : Amount) : e.isPaid (.new m amount) = false :=
  isPaid_of_ne_released nofun

/-- A handling pays out exactly if it makes the arrival a paid one. -/
theorem Handles.isPaid {p : Option Payout} {a b : Arrival} (h : Handles e c p a b)
    (hr : Regular e) :
    (∃ payout, p = some payout ∧ payout.key = Arrivals.key a.message ∧
      e.isPaid a = false ∧ e.isPaid b = true) ∨ (p = none ∧ e.isPaid b = e.isPaid a) := by
  have ofCast {v : Vote} {amount : Amount} {isNew : Bool} {a b : Arrival}
      (hcast : e.Casts v amount isNew a b) : a.message = v.message ∧ b.message = v.message ∧
        a.status = b.status := by
    exact ⟨hcast.entry_message_eq, hcast.message_eq, hcast.status_eq.symm⟩
  cases h with
  | vote _ hcast =>
    obtain ⟨ha, hb, hs⟩ := ofCast hcast
    refine .inr ⟨rfl, ?_⟩
    simp only [Endpoint.isPaid, Arrival.isReleased, ha, hb, hs]
  | schedule _ hcast hset =>
    obtain ⟨ha, hb, hs⟩ := ofCast hcast
    refine .inr ⟨rfl, ?_⟩
    rw [isPaid_of_ne_released (a := a) (by rw [hs, hset.2]; exact nofun),
      isPaid_releaseAfter]
  | @pay v _ _ _ b payout _ hcast hset hpay =>
    obtain ⟨ha, hb, hs⟩ := ofCast hcast
    refine .inl ⟨payout, rfl, by rw [key_of_payoutOf hpay, ha], ?_, ?_⟩
    · exact isPaid_of_ne_released (by rw [hs, hset.2]; exact nofun)
    · simp [Endpoint.isPaid, Arrival.isReleased, hb, hpay, Except.isOk, Except.toBool]
  | lose _ hcast hset hpay =>
    obtain ⟨ha, hb, hs⟩ := ofCast hcast
    refine .inr ⟨rfl, ?_⟩
    rw [isPaid_of_ne_released (a := a) (by rw [hs, hset.2]; exact nofun)]
    simp [Endpoint.isPaid, hb, hpay, Except.isOk, Except.toBool]
  | @release _ _ _ _ _ payout _ _ hs _ hpay =>
    refine .inl ⟨payout, rfl, key_of_payoutOf hpay, ?_, ?_⟩
    · exact isPaid_of_ne_released (by rw [hs]; exact nofun)
    · simp [Endpoint.isPaid, Arrival.isReleased, hpay, Except.isOk, Except.toBool]
  | loseRelease _ ha hs _ hfail =>
    refine .inr ⟨rfl, ?_⟩
    rw [isPaid_of_ne_released (a := a) (by rw [hs]; exact nofun)]
    obtain hpay | hnone := hfail
    · simp [Endpoint.isPaid, hpay, Except.isOk, Except.toBool]
    · -- the peer of a stored message is registered
      obtain ⟨peer, hpeer⟩ := (hr.vetted _ _ ha).peer
      have hkey := congrArg Prod.fst (hr.arrivals _ _ ha)
      simp only [Arrivals.key] at hkey
      rw [hkey, hnone] at hpeer
      cases hpeer

/-- A payout of a vote is for the message of the vote. -/
theorem Effect.payout_key_of_vote (h : Effect e c answer next) {v : Vote} (hv : c.vote? = some v)
    {r : Payout} (hp : payoutOfAnswer answer = some r) : r.key = Arrivals.key v.message := by
  obtain ⟨-, hnone⟩ | ⟨a, b, hb, -⟩ := h.arrivals
  · rw [hp] at hnone
    cases hnone
  · rw [hp] at hb
    cases hb with
    | pay hv' _ _ hpay =>
      rw [hv] at hv'
      cases hv'
      exact key_of_payoutOf hpay
    | release hc =>
      rw [hc] at hv
      cases hv

/-- A step adds to the payouts under a key what it adds to the paid arrival there. -/
theorem Effect.count_payouts (h : Effect e c answer next) (hr : Regular e)
    (k : ChainId × MessageId) :
    (e.isPaidUnder k).toNat + ((payouts [answer]).map Payout.key).count k
      = (next.isPaidUnder k).toNat := by
  have hpaid (a : Arrival) : next.isPaid a = e.isPaid a := isPaid_congr h.site_eq a
  rw [payouts_singleton]
  obtain ⟨heq, hnone⟩ | ⟨a, b, hb, heq⟩ := h.arrivals
  · simp [isPaidUnder, heq, hnone, funext hpaid]
  · have hkey : Arrivals.key b.message = Arrivals.key a.message := by rw [hb.evolves.message]
    have hnext : next.isPaidUnder k =
        if Arrivals.key a.message = k then e.isPaid b else e.isPaidUnder k := by
      unfold isPaidUnder
      rw [heq, Arrivals.put, Table.get?_set, hkey]
      split <;> simp [funext hpaid]
    by_cases hk : Arrivals.key a.message = k
    · have hbefore : e.isPaidUnder k = e.isPaid a := by
        unfold isPaidUnder
        obtain hget | ⟨hget, v, amount, -, -, rfl⟩ := hb.entry hr.arrivals
        · rw [← hk, hget]
          rfl
        · rw [← hk, hget, isPaid_new]
          rfl
      rw [hnext, if_pos hk, hbefore]
      obtain ⟨payout, hp, hpk, ha, hb'⟩ | ⟨hp, hsame⟩ := hb.isPaid hr
      · simp [hp, hpk, hk, ha, hb']
      · simp [hp, hsame]
    · rw [hnext, if_neg hk]
      obtain ⟨payout, hp, hpk, -, -⟩ | ⟨hp, -⟩ := hb.isPaid hr
      · simp [hp, hpk, hk]
      · simp [hp]

theorem count_payouts_run (hr : Regular e) (cs : List Command) (k : ChainId × MessageId) :
    (e.isPaidUnder k).toNat + ((payouts (e.run cs).1).map Payout.key).count k =
      ((e.run cs).2.isPaidUnder k).toNat := by
  induction cs using List.reverseRecOn with
  | nil => simp [payouts]
  | append_singleton cs c ih =>
    rw [run_concat, payouts_append, List.map_append, List.count_append, ← Nat.add_assoc, ih]
    exact (perform_effect _ c).count_payouts (regular_run hr cs) k

theorem count_payouts {site : Site} {terms : Terms} {limit now : UInt64}
    (h : establish site terms limit now = .ok e) (cs : List Command) (k : ChainId × MessageId) :
    ((payouts (e.run cs).1).map Payout.key).count k = ((e.run cs).2.isPaidUnder k).toNat := by
  have hempty : e.arrivals.get? k = none := by
    rw [establish_eq_ok h]
    rfl
  have hrun := count_payouts_run (regular_establish h) cs k
  rw [isPaidUnder, hempty] at hrun
  simpa using hrun

/-- **A message is released at most once**, and what is known about it only moves forward: no
two payouts of a run have the same key, and the arrival under a key stays there with its
message and its amount, while its votes and its status evolve. -/
theorem release_at_most_once {site : Site} {terms : Terms} {limit now : UInt64}
    (h : establish site terms limit now = .ok e) :
    (∀ cs, ((payouts (e.run cs).1).map Payout.key).Nodup) ∧
      ∀ cs ds k a, (e.run cs).2.arrivals.get? k = some a →
        ∃ b, (e.run (cs ++ ds)).2.arrivals.get? k = some b ∧ a.Evolves b := by
  constructor
  · intro cs
    rw [List.nodup_iff_count_le_one]
    intro k
    rw [count_payouts h cs k]
    exact Bool.toNat_le _
  · intro cs ds k a ha
    rw [run_append_snd]
    exact arrival_evolves_run (regular_run (regular_establish h) cs) ds ha

/-- Votes that come again and a release that comes too late pay out nothing more. -/
theorem release_at_most_once_sample :
    let cs := Sample.opening 1000 ++ Sample.votes (Sample.message 7 500) 200
    let ds := Sample.votes (Sample.message 7 500) 150 ++ [.release ⟨2⟩ (.ofSequence 7) 300]
    Endpoint.establish Sample.site Sample.terms 1000 100 = .ok Sample.endpoint ∧
      (payouts (Sample.endpoint.run (cs ++ ds)).1).length = 1 ∧
      ((payouts (Sample.endpoint.run (cs ++ ds)).1).map Payout.key).Nodup ∧
      ∀ k a, (Sample.endpoint.run cs).2.arrivals.get? k = some a →
        ∃ b, (Sample.endpoint.run (cs ++ ds)).2.arrivals.get? k = some b ∧ a.Evolves b :=
  ⟨Sample.establish_eq, rfl, (release_at_most_once Sample.establish_eq).1 _,
    (release_at_most_once Sample.establish_eq).2 _ _⟩

/-- **A released message was paid out exactly if its value can be counted** in the token's
decimals. A value that cannot is lost: the message is marked as released before the value
is computed, and a release is not tried again. -/
theorem released_paid_iff_fits {site : Site} {terms : Terms} {limit now : UInt64}
    (h : establish site terms limit now = .ok e) {cs : List Command} {k : ChainId × MessageId}
    {a : Arrival} (ha : (e.run cs).2.arrivals.get? k = some a) (hs : a.status = .released) :
    (∃ p ∈ payouts (e.run cs).1, p.key = k) ↔ a.message.amount.FitsAt site.tokenDecimals := by
  have hsite : (e.run cs).2.site = site := by rw [run_site, site_establish h]
  have hv := (regular_run (regular_establish h) cs).vetted k a ha
  have hdec := hv.decimals
  rw [hsite] at hdec
  have hpaid : (e.run cs).2.isPaidUnder k = true ↔ a.message.amount.FitsAt site.tokenDecimals := by
    rw [← Amount.exists_untrim_iff hdec, isPaidUnder, ha, Option.any_some, isPaid,
      Arrival.isReleased, hs, beq_self_eq_true, Bool.true_and, ← hsite, isOk_payoutOf]
  rw [← hpaid, ← List.mem_map (f := Payout.key), ← List.count_pos_iff, count_payouts h cs k]
  cases (e.run cs).2.isPaidUnder k <;> simp

/-- A value that fits is paid out. -/
theorem released_paid_iff_fits_sample :
    let cs := Sample.opening 1000 ++ Sample.votes (Sample.message 7 500) 200
    let k := Arrivals.key (Sample.message 7 500)
    Endpoint.establish Sample.site Sample.terms 1000 100 = .ok Sample.endpoint ∧
      ∃ a, (Sample.endpoint.run cs).2.arrivals.get? k = some a ∧ a.status = .released ∧
        a.message.amount.FitsAt Sample.site.tokenDecimals ∧
        ((∃ p ∈ payouts (Sample.endpoint.run cs).1, p.key = k) ↔
          a.message.amount.FitsAt Sample.site.tokenDecimals) := by
  refine ⟨Sample.establish_eq, ⟨Sample.message 7 500, ⟨500, 8⟩, ⟨3⟩, .released⟩, rfl, rfl, ?_, ?_⟩
  · decide +kernel
  · exact released_paid_iff_fits Sample.establish_eq rfl rfl

/-- Twenty tokens, counted with 18 decimals, are no word. The vote that approves them fails, but
they are released with nothing paid out, and the quota has lost them. So are fifty tokens
that the quota made wait: the release that was due fails, and the next one has nothing to do. -/
theorem released_without_payout :
    let small := Sample.message 7 2000000000
    let large := Sample.message 8 5000000000
    let first := Sample.opening 3000000000 ++ Sample.votes small 200 ++ Sample.votes large 200
    let last := first ++ [.release ⟨2⟩ (.ofSequence 8) 400000, .release ⟨2⟩ (.ofSequence 8) 400000]
    let status (cs : List Command) (m : TransferMessage) :=
      ((Sample.endpoint.run cs).2.arrivals.get? (Arrivals.key m)).map Arrival.status
    status last small = some .released ∧
      (∃ time ≤ 400000, status first large = some (.releaseAfter time)) ∧
      status last large = some .released ∧
      payouts (Sample.endpoint.run last).1 = [] ∧
      ((Sample.endpoint.run first).2.peers.get? ⟨2⟩).map (·.inbound.remaining) = some 1000000000 ∧
      (Sample.endpoint.run last).1.getLast? = some (.ok (.release .alreadyReleased)) := by
  refine ⟨rfl, ⟨115400, by decide, rfl⟩, rfl, rfl, rfl, rfl⟩

end Endpoint

end TokenBridge
