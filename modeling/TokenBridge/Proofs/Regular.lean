import TokenBridge.Proofs.Arrival

/-!
# Regular endpoints

What holds of an endpoint whatever commands led to it (`Reachable.regular`): tables hold
their entries under the right keys, the transceivers are orderly, and what is
stored about a message is what was checked and counted when it was entered. `Vetted` is
that promise for an arrival, `Charted` for a departure; both outlive every command, since
a peer is never removed and the decimals of the quotas never change.
-/

namespace TokenBridge

namespace Endpoint

structure Vetted (e : Endpoint) (a : Arrival) : Prop where
  peer : ∃ peer, e.peers.get? a.message.sourceChain = some peer
  recipientChain : a.message.recipientChain = e.site.chain
  decimals : a.message.amount.decimals ≤ e.site.tokenDecimals
  amount : a.message.amount.withDecimals e.quotaDecimals = .ok a.amount

structure Charted (e : Endpoint) (d : Departure) : Prop where
  peer : ∃ peer, e.peers.get? d.message.recipientChain = some peer
  amount : d.message.amount.withDecimals e.quotaDecimals = .ok d.amount

structure Regular (e : Endpoint) : Prop where
  peers : PeersKeyed e.peers
  transceivers : e.transceivers.Orderly
  arrivals : ArrivalsKeyed e.arrivals
  vetted : ∀ k a, e.arrivals.get? k = some a → e.Vetted a
  departures : ∀ id d, e.departures.get? id = some d → d.id = id
  charted : ∀ id d, e.departures.get? id = some d → e.Charted d

/-- An established endpoint is at its site and has seen nothing yet. -/
theorem establish_eq_ok {site : Site} {terms : Terms} {limit now : UInt64} {e : Endpoint}
    (h : establish site terms limit now = .ok e) :
    e = { site, terms, peers := .empty, transceivers := .none, threshold := 0,
          outbound := Quota.full limit now, arrivals := .empty, departures := .none,
          nextSequence := 0 } := by
  unfold establish at h
  split at h
  · cases h
  · split at h
    · cases h
    · cases h
      rfl

theorem site_establish {site : Site} {terms : Terms} {limit now : UInt64} {e : Endpoint}
    (h : establish site terms limit now = .ok e) : e.site = site := by rw [establish_eq_ok h]

theorem regular_establish {site : Site} {terms : Terms} {limit now : UInt64} {e : Endpoint}
    (h : establish site terms limit now = .ok e) : Regular e := by
  rw [establish_eq_ok h]
  constructor
  · intro chain peer hp
    cases hp
  · exact Transceivers.orderly_none
  · intro k a ha
    cases ha
  · intro k a ha
    cases ha
  · intro id d hd
    cases hd
  · intro id d hd
    cases hd

variable {e next : Endpoint} {c : Command} {answer : Except Error Answer}

theorem Vetted.after {a : Arrival} (hv : e.Vetted a) (h : Effect e c answer next)
    (hk : PeersKeyed e.peers) : next.Vetted a := by
  obtain ⟨peer, hp⟩ := hv.peer
  refine ⟨h.peer_stays hk hp, ?_, ?_, ?_⟩
  · rw [h.site_eq, hv.recipientChain]
  · rw [h.site_eq]
    exact hv.decimals
  · rw [h.quotaDecimals_eq, hv.amount]

theorem Charted.after {d : Departure} (hd : e.Charted d) (h : Effect e c answer next)
    (hk : PeersKeyed e.peers) : next.Charted d := by
  obtain ⟨peer, hp⟩ := hd.peer
  exact ⟨h.peer_stays hk hp, by rw [h.quotaDecimals_eq, hd.amount]⟩

/-- An arrival that has evolved from a vetted one is vetted. -/
theorem Vetted.evolves {a b : Arrival} (hv : e.Vetted a) (h : a.Evolves b) : e.Vetted b := by
  obtain ⟨hpeer, hrec, hdec, ham⟩ := hv
  constructor <;> rw [h.message]
  · exact hpeer
  · exact hrec
  · exact hdec
  · rw [h.amount, ham]

theorem vetted_new {v : Vote} {amount : Amount} (h : e.Accepts v amount) :
    e.Vetted (.new v.message amount) := by
  obtain ⟨peer, hp, -⟩ := h.manager
  exact ⟨⟨peer, hp⟩, h.recipientChain, h.decimals, h.amount⟩

theorem Handles.vetted {p : Option Payout} {a b : Arrival} (h : Handles e c p a b)
    (hr : Regular e) : e.Vetted a ∧ e.Vetted b := by
  have ha : e.Vetted a := by
    obtain hget | ⟨-, v, amount, -, hacc, rfl⟩ := h.entry hr.arrivals
    · exact hr.vetted _ _ hget
    · exact vetted_new hacc
  exact ⟨ha, ha.evolves h.evolves⟩

theorem Effect.vetted (h : Effect e c answer next) (hr : Regular e) :
    ∀ k a, next.arrivals.get? k = some a → next.Vetted a := by
  intro k a ha
  obtain heq | ⟨a', b, hb, -, heq⟩ := h.arrival_at k
  · rw [heq] at ha
    exact (hr.vetted k a ha).after h hr.peers
  · rw [heq] at ha
    cases ha
    exact (hb.vetted hr).2.after h hr.peers

theorem Effect.charted (h : Effect e c answer next) (hr : Regular e) :
    ∀ id d, next.departures.get? id = some d → d.id = id ∧ next.Charted d := by
  intro id d hd
  have old (hd : e.departures.get? id = some d) : d.id = id ∧ next.Charted d :=
    ⟨hr.departures id d hd, (hr.charted id d hd).after h hr.peers⟩
  obtain heq | ⟨o, trimmed, dust, amount, time, queued, hm, heq⟩ |
    ⟨id', d₀, index, now, d₁, hd₀, htry, heq⟩ | ⟨id', heq⟩ := h.departures_eq
  · rw [heq] at hd
    exact old hd
  · rw [heq] at hd
    simp only [Departures.add, Departures.get?, Table.get?_set] at hd
    split at hd
    · rename_i hid
      cases hd
      obtain ⟨peer, hp, -⟩ := hm.split
      have hnew : e.Charted ⟨e.departures.nextId, e.nextMessage o trimmed, amount, dust, time,
          queued, .empty⟩ := ⟨⟨peer, hp⟩, hm.amount⟩
      exact ⟨hid, hnew.after h hr.peers⟩
    · exact old hd
  · have hsame := eq_of_tryRelease htry
    have hid₁ : d₁.id = d₀.id := by rw [hsame]
    rw [heq] at hd
    simp only [Departures.put, Departures.get?, Table.get?_set] at hd
    split at hd
    · rename_i hid
      cases hd
      refine ⟨hid, ?_⟩
      have hc := (hr.charted id' d₀ hd₀).after h hr.peers
      rw [hsame]
      exact ⟨hc.peer, hc.amount⟩
    · exact old hd
  · rw [heq] at hd
    simp only [Departures.get?, Table.get?_erase] at hd
    split at hd
    · cases hd
    · exact old hd

theorem Effect.regular (h : Effect e c answer next) (hr : Regular e) : Regular next where
  peers := h.peersKeyed hr.peers
  transceivers := h.orderly hr.transceivers
  arrivals := h.arrivalsKeyed hr.arrivals
  vetted := h.vetted hr
  departures id d hd := (h.charted hr id d hd).1
  charted id d hd := (h.charted hr id d hd).2

theorem regular_perform (hr : Regular e) (c : Command) : Regular (perform c e).2 :=
  (perform_effect e c).regular hr

theorem regular_run (hr : Regular e) (cs : List Command) : Regular (e.run cs).2 := by
  induction cs generalizing e with
  | nil => exact hr
  | cons c cs ih => exact ih (regular_perform hr c)

theorem Reachable.regular (h : Reachable e) : Regular e := by
  induction h with
  | start h => exact regular_establish h
  | next c _ ih => exact regular_perform ih c

theorem run_site (e : Endpoint) (cs : List Command) : (e.run cs).2.site = e.site := by
  induction cs generalizing e with
  | nil => rfl
  | cons c cs ih => rw [run, ih, (perform_effect e c).site_eq]

/-- What is stored under a key stays there along a run and evolves. -/
theorem arrival_evolves_run (hr : Regular e) (cs : List Command) {k : ChainId × MessageId}
    {a : Arrival} (ha : e.arrivals.get? k = some a) :
    ∃ b, (e.run cs).2.arrivals.get? k = some b ∧ a.Evolves b := by
  induction cs generalizing e a with
  | nil => exact ⟨a, ha, .refl a⟩
  | cons c cs ih =>
    obtain ⟨b, hb, hab⟩ := (perform_effect e c).arrival_evolves hr.arrivals ha
    obtain ⟨b', hb', hbb'⟩ := ih (regular_perform hr c) hb
    exact ⟨b', hb', hab.trans hbb'⟩

end Endpoint

end TokenBridge
