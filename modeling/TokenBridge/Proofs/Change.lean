import TokenBridge.Proofs.Effect
import TokenBridge.Proofs.Enrolment
import TokenBridge.Proofs.IndexSet

/-!
# What an effect changes

The parts of an endpoint one at a time. Where it stands and what it agreed on never
changes; a command changes at most one peer and one departure. What becomes of arrivals
is told by `TokenBridge.Proofs.Arrival`.
-/

namespace TokenBridge

namespace Endpoint

variable {e next : Endpoint} {c : Command} {answer : Except Error Answer}

@[simp] theorem putArrival_arrivals (e : Endpoint) (a : Arrival) :
    (e.putArrival a).arrivals = e.arrivals.put a := rfl

section
variable (e : Endpoint) (amount now : UInt64)

@[simp] theorem creditOutbound_site : (e.creditOutbound amount now).site = e.site := by
  unfold creditOutbound; split <;> rfl

@[simp] theorem creditOutbound_terms : (e.creditOutbound amount now).terms = e.terms := by
  unfold creditOutbound; split <;> rfl

@[simp] theorem creditOutbound_peers : (e.creditOutbound amount now).peers = e.peers := by
  unfold creditOutbound; split <;> rfl

@[simp] theorem creditOutbound_transceivers :
    (e.creditOutbound amount now).transceivers = e.transceivers := by
  unfold creditOutbound; split <;> rfl

@[simp] theorem creditOutbound_threshold :
    (e.creditOutbound amount now).threshold = e.threshold := by
  unfold creditOutbound; split <;> rfl

@[simp] theorem creditOutbound_arrivals : (e.creditOutbound amount now).arrivals = e.arrivals := by
  unfold creditOutbound; split <;> rfl

@[simp] theorem creditOutbound_departures :
    (e.creditOutbound amount now).departures = e.departures := by
  unfold creditOutbound; split <;> rfl

@[simp] theorem creditOutbound_nextSequence :
    (e.creditOutbound amount now).nextSequence = e.nextSequence := by
  unfold creditOutbound; split <;> rfl

end

/-- A credit to an inbound quota changes nothing else. -/
structure Credited (e next : Endpoint) : Prop where
  site : next.site = e.site
  terms : next.terms = e.terms
  transceivers : next.transceivers = e.transceivers
  threshold : next.threshold = e.threshold
  outbound : next.outbound = e.outbound
  arrivals : next.arrivals = e.arrivals
  departures : next.departures = e.departures
  nextSequence : next.nextSequence = e.nextSequence

theorem credited_of_creditInbound {chain : ChainId} {amount now : UInt64}
    (h : e.creditInbound chain amount now = .ok next) : Credited e next := by
  obtain ⟨peer, -, rfl⟩ := creditInbound_eq_ok.1 h
  split <;> exact ⟨rfl, rfl, rfl, rfl, rfl, rfl, rfl, rfl⟩

theorem Effect.site_eq (h : Effect e c answer next) : next.site = e.site := by
  cases h with
  | sent _ _ hc => exact (credited_of_creditInbound hc).site
  | departedCharged _ _ _ _ _ hc => exact (credited_of_creditInbound hc).site
  | paid => rw [creditOutbound_site]; rfl
  | released => rw [creditOutbound_site]; rfl
  | _ => rfl

theorem Effect.terms_eq (h : Effect e c answer next) : next.terms = e.terms := by
  cases h with
  | sent _ _ hc => exact (credited_of_creditInbound hc).terms
  | departedCharged _ _ _ _ _ hc => exact (credited_of_creditInbound hc).terms
  | paid => rw [creditOutbound_terms]; rfl
  | released => rw [creditOutbound_terms]; rfl
  | _ => rfl

theorem quotaDecimals_le (e : Endpoint) : e.quotaDecimals ≤ e.site.tokenDecimals :=
  Std.min_le_right

theorem Effect.quotaDecimals_eq (h : Effect e c answer next) :
    next.quotaDecimals = e.quotaDecimals := by
  rw [quotaDecimals, quotaDecimals, h.site_eq, h.terms_eq]

/-! ## Peers and transceivers -/

/-- Every peer stands under its chain. -/
def PeersKeyed (ps : Peers) : Prop := ∀ chain peer, ps.get? chain = some peer → peer.chain = chain

theorem setInbound_eq (ps : Peers) (peer : Peer) (inbound : Quota) :
    ∃ p : Peer, ps.setInbound peer inbound = ps.set p.chain p := ⟨{ peer with inbound }, rfl⟩

/-- A new quota for a peer stands under its chain, and the others stay. -/
theorem PeersKeyed.get?_setInbound {ps : Peers} {source : ChainId} {known : Peer}
    (hk : PeersKeyed ps) (h : ps.get? source = some known) (inbound : Quota) (chain : ChainId) :
    (ps.setInbound known inbound).get? chain =
      if source = chain then some { known with inbound } else ps.get? chain := by
  rw [Peers.setInbound, hk source known h, Table.get?_set]

theorem peers_of_creditInbound {chain : ChainId} {amount now : UInt64}
    (h : e.creditInbound chain amount now = .ok next) :
    next.peers = e.peers ∨ ∃ peer : Peer, next.peers = e.peers.set peer.chain peer := by
  obtain ⟨peer, -, rfl⟩ := creditInbound_eq_ok.1 h
  split
  · exact .inr (setInbound_eq ..)
  · exact .inl rfl

theorem chain_of_registered {period : Period} {known : Option Peer} {chain : ChainId}
    {manager : Address} {tokenDecimals : UInt8} {limit now : UInt64} {peer : Peer}
    (hk : ∀ p, known = some p → p.chain = chain)
    (h : Peers.registered period known chain manager tokenDecimals limit now = .ok peer) :
    peer.chain = chain := by
  unfold Peers.registered at h
  split at h
  · cases h
    rfl
  · rename_i p
    split at h
    · cases h
    · split at h
      · cases h
      · cases h
        exact hk p rfl

theorem Effect.peers_eq (h : Effect e c answer next) (hk : PeersKeyed e.peers) :
    next.peers = e.peers ∨ ∃ peer : Peer, next.peers = e.peers.set peer.chain peer := by
  cases h with
  | peerRegistered _ _ hreg =>
    have hchain := chain_of_registered (hk _) hreg
    exact .inr ⟨_, by rw [hchain]⟩
  | @peerUpdated _ manager tokenDecimals peer _ hp =>
    have hchain := hk _ _ hp
    exact .inr ⟨{ peer with manager, tokenDecimals }, by rw [hchain]⟩
  | inboundResized => exact .inr (setInbound_eq ..)
  | sent _ _ hc => have := peers_of_creditInbound hc; exact this
  | departedCharged _ _ _ _ _ hc => have := peers_of_creditInbound hc; exact this
  | paid => rw [creditOutbound_peers]; exact .inr (setInbound_eq ..)
  | lost => exact .inr (setInbound_eq ..)
  | released => rw [creditOutbound_peers]; exact .inr (setInbound_eq ..)
  | _ => exact .inl rfl

theorem Effect.peersKeyed (h : Effect e c answer next) (hk : PeersKeyed e.peers) :
    PeersKeyed next.peers := by
  obtain heq | ⟨new, heq⟩ := h.peers_eq hk
  · rwa [heq]
  · intro chain peer hp
    rw [heq, Table.get?_set] at hp
    split at hp
    · cases hp
      assumption
    · exact hk chain peer hp

/-- A registered peer stays registered. -/
theorem Effect.peer_stays (h : Effect e c answer next) (hk : PeersKeyed e.peers) {chain : ChainId}
    {peer : Peer} (hp : e.peers.get? chain = some peer) : ∃ p, next.peers.get? chain = some p := by
  obtain heq | ⟨new, heq⟩ := h.peers_eq hk
  · exact ⟨peer, by rw [heq, hp]⟩
  · rw [heq, Table.get?_set]
    split
    · exact ⟨new, rfl⟩
    · exact ⟨peer, hp⟩

/-- The transceivers stay, or one is registered, deregistered or given a peer. -/
theorem Effect.transceivers_cases (h : Effect e c answer next) :
    next.transceivers = e.transceivers ∨
    (∃ address index, e.transceivers.register address = .ok (index, next.transceivers)) ∨
    (∃ index, e.transceivers.deregister index = .ok next.transceivers) ∨
    ∃ index chain address, e.transceivers.setPeer index chain address = .ok next.transceivers := by
  cases h with
  | transceiverRegistered hreg => exact .inr (.inl ⟨_, _, hreg⟩)
  | transceiverDeregistered hreg => exact .inr (.inr (.inl ⟨_, hreg⟩))
  | transceiverPeerSet hset => exact .inr (.inr (.inr ⟨_, _, _, hset⟩))
  | sent _ _ hc =>
    have ht := (credited_of_creditInbound hc).transceivers
    exact .inl ht
  | departedCharged _ _ _ _ _ hc =>
    have ht := (credited_of_creditInbound hc).transceivers
    exact .inl ht
  | paid => rw [creditOutbound_transceivers]; exact .inl rfl
  | released => rw [creditOutbound_transceivers]; exact .inl rfl
  | _ => exact .inl rfl

theorem Effect.orderly (h : Effect e c answer next) (ht : e.transceivers.Orderly) :
    next.transceivers.Orderly := by
  obtain heq | ⟨_, _, hreg⟩ | ⟨_, hreg⟩ | ⟨_, _, _, hset⟩ := h.transceivers_cases
  · rwa [heq]
  · exact ht.register hreg
  · exact ht.deregister hreg
  · exact ht.setPeer hset

/-! ## Departures -/

/-- The checks that an order passes, and its amount in the three ways of counting it. -/
structure Measures (e : Endpoint) (o : TransferOrder) (trimmed : Amount) (dust : UInt64)
    (amount : Amount) : Prop where
  away : o.recipientChain ≠ e.site.chain
  recipient : o.recipient.isZero = false
  enabled : e.transceivers.enabledCount ≠ 0
  split : ∃ peer, e.peers.get? o.recipientChain = some peer ∧
    Amount.split o.amount e.site.tokenDecimals peer.tokenDecimals e.terms.maxDecimals
      = .ok (trimmed, dust)
  positive : trimmed.isZero = false
  amount : trimmed.withDecimals e.quotaDecimals = .ok amount

theorem measure_eq_ok {o : TransferOrder} {trimmed amount : Amount} {dust : UInt64} :
    e.measure o = .ok (trimmed, dust, amount) ↔ e.Measures o trimmed dust amount := by
  unfold measure
  simp only [guard_eq_ok, bind_eq_ok, pure_eq_ok, Peers.require_eq_ok, scaled_eq_ok,
    Bool.not_eq_true]
  constructor
  · rintro ⟨haway, hrec, hen, peer, hp, ⟨t, d⟩, hsplit, hpos, n, hn, heq⟩
    cases heq
    exact ⟨haway, hrec, hen, ⟨peer, hp, hsplit⟩, hpos, hn⟩
  · rintro ⟨haway, hrec, hen, ⟨peer, hp, hsplit⟩, hpos, hn⟩
    exact ⟨haway, hrec, hen, peer, hp, (trimmed, dust), hsplit, hpos, amount, hn, rfl⟩

/-- The message that the endpoint writes for an order. -/
def nextMessage (e : Endpoint) (o : TransferOrder) (trimmed : Amount) : TransferMessage where
  id := .ofSequence e.nextSequence
  sourceChain := e.site.chain
  sourceManager := e.site.manager
  sender := o.sender
  sourceToken := e.site.token
  recipientChain := o.recipientChain
  recipient := o.recipient
  amount := trimmed
  payload := o.payload

theorem dispatch_departures (e : Endpoint) (o : TransferOrder) (trimmed amount : Amount)
    (dust time : UInt64) (queued : Bool) :
    (e.dispatch o trimmed dust amount time queued).2.departures =
      (e.departures.add (e.nextMessage o trimmed) amount dust time queued).2 := rfl

theorem departures_dispatch (e : Endpoint) (o : TransferOrder) (trimmed amount : Amount)
    (dust time : UInt64) (queued : Bool) :
    (e.dispatch o trimmed dust amount time queued).2.departures.get?
        (e.dispatch o trimmed dust amount time queued).1.departure =
      some ⟨e.departures.nextId, e.nextMessage o trimmed, amount, dust, time, queued, .empty⟩ := by
  rw [dispatch_departures]
  exact Table.get?_set_self ..

theorem Credited.nextMessage (h : Credited e next) (o : TransferOrder) (trimmed : Amount) :
    next.nextMessage o trimmed = e.nextMessage o trimmed := by
  simp only [Endpoint.nextMessage, h.site, h.nextSequence]

theorem effect_of_transfer {o : TransferOrder} {now : UInt64} {t : TransferTicket}
    (h : (transfer o now e).1 = .ok t) :
    Effect e (.transfer o now) (.ok (.ticket t)) (transfer o now e).2 := by
  have heff : Effect e _ ((transfer o now e).1.map .ticket) _ := perform_effect e (.transfer o now)
  rw [h] at heff
  exact heff

/-- A transfer that succeeds stores what it has measured, with the message that it writes. -/
theorem Effect.measured_departure {o : TransferOrder} {now : UInt64} {t : TransferTicket}
    (h : Effect e (.transfer o now) (.ok (.ticket t)) next) :
    ∃ d, next.departures.get? t.departure = some d ∧ d.message = t.message ∧ d.dust = t.dust ∧
      t.message = e.nextMessage o t.message.amount ∧
      e.Measures o t.message.amount t.dust d.amount := by
  cases h with
  | sent hm _ hc =>
    have hcr := credited_of_creditInbound hc
    exact ⟨_, departures_dispatch .., rfl, rfl, hcr.nextMessage o _, measure_eq_ok.1 hm⟩
  | deferred hm => exact ⟨_, departures_dispatch .., rfl, rfl, rfl, measure_eq_ok.1 hm⟩

theorem tryRelease_eq_ok {d d' : Departure} {index : UInt8} {now : UInt64} {isFirst : Bool} :
    d.tryRelease index now = .ok (isFirst, d') ↔
      d.releaseTime ≤ now ∧ index.toNat < 128 ∧ isFirst = !d.releasedBy.has index.toNat ∧
        if isFirst then ∃ s, d.releasedBy.set index true = .ok s ∧ d' = { d with releasedBy := s }
        else d' = d := by
  unfold Departure.tryRelease
  simp only [guard_eq_ok, bind_eq_ok, UInt64.not_lt, IndexSet.get_eq_ok]
  refine and_congr_right fun _ => ?_
  constructor
  · rintro ⟨had, ⟨hi, hhad⟩, h⟩
    cases had with
    | true =>
      simp only [↓reduceIte, pure_eq_ok] at h
      cases h
      exact ⟨hi, by rw [hhad]; rfl, rfl⟩
    | false =>
      simp only [Bool.false_eq_true, ↓reduceIte, bind_eq_ok, pure_eq_ok] at h
      obtain ⟨s, hs, h⟩ := h
      cases h
      exact ⟨hi, by rw [hhad]; rfl, s, hs, rfl⟩
  · rintro ⟨hi, hfirst, h⟩
    refine ⟨d.releasedBy.has index.toNat, ⟨hi, rfl⟩, ?_⟩
    cases hhad : d.releasedBy.has index.toNat with
    | true =>
      simp [hhad] at hfirst
      simp_all [pure, Except.pure]
    | false =>
      simp [hhad] at hfirst
      subst hfirst
      simp only [↓reduceIte] at h
      obtain ⟨s, hs, rfl⟩ := h
      simp [hs, bind, Except.bind, pure, Except.pure]

/-- A release by a transceiver changes who has released a departure, and nothing else. -/
theorem eq_of_tryRelease {d d' : Departure} {index : UInt8} {now : UInt64} {isFirst : Bool}
    (h : d.tryRelease index now = .ok (isFirst, d')) :
    d' = { d with releasedBy := d'.releasedBy } := by
  obtain ⟨-, -, -, h⟩ := tryRelease_eq_ok.1 h
  split at h
  · obtain ⟨s, -, rfl⟩ := h
    rfl
  · rw [h]

theorem Effect.departures_eq (h : Effect e c answer next) :
    next.departures = e.departures ∨
    (∃ o trimmed dust amount time queued, e.Measures o trimmed dust amount ∧
      next.departures = (e.departures.add (e.nextMessage o trimmed) amount dust time queued).2) ∨
    (∃ id d index now d', e.departures.get? id = some d ∧
      d.tryRelease index now = .ok (true, d') ∧ next.departures = e.departures.put d') ∨
    ∃ id, next.departures = { e.departures with items := e.departures.items.erase id } := by
  cases h with
  | @sent o now dust trimmed amount _ _ hm _ hc =>
    have hcr := credited_of_creditInbound hc
    refine .inr (.inl ⟨o, trimmed, dust, amount, now, false, measure_eq_ok.1 hm, ?_⟩)
    rw [dispatch_departures, hcr.departures, hcr.nextMessage]
    rfl
  | deferred hm => exact .inr (.inl ⟨_, _, _, _, _, _, measure_eq_ok.1 hm, rfl⟩)
  | departed _ hd htry => exact .inr (.inr (.inl ⟨_, _, _, _, _, hd, htry, rfl⟩))
  | departedCharged _ hd htry _ _ hc =>
    have hcr := (credited_of_creditInbound hc).departures
    exact .inr (.inr (.inl ⟨_, _, _, _, _, hd, htry, hcr⟩))
  | departedUnpeered _ _ hd htry => exact .inr (.inr (.inl ⟨_, _, _, _, _, hd, htry, rfl⟩))
  | cancelled => exact .inr (.inr (.inr ⟨_, rfl⟩))
  | paid => rw [creditOutbound_departures]; exact .inl rfl
  | released => rw [creditOutbound_departures]; exact .inl rfl
  | _ => exact .inl rfl

end Endpoint

end TokenBridge
