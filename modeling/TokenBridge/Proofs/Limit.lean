import TokenBridge.Proofs.Spending

/-!
# Quotas within their limits

Five operations write a new record of a quota, and most commands call one of them, with whatever
time the caller brings along. `Quota.Turns` says what all of them keep to: the record has no more
left than the limit, it is not older than the one before, and its limit is the same unless the
command sets one. `Effect.outbound_turns` and `Effect.turnsPeers` say that a command turns the
outbound quota and the quota of the one chain that it is about (`Command.remote?`), and no other.
-/

namespace TokenBridge

namespace Command

/-- The limit that a command sets for the outbound quota. -/
def outboundLimit? : Command → Option UInt64
  | .setOutboundLimit limit _ => some limit
  | _ => none

/-- The limit that a command sets for the inbound quota of a chain. -/
def inboundLimit? (chain : ChainId) : Command → Option UInt64
  | .registerPeer source _ _ limit _ | .setInboundLimit source limit _ =>
    if source = chain then some limit else none
  | _ => none

/-- The remote chain that a command is about, for the endpoint that carries it out. -/
def remote? (e : Endpoint) : Command → Option ChainId
  | .registerPeer chain .. | .updatePeer chain .. | .setTransceiverPeer _ chain _
  | .setInboundLimit chain .. | .release chain .. => some chain
  | .transfer o _ => some o.recipientChain
  | .releaseDeparture id .. | .cancelDeparture id =>
    (e.departures.get? id).map (·.message.recipientChain)
  | .attest _ _ m _ => some m.sourceChain
  | .deliver _ _ att _ => some att.message.sourceChain
  | .registerTransceiver _ | .deregisterTransceiver _ | .setThreshold _ | .setOutboundLimit .. =>
    none

theorem remote?_of_vote? {c : Command} {v : Vote} (h : c.vote? = some v) (e : Endpoint) :
    c.remote? e = some v.message.sourceChain := by
  obtain rfl | ⟨att, hmessage, rfl⟩ := eq_of_vote? h
  · rfl
  · rw [remote?, hmessage]

end Command

namespace Quota

variable {p : Period} {q q' : Quota} {now amount : UInt64} {set? : Option UInt64}

/-- No more is left than the limit. -/
def Within (q : Quota) : Prop := q.remaining ≤ q.limit

/-- What a command can make of a quota; `set?` is the limit that the command sets for it. -/
inductive Turns (p : Period) (set? : Option UInt64) (q : Quota) : Quota → Prop where
  | kept : Turns p set? q q
  | recorded (now : UInt64) {remaining : UInt64} :
      remaining ≤ q.limit → Turns p set? q (q.recordAt now remaining)
  | resized (now : UInt64) {limit : UInt64} :
      set? = some limit → Turns p set? q (q.resize p now limit)

theorem turns_spend {onShortage : OnShortage}
    (h : q.spend p now amount onShortage = .ok (.spent q')) : Turns p set? q q' := by
  obtain ⟨hle, rfl⟩ := spend_eq_spent h
  refine .recorded now ?_
  have hlimit := UInt64.le_iff_toNat_le.1 (available_le_limit p q now)
  rw [UInt64.le_iff_toNat_le, UInt64.toNat_sub_of_le _ _ (UInt64.le_iff_toNat_le.2 hle)]
  omega

theorem turns_drain (p : Period) (q : Quota) (now amount : UInt64) :
    Turns p set? q (q.drain p now amount) := by
  refine .recorded now ?_
  have hlimit := UInt64.le_iff_toNat_le.1 (available_le_limit p q now)
  rw [UInt64.le_iff_toNat_le, Word.toNat_subSat]
  omega

theorem turns_refund (p : Period) (q : Quota) (now amount : UInt64) :
    Turns p set? q (q.refund p now amount) :=
  .recorded now Std.min_le_right

theorem Turns.within (h : Turns p set? q q') (hq : q.Within) : q'.Within := by
  cases h with
  | kept => exact hq
  | recorded _ hle => exact hle
  | resized => exact Std.min_le_right

theorem Turns.asOf_le (h : Turns p set? q q') : q.asOf ≤ q'.asOf := by
  cases h with
  | kept => exact UInt64.le_refl _
  | recorded now => exact (le_max now q.asOf).2
  | resized now => exact (le_max now q.asOf).2

theorem Turns.limit_eq (h : Turns p set? q q') : q'.limit = q.limit ∨ set? = some q'.limit := by
  cases h with
  | kept => exact .inl rfl
  | recorded => exact .inl rfl
  | resized _ hset => exact .inr hset

end Quota

namespace Endpoint

variable {e next : Endpoint} {c : Command} {answer : Except Error Answer}

/-! ## The quotas of a step -/

theorem turns_creditOutbound {f : Endpoint} {set? : Option UInt64} {amount now : UInt64}
    (hterms : f.terms = e.terms) (hout : f.outbound = e.outbound) :
    e.outbound.Turns e.terms.period set? (f.creditOutbound amount now).outbound := by
  unfold creditOutbound
  split
  · show e.outbound.Turns e.terms.period set? (f.outbound.refund f.terms.period now amount)
    rw [hterms, hout]
    exact Quota.turns_refund ..
  · rw [hout]
    exact .kept

theorem Effect.outbound_turns (h : Effect e c answer next) :
    e.outbound.Turns e.terms.period c.outboundLimit? next.outbound := by
  cases h with
  | outboundResized => exact .resized _ rfl
  | sent _ hs hc =>
    rw [dispatch_outbound, (credited_of_creditInbound hc).outbound]
    exact Quota.turns_spend hs
  | departedCharged _ _ _ _ _ hc =>
    rw [(credited_of_creditInbound hc).outbound]
    exact Quota.turns_drain ..
  | departedUnpeered => exact Quota.turns_drain ..
  | paid => exact turns_creditOutbound rfl rfl
  | released => exact turns_creditOutbound rfl rfl
  | _ => exact .kept

/-- What a command can make of the peer of a chain; `set?` is the limit that the command sets for
it. -/
inductive PeerTurns (p : Period) (set? : Option UInt64) : Option Peer → Peer → Prop where
  | entered {peer : Peer} {limit now : UInt64} :
      set? = some limit → peer.inbound = .full limit now → PeerTurns p set? none peer
  | changed {peer peer' : Peer} :
      peer.inbound.Turns p set? peer'.inbound → PeerTurns p set? (some peer) peer'

/-- The peers after a command: only the peer of the chain that the command is about may be another
one, and then its quota is turned. -/
def TurnsPeers (e : Endpoint) (c : Command) (after : Peers) : Prop :=
  ∀ chain, after.get? chain = e.peers.get? chain ∨
    c.remote? e = some chain ∧ ∃ peer, after.get? chain = some peer ∧
      PeerTurns e.terms.period (c.inboundLimit? chain) (e.peers.get? chain) peer

theorem turnsPeers_refl : e.TurnsPeers c e.peers := fun _ => .inl rfl

theorem turnsPeers_set {chain : ChainId} {peer : Peer} (hremote : c.remote? e = some chain)
    (h : PeerTurns e.terms.period (c.inboundLimit? chain) (e.peers.get? chain) peer) :
    e.TurnsPeers c (e.peers.set chain peer) := by
  intro other
  rw [Table.get?_set]
  by_cases heq : chain = other
  · subst heq
    rw [if_pos rfl]
    exact .inr ⟨hremote, peer, rfl, h⟩
  · exact .inl (if_neg heq)

section
variable {chain : ChainId} {known : Peer} {inbound : Quota} {amount now : UInt64}

theorem turnsPeers_setInbound (hk : PeersKeyed e.peers) (hremote : c.remote? e = some chain)
    (hp : e.peers.get? chain = some known)
    (h : known.inbound.Turns e.terms.period (c.inboundLimit? chain) inbound) :
    e.TurnsPeers c (e.peers.setInbound known inbound) := by
  rw [Peers.setInbound, hk chain known hp]
  refine turnsPeers_set hremote ?_
  rw [hp]
  exact .changed h

theorem turnsPeers_creditInbound {f credited : Endpoint} (hk : PeersKeyed e.peers)
    (hremote : c.remote? e = some chain) (hc : f.creditInbound chain amount now = .ok credited)
    (hpeers : f.peers = e.peers) (hterms : f.terms = e.terms) :
    e.TurnsPeers c credited.peers := by
  obtain ⟨known, hp, rfl⟩ := creditInbound_eq_ok.1 hc
  rw [hpeers] at hp
  split
  · show e.TurnsPeers c (f.peers.setInbound known (known.inbound.refund f.terms.period now amount))
    rw [hpeers, hterms]
    exact turnsPeers_setInbound hk hremote hp (Quota.turns_refund ..)
  · rw [hpeers]
    exact turnsPeers_refl

end

theorem Effect.turnsPeers (h : Effect e c answer next) (hk : PeersKeyed e.peers) :
    e.TurnsPeers c next.peers := by
  cases h with
  | @peerRegistered chain manager tokenDecimals limit now peer _ _ hreg =>
    refine turnsPeers_set rfl ?_
    have hset : Command.inboundLimit? chain
        (.registerPeer chain manager tokenDecimals limit now) = some limit := if_pos rfl
    cases hp : e.peers.get? chain with
    | none =>
      rw [hp] at hreg
      cases hreg
      exact .entered hset rfl
    | some known =>
      rw [hp] at hreg
      refine .changed ?_
      rw [inbound_of_registered hreg]
      exact .resized now hset
  | peerUpdated _ hp =>
    refine turnsPeers_set rfl ?_
    rw [hp]
    exact .changed .kept
  | inboundResized hp => exact turnsPeers_setInbound hk rfl hp (.resized _ (if_pos rfl))
  | @sent o now _ _ _ _ credited _ _ hc =>
    show e.TurnsPeers (.transfer o now) credited.peers
    exact turnsPeers_creditInbound hk rfl hc rfl rfl
  | departedCharged _ hd _ _ _ hc =>
    refine turnsPeers_creditInbound hk ?_ hc rfl rfl
    rw [Command.remote?, hd]
    rfl
  | paid hv _ _ hp hspend =>
    rw [creditOutbound_peers]
    exact turnsPeers_setInbound hk (Command.remote?_of_vote? hv e) hp (Quota.turns_spend hspend)
  | lost _ hv _ _ hp hspend =>
    exact turnsPeers_setInbound hk (Command.remote?_of_vote? hv e) hp (Quota.turns_spend hspend)
  | released _ _ _ _ hp =>
    rw [creditOutbound_peers]
    exact turnsPeers_setInbound hk rfl hp (Quota.turns_drain ..)
  | _ => exact turnsPeers_refl

/-! ## The quotas of a run -/

/-- No quota has more left than its limit. -/
structure QuotasWithin (e : Endpoint) : Prop where
  outbound : e.outbound.Within
  inbound : ∀ chain peer, e.peers.get? chain = some peer → peer.inbound.Within

theorem Effect.quotasWithin (h : Effect e c answer next) (hk : PeersKeyed e.peers)
    (he : e.QuotasWithin) : next.QuotasWithin := by
  refine ⟨h.outbound_turns.within he.outbound, fun chain peer hp => ?_⟩
  obtain heq | ⟨-, peer', hp', hturns⟩ := h.turnsPeers hk chain
  · exact he.inbound chain peer (heq.symm.trans hp)
  · rw [hp'] at hp
    cases hp
    generalize hbefore : e.peers.get? chain = before at hturns
    cases hturns with
    | entered _ hfull =>
      rw [hfull]
      exact UInt64.le_refl _
    | changed hturns => exact hturns.within (he.inbound chain _ hbefore)

theorem Reachable.quotasWithin (h : Reachable e) : e.QuotasWithin := by
  induction h with
  | start h =>
    rw [establish_eq_ok h]
    refine ⟨UInt64.le_refl _, fun chain peer hp => ?_⟩
    cases hp
  | next c he ih => exact (perform_effect _ c).quotasWithin he.regular.peers ih

/-- The quotas after a command `c`: no record is older than the one before, and no limit is
another one unless the command sets it. -/
structure QuotasFollow (e : Endpoint) (c : Command) (next : Endpoint) : Prop where
  outbound_asOf : e.outbound.asOf ≤ next.outbound.asOf
  outbound_limit : next.outbound.limit = e.outbound.limit ∨
    c.outboundLimit? = some next.outbound.limit
  inbound_asOf : ∀ chain peer, e.peers.get? chain = some peer →
    ∃ peer', next.peers.get? chain = some peer' ∧ peer.inbound.asOf ≤ peer'.inbound.asOf
  inbound_limit : ∀ chain peer', next.peers.get? chain = some peer' →
    (∃ peer, e.peers.get? chain = some peer ∧ peer'.inbound.limit = peer.inbound.limit) ∨
      c.inboundLimit? chain = some peer'.inbound.limit

theorem Effect.quotasFollow (h : Effect e c answer next) (hk : PeersKeyed e.peers) :
    e.QuotasFollow c next := by
  refine ⟨h.outbound_turns.asOf_le, h.outbound_turns.limit_eq, fun chain peer hp => ?_,
    fun chain peer' hp' => ?_⟩
  · obtain heq | ⟨-, peer', hp', hturns⟩ := h.turnsPeers hk chain
    · exact ⟨peer, heq.trans hp, UInt64.le_refl _⟩
    · rw [hp] at hturns
      cases hturns with
      | changed hturns => exact ⟨peer', hp', hturns.asOf_le⟩
  · obtain heq | ⟨-, known, hknown, hturns⟩ := h.turnsPeers hk chain
    · exact .inl ⟨peer', heq.symm.trans hp', rfl⟩
    · rw [hknown] at hp'
      cases hp'
      generalize hbefore : e.peers.get? chain = before at hturns
      cases hturns with
      | entered hset hfull => exact .inr (by rw [hset, hfull]; rfl)
      | changed hturns => exact hturns.limit_eq.imp_left fun hlimit => ⟨_, rfl, hlimit⟩

/-- **Every quota stays within its limit**, in its record and in what it reports for any time.
Whatever times the commands bring along, no record goes back in time, and only the commands that
set a limit change it. -/
theorem quotas_within_limits (h : Reachable e) :
    e.QuotasWithin ∧
    (∀ now, e.outboundCapacity now ≤ e.outbound.limit) ∧
    (∀ chain peer, e.peers.get? chain = some peer →
      ∀ now, ∃ capacity, e.inboundCapacity chain now = .ok capacity ∧
        capacity ≤ peer.inbound.limit) ∧
    ∀ c, e.QuotasFollow c (perform c e).2 := by
  refine ⟨h.quotasWithin, fun now => Quota.available_le_limit .., fun chain peer hp now => ?_,
    fun c => (perform_effect e c).quotasFollow h.regular.peers⟩
  refine ⟨peer.inbound.available e.terms.period now, ?_, Quota.available_le_limit ..⟩
  rw [inboundCapacity, Peers.require_eq_ok.2 hp]
  rfl

/-- A payout at 50000 leaves 200 of 1000 units. A new limit of 500, at a time before the payout,
leaves nothing, and the record stays at 50000. -/
theorem quotas_within_limits_sample :
    let paid := Sample.opening 1000 ++ Sample.votes (Sample.message 7 800) 50000
    let e := (Sample.endpoint.run paid).2
    let c := Command.setInboundLimit ⟨2⟩ 500 10000
    let next := (perform c e).2
    Reachable e ∧ e.QuotasWithin ∧ e.outboundCapacity 60000 ≤ e.outbound.limit ∧
      (e.peers.get? ⟨2⟩).map Peer.inbound = some ⟨1000, 200, 50000⟩ ∧
      (∃ capacity, e.inboundCapacity ⟨2⟩ 10000 = .ok capacity ∧ capacity ≤ 1000) ∧
      (next.peers.get? ⟨2⟩).map Peer.inbound = some ⟨500, 0, 50000⟩ ∧ e.QuotasFollow c next := by
  intro paid e c next
  have he : Reachable e := (Reachable.start Sample.establish_eq).run paid
  obtain ⟨hwithin, hout, hin, hfollow⟩ := quotas_within_limits he
  exact ⟨he, hwithin, hout 60000, by decide +kernel, hin ⟨2⟩ _ rfl 10000, by decide +kernel,
    hfollow c⟩

end Endpoint

end TokenBridge
