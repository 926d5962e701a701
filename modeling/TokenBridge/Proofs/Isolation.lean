import TokenBridge.Proofs.Limit
import TokenBridge.Proofs.Payment

/-!
# Chains do not disturb each other

An endpoint serves many remote chains from one state: the outbound quota, the counters and the
table of arrivals are common to all of them. What it answers to the votes and releases for one
chain depends on less. Two endpoints that agree on that part (`AgreesOn`) give the same answers and
still agree afterwards (`AgreesOn.perform`), and a command that is about another chain leaves the
part as it was (`Effect.agreesOn`). So the other commands of a run may be left out
(`agreesOn_run`), and two runs with the same calls for a chain cannot be told apart there.
-/

namespace TokenBridge

namespace Command

/-- The chain whose message a vote or a release is for. -/
def source? : Command → Option ChainId
  | .attest _ _ m _ => some m.sourceChain
  | .deliver _ _ att _ => some att.message.sourceChain
  | .release chain .. => some chain
  | _ => none

/-- Changes who may vote or how many votes are needed. -/
def isEnrolment : Command → Bool
  | .registerTransceiver _ | .deregisterTransceiver _ | .setTransceiverPeer .. | .setThreshold _ =>
    true
  | _ => false

/-- The command is about other chains, or about the outbound limit. -/
def Avoids (chain : ChainId) (e : Endpoint) (c : Command) : Prop :=
  c.isEnrolment = false ∧ c.remote? e ≠ some chain

instance (chain : ChainId) (e : Endpoint) (c : Command) : Decidable (c.Avoids chain e) :=
  inferInstanceAs (Decidable (_ ∧ _))

end Command

/-- The votes and releases for a chain among some commands. -/
def callsFor (chain : ChainId) (cs : List Command) : List Command :=
  cs.filter fun c => c.source? = some chain

/-- The answers that some steps give to the votes and releases for a chain. -/
def answersFor (chain : ChainId) (ss : List Step) : List (Except Error Answer) :=
  (ss.filter fun s => s.command.source? = some chain).map Step.answer

theorem callsFor_cons (chain : ChainId) (c : Command) (cs : List Command) :
    callsFor chain (c :: cs) =
      if c.source? = some chain then c :: callsFor chain cs else callsFor chain cs := by
  simp only [callsFor, List.filter_cons, decide_eq_true_eq]

theorem answersFor_cons (chain : ChainId) (s : Step) (ss : List Step) :
    answersFor chain (s :: ss) =
      if s.command.source? = some chain then s.answer :: answersFor chain ss
      else answersFor chain ss := by
  simp only [answersFor, List.filter_cons, decide_eq_true_eq]
  split <;> rfl

namespace Endpoint

/-- What the answers for a chain depend on is the same for both endpoints. -/
structure AgreesOn (chain : ChainId) (e f : Endpoint) : Prop where
  site : f.site = e.site
  terms : f.terms = e.terms
  transceivers : f.transceivers = e.transceivers
  threshold : f.threshold = e.threshold
  peer : f.peers.get? chain = e.peers.get? chain
  arrivals : ∀ id, f.arrivals.get? (chain, id) = e.arrivals.get? (chain, id)

/-- One answer, and endpoints that agree on the chain. -/
structure Alike {α : Type} (chain : ChainId) (x y : Except Error α × Endpoint) : Prop where
  answer : y.1 = x.1
  agree : AgreesOn chain x.2 y.2

variable {e f next : Endpoint} {c : Command} {answer : Except Error Answer} {chain : ChainId}

namespace AgreesOn

theorem refl (chain : ChainId) (e : Endpoint) : AgreesOn chain e e :=
  ⟨rfl, rfl, rfl, rfl, rfl, fun _ => rfl⟩

theorem symm (h : AgreesOn chain e f) : AgreesOn chain f e :=
  ⟨h.site.symm, h.terms.symm, h.transceivers.symm, h.threshold.symm, h.peer.symm,
    fun id => (h.arrivals id).symm⟩

theorem trans {g : Endpoint} (h : AgreesOn chain e f) (h' : AgreesOn chain f g) :
    AgreesOn chain e g :=
  ⟨h'.site.trans h.site, h'.terms.trans h.terms, h'.transceivers.trans h.transceivers,
    h'.threshold.trans h.threshold, h'.peer.trans h.peer,
    fun id => (h'.arrivals id).trans (h.arrivals id)⟩

/-! ## Calls for the chain -/

theorem putArrival (h : AgreesOn chain e f) (a : Arrival) :
    AgreesOn chain (e.putArrival a) (f.putArrival a) := by
  refine ⟨h.site, h.terms, h.transceivers, h.threshold, h.peer, fun id => ?_⟩
  rw [putArrival_arrivals, putArrival_arrivals, Arrivals.put, Arrivals.put, Table.get?_set,
    Table.get?_set, h.arrivals]

theorem setInbound (h : AgreesOn chain e f) (peer : Peer) (inbound : Quota) :
    AgreesOn chain { e with peers := e.peers.setInbound peer inbound }
      { f with peers := f.peers.setInbound peer inbound } := by
  refine ⟨h.site, h.terms, h.transceivers, h.threshold, ?_, h.arrivals⟩
  show (f.peers.setInbound peer inbound).get? chain = (e.peers.setInbound peer inbound).get? chain
  rw [Peers.setInbound, Peers.setInbound, Table.get?_set, Table.get?_set, h.peer]

theorem creditOutbound (h : AgreesOn chain e f) (amount now : UInt64) :
    AgreesOn chain (e.creditOutbound amount now) (f.creditOutbound amount now) := by
  constructor <;> simp only [creditOutbound_site, creditOutbound_terms, creditOutbound_transceivers,
    creditOutbound_threshold, creditOutbound_peers, creditOutbound_arrivals]
  · exact h.site
  · exact h.terms
  · exact h.transceivers
  · exact h.threshold
  · exact h.peer
  · exact h.arrivals

theorem require (h : AgreesOn chain e f) : f.peers.require chain = e.peers.require chain := by
  rw [Peers.require, Peers.require, h.peer]

theorem accept (h : AgreesOn chain e f) {m : TransferMessage} (hm : m.sourceChain = chain)
    (index : UInt8) (emitter : Address) : f.accept index emitter m = e.accept index emitter m := by
  simp only [Endpoint.accept, quotaDecimals, hm, h.transceivers, h.require, h.site, h.terms]

theorem entryFor (h : AgreesOn chain e f) {m : TransferMessage} (hm : m.sourceChain = chain)
    (amount : Amount) : f.arrivals.entryFor m amount = e.arrivals.entryFor m amount := by
  rw [Arrivals.entryFor, Arrivals.entryFor, Arrivals.key, hm, h.arrivals]

theorem settle (h : AgreesOn chain e f) {a : Arrival} (ha : a.message.sourceChain = chain)
    (units now : UInt64) : Alike chain (e.settle a units now) (f.settle a units now) := by
  have hcharge :
      (do
        let peer ← f.peers.require a.message.sourceChain
        return (peer, ← peer.inbound.spend f.terms.period now units .queue)) =
      (do
        let peer ← e.peers.require a.message.sourceChain
        return (peer, ← peer.inbound.spend e.terms.period now units .queue)) := by
    rw [ha, h.require, h.terms]
  simp only [Endpoint.settle, hcharge]
  split
  · exact ⟨rfl, h⟩
  · exact ⟨rfl, h.putArrival _⟩
  · rename_i peer next _
    have hcharged := (h.setInbound peer next).putArrival a.releaseNow.2
    rw [payoutOf_congr hcharged.site]
    split
    · exact ⟨rfl, hcharged⟩
    · exact ⟨rfl, hcharged.creditOutbound units now⟩

theorem attest (h : AgreesOn chain e f) {m : TransferMessage} (hm : m.sourceChain = chain)
    (index : UInt8) (emitter : Address) (now : UInt64) :
    Alike chain (attest index emitter m now e) (attest index emitter m now f) := by
  simp only [Endpoint.attest, h.accept hm, h.entryFor hm]
  split
  · exact ⟨rfl, h⟩
  · rename_i amount isNew b hballot
    have hput := h.putArrival b
    rw [hput.transceivers, hput.threshold]
    split
    · have hmessage : b.message = m := by
        simp only [bind_eq_ok, pure_eq_ok] at hballot
        obtain ⟨_, -, a, hentry, ⟨_, _⟩, hvote, heq⟩ := hballot
        cases heq
        rw [(Arrival.evolves_of_vote hvote).message, (Arrivals.entryFor_eq_ok hentry).1]
      have hsettle := hput.settle (hmessage ▸ hm) amount.units now
      exact ⟨by rw [hsettle.answer], hsettle.agree⟩
    · exact ⟨rfl, hput⟩

theorem dueArrival (h : AgreesOn chain e f) (id : MessageId) (now : UInt64) :
    f.dueArrival chain id now = e.dueArrival chain id now := by
  simp only [Endpoint.dueArrival, Arrivals.require, h.arrivals, h.transceivers, h.threshold]

theorem release (h : AgreesOn chain e f) (id : MessageId) (now : UInt64) :
    Alike chain (release chain id now e) (release chain id now f) := by
  simp only [Endpoint.release, h.dueArrival]
  split
  · exact ⟨rfl, h⟩
  · exact ⟨rfl, h⟩
  · rename_i paid _
    have hput := h.putArrival paid
    rw [payoutOf_congr hput.site, hput.require]
    split
    · exact ⟨rfl, hput⟩
    · rename_i payout peer _
      have hinbound :
          peer.inbound.drain (f.putArrival paid).terms.period now paid.amount.units =
            peer.inbound.drain (e.putArrival paid).terms.period now paid.amount.units := by
        rw [hput.terms]
      rw [hinbound]
      exact ⟨rfl, (hput.setInbound peer _).creditOutbound paid.amount.units now⟩

/-- A call for the chain gets the same answer, and the endpoints agree as before. -/
theorem perform (h : AgreesOn chain e f) (hc : c.source? = some chain) :
    Alike chain (perform c e) (perform c f) := by
  have answered {α : Type} {x y : Except Error α × Endpoint} (hxy : Alike chain x y)
      (g : α → Answer) : Alike chain (x.1.map g, x.2) (y.1.map g, y.2) :=
    ⟨by rw [hxy.answer], hxy.agree⟩
  cases c with
  | attest index emitter m now =>
    exact answered (h.attest (Option.some.inj hc) index emitter now) _
  | deliver index emitter att now =>
    refine answered ?_ _
    unfold deliver
    split
    · exact ⟨rfl, h⟩
    · exact h.attest (Option.some.inj hc) index emitter now
  | release source id now =>
    cases hc
    exact answered (h.release id now) _
  | _ => cases hc

end AgreesOn

/-! ## Other commands -/

theorem Effect.enrolment_eq (h : Effect e c answer next) (hc : c.isEnrolment = false) :
    next.transceivers = e.transceivers ∧ next.threshold = e.threshold := by
  cases h with
  | transceiverRegistered => cases hc
  | transceiverDeregistered => cases hc
  | transceiverPeerSet => cases hc
  | thresholdSet => cases hc
  | sent _ _ hcredit =>
    have hcr := credited_of_creditInbound hcredit
    exact ⟨hcr.transceivers, hcr.threshold⟩
  | departedCharged _ _ _ _ _ hcredit =>
    have hcr := credited_of_creditInbound hcredit
    exact ⟨hcr.transceivers, hcr.threshold⟩
  | paid => exact ⟨creditOutbound_transceivers .., creditOutbound_threshold ..⟩
  | released => exact ⟨creditOutbound_transceivers .., creditOutbound_threshold ..⟩
  | _ => exact ⟨rfl, rfl⟩

/-- What is handled is a message from the chain that the command is about. -/
theorem Handles.remote? {p : Option Payout} {a b : Arrival} (h : Handles e c p a b)
    (hk : ArrivalsKeyed e.arrivals) : c.remote? e = some (Arrivals.key b.message).1 := by
  rw [h.evolves.message]
  cases h with
  | vote hv hcast => rw [Command.remote?_of_vote? hv, hcast.entry_message_eq]; rfl
  | schedule hv hcast => rw [Command.remote?_of_vote? hv, hcast.entry_message_eq]; rfl
  | pay hv hcast => rw [Command.remote?_of_vote? hv, hcast.entry_message_eq]; rfl
  | lose hv hcast => rw [Command.remote?_of_vote? hv, hcast.entry_message_eq]; rfl
  | release hc ha => rw [hc, hk _ _ ha]; rfl
  | loseRelease hc ha => rw [hc, hk _ _ ha]; rfl

theorem Effect.agreesOn (h : Effect e c answer next) (hr : Regular e) (hc : c.Avoids chain e) :
    AgreesOn chain e next := by
  obtain ⟨henrolment, hremote⟩ := hc
  obtain ⟨htransceivers, hthreshold⟩ := h.enrolment_eq henrolment
  refine ⟨h.site_eq, h.terms_eq, htransceivers, hthreshold, ?_, fun id => ?_⟩
  · obtain heq | ⟨habout, -⟩ := h.turnsPeers hr.peers chain
    · exact heq
    · exact absurd habout hremote
  · obtain heq | ⟨a, b, hb, hkey, -⟩ := h.arrival_at (chain, id)
    · exact heq
    · have habout := hb.remote? hr.arrivals
      rw [hkey] at habout
      exact absurd habout hremote

/-! ## Runs -/

/-- Each command of the run is a call for the chain, or avoids it in the state that it finds. -/
def Isolates (chain : ChainId) (e : Endpoint) (cs : List Command) : Prop :=
  ∀ s ∈ e.steps cs, s.command.source? = some chain ∨ s.command.Avoids chain s.before

instance (chain : ChainId) (e : Endpoint) (cs : List Command) : Decidable (Isolates chain e cs) :=
  inferInstanceAs (Decidable (∀ s ∈ e.steps cs, _))

/-- The other commands of a run may be left out. -/
theorem agreesOn_run {cs : List Command} (hr : Regular e) (h : AgreesOn chain e f)
    (hcs : Isolates chain e cs) :
    answersFor chain (e.steps cs) = (f.run (callsFor chain cs)).1 ∧
      AgreesOn chain (e.run cs).2 (f.run (callsFor chain cs)).2 := by
  induction cs generalizing e f with
  | nil => exact ⟨rfl, h⟩
  | cons c cs ih =>
    have hrest : Isolates chain (Endpoint.perform c e).2 cs :=
      fun s hs => hcs s (List.mem_cons_of_mem _ hs)
    have hnext := regular_perform hr c
    rw [steps, answersFor_cons, callsFor_cons, step]
    by_cases hc : c.source? = some chain
    · have halike := h.perform hc
      obtain ⟨hanswers, hagree⟩ := ih hnext halike.agree hrest
      simp only [hc, ↓reduceIte, run]
      exact ⟨by rw [halike.answer, hanswers], hagree⟩
    · have havoids := (hcs _ List.mem_cons_self).resolve_left hc
      have hkept := (perform_effect e c).agreesOn hr havoids
      simp only [hc, ↓reduceIte]
      exact ih hnext (hkept.symm.trans h) hrest

/-- **What other chains do has no effect on a chain.** Two endpoints that agree on a chain take
the same calls for it, each among commands of its own that avoid the chain. The calls get the same
answers, and in the end the endpoints agree on the chain. -/
theorem chain_isolated (he : Reachable e) (hf : Reachable f) (h : AgreesOn chain e f)
    {cs ds : List Command} (hcs : Isolates chain e cs) (hds : Isolates chain f ds)
    (hcalls : callsFor chain cs = callsFor chain ds) :
    answersFor chain (e.steps cs) = answersFor chain (f.steps ds) ∧
      AgreesOn chain (e.run cs).2 (f.run ds).2 := by
  obtain ⟨hcsAnswers, hcsAgree⟩ := agreesOn_run he.regular (.refl chain e) hcs
  obtain ⟨hdsAnswers, hdsAgree⟩ := agreesOn_run hf.regular h.symm hds
  rw [hcalls] at hcsAnswers hcsAgree
  exact ⟨hcsAnswers.trans hdsAnswers.symm, hcsAgree.trans hdsAgree.symm⟩

/-- A message from chain 2 that has to wait, alone and among commands about chain 3: a transfer there
that is queued, released and credited, a message from there, and a new limit. -/
theorem chain_isolated_sample :
    let opened := Sample.opening 1000 ++
      [.registerPeer ⟨3⟩ (Sample.address 240) 18 700 100,
        .setTransceiverPeer 0 ⟨3⟩ (Sample.address 200)]
    let order : TransferOrder :=
      ⟨5000000000000, ⟨3⟩, Sample.address 3, Sample.address 1, true, []⟩
    let other : TransferMessage := { Sample.message 9 80 with
      sourceChain := ⟨3⟩, sourceManager := Sample.address 240 }
    let e := (Sample.endpoint.run opened).2
    let f := (Sample.endpoint.run (opened ++ [.setOutboundLimit 300 120, .transfer order 150])).2
    let m := Sample.message 7 1500
    let cs := Sample.votes m 200 ++ [.release ⟨2⟩ m.id 90000]
    let ds : List Command := [
      .attest 0 (Sample.address 161) m 200, .registerPeer ⟨3⟩ (Sample.address 240) 18 900 300,
      .attest 0 (Sample.address 200) other 400, .attest 1 (Sample.address 177) m 200,
      .releaseDeparture 0 0 80000, .cancelDeparture 0, .transfer order 85000,
      .release ⟨2⟩ m.id 90000]
    Reachable e ∧ Reachable f ∧ AgreesOn ⟨2⟩ e f ∧ Isolates ⟨2⟩ e cs ∧ Isolates ⟨2⟩ f ds ∧
      callsFor ⟨2⟩ cs = callsFor ⟨2⟩ ds ∧
      answersFor ⟨2⟩ (e.steps cs) = answersFor ⟨2⟩ (f.steps ds) ∧
      (payouts (answersFor ⟨2⟩ (e.steps cs))).length = 1 ∧
      AgreesOn ⟨2⟩ (e.run cs).2 (f.run ds).2 ∧ (e.run cs).2.outbound ≠ (f.run ds).2.outbound := by
  intro opened order other e f m cs ds
  have he : Reachable e := (Reachable.start Sample.establish_eq).run _
  have hf : Reachable f := (Reachable.start Sample.establish_eq).run _
  have hsame : AgreesOn ⟨2⟩ e f := by
    have hlater : Isolates ⟨2⟩ e [.setOutboundLimit 300 120, .transfer order 150] := by
      decide +kernel
    exact (agreesOn_run he.regular (.refl _ e) hlater).2.symm
  have hcs : Isolates ⟨2⟩ e cs := by decide +kernel
  have hds : Isolates ⟨2⟩ f ds := by decide +kernel
  have hcalls : callsFor ⟨2⟩ cs = callsFor ⟨2⟩ ds := by decide +kernel
  obtain ⟨hanswers, hagree⟩ := chain_isolated he hf hsame hcs hds hcalls
  exact ⟨he, hf, hsame, hcs, hds, hcalls, hanswers, by decide +kernel, hagree, by decide +kernel⟩

end Endpoint

end TokenBridge
