import TokenBridge.Proofs.Payment

/-!
# Votes in any order

The votes of several transceivers for one message at one time may come in any order, and more than
once. They leave what `collect` describes: all votes cast at once, and one settlement if they
suffice. `attest_eq_conclude` says that a single vote is cast this way, `collect_collect` that the
votes of two lists may be cast together, and a run follows by induction. As `collect` asks for the
set of the voters only, two lists with the same votes end in the same state.
-/

namespace TokenBridge

/-- The votes of some transceivers, each with the emitter it heard, for one message. -/
def ballots (m : TransferMessage) (now : UInt64) (ps : List (UInt8 × Address)) : List Command :=
  ps.map fun p => .attest p.1 p.2 m now

namespace Arrival

def withVotes (a : Arrival) (votes : IndexSet) : Arrival := { a with votes := a.votes.union votes }

theorem withVotes_withVotes (a : Arrival) (s t : IndexSet) :
    (a.withVotes s).withVotes t = a.withVotes (s.union t) := by
  simp only [withVotes, IndexSet.union_assoc]

theorem exists_vote (a : Arrival) {index : UInt8} (h : index.toNat < 128) :
    ∃ isNew b, a.vote index = .ok (isNew, b) := by
  have hget : a.votes.get index = .ok (a.votes.has index.toNat) := IndexSet.get_eq_ok.2 ⟨h, rfl⟩
  obtain ⟨s, hs⟩ := IndexSet.exists_set a.votes h true
  unfold vote
  cases hhad : a.votes.has index.toNat with
  | true => exact ⟨false, a, by rw [hget, hhad]; rfl⟩
  | false => exact ⟨true, { a with votes := s }, by rw [hget, hhad, hs]; rfl⟩

theorem eq_withVotes_of_vote {a b : Arrival} {index : UInt8} {isNew : Bool}
    (h : a.vote index = .ok (isNew, b)) : b = a.withVotes (.single index) := by
  obtain ⟨hi, hvotes, heq⟩ := vote_eq_ok h
  rw [heq, withVotes]
  congr 1
  refine IndexSet.ext_has fun i => ?_
  rw [hvotes, IndexSet.has_union, IndexSet.has_single hi, Bool.or_comm]

/-- More votes keep an approval. -/
theorem isApproved_withVotes {a : Arrival} {enabled : IndexSet} {threshold : UInt8}
    (h : a.isApproved enabled threshold = true) (votes : IndexSet) :
    (a.withVotes votes).isApproved enabled threshold = true := by
  simp only [isApproved, voteCount, Bool.and_eq_true, decide_eq_true_eq, UInt8.le_iff_toNat_le,
    IndexSet.toNat_sharedCount] at h ⊢
  refine ⟨h.1, h.2.trans (IndexSet.size_le_of_subset fun i hi => ?_)⟩
  simp only [withVotes, IndexSet.has_inter, IndexSet.has_union, Bool.and_eq_true,
    Bool.or_eq_true] at hi ⊢
  exact ⟨.inl hi.1, hi.2⟩

end Arrival

namespace Endpoint

variable {e next : Endpoint} {m : TransferMessage} {a b : Arrival} {units now : UInt64}

/-- The status that a settlement gives to a message, and what becomes of the rest of the endpoint.
Without an answer of the quota nothing is settled. -/
def verdict (e : Endpoint) (m : TransferMessage) (units now : UInt64) : ReleaseStatus × Endpoint :=
  match e.peers.get? m.sourceChain with
  | none => (.notApproved, e)
  | some peer =>
    match peer.inbound.spend e.terms.period now units .queue with
    | .error _ => (.notApproved, e)
    | .ok (.queued time) => (.releaseAfter time, e)
    | .ok (.spent next) =>
      let charged := { e with peers := e.peers.setInbound peer next }
      (.released, if (e.payoutOf m).isOk then charged.creditOutbound units now else charged)

/-- The same for an arrival that may lack votes or may have been settled before. -/
def ruling (e : Endpoint) (b : Arrival) (units now : UInt64) : ReleaseStatus × Endpoint :=
  if e.Settles b then e.verdict b.message units now else (b.status, e)

/-- The endpoint after the arrival `b` has got its last vote. -/
def conclude (e : Endpoint) (b : Arrival) (units now : UInt64) : Endpoint :=
  (e.ruling b units now).2.putArrival { b with status := (e.ruling b units now).1 }

/-! ## A settlement -/

theorem withStatus_eq {b : Arrival} {status : ReleaseStatus} (h : b.status = status) :
    { b with status } = b := by
  rw [← h]

theorem putArrival_creditOutbound (e : Endpoint) (b : Arrival) (amount now : UInt64) :
    (e.putArrival b).creditOutbound amount now = (e.creditOutbound amount now).putArrival b := by
  have hcredit : (e.putArrival b).terms.credit = e.terms.credit := rfl
  unfold creditOutbound
  rw [hcredit]
  split <;> rfl

/-- A settlement does not look at the arrivals. -/
theorem verdict_putArrival (e : Endpoint) (b : Arrival) (m : TransferMessage) (units now : UInt64) :
    (e.putArrival b).verdict m units now =
      ((e.verdict m units now).1, (e.verdict m units now).2.putArrival b) := by
  have hpeers : (e.putArrival b).peers = e.peers := rfl
  have hterms : (e.putArrival b).terms = e.terms := rfl
  have hpay : (e.putArrival b).payoutOf m = e.payoutOf m := rfl
  unfold verdict
  rw [hpeers, hterms, hpay]
  cases e.peers.get? m.sourceChain with
  | none => rfl
  | some peer =>
    cases hs : peer.inbound.spend e.terms.period now units .queue with
    | error err => simp only [hs]
    | ok spending =>
      cases spending with
      | queued time => simp only [hs]
      | spent next =>
        simp only [hs]
        split
        · rw [← putArrival_creditOutbound]
          rfl
        · rfl

theorem eq_of_verdict (h : (e.verdict m units now).1 = .notApproved) :
    e.verdict m units now = (.notApproved, e) := by
  unfold verdict at h ⊢
  cases hp : e.peers.get? m.sourceChain with
  | none => rfl
  | some peer =>
    cases hs : peer.inbound.spend e.terms.period now units .queue with
    | error err => simp only [hs]
    | ok spending => cases spending <;> simp [hp, hs] at h

theorem settle_eq_verdict (hb : b.status = .notApproved) :
    ((e.putArrival b).settle b units now).2 =
      (e.verdict b.message units now).2.putArrival
        { b with status := (e.verdict b.message units now).1 } := by
  have hpay : (e.putArrival b).payoutOf b.message = e.payoutOf b.message := rfl
  unfold verdict
  cases hp : e.peers.get? b.message.sourceChain with
  | none =>
    have hp' : (e.putArrival b).peers.require b.message.sourceChain
        = .error (.peerNotRegistered b.message.sourceChain) := by
      simp [Peers.require, putArrival, hp]
    simp [settle, hp', bind, Except.bind, withStatus_eq hb]
  | some peer =>
    have hp' : (e.putArrival b).peers.get? b.message.sourceChain = some peer := hp
    cases hs : peer.inbound.spend e.terms.period now units .queue with
    | error err =>
      rw [settle_of_error hp' hs]
      simp only [hs, withStatus_eq hb]
    | ok spending =>
      cases spending with
      | queued time =>
        rw [settle_of_queued hb hp' hs, putArrival_withStatus]
        simp only [hs]
      | spent next =>
        simp only [hs]
        cases hpaid : e.payoutOf b.message with
        | error err =>
          rw [settle_of_lost hb hp' hs (hpay.trans hpaid), putArrival_withStatus]
          rfl
        | ok payout =>
          rw [settle_of_paid hb hp' hs (hpay.trans hpaid), putArrival_withStatus]
          exact putArrival_creditOutbound { e with peers := e.peers.setInbound peer next } _ _ _

/-! ## A vote -/

section
variable {v : Vote} {amount : Amount} {isNew : Bool}

theorem attest_eq_conclude (h : e.Casts v amount isNew a b) :
    (attest v.index v.emitter v.message v.now e).2 = e.conclude b amount.units v.now := by
  rw [attest_of_casts h, conclude, ruling]
  by_cases hs : e.Settles b
  · simp only [hs, ↓reduceIte]
    exact settle_eq_verdict hs.2
  · simp only [hs, ↓reduceIte]

theorem Accepts.index_lt (h : e.Accepts v amount) : v.index.toNat < 128 := by
  have hen := h.enabled
  rw [Transceivers.isEnabled, Bool.and_eq_true] at hen
  exact IndexSet.lt_of_has hen.2

/-- The amount of a message is the same for all who vote for it. -/
theorem Accepts.amount_unique {w : Vote} {amount' : Amount} (h : e.Accepts v amount)
    (h' : e.Accepts w amount') (hm : v.message = w.message) : amount = amount' := by
  have heq := h.amount
  rw [hm, h'.amount] at heq
  cases heq
  rfl

/-- A vote that passes the checks and is not for another message under its key is cast. -/
theorem exists_casts (h : e.Accepts v amount)
    (hentry : e.arrivals.entryFor v.message amount = .ok a) :
    ∃ isNew, e.Casts v amount isNew a (a.withVotes (.single v.index)) := by
  obtain ⟨isNew, b, hvote⟩ := Arrival.exists_vote a h.index_lt
  refine ⟨isNew, h, hentry, ?_⟩
  rw [hvote, Arrival.eq_withVotes_of_vote hvote]

/-- A vote that is not cast leaves everything as it is. -/
theorem attest_of_not_casts (h : ∀ amount isNew a b, ¬ e.Casts v amount isNew a b) :
    (attest v.index v.emitter v.message v.now e).2 = e := by
  obtain ⟨err, hrefused⟩ | ⟨amount, isNew, a, b, hcast⟩ := attest_cases e v
  · rw [hrefused]
  · exact absurd hcast (h amount isNew a b)

/-- A vote that does not pass the checks, for a message that passes them, does nothing. -/
theorem attest_of_not_accepts {w : Vote} (hw : e.Accepts w amount) (hm : w.message = v.message)
    (h : ¬ e.Accepts v amount) : (attest v.index v.emitter v.message v.now e).2 = e := by
  refine attest_of_not_casts fun amount' isNew a b hcast => h ?_
  rw [hw.amount_unique hcast.accepts hm]
  exact hcast.accepts

end

/-! ## Votes cast together -/

/-- The endpoint after these votes for an arrival, all cast at once. -/
def collect (e : Endpoint) (a : Arrival) (votes : IndexSet) (units now : UInt64) : Endpoint :=
  e.conclude (a.withVotes votes) units now

/-- The arrival that they leave behind. -/
def collected (e : Endpoint) (a : Arrival) (votes : IndexSet) (units now : UInt64) : Arrival :=
  { a.withVotes votes with status := (e.ruling (a.withVotes votes) units now).1 }

theorem collect_eq (e : Endpoint) (a : Arrival) (votes : IndexSet) (units now : UInt64) :
    e.collect a votes units now =
      (e.ruling (a.withVotes votes) units now).2.putArrival (e.collected a votes units now) := rfl

/-- Both endpoints judge the votes for messages from a chain by the same rules. -/
structure JudgesAlike (e next : Endpoint) (chain : ChainId) : Prop where
  site : next.site = e.site
  terms : next.terms = e.terms
  transceivers : next.transceivers = e.transceivers
  threshold : next.threshold = e.threshold
  manager : (next.peers.get? chain).map Peer.manager = (e.peers.get? chain).map Peer.manager

theorem JudgesAlike.refl (e : Endpoint) (chain : ChainId) : JudgesAlike e e chain :=
  ⟨rfl, rfl, rfl, rfl, rfl⟩

theorem JudgesAlike.accepts {v : Vote} {amount : Amount}
    (h : JudgesAlike e next v.message.sourceChain) :
    next.Accepts v amount ↔ e.Accepts v amount := by
  have hmanager (f : Endpoint) : (∃ peer, f.peers.get? v.message.sourceChain = some peer ∧
      peer.manager = v.message.sourceManager) ↔
        (f.peers.get? v.message.sourceChain).map Peer.manager = some v.message.sourceManager :=
    Option.map_eq_some_iff.symm
  have hdecimals : next.quotaDecimals = e.quotaDecimals := by
    rw [quotaDecimals, quotaDecimals, h.site, h.terms]
  constructor
  · rintro ⟨hen, hem, hman, hrec, hdec, ham⟩
    rw [h.transceivers] at hen hem
    rw [hmanager, h.manager, ← hmanager] at hman
    rw [h.site] at hrec hdec
    rw [hdecimals] at ham
    exact ⟨hen, hem, hman, hrec, hdec, ham⟩
  · rintro ⟨hen, hem, hman, hrec, hdec, ham⟩
    rw [← h.transceivers] at hen hem
    rw [hmanager, ← h.manager, ← hmanager] at hman
    rw [← h.site] at hrec hdec
    rw [← hdecimals] at ham
    exact ⟨hen, hem, hman, hrec, hdec, ham⟩

theorem JudgesAlike.settles {chain : ChainId} (h : JudgesAlike e next chain) (b : Arrival) :
    next.Settles b ↔ e.Settles b := by
  rw [Settles, Settles, h.transceivers, h.threshold]

theorem JudgesAlike.putArrival {chain : ChainId} (h : JudgesAlike e next chain) (b : Arrival) :
    JudgesAlike e (next.putArrival b) chain :=
  ⟨h.site, h.terms, h.transceivers, h.threshold, h.manager⟩

theorem judgesAlike_verdict (e : Endpoint) (m : TransferMessage) (units now : UInt64) :
    JudgesAlike e (e.verdict m units now).2 m.sourceChain := by
  unfold verdict
  cases hp : e.peers.get? m.sourceChain with
  | none => exact .refl e _
  | some peer =>
    cases hs : peer.inbound.spend e.terms.period now units .queue with
    | error err => simpa only [hs] using JudgesAlike.refl e m.sourceChain
    | ok spending =>
      cases spending with
      | queued time => simpa only [hs] using JudgesAlike.refl e m.sourceChain
      | spent next =>
        have hmanager : ((e.peers.setInbound peer next).get? m.sourceChain).map Peer.manager
            = (e.peers.get? m.sourceChain).map Peer.manager := by
          rw [Peers.setInbound, Table.get?_set, hp]
          split <;> rfl
        simp only [hs]
        split
        · constructor <;> simp [hmanager]
        · exact ⟨rfl, rfl, rfl, rfl, hmanager⟩

theorem judgesAlike_ruling (e : Endpoint) (b : Arrival) (units now : UInt64) :
    JudgesAlike e (e.ruling b units now).2 b.message.sourceChain := by
  unfold ruling
  split
  · exact judgesAlike_verdict ..
  · exact .refl ..

theorem judgesAlike_collect (e : Endpoint) (a : Arrival) (votes : IndexSet) (units now : UInt64) :
    JudgesAlike e (e.collect a votes units now) a.message.sourceChain :=
  (judgesAlike_ruling e (a.withVotes votes) units now).putArrival _

theorem putArrival_putArrival (e : Endpoint) {a b : Arrival} (h : a.message = b.message) :
    (e.putArrival a).putArrival b = e.putArrival b := by
  simp [Endpoint.putArrival, Arrivals.put, h]

/-- A ruling on more votes, after one on some of them. -/
theorem ruling_withVotes (e : Endpoint) (b : Arrival) (votes : IndexSet) (units now : UInt64) :
    let decided := { b with status := (e.ruling b units now).1 }
    ((e.ruling b units now).2.putArrival decided).ruling (decided.withVotes votes) units now =
      ((e.ruling (b.withVotes votes) units now).1,
        (e.ruling (b.withVotes votes) units now).2.putArrival decided) := by
  intro decided
  have halike := (judgesAlike_ruling e b units now).putArrival decided
  have hsettles := halike.settles (decided.withVotes votes)
  by_cases hs : e.Settles b
  · have hmore : e.Settles (b.withVotes votes) := ⟨Arrival.isApproved_withVotes hs.1 votes, hs.2⟩
    have hfirst : e.ruling b units now = e.verdict b.message units now := if_pos hs
    have hboth : e.ruling (b.withVotes votes) units now = e.verdict b.message units now :=
      if_pos hmore
    have hstatus : decided.status = (e.verdict b.message units now).1 := congrArg Prod.fst hfirst
    rw [hfirst] at hsettles ⊢
    rw [hboth]
    by_cases hv : (e.verdict b.message units now).1 = .notApproved
    · -- the quota had no answer, and has none now
      rw [eq_of_verdict hv] at hsettles ⊢
      have hagain := hsettles.2 ⟨hmore.1, hstatus.trans hv⟩
      rw [ruling, if_pos hagain]
      show (e.putArrival decided).verdict b.message units now = _
      rw [verdict_putArrival, eq_of_verdict hv]
    · have hdone := mt hsettles.1 fun h => hv (hstatus.symm.trans h.2)
      rw [ruling, if_neg hdone, ← hstatus]
      rfl
  · have hfirst : e.ruling b units now = (b.status, e) := if_neg hs
    have hdecided : decided = b := withStatus_eq (congrArg Prod.fst hfirst).symm
    rw [hfirst, hdecided] at hsettles ⊢
    by_cases hmore : e.Settles (b.withVotes votes)
    · rw [ruling, if_pos (hsettles.2 hmore), ruling, if_pos hmore]
      exact verdict_putArrival ..
    · rw [ruling, if_neg (mt hsettles.1 hmore), ruling, if_neg hmore]

/-- Votes may be cast together or in two parts: the first part that suffices settles the arrival,
and a settlement that fails is tried again in vain. -/
theorem collect_collect (e : Endpoint) (a : Arrival) (s t : IndexSet) (units now : UInt64) :
    (e.collect a s units now).collect (e.collected a s units now) t units now =
      e.collect a (s.union t) units now := by
  have hruling := ruling_withVotes e (a.withVotes s) t units now
  rw [Arrival.withVotes_withVotes] at hruling
  have hsecond : (e.collect a s units now).ruling ((e.collected a s units now).withVotes t)
      units now = _ := hruling
  rw [collect, conclude, hsecond]
  refine (putArrival_putArrival _ ?_).trans ?_
  · rfl
  · simp only [collect, conclude, ← Arrival.withVotes_withVotes]
    rfl

/-! ## Runs of votes -/

section
variable {ps qs : List (UInt8 × Address)}

theorem run_ballots_cons (e : Endpoint) (m : TransferMessage) (now : UInt64) (p : UInt8 × Address)
    (ps : List (UInt8 × Address)) :
    (e.run (ballots m now (p :: ps))).2 =
      ((attest p.1 p.2 m now e).2.run (ballots m now ps)).2 := rfl

theorem run_ballots_of_not_casts
    (h : ∀ p ∈ ps, ∀ amount isNew a b, ¬ e.Casts ⟨p.1, p.2, m, now⟩ amount isNew a b) :
    (e.run (ballots m now ps)).2 = e := by
  induction ps with
  | nil => rfl
  | cons p ps ih =>
    rw [List.forall_mem_cons] at h
    rw [run_ballots_cons, attest_of_not_casts (v := ⟨p.1, p.2, m, now⟩) h.1]
    exact ih h.2

/-- An entry for a message after some votes for it. -/
theorem entryFor_collect {amount : Amount} (h : e.arrivals.entryFor m amount = .ok a)
    (votes : IndexSet) (units now : UInt64) :
    (e.collect a votes units now).arrivals.entryFor m amount
      = .ok (e.collected a votes units now) := by
  obtain ⟨hmessage, -⟩ := Arrivals.entryFor_eq_ok h
  have hget : (e.collect a votes units now).arrivals.get? (Arrivals.key m)
      = some (e.collected a votes units now) := by
    rw [collect_eq, putArrival_arrivals, Arrivals.put, ← hmessage]
    exact Table.get?_set_self ..
  rw [Arrivals.entryFor, hget]
  exact if_pos hmessage

/-- The votes that pass the checks are cast, and the others do nothing. -/
theorem run_ballots {amount : Amount} (hentry : e.arrivals.entryFor m amount = .ok a)
    (hsome : ∃ p ∈ ps, e.Accepts ⟨p.1, p.2, m, now⟩ amount) :
    ∃ votes : IndexSet,
      (∀ i, votes.has i = true ↔
        ∃ p ∈ ps, e.Accepts ⟨p.1, p.2, m, now⟩ amount ∧ p.1.toNat = i) ∧
      (e.run (ballots m now ps)).2 = e.collect a votes amount.units now := by
  induction ps generalizing e a with
  | nil => simp at hsome
  | cons p ps ih =>
    obtain ⟨hmessage, -⟩ := Arrivals.entryFor_eq_ok hentry
    rw [run_ballots_cons]
    by_cases hp : e.Accepts ⟨p.1, p.2, m, now⟩ amount
    · obtain ⟨isNew, hcast⟩ := exists_casts hp hentry
      have hfirst : (attest p.1 p.2 m now e).2 = e.collect a (.single p.1) amount.units now :=
        attest_eq_conclude hcast
      have halike (q : UInt8 × Address) (amount' : Amount) :
          (e.collect a (.single p.1) amount.units now).Accepts ⟨q.1, q.2, m, now⟩ amount' ↔
            e.Accepts ⟨q.1, q.2, m, now⟩ amount' := by
        refine JudgesAlike.accepts ?_
        rw [← hmessage]
        exact judgesAlike_collect ..
      rw [hfirst]
      by_cases hrest : ∃ q ∈ ps, e.Accepts ⟨q.1, q.2, m, now⟩ amount
      · obtain ⟨votes, hvotes, hrun⟩ := ih
          (entryFor_collect hentry (.single p.1) amount.units now) (by simpa only [halike])
        refine ⟨(IndexSet.single p.1).union votes, fun i => ?_, by rw [hrun, collect_collect]⟩
        rw [IndexSet.has_union, Bool.or_eq_true, IndexSet.has_single hp.index_lt,
          decide_eq_true_eq, hvotes]
        simp only [halike, List.exists_mem_cons_iff, hp, true_and, eq_comm]
      · refine ⟨.single p.1, fun i => ?_, ?_⟩
        · simp only [IndexSet.has_single hp.index_lt, decide_eq_true_eq, List.exists_mem_cons_iff,
            hp, true_and]
          constructor
          · exact fun hi => .inl hi.symm
          · rintro (hi | ⟨q, hq, hacc, -⟩)
            · exact hi.symm
            · exact absurd ⟨q, hq, hacc⟩ hrest
        · refine run_ballots_of_not_casts fun q hq amount' isNew a' b hcast' => hrest ⟨q, hq, ?_⟩
          have hacc := (halike q amount').1 hcast'.accepts
          rwa [hp.amount_unique hacc rfl]
    · have hrest : ∃ q ∈ ps, e.Accepts ⟨q.1, q.2, m, now⟩ amount := by
        simpa only [List.exists_mem_cons_iff, hp, false_or] using hsome
      have hrefused : (attest p.1 p.2 m now e).2 = e := by
        obtain ⟨q, -, hacc⟩ := hrest
        exact attest_of_not_accepts (v := ⟨p.1, p.2, m, now⟩) hacc rfl hp
      obtain ⟨votes, hvotes, hrun⟩ := ih hentry hrest
      refine ⟨votes, fun i => ?_, by rw [hrefused, hrun]⟩
      simp only [hvotes, List.exists_mem_cons_iff, hp, false_and, false_or]

/-- What a run of votes leaves depends on the set of the votes only. -/
theorem run_ballots_congr (e : Endpoint) (m : TransferMessage) (now : UInt64)
    (hset : ∀ p, p ∈ ps ↔ p ∈ qs) :
    (e.run (ballots m now ps)).2 = (e.run (ballots m now qs)).2 := by
  by_cases hcast : ∃ p ∈ ps, ∃ amount isNew a b, e.Casts ⟨p.1, p.2, m, now⟩ amount isNew a b
  · obtain ⟨p, hp, amount, isNew, a, b, hcast⟩ := hcast
    obtain ⟨votes, hvotes, hrun⟩ := run_ballots hcast.entry ⟨p, hp, hcast.accepts⟩
    obtain ⟨votes', hvotes', hrun'⟩ :=
      run_ballots hcast.entry ⟨p, (hset p).1 hp, hcast.accepts⟩
    have hsame : votes = votes' := by
      refine IndexSet.ext_has fun i => ?_
      rw [Bool.eq_iff_iff, hvotes, hvotes']
      simp only [hset]
    rw [hrun, hrun', hsame]
  · have hnone : ∀ p ∈ ps, ∀ amount isNew a b, ¬ e.Casts ⟨p.1, p.2, m, now⟩ amount isNew a b :=
      fun p hp amount isNew a b h => hcast ⟨p, hp, amount, isNew, a, b, h⟩
    rw [run_ballots_of_not_casts hnone,
      run_ballots_of_not_casts fun p hp => hnone p ((hset p).2 hp)]

/-- All payouts of votes for a message are under its key, so the states tell their number. -/
theorem length_payouts_ballots (hr : Regular e) (m : TransferMessage) (now : UInt64)
    (ps : List (UInt8 × Address)) :
    (e.isPaidUnder (Arrivals.key m)).toNat + (payouts (e.run (ballots m now ps)).1).length =
      ((e.run (ballots m now ps)).2.isPaidUnder (Arrivals.key m)).toNat := by
  have hkeys : ∀ k ∈ (payouts (e.run (ballots m now ps)).1).map Payout.key, Arrivals.key m = k := by
    intro k hk
    obtain ⟨r, hmem, rfl⟩ := List.mem_map.1 hk
    rw [payouts, answers_eq_map_steps, List.mem_filterMap] at hmem
    obtain ⟨answer, hanswer, hr⟩ := hmem
    obtain ⟨s, hs, rfl⟩ := List.mem_map.1 hanswer
    obtain ⟨n, c, hc, rfl⟩ := mem_steps.1 hs
    obtain ⟨p, -, rfl⟩ := List.mem_map.1 (List.mem_of_getElem? hc)
    exact ((perform_effect _ _).payout_key_of_vote rfl hr).symm
  rw [← count_payouts_run hr, List.count_eq_length.2 hkeys, List.length_map]

end

/-- **Votes may come in any order and more than once.** Two runs of votes for a message at one time,
with the same set of votes, leave the same endpoint and pay out equally often, whatever the
single votes answer. -/
theorem votes_commute (h : Reachable e) (m : TransferMessage) (now : UInt64)
    {ps qs : List (UInt8 × Address)} (hset : ∀ p, p ∈ ps ↔ p ∈ qs) :
    (e.run (ballots m now ps)).2 = (e.run (ballots m now qs)).2 ∧
      (payouts (e.run (ballots m now ps)).1).length =
        (payouts (e.run (ballots m now qs)).1).length := by
  have hstate := run_ballots_congr e m now hset
  have hps := length_payouts_ballots h.regular m now ps
  have hqs := length_payouts_ballots h.regular m now qs
  rw [hstate] at hps
  exact ⟨hstate, by omega⟩

/-- Two votes, one of them twice, and one from a wrong emitter: in either order the message is paid
out once. -/
theorem votes_commute_sample :
    let e := (Sample.endpoint.run (Sample.opening 1000)).2
    let m := Sample.message 7 500
    let ps := [(0, Sample.address 161), (1, Sample.address 99), (1, Sample.address 177),
      (0, Sample.address 161)]
    let qs := [(1, Sample.address 177), (1, Sample.address 99), (0, Sample.address 161)]
    Reachable e ∧ (∀ p, p ∈ ps ↔ p ∈ qs) ∧
      (e.run (ballots m 200 ps)).2 = (e.run (ballots m 200 qs)).2 ∧
      (payouts (e.run (ballots m 200 ps)).1).length = 1 ∧
      (payouts (e.run (ballots m 200 qs)).1).length = 1 := by
  intro e m ps qs
  have he : Reachable e := (Reachable.start Sample.establish_eq).run _
  have hset : ∀ p, p ∈ ps ↔ p ∈ qs := by
    intro p
    simp only [ps, qs, List.mem_cons, List.not_mem_nil, or_false]
    tauto
  obtain ⟨hstate, hcount⟩ := votes_commute he m 200 hset
  have hps : (payouts (e.run (ballots m 200 ps)).1).length = 1 := by decide +kernel
  exact ⟨he, hset, hstate, hps, hcount.symm.trans hps⟩

end Endpoint

end TokenBridge
