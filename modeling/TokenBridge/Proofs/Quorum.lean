import Mathlib.Data.Finset.Card
import TokenBridge.Proofs.Payment

/-!
# Payouts and their quorums

Why a payout can be trusted. Every vote that is stored for a message `IsBacked` by a step of
the history in which that transceiver, enabled, handed in this very message and passed the
checks of the time. So the one step that approves a message has a quorum: as many enabled
transceivers as the threshold asks for had backed it by then (`approval_of_approves`). A
payout is made by that step, or by a release after the waiting time that the step set.
-/

namespace TokenBridge

namespace IndexSet

def members (s : IndexSet) : Finset UInt8 := (s.toList.map UInt8.ofNat).toFinset

theorem mem_members {s : IndexSet} {i : UInt8} : i ∈ s.members ↔ s.has i.toNat = true := by
  simp only [members, List.mem_toFinset, List.mem_map, mem_toList]
  constructor
  · rintro ⟨n, hn, rfl⟩
    have := lt_of_has hn
    rwa [UInt8.toNat_ofNat', Nat.mod_eq_of_lt (by omega)]
  · intro h
    exact ⟨i.toNat, h, UInt8.ofNat_toNat⟩

theorem card_members (s : IndexSet) : s.members.card = s.size := by
  have hinj : ∀ m ∈ s.toList, ∀ n ∈ s.toList, UInt8.ofNat m = UInt8.ofNat n → m = n := by
    intro m hm n hn heq
    have h1 := lt_of_has (mem_toList.1 hm)
    have h2 := lt_of_has (mem_toList.1 hn)
    have h3 := congrArg UInt8.toNat heq
    simp only [UInt8.toNat_ofNat'] at h3
    omega
  have hnodup : (s.toList.map UInt8.ofNat).Nodup := (nodup_toList s).map_on hinj
  rw [members, List.toFinset_card_of_nodup hnodup, List.length_map]
  rfl

end IndexSet

/-- In this step the transceiver `i` hands in a vote for `m` that passes all checks. -/
def Step.Backs (s : Step) (i : UInt8) (m : TransferMessage) : Prop :=
  ∃ v amount, s.command.vote? = some v ∧ v.index = i ∧ v.message = m ∧ s.before.Accepts v amount

/-- This step takes the arrival under a key out of `notApproved`. -/
structure Step.Approves (s : Step) (k : ChainId × MessageId) : Prop where
  before : ∀ a, s.before.arrivals.get? k = some a → a.status = .notApproved
  after : ∃ a, s.after.arrivals.get? k = some a ∧ a.status ≠ .notApproved

/-- Step `j` of a history is the one that approves `m`, and it has a quorum. -/
structure Approval (history : List Step) (j : Nat) (s : Step) (m : TransferMessage) : Prop where
  place : history[j]? = some s
  approves : s.Approves (Arrivals.key m)
  vote : ∃ v, s.command.vote? = some v ∧ v.message = m
  positive : 0 < s.before.threshold.toNat
  quorum : ∃ voters : Finset UInt8, s.before.threshold.toNat ≤ voters.card ∧
    ∀ i ∈ voters, s.before.transceivers.isEnabled i = true ∧
      ∃ w ∈ history.take (j + 1), w.Backs i m

namespace Endpoint

variable {e next : Endpoint} {c : Command} {answer : Except Error Answer}

/-! ## Votes -/

/-- The votes stored for an arrival stand for steps of the history. -/
def IsBacked (past : List Step) (a : Arrival) : Prop :=
  ∀ i : UInt8, a.votes.has i.toNat = true → ∃ w ∈ past, w.Backs i a.message

theorem IsBacked.append {past : List Step} {a : Arrival} (h : IsBacked past a) (more : List Step) :
    IsBacked (past ++ more) a := by
  intro i hi
  obtain ⟨w, hw, hb⟩ := h i hi
  exact ⟨w, List.mem_append_left _ hw, hb⟩

theorem isBacked_new (past : List Step) (m : TransferMessage) (amount : Amount) :
    IsBacked past (.new m amount) := by
  intro i hi
  simp [Arrival.new] at hi

/-- A vote that a handling adds is the one of its command. -/
theorem Handles.votes {p : Option Payout} {a b : Arrival} (h : Handles e c p a b) {i : UInt8}
    (hi : b.votes.has i.toNat = true) :
    a.votes.has i.toNat = true ∨ (e.step c).Backs i b.message := by
  have ofCast {v : Vote} {amount : Amount} {isNew : Bool} {a b : Arrival} (hv : c.vote? = some v)
      (hcast : e.Casts v amount isNew a b) (hi : b.votes.has i.toNat = true) :
      a.votes.has i.toNat = true ∨ (e.step c).Backs i b.message := by
    obtain ⟨-, hvotes, -⟩ := Arrival.vote_eq_ok hcast.vote
    rw [hvotes, Bool.or_eq_true, decide_eq_true_eq] at hi
    rcases hi with heq | hold
    · have hindex : v.index = i := UInt8.toNat_inj.1 heq.symm
      exact .inr ⟨v, amount, hv, hindex, hcast.message_eq.symm, hcast.accepts⟩
    · exact .inl hold
  cases h with
  | vote hv hcast => exact ofCast hv hcast hi
  | schedule hv hcast =>
    have hcases := ofCast hv hcast hi
    exact hcases
  | pay hv hcast =>
    have hcases := ofCast hv hcast hi
    exact hcases
  | lose hv hcast =>
    have hcases := ofCast hv hcast hi
    exact hcases
  | release => exact .inl hi
  | loseRelease => exact .inl hi

theorem Handles.isBacked {p : Option Payout} {a b : Arrival} (h : Handles e c p a b)
    {past : List Step} (ha : IsBacked past a) : IsBacked (past ++ [e.step c]) b := by
  intro i hi
  rcases h.votes hi with hold | hnew
  · rw [h.evolves.message]
    exact ha.append _ i hold
  · exact ⟨e.step c, by simp, hnew⟩

/-- A handled arrival has its votes from the history if the stored ones do. -/
theorem Handles.isBacked_entry {p : Option Payout} {a b : Arrival} (h : Handles e c p a b)
    (hr : Regular e) {past : List Step}
    (hs : ∀ k a, e.arrivals.get? k = some a → IsBacked past a) : IsBacked past a := by
  obtain hget | ⟨-, v, amount, -, -, rfl⟩ := h.entry hr.arrivals
  · exact hs _ _ hget
  · exact isBacked_new past v.message amount

theorem isBacked_run {site : Site} {terms : Terms} {limit now : UInt64}
    (h : establish site terms limit now = .ok e) (cs : List Command) :
    ∀ k a, (e.run cs).2.arrivals.get? k = some a → IsBacked (e.steps cs) a := by
  have hr := regular_establish h
  refine steps_induction (P := fun past f => ∀ k a, f.arrivals.get? k = some a →
    IsBacked past a) ?_ ?_ cs
  · intro k a ha
    rw [establish_eq_ok h] at ha
    cases ha
  · intro cs c ih k b hb
    obtain heq | ⟨a, b', hab, -, heq⟩ := (perform_effect (e.run cs).2 c).arrival_at k
    · rw [heq] at hb
      exact (ih k b hb).append _
    · rw [heq] at hb
      cases hb
      exact hab.isBacked (hab.isBacked_entry (regular_run hr cs) ih)

/-! ## Approvals -/

/-- An arrival that is settled has a quorum among its votes. -/
theorem Settles.quorum {b : Arrival} (h : e.Settles b) (ht : e.transceivers.Orderly) :
    0 < e.threshold.toNat ∧ ∃ voters : Finset UInt8, e.threshold.toNat ≤ voters.card ∧
      ∀ i ∈ voters, e.transceivers.isEnabled i = true ∧ b.votes.has i.toNat = true := by
  have happ := h.1
  simp only [Arrival.isApproved, Bool.and_eq_true, decide_eq_true_eq] at happ
  obtain ⟨hpos, hcount⟩ := happ
  refine ⟨UInt8.lt_iff_toNat_lt.1 hpos, (b.votes.inter e.transceivers.enabled).members, ?_, ?_⟩
  · have hle := UInt8.le_iff_toNat_le.1 hcount
    rw [Arrival.voteCount, IndexSet.toNat_sharedCount] at hle
    rwa [IndexSet.card_members]
  · intro i hi
    rw [IndexSet.mem_members, IndexSet.has_inter, Bool.and_eq_true] at hi
    obtain ⟨hvoted, hen⟩ := hi
    have hlt := ht.enabled i.toNat hen
    refine ⟨?_, hvoted⟩
    rw [Transceivers.isEnabled, hen, decide_eq_true hlt, Bool.and_self]

/-- Only a vote takes an arrival out of `notApproved`, and only with enough votes. -/
theorem Handles.settles {p : Option Payout} {a b : Arrival} (h : Handles e c p a b)
    (ha : a.status = .notApproved) (hb : b.status ≠ .notApproved) :
    ∃ v d, c.vote? = some v ∧ v.message = b.message ∧ e.Settles d ∧ d.votes = b.votes := by
  cases h with
  | vote _ hcast =>
    rw [hcast.status_eq, ha] at hb
    exact absurd rfl hb
  | @schedule v _ _ _ d _ hv hcast hs => exact ⟨v, d, hv, hcast.message_eq.symm, hs, rfl⟩
  | @pay v _ _ _ d _ hv hcast hs => exact ⟨v, d, hv, hcast.message_eq.symm, hs, rfl⟩
  | @lose v _ _ _ d _ hv hcast hs => exact ⟨v, d, hv, hcast.message_eq.symm, hs, rfl⟩
  | release _ _ hs => rw [hs] at ha; cases ha
  | loseRelease _ _ hs => rw [hs] at ha; cases ha

/-- The arrival under a key before a later step has evolved from the one before. -/
theorem evolves_between (hr : Regular e) {cs : List Command} {i j : Nat} (hij : i ≤ j)
    {k : ChainId × MessageId} {a : Arrival}
    (ha : (e.run (cs.take i)).2.arrivals.get? k = some a) :
    ∃ b, (e.run (cs.take j)).2.arrivals.get? k = some b ∧ a.Evolves b := by
  obtain ⟨ds, hds⟩ := run_take_of_le hij e cs
  rw [hds]
  exact arrival_evolves_run (regular_run hr _) ds ha

theorem after_eq {cs : List Command} {n : Nat} {s : Step} (h : (e.steps cs)[n]? = some s) :
    s.after = (e.run (cs.take (n + 1))).2 := by
  obtain ⟨c, hc, rfl⟩ := steps_getElem?_eq_some.1 h
  rw [run_take_succ hc]
  rfl

theorem before_eq {cs : List Command} {n : Nat} {s : Step} (h : (e.steps cs)[n]? = some s) :
    s.before = (e.run (cs.take n)).2 := by
  obtain ⟨c, -, rfl⟩ := steps_getElem?_eq_some.1 h
  rfl

/-- A message is approved by one step only. -/
theorem approves_unique (hr : Regular e) {cs : List Command} {i j : Nat} {s w : Step}
    {k : ChainId × MessageId} (hi : (e.steps cs)[i]? = some s) (hj : (e.steps cs)[j]? = some w)
    (hs : s.Approves k) (hw : w.Approves k) : i = j := by
  have notBefore {i j : Nat} {s w : Step} (hi : (e.steps cs)[i]? = some s)
      (hj : (e.steps cs)[j]? = some w) (hs : s.Approves k) (hw : w.Approves k) : ¬ i < j := by
    intro hlt
    obtain ⟨a, ha, hsa⟩ := hs.after
    rw [after_eq hi] at ha
    obtain ⟨b, hb, hab⟩ := evolves_between hr hlt ha
    rw [← before_eq hj] at hb
    exact hab.status.ne_notApproved hsa (hw.before b hb)
  have h1 := notBefore hi hj hs hw
  have h2 := notBefore hj hi hw hs
  omega

/-- An arrival that is approved has a step that approved it. -/
theorem exists_approves {site : Site} {terms : Terms} {limit now : UInt64}
    (h : establish site terms limit now = .ok e) (cs : List Command) {k : ChainId × MessageId}
    {a : Arrival} (ha : (e.run cs).2.arrivals.get? k = some a) (hs : a.status ≠ .notApproved) :
    ∃ (j : Nat) (s : Step), (e.steps cs)[j]? = some s ∧ s.Approves k := by
  induction cs using List.reverseRecOn generalizing a with
  | nil =>
    rw [run_nil, establish_eq_ok h] at ha
    cases ha
  | append_singleton cs c ih =>
    rw [steps_concat]
    by_cases hold : ∃ b, (e.run cs).2.arrivals.get? k = some b ∧ b.status ≠ .notApproved
    · obtain ⟨b, hb, hsb⟩ := hold
      obtain ⟨j, s, hj, happ⟩ := ih hb hsb
      have hlt := (List.getElem?_eq_some_iff.1 hj).1
      exact ⟨j, s, by rw [List.getElem?_append_left hlt, hj], happ⟩
    · refine ⟨cs.length, (e.run cs).2.step c, by simp, ?_, a, ?_, hs⟩
      · intro b hb
        by_contra hsb
        exact hold ⟨b, hb, hsb⟩
      · rw [run_concat] at ha
        exact ha

/-- **The step that approves a message has a quorum for it.** -/
theorem approval_of_approves {site : Site} {terms : Terms} {limit now : UInt64}
    (h : establish site terms limit now = .ok e) {cs : List Command} {j : Nat} {s : Step}
    {k : ChainId × MessageId} (hj : (e.steps cs)[j]? = some s) (happ : s.Approves k) :
    ∃ a, s.after.arrivals.get? k = some a ∧ Approval (e.steps cs) j s a.message := by
  have hr := regular_establish h
  obtain ⟨a, ha, hsa⟩ := happ.after
  have hrun := regular_run hr (cs.take (j + 1))
  have hkey : Arrivals.key a.message = k := by
    rw [after_eq hj] at ha
    exact hrun.arrivals k a ha
  have hpast : IsBacked ((e.steps cs).take (j + 1)) a := by
    rw [after_eq hj] at ha
    rw [steps_take]
    exact isBacked_run h _ k a ha
  refine ⟨a, ha, ?_⟩
  obtain ⟨c, -, rfl⟩ := steps_getElem?_eq_some.1 hj
  have hbefore := regular_run hr (cs.take j)
  obtain heq | ⟨a₀, b, hab, -, heq⟩ := (perform_effect (e.run (cs.take j)).2 c).arrival_at k
  · -- the arrival was there before, with the same status
    have hold : (e.run (cs.take j)).2.arrivals.get? k = some a := heq.symm.trans ha
    exact absurd (happ.before a hold) hsa
  · have hb : a = b := by
      have hget : some b = some a := heq.symm.trans ha
      cases hget
      rfl
    subst hb
    have hnot : a₀.status = .notApproved := by
      obtain hstored | ⟨-, v, amount, -, -, rfl⟩ := hab.entry hbefore.arrivals
      · rw [← hab.evolves.message, hkey] at hstored
        exact happ.before a₀ hstored
      · rfl
    obtain ⟨v, d, hv, hm, hset, hvotes⟩ := hab.settles hnot hsa
    obtain ⟨hpos, voters, hcard, hvoters⟩ := hset.quorum hbefore.transceivers
    refine ⟨hj, by rwa [hkey], ⟨v, hv, hm⟩, hpos, voters, hcard, fun i hi => ?_⟩
    obtain ⟨hen, hvoted⟩ := hvoters i hi
    rw [hvotes] at hvoted
    exact ⟨hen, hpast i hvoted⟩

/-- An arrival that is approved before a step was approved by an earlier one. -/
theorem exists_approval {site : Site} {terms : Terms} {limit now : UInt64}
    (h : establish site terms limit now = .ok e) {cs : List Command} {n : Nat}
    {k : ChainId × MessageId} {b : Arrival}
    (hb : (e.run (cs.take n)).2.arrivals.get? k = some b) (hs : b.status ≠ .notApproved) :
    ∃ j t a, j < n ∧ Approval (e.steps cs) j t b.message ∧ t.after.arrivals.get? k = some a ∧
      a.status ≠ .notApproved ∧ a.Evolves b := by
  obtain ⟨j, t, hj, happ⟩ := exists_approves h (cs.take n) hb hs
  have hjn : j < n := by
    have hlt := (List.getElem?_eq_some_iff.1 hj).1
    rw [length_steps, List.length_take] at hlt
    omega
  rw [← steps_take, List.getElem?_take_of_lt hjn] at hj
  obtain ⟨a, ha, hapv⟩ := approval_of_approves h hj happ
  have hafter := ha
  rw [after_eq hj] at hafter
  obtain ⟨b', hb', hab⟩ := evolves_between (regular_establish h) hjn hafter
  rw [hb] at hb'
  cases hb'
  refine ⟨j, t, a, hjn, by rwa [hab.message], ha, ?_, hab⟩
  obtain ⟨a', ha', hsa⟩ := happ.after
  rw [ha] at ha'
  cases ha'
  exact hsa

/-! ## Payouts -/

/-- What a step pays out is the value of the message that it releases. The step approved the
message, or ended its waiting time. -/
theorem released_of_payout (hreg : Regular e) {c : Command} {r : Payout}
    (hr : payoutOfAnswer (perform c e).1 = some r) :
    ∃ a, (perform c e).2.arrivals.get? r.key = some a ∧ e.payoutOf a.message = .ok r ∧
      e.Vetted a ∧ ((e.step c).Approves r.key ∨ ∃ b time now,
        e.arrivals.get? r.key = some b ∧ b.status = .releaseAfter time ∧ time ≤ now ∧
          c = .release a.message.sourceChain a.message.id now ∧ a.message = b.message) := by
  obtain ⟨-, hnone⟩ | ⟨a, b, hab, heq⟩ := (perform_effect e c).arrivals
  · rw [hr] at hnone
    cases hnone
  rw [hr] at hab
  have hvet := (hab.vetted hreg).2
  have hentry := hab.entry hreg.arrivals
  have hafter : (perform c e).2.arrivals.get? (Arrivals.key b.message) = some b := by
    rw [heq, Arrivals.put, Table.get?_set_self]
  cases hab with
  | @pay v _ _ a b _ hv hcast hset hpay =>
    have hkey : r.key = Arrivals.key b.message := by
      rw [key_of_payoutOf hpay, hcast.message_eq]
    rw [hkey]
    refine ⟨_, hafter, by rw [hcast.message_eq, hpay], hvet, .inl ⟨fun d hd => ?_, _, hafter, ?_⟩⟩
    · -- what was stored is what the vote was cast on
      have hd' : e.arrivals.get? (Arrivals.key b.message) = some d := hd
      rw [hcast.entry_message_eq, ← hcast.message_eq] at hentry
      obtain hold | ⟨hold, -⟩ := hentry <;> rw [hd'] at hold <;> cases hold
      rw [← hcast.status_eq, hset.2]
    · intro hnot
      cases hnot
  | @release chain id now time a _ hc ha hs hle hpay =>
    have hkey : r.key = Arrivals.key a.message := key_of_payoutOf hpay
    have hstored := hreg.arrivals _ _ ha
    have hchain : a.message.sourceChain = chain := congrArg Prod.fst hstored
    have hid : a.message.id = id := congrArg Prod.snd hstored
    rw [hkey]
    refine ⟨_, hafter, hpay, hvet, .inr ⟨a, time, now, ?_, hs, hle, ?_, rfl⟩⟩
    · rw [hstored, ha]
    · rw [hc, hchain, hid]

/-- **A payout is what a quorum attested.** It carries the recipient and the value of the stored
message, which was approved once, by a step with a quorum for exactly this message. That
step made the payout, or it set a waiting time, which was over at the release that did. -/
theorem payout_authentic {site : Site} {terms : Terms} {limit now : UInt64}
    (h : establish site terms limit now = .ok e) {cs : List Command} {n : Nat} {s : Step}
    {r : Payout} (hs : (e.steps cs)[n]? = some s) (hr : payoutOfAnswer s.answer = some r) :
    ∃ a j t, s.after.arrivals.get? r.key = some a ∧ r.key = Arrivals.key a.message ∧
      r.recipient = a.message.recipient ∧ a.message.recipientChain = site.chain ∧
      a.message.amount.decimals ≤ site.tokenDecimals ∧
      r.amount.toNat = Amount.scaledUp a.message.amount.units
        (site.tokenDecimals.toNat - a.message.amount.decimals.toNat) ∧
      j ≤ n ∧ Approval (e.steps cs) j t a.message ∧
      (∀ i w, (e.steps cs)[i]? = some w → w.Approves r.key → i = j) ∧
      (j = n ∨ ∃ time now, s.command = .release a.message.sourceChain a.message.id now ∧
        (t.after.arrivals.get? r.key).map Arrival.status = some (.releaseAfter time) ∧
        time ≤ now) := by
  have hreg := regular_establish h
  obtain ⟨c, -, rfl⟩ := steps_getElem?_eq_some.1 hs
  obtain ⟨a, hget, hpay, hvet, hcases⟩ := released_of_payout (regular_run hreg (cs.take n)) hr
  have hsite : (e.run (cs.take n)).2.site = site := by rw [run_site, site_establish h]
  have hkey : r.key = Arrivals.key a.message := key_of_payoutOf hpay
  obtain ⟨-, -, hrec, hval⟩ := payoutOf_eq_ok.1 hpay
  obtain ⟨-, hto, hdec, -⟩ := hvet
  rw [hsite] at hto hdec hval
  have hamount := ((Amount.untrim_eq_ok hdec).1 hval).2
  obtain happ | ⟨b, time, now, hb, hsb, hle, hcmd, hmsg⟩ := hcases
  · obtain ⟨a', ha', hapv⟩ := approval_of_approves h hs happ
    have ha : some a = some a' := hget.symm.trans ha'
    cases ha
    exact ⟨a, n, _, hget, hkey, hrec, hto, hdec, hamount, le_rfl, hapv,
      fun i w hi hw => approves_unique hreg hi hs hw happ, .inl rfl⟩
  · obtain ⟨j, t, a', hjn, hapv, ha', hsa, hev⟩ :=
      exists_approval h hb (by rw [hsb]; exact nofun)
    rw [← hmsg] at hapv
    have hwait : a'.status = .releaseAfter time := by
      have hleads := hev.status
      rw [hsb] at hleads
      exact hleads.eq_releaseAfter hsa
    refine ⟨a, j, t, hget, hkey, hrec, hto, hdec, hamount, hjn.le, hapv, fun i w hi hw => ?_,
      .inr ⟨time, now, hcmd, by rw [ha', Option.map_some, hwait], hle⟩⟩
    rw [hkey] at hw
    exact approves_unique hreg hi hapv.place hw hapv.approves

/-- Two votes settle a message that has to wait, and a release pays it out. -/
theorem payout_authentic_sample :
    let m := Sample.message 7 3000
    let cs := Sample.opening 1000 ++ Sample.votes m 200 ++ [.release ⟨2⟩ (.ofSequence 7) 400000]
    let r : Payout := ⟨⟨2⟩, .ofSequence 7, Sample.address 3, 30000000000000⟩
    Endpoint.establish Sample.site Sample.terms 1000 100 = .ok Sample.endpoint ∧
      ∃ s, (Sample.endpoint.steps cs)[8]? = some s ∧ payoutOfAnswer s.answer = some r ∧
        ∃ a j t, s.after.arrivals.get? r.key = some a ∧ r.key = Arrivals.key a.message ∧
          r.recipient = a.message.recipient ∧ j ≤ 8 ∧
          Approval (Sample.endpoint.steps cs) j t a.message := by
  intro m cs r
  have hs : ∃ s, (Sample.endpoint.steps cs)[8]? = some s ∧ payoutOfAnswer s.answer = some r :=
    ⟨_, rfl, by decide +kernel⟩
  obtain ⟨s, hs, hr⟩ := hs
  obtain ⟨a, j, t, ha, hkey, hrec, -, -, -, hj, hapv, -⟩ :=
    payout_authentic Sample.establish_eq hs hr
  exact ⟨Sample.establish_eq, s, hs, hr, a, j, t, ha, hkey, hrec, hj, hapv⟩

end Endpoint

end TokenBridge
