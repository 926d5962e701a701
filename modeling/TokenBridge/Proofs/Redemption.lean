import TokenBridge.Proofs.Lifecycle

/-!
# Calls that cannot be undone

A redemption and a release change the destination chain, so each may succeed only once, and its
transactions must not get lost. A receipt has `credit` for such a call until it enters the stage
that the call leads to. A call that succeeds uses the credit up, and no deed gives it back
(`Deed.spends`). All that could go wrong afterwards is checked before the call is made.
-/

namespace TokenBridge

open Conversation Dialogue

namespace Call

def isRedeem : Call → Bool
  | redeem _ => true
  | _ => false

def isRelease : Call → Bool
  | completeWaiting _ => true
  | _ => false

/-- Whether such a call was answered without an error. -/
def succeeded (kind : Call → Bool) : Event Call Outcome → Bool
  | .asked c (.ok _) => kind c
  | _ => false

/-- Calls of other kinds do not count. -/
theorem countP_succeeded {kind : Call → Bool} {events : Conversation.Events}
    (h : ∀ c outcome, .asked c outcome ∈ events → kind c = false) :
    events.countP (succeeded kind) = 0 := by
  refine List.countP_eq_zero.2 fun event hmem => ?_
  cases event with
  | rested p => exact Bool.false_ne_true
  | asked c outcome =>
    cases outcome with
    | error err => exact Bool.false_ne_true
    | ok reply => exact Bool.eq_false_iff.1 (h c _ hmem)

/-- The stage that a call leads to when it succeeds. -/
def leadsTo? : Call → Option Stage
  | redeem _ => some .destinationInitiated
  | completeWaiting _ => some .destinationFinalized
  | _ => none

theorem leadsTo?_of_isRedeem {c : Call} (h : c.isRedeem = true) :
    c.leadsTo? = some .destinationInitiated := by
  cases c <;> first | rfl | cases h

theorem leadsTo?_of_isRelease {c : Call} (h : c.isRelease = true) :
    c.leadsTo? = some .destinationFinalized := by
  cases c <;> first | rfl | cases h

theorem leadsTo?_of_acts {c : Call} (h : c.acts = false) : c.leadsTo? = none := by
  cases c <;> first | rfl | cases h

end Call

open Call

namespace Tracker

variable {r : Receipt} {action : Action} {events : Events} {res : Except Error Receipt}
  {es : List Episode}

/-! ## Once -/

/-- What is left before a stage is entered. -/
def credit (stage : Stage) (r : Receipt) : Nat := if r.stage.rank < stage.rank then 1 else 0

theorem credit_le_one (stage : Stage) (r : Receipt) : credit stage r ≤ 1 := by
  unfold credit
  split <;> omega

/-- No deed gives credit back. -/
theorem Deed.credit_le (h : Deed r action events res) (stage : Stage) :
    credit stage (latest r res) ≤ credit stage r := by
  have hrank : r.stage.rank ≤ (latest r res).stage.rank := by
    rcases h.after with heq | hnext
    · exact Nat.le_of_eq (congrArg (·.stage.rank) heq.symm)
    · exact Nat.le_of_lt hnext.rank_lt
  unfold credit
  split <;> split <;> omega

section
variable {kind : Call → Bool} {stage : Stage} (hkind : ∀ c, kind c = true → c.leadsTo? = some stage)
include hkind

/-- Calls that lead to a stage use up the credit for it. -/
theorem Deed.spends (h : Deed r action events res) :
    events.countP (succeeded kind) + credit stage (latest r res) ≤ credit stage r := by
  have hcredit := h.credit_le stage
  -- the credit is checked at the two calls that can succeed; all other deeds leave it alone
  have hother {c : Call} (hc : c.leadsTo? ≠ some stage) : kind c = false :=
    Bool.eq_false_iff.2 fun hk => hc (hkind c hk)
  cases h with
  | observed hcalls =>
    have hnone : events.countP (succeeded kind) = 0 := countP_succeeded fun c outcome hmem =>
      hother (by rw [leadsTo?_of_acts (hcalls c outcome hmem)]; exact nofun)
    rwa [hnone, Nat.zero_add]
  | refused | redeemedBefore | redeemFailed | releaseFailed => simp [succeeded]
  | @redeemed a txs _ hstage =>
    by_cases hk : kind (.redeem a) = true
    · cases hkind _ hk
      rcases hstage with h | h <;> simp [credit, succeeded, hk, h, Stage.rank]
    · simpa [succeeded, hk] using hcredit
  | @released _ a txs _ hstage =>
    by_cases hk : kind (.completeWaiting a) = true
    · cases hkind _ hk
      simp [credit, succeeded, hk, hstage, Stage.rank]
    · simpa [succeeded, hk] using hcredit

theorem Story.countP_le (h : Story r es) :
    (es.flatMap Episode.events).countP (succeeded kind) ≤ 1 := by
  have hcredit : (es.flatMap Episode.events).countP (succeeded kind) ≤ credit stage r := by
    induction h with
    | nil => exact Nat.zero_le _
    | cons hdeed _ ih =>
      rw [List.flatMap_cons, List.countP_append]
      exact Nat.le_trans (Nat.add_le_add_left ih _) (hdeed.spends hkind)
  exact Nat.le_trans hcredit (credit_le_one stage r)

end

/-! ## Not too early, and not in vain -/

theorem checkReleaseTime_eq_ok {now : Instant} {u : Unit} :
    checkReleaseTime r now = .ok u ↔ ∀ time, r.queueReleaseTime = some time → time ≤ now := by
  unfold checkReleaseTime
  cases r.queueReleaseTime with
  | none => simp
  | some time =>
    show (if time ≤ now then _ else _) = _ ↔ _
    by_cases h : time ≤ now <;> simp [h]

/-- The transactions of a call that succeeded are in the receipt that the action returns. -/
theorem Deed.destinationTxs_eq (h : Deed r action events res) {a : Attestation}
    {txs : List Transaction} (hmem : .asked (.redeem a) (.ok txs) ∈ events ∨
      .asked (.completeWaiting a) (.ok txs) ∈ events) :
    ∃ next, res = .ok next ∧ next.destinationTxs = r.destinationTxs ++ txs := by
  cases h with
  | observed hcalls => rcases hmem with hmem | hmem <;> cases hcalls _ _ hmem
  | refused | redeemedBefore => rcases hmem with hmem | hmem <;> cases hmem
  | redeemFailed | releaseFailed => simp at hmem
  | redeemed | released =>
    rcases hmem with hmem | hmem <;> cases List.mem_singleton.1 hmem
    exact ⟨_, rfl, rfl⟩

/-- A release is asked for only when its time has come. -/
theorem Deed.releaseTime_le (h : Deed r action events res) (hr : r.Sound) {a : Attestation}
    {outcome : Call.Outcome (.completeWaiting a)}
    (hmem : .asked (.completeWaiting a) outcome ∈ events) :
    ∃ now time, action = .finalize now ∧ r.queueReleaseTime = some time ∧ time ≤ now := by
  have hdue {now : Instant} (hstage : r.stage = .destinationQueued)
      (htime : checkReleaseTime r now = .ok ()) :
      ∃ time, r.queueReleaseTime = some time ∧ time ≤ now := by
    obtain ⟨time, hqueue⟩ := Option.isSome_iff_exists.1 (hr.queued hstage)
    exact ⟨time, hqueue, checkReleaseTime_eq_ok.1 htime time hqueue⟩
  cases h with
  | observed hcalls => cases hcalls _ _ hmem
  | refused | redeemedBefore => cases hmem
  | redeemFailed | redeemed => simp at hmem
  | releaseFailed _ _ hstage htime | released _ _ hstage htime =>
    obtain ⟨time, hqueue, hle⟩ := hdue hstage htime
    exact ⟨_, time, rfl, hqueue, hle⟩

theorem Deed.observes {t : Tracker} (h : Deed r (.advance t) events res) :
    ∀ c outcome, .asked c outcome ∈ events → c.acts = false := by
  cases h with
  | observed hcalls => exact hcalls
  | refused => exact fun _ _ hmem => absurd hmem List.not_mem_nil

/-- **A redemption happens once and is not lost.** However a client mixes its actions, and whatever
the backends reply, at most one redemption and at most one release succeed. The action that asked
for it returns a receipt with the new transactions after the old ones. No release is asked for
before its time, and to advance is only to observe. -/
theorem redemption_once (hr : Opening r) (answer : Events → (c : Call) → c.Outcome) (log : Events)
    (actions : List Action) :
    ((follow answer log r actions).flatMap Episode.events).countP (succeeded isRedeem) ≤ 1 ∧
    ((follow answer log r actions).flatMap Episode.events).countP (succeeded isRelease) ≤ 1 ∧
    ∀ e ∈ follow answer log r actions,
      (∀ a txs, .asked (.redeem a) (.ok txs) ∈ e.events ∨
          .asked (.completeWaiting a) (.ok txs) ∈ e.events →
        ∃ next, e.answer = .ok next ∧ next.destinationTxs = e.before.destinationTxs ++ txs) ∧
      (∀ a outcome, .asked (.completeWaiting a) outcome ∈ e.events →
        ∃ now time, e.action = .finalize now ∧ e.before.queueReleaseTime = some time ∧
          time ≤ now) ∧
      ∀ t, e.action = .advance t → ∀ c outcome, .asked c outcome ∈ e.events → c.acts = false := by
  have hstory := story_follow answer log r actions
  refine ⟨hstory.countP_le fun _ => leadsTo?_of_isRedeem,
    hstory.countP_le fun _ => leadsTo?_of_isRelease, fun e he => ?_⟩
  obtain ⟨hsound, hdeed⟩ := hstory.deed hr.sound e he
  refine ⟨fun a txs hmem => hdeed.destinationTxs_eq hmem,
    fun a outcome hmem => hdeed.releaseTime_le hsound hmem, fun t ht => ?_⟩
  rw [ht] at hdeed
  exact hdeed.observes

open LifecycleSample in
/-- The second redemption by hand comes too late to do anything. -/
theorem redemption_once_sample :
    Opening start ∧
    (follow answer [] start (actions ++ [.complete])).map
      (fun e => e.events.countP (succeeded Call.acts)) = [0, 1, 0, 0, 1, 0] ∧
    ((follow answer [] start (actions ++ [.complete])).flatMap Episode.events).countP
      (succeeded isRedeem) ≤ 1 ∧
    ((follow answer [] start (actions ++ [.complete])).flatMap Episode.events).countP
      (succeeded isRelease) ≤ 1 := by
  have hstart : Opening start := .attested _ _
  obtain ⟨hredeem, hrelease, -⟩ := redemption_once hstart answer [] (actions ++ [.complete])
  exact ⟨hstart, by decide +kernel, hredeem, hrelease⟩

end Tracker

end TokenBridge
