import TokenBridge.Transfer.Tracker
import TokenBridge.Proofs.History
import TokenBridge.Proofs.Outcome
import TokenBridge.Proofs.Transcript

/-!
# The life of a transfer

A client performs one action after another, each on the latest receipt (`follow`). What an action
can come to is said once: a receipt `Becomes` another in one of eight ways, and a `Deed` adds what
was asked of the backends (`deed_of_ends`). All that holds of every history is then an induction
over a `Story` of deeds. The stage only goes up, a receipt stays `Sound`, and what it has recorded
stays there (`lifecycle_monotone`).
-/

namespace TokenBridge

open Conversation Dialogue

namespace Receipt

theorem advanceTo_eq_ok {r next : Receipt} {stage : Stage} :
    r.advanceTo stage = .ok next ↔
      r.stage.canAdvanceTo stage = true ∧ { r with stage := stage } = next := by
  unfold advanceTo
  by_cases h : r.stage.canAdvanceTo stage = true <;> simp [h]

theorem requireAttestation_eq_ok {r : Receipt} {a : Attestation} :
    r.requireAttestation = .ok a ↔ r.attestation = some a := by
  unfold requireAttestation
  cases r.attestation <;> simp

/-- What a client makes of a receipt in one step. -/
inductive Becomes (r : Receipt) : Receipt → Prop where
  | finalized (h : r.stage = .sourceInitiated) : r.Becomes { r with stage := .sourceFinalized }
  | attested (a : Attestation) (h : r.stage = .sourceFinalized) :
      r.Becomes { r with stage := .attested, attestation := some a }
  | approved (h : r.stage = .attested) : r.Becomes { r with stage := .destinationInitiated }
  | failed (cause : FailureClass) (reason : String) {status : RelayStatus}
      (hstatus : status.isFailure = true) (h : r.stage = .attested) :
      r.Becomes { r with
        stage := .failed
        failure := some ⟨cause, reason, some status, .attested⟩ }
  | redeemed (txs : List Transaction) (h : r.stage = .attested ∨ r.stage = .failed) :
      r.Becomes { r with
        stage := .destinationInitiated
        destinationTxs := r.destinationTxs ++ txs
        failure := none }
  | queued (time : Instant) (h : r.stage = .destinationInitiated) :
      r.Becomes { r with stage := .destinationQueued, queueReleaseTime := some time }
  | executed (h : r.stage = .destinationInitiated ∨ r.stage = .destinationQueued) :
      r.Becomes { r with stage := .destinationFinalized }
  | released (txs : List Transaction) (h : r.stage = .destinationQueued) :
      r.Becomes { r with
        stage := .destinationFinalized
        destinationTxs := r.destinationTxs ++ txs }

/-- The fields of a receipt fit its stage. -/
structure Sound (r : Receipt) : Prop where
  failure : r.failure.isSome = true ↔ r.stage = .failed
  /-- Only the relay fails, and it has said so. -/
  cause : ∀ f, r.failure = some f → f.lastStage = .attested ∧
    ∃ status, f.relayStatus = some status ∧ status.isFailure = true
  attestation : r.attestation.isSome = true ↔
    r.stage ≠ .sourceInitiated ∧ r.stage ≠ .sourceFinalized
  queued : r.stage = .destinationQueued → r.queueReleaseTime.isSome = true
  notQueued : r.stage ≠ .destinationQueued → r.stage ≠ .destinationFinalized →
    r.queueReleaseTime = none

/-- What `r` has recorded of a transfer stands in `next`, too. -/
structure Extends (next r : Receipt) : Prop where
  source : next.source = r.source
  destination : next.destination = r.destination
  sourceTxs : next.sourceTxs = r.sourceTxs
  attestation : ∀ a, r.attestation = some a → next.attestation = some a
  destinationTxs : r.destinationTxs <+: next.destinationTxs

variable {r next : Receipt}

theorem Extends.refl (r : Receipt) : r.Extends r :=
  ⟨rfl, rfl, rfl, fun _ h => h, List.prefix_refl _⟩

theorem Extends.trans {last : Receipt} (h : next.Extends r) (h' : last.Extends next) :
    last.Extends r where
  source := h'.source.trans h.source
  destination := h'.destination.trans h.destination
  sourceTxs := h'.sourceTxs.trans h.sourceTxs
  attestation a ha := h'.attestation a (h.attestation a ha)
  destinationTxs := h.destinationTxs.trans h'.destinationTxs

theorem Becomes.canAdvanceTo (h : r.Becomes next) : r.stage.canAdvanceTo next.stage = true := by
  cases h with
  | finalized h | attested _ h | approved h | failed _ _ _ h | queued _ h | released _ h =>
    rw [h]
    rfl
  | redeemed _ h | executed h => rcases h with h | h <;> rw [h] <;> rfl

theorem Becomes.rank_lt (h : r.Becomes next) : r.stage.rank < next.stage.rank :=
  Stage.rank_lt_of_canAdvanceTo h.canAdvanceTo

theorem sound_new (source destination : ChainId) (txs : List Transaction) :
    (new source destination txs).Sound := by
  constructor <;> simp [new]

theorem sound_attested (a : Attestation) (txs : List Transaction) : (attested a txs).Sound := by
  constructor <;> simp [attested]

theorem Sound.becomes (hr : r.Sound) (h : r.Becomes next) : next.Sound := by
  obtain ⟨hfailure, hcause, hattestation, hqueued, hnotQueued⟩ := hr
  cases h with
  | finalized h | attested _ h | approved h | failed _ _ _ h | queued _ h | released _ h =>
    constructor <;> simp_all
  | redeemed _ h | executed h => rcases h with h | h <;> constructor <;> simp_all

theorem Becomes.extends (hr : r.Sound) (h : r.Becomes next) : next.Extends r := by
  cases h with
  | attested a h =>
    -- nothing is overwritten, since a receipt before this step has no attestation
    have hnone : r.attestation = none := by
      have := hr.attestation
      simp_all
    exact ⟨rfl, rfl, rfl, by simp [hnone], List.prefix_refl _⟩
  | redeemed txs | released txs =>
    exact ⟨rfl, rfl, rfl, fun _ ha => ha, List.prefix_append ..⟩
  | finalized | approved | failed | queued | executed =>
    exact ⟨rfl, rfl, rfl, fun _ ha => ha, List.prefix_refl _⟩

end Receipt

/-- Whether a call changes something on a chain. -/
def Call.acts : Call → Bool
  | submitTransfer .. | redeem _ | completeWaiting _ => true
  | _ => false

namespace Tracker

variable {t : Tracker} {r next : Receipt}

/-! ## Observing -/

/-- An observation asks without acting, and finds the receipt of the next step or none. -/
abbrev Observes (r : Receipt) (x : Conversation (Option Receipt)) : Prop :=
  Yields (fun c => c.acts = false) (fun o => ∀ next, o = some next → r.Becomes next) x

theorem observes_none : Observes r (pure none) := by
  refine yields_pure fun next hnext => ?_
  cases hnext

theorem observes_ask {p : RetryPolicy} {c : Call} {f : c.Reply → Conversation (Option Receipt)}
    (hc : c.acts = false) (hf : ∀ reply, Observes r (f reply)) :
    Observes r (callPatiently p c >>= f) :=
  (yields_callPatiently hc).bind fun reply _ => hf reply

theorem observes_check {α : Type} {x : Except Error α} {f : α → Conversation (Option Receipt)}
    (hf : ∀ a, x = .ok a → Observes r (f a)) : Observes r (liftM x >>= f) :=
  Yields.bind (yields_lift fun _ ha => ha) hf

/-- A step that is seen is made, and the receipt may take note of it. -/
theorem observes_step {stage : Stage} {g : Receipt → Receipt}
    (h : r.Becomes (g { r with stage := stage })) :
    Observes r (do return some (g (← r.advanceTo stage))) := by
  refine observes_check fun next hnext => yields_pure fun _ heq => ?_
  obtain ⟨-, rfl⟩ := Receipt.advanceTo_eq_ok.1 hnext
  exact Option.some.inj heq ▸ h

theorem observes_finalizeSource (h : r.stage = .sourceInitiated) :
    Observes r (t.finalizeSource r) := by
  refine observes_check fun tx _ => observes_ask (by rfl) fun finalized => ?_
  cases (finalized : Bool) with
  | false => exact observes_none
  | true => exact observes_step (g := id) (.finalized h)

theorem observes_awaitAttestation (h : r.stage = .sourceFinalized) :
    Observes r (t.awaitAttestation r) := by
  refine observes_check fun tx _ => observes_ask (by rfl) fun found => ?_
  cases (found : Option Attestation) with
  | none => exact observes_none
  | some a =>
    exact observes_step (g := fun next => { next with attestation := some a }) (.attested a h)

theorem observes_failureOf {status : RelayStatus} (h : r.stage = .attested) :
    Observes r (failureOf r status) := by
  refine yields_lift fun o ho next hnext => ?_
  subst hnext
  unfold failureOf at ho
  split at ho
  · simp only [map_eq_ok, Receipt.fail, bind_eq_ok, pure_eq_ok, Receipt.advanceTo_eq_ok,
      Option.some.injEq] at ho
    obtain ⟨_, ⟨_, ⟨-, rfl⟩, rfl⟩, rfl⟩ := ho
    rw [h]
    exact .failed _ _ ‹_› h
  · cases ho

theorem observes_awaitRedemption (h : r.stage = .attested) :
    Observes r (t.awaitRedemption r) := by
  refine observes_check fun a _ => observes_ask (by rfl) fun approved => ?_
  cases (approved : Bool) with
  | true => exact observes_step (g := id) (.approved h)
  | false =>
    cases r.sourceTx? with
    | none => exact observes_none
    | some tx =>
      refine observes_ask (by rfl) fun found => ?_
      cases (found : Option RelayStatus) with
      | none => exact observes_none
      | some status => exact observes_failureOf h

theorem observes_awaitExecution (a : Attestation)
    (h : r.stage = .destinationInitiated ∨ r.stage = .destinationQueued) :
    Observes r (t.awaitExecution r a) := by
  refine observes_ask (by rfl) fun executed => ?_
  cases (executed : Bool) with
  | false => exact observes_none
  | true => exact observes_step (g := id) (.executed h)

theorem observes_awaitRelease (h : r.stage = .destinationInitiated) :
    Observes r (t.awaitRelease r) := by
  refine observes_check fun a _ => observes_ask (by rfl) fun waiting => ?_
  cases (waiting : Option WaitingTransfer) with
  | none => exact observes_awaitExecution a (.inl h)
  | some waiting =>
    refine observes_check fun next hnext => yields_pure fun _ heq => ?_
    cases heq
    unfold queuedUntil at hnext
    split at hnext
    · simp only [bind_eq_ok, pure_eq_ok, Receipt.advanceTo_eq_ok] at hnext
      obtain ⟨_, ⟨-, rfl⟩, rfl⟩ := hnext
      exact .queued _ h
    · cases hnext

theorem observes_advance : Observes r (t.advance r) := by
  unfold advance
  cases h : r.stage with
  | sourceInitiated => exact observes_finalizeSource h
  | sourceFinalized => exact observes_awaitAttestation h
  | attested => exact observes_awaitRedemption h
  | destinationInitiated => exact observes_awaitRelease h
  | destinationQueued => exact observes_check fun a _ => observes_awaitExecution a (.inr h)
  | destinationFinalized | failed => exact yields_throw

/-! ## Acting -/

/-- What a client does with a receipt. -/
inductive Action where
  | advance (t : Tracker)
  | complete
  | finalize (now : Instant)

/-- An action on a receipt, with the latest receipt as its answer. -/
def Action.perform (r : Receipt) : Action → Conversation Receipt
  | advance t => do return (← t.advance r).getD r
  | complete => Tracker.complete r
  | finalize now => Tracker.finalize r now

/-- All that an action can come to, with what was asked meanwhile. -/
inductive Deed (r : Receipt) : Action → Events → Except Error Receipt → Prop where
  | observed {t : Tracker} {events : Events} {res : Except Error Receipt}
      (hcalls : ∀ c outcome, .asked c outcome ∈ events → c.acts = false)
      (hnext : ∀ next, res = .ok next → next = r ∨ r.Becomes next) :
      Deed r (.advance t) events res
  | refused {action : Action} (err : Error) : Deed r action [] (.error err)
  | redeemedBefore : Deed r .complete [] (.ok r)
  | redeemFailed {a : Attestation} (err : Error) (ha : r.attestation = some a) :
      Deed r .complete [.asked (.redeem a) (.error err)] (.error err)
  | redeemed {a : Attestation} (txs : List Transaction) (ha : r.attestation = some a)
      (h : r.stage = .attested ∨ r.stage = .failed) :
      Deed r .complete [.asked (.redeem a) (.ok txs)] (.ok { r with
        stage := .destinationInitiated
        destinationTxs := r.destinationTxs ++ txs
        failure := none })
  | releaseFailed {now : Instant} {a : Attestation} (err : Error) (ha : r.attestation = some a)
      (h : r.stage = .destinationQueued) (htime : checkReleaseTime r now = .ok ()) :
      Deed r (.finalize now) [.asked (.completeWaiting a) (.error err)] (.error err)
  | released {now : Instant} {a : Attestation} (txs : List Transaction)
      (ha : r.attestation = some a) (h : r.stage = .destinationQueued)
      (htime : checkReleaseTime r now = .ok ()) :
      Deed r (.finalize now) [.asked (.completeWaiting a) (.ok txs)] (.ok { r with
        stage := .destinationFinalized
        destinationTxs := r.destinationTxs ++ txs })

variable {events : Events} {res : Except Error Receipt}

theorem deed_of_advance (h : (Action.perform r (.advance t)).Ends events res) :
    Deed r (.advance t) events res := by
  have hyields : Yields (fun c => c.acts = false) (fun next => next = r ∨ r.Becomes next)
      (Action.perform r (.advance t)) := by
    refine observes_advance.bind fun o ho => yields_pure ?_
    cases o with
    | none => exact .inl rfl
    | some next => exact .inr (ho next rfl)
  obtain ⟨hcalls, hnext⟩ := hyields events res h
  exact .observed hcalls hnext

/-- Nothing fails after the call, if the stage has been checked before it. -/
theorem ends_step {stage : Stage} {g : Receipt → Receipt}
    (h : r.stage.canAdvanceTo stage = true) :
    Ends (do return g (← r.advanceTo stage)) events res ↔
      events = [] ∧ .ok (g { r with stage := stage }) = res := by
  rw [Receipt.advanceTo_eq_ok.2 ⟨h, rfl⟩]
  exact ends_pure

theorem deed_of_redeem (hstage : r.stage = .attested ∨ r.stage = .failed)
    (h : Ends (do
      let a ← r.requireAttestation
      let txs : List Transaction ← call (.redeem a)
      let next ← r.advanceTo .destinationInitiated
      return { next with destinationTxs := r.destinationTxs ++ txs, failure := none }) events res) :
    Deed r .complete events res := by
  rcases ends_lift_bind.1 h with ⟨err, -, rfl, rfl⟩ | ⟨a, ha, hcall⟩
  · exact .refused err
  rw [Receipt.requireAttestation_eq_ok] at ha
  rcases ends_call_bind.1 hcall with ⟨err, rfl, rfl⟩ | ⟨txs, after, rfl, hlast⟩
  · exact .redeemFailed err ha
  have hadvance : r.stage.canAdvanceTo .destinationInitiated = true := by
    rcases hstage with h | h <;> rw [h] <;> rfl
  obtain ⟨rfl, rfl⟩ := (ends_step (g := fun next =>
    { next with destinationTxs := r.destinationTxs ++ txs, failure := none }) hadvance).1 hlast
  exact .redeemed txs ha hstage

theorem deed_of_complete (h : (complete r).Ends events res) : Deed r .complete events res := by
  unfold complete at h
  cases hstage : r.stage with
  | attested =>
    rw [hstage] at h
    exact deed_of_redeem (.inl hstage) h
  | failed =>
    rw [hstage] at h
    exact deed_of_redeem (.inr hstage) h
  | destinationInitiated | destinationQueued | destinationFinalized =>
    rw [hstage] at h
    obtain ⟨rfl, rfl⟩ := ends_pure.1 h
    exact .redeemedBefore
  | sourceInitiated | sourceFinalized =>
    rw [hstage] at h
    obtain ⟨rfl, rfl⟩ := ends_throw.1 h
    exact .refused _

theorem deed_of_finalize {now : Instant} (h : (finalize r now).Ends events res) :
    Deed r (.finalize now) events res := by
  rcases ends_guard.1 h with ⟨-, rfl, rfl⟩ | ⟨hstage, hcheck⟩
  · exact .refused _
  rcases ends_lift_bind.1 hcheck with ⟨err, -, rfl, rfl⟩ | ⟨_, htime, hrequire⟩
  · exact .refused err
  rcases ends_lift_bind.1 hrequire with ⟨err, -, rfl, rfl⟩ | ⟨a, ha, hcall⟩
  · exact .refused err
  rw [Receipt.requireAttestation_eq_ok] at ha
  have hqueued : r.stage = .destinationQueued := Decidable.not_not.1 hstage
  rcases ends_call_bind.1 hcall with ⟨err, rfl, rfl⟩ | ⟨txs, after, rfl, hlast⟩
  · exact .releaseFailed err ha hqueued htime
  have hadvance : r.stage.canAdvanceTo .destinationFinalized = true := by
    rw [hqueued]
    rfl
  obtain ⟨rfl, rfl⟩ := (ends_step (g := fun next =>
    { next with destinationTxs := r.destinationTxs ++ txs }) hadvance).1 hlast
  exact .released txs ha hqueued htime

/-- An action comes to a deed, whatever is replied. -/
theorem deed_of_ends {action : Action} (h : (action.perform r).Ends events res) :
    Deed r action events res := by
  cases action with
  | advance t => exact deed_of_advance h
  | complete => exact deed_of_complete h
  | finalize now => exact deed_of_finalize h

/-! ## Histories -/

/-- The latest receipt after an answer. An action that fails gives none. -/
def latest (r : Receipt) : Except Error Receipt → Receipt
  | .ok next => next
  | .error _ => r

@[simp] theorem latest_ok : latest r (.ok next) = next := rfl

@[simp] theorem latest_error (err : Error) : latest r (.error err) = r := rfl

/-- One action on the latest receipt, and what came of it. -/
structure Episode where
  before : Receipt
  action : Action
  events : Events
  answer : Except Error Receipt

def Episode.after (e : Episode) : Receipt := latest e.before e.answer

/-- Carries actions out one after another, each on the latest receipt. -/
def follow (answer : Events → (c : Call) → c.Outcome) (log : Events) (r : Receipt) :
    List Action → List Episode
  | [] => []
  | action :: actions =>
    let (res, log') := (action.perform r).run.record answer log
    let e : Episode := ⟨r, action, log'.drop log.length, res⟩
    e :: follow answer log' e.after actions

/-- Deeds, each on the receipt that the one before has left. -/
inductive Story : Receipt → List Episode → Prop where
  | nil (r : Receipt) : Story r []
  | cons {e : Episode} {es : List Episode} (hdeed : Deed e.before e.action e.events e.answer)
      (hrest : Story e.after es) : Story e.before (e :: es)

theorem story_follow (answer : Events → (c : Call) → c.Outcome) (log : Events) (r : Receipt)
    (actions : List Action) : Story r (follow answer log r actions) := by
  induction actions generalizing log r with
  | nil => exact .nil r
  | cons action actions ih =>
    obtain ⟨events, hlog, hend⟩ := transcript_record answer log (action.perform r).run
    refine .cons (e := ⟨r, action, _, _⟩) ?_ (ih _ _)
    -- what the action has appended to the log are the events of its episode
    rw [hlog, List.drop_left]
    exact deed_of_ends hend

/-- A deed makes one step or none. -/
theorem Deed.after {action : Action} (h : Deed r action events res) :
    latest r res = r ∨ r.Becomes (latest r res) := by
  cases h with
  | observed hcalls hnext =>
    cases res with
    | ok next => exact hnext next rfl
    | error err => exact .inl rfl
  | refused | redeemedBefore | redeemFailed | releaseFailed => exact .inl rfl
  | redeemed txs _ h => exact .inr (.redeemed txs h)
  | released txs _ h => exact .inr (.released txs h)

theorem Deed.sound {action : Action} (h : Deed r action events res) (hr : r.Sound) :
    (latest r res).Sound := by
  rcases h.after with heq | hnext
  · rwa [heq]
  · exact hr.becomes hnext

theorem Deed.extends {action : Action} (h : Deed r action events res) (hr : r.Sound) :
    (latest r res).Extends r := by
  rcases h.after with heq | hnext
  · rw [heq]
    exact .refl r
  · exact hnext.extends hr

/-- The latest receipts, one after another. -/
def receipts (r : Receipt) (es : List Episode) : List Receipt := r :: es.map Episode.after

/-- The stages of a transfer in the order in which it has entered them. -/
def entered (r : Receipt) (es : List Episode) : List Stage :=
  r.stage :: (es.filter fun e => e.before.stage ≠ e.after.stage).map (·.after.stage)

variable {es : List Episode}

theorem receipts_cons (r : Receipt) (e : Episode) (es : List Episode) :
    receipts r (e :: es) = r :: receipts e.after es := rfl

theorem entered_cons_of_ne {e : Episode} (h : e.before.stage ≠ e.after.stage) :
    entered e.before (e :: es) = e.before.stage :: entered e.after es := by
  rw [entered, List.filter_cons_of_pos (by simpa using h)]
  rfl

theorem entered_cons_of_eq {e : Episode} (h : e.before.stage = e.after.stage) :
    entered e.before (e :: es) = entered e.after es := by
  rw [entered, List.filter_cons_of_neg (by simpa using h), h]
  rfl

theorem Story.deed (h : Story r es) (hr : r.Sound) :
    ∀ e ∈ es, e.before.Sound ∧ Deed e.before e.action e.events e.answer := by
  induction h with
  | nil =>
    intro e he
    cases he
  | cons hdeed _ ih => exact List.forall_mem_cons.2 ⟨⟨hr, hdeed⟩, ih (hdeed.sound hr)⟩

theorem Story.sound (h : Story r es) (hr : r.Sound) : ∀ q ∈ receipts r es, q.Sound := by
  induction h with
  | nil => exact List.forall_mem_singleton.2 hr
  | cons hdeed _ ih =>
    rw [receipts_cons]
    exact List.forall_mem_cons.2 ⟨hr, ih (hdeed.sound hr)⟩

/-- Each receipt extends all that came before it. -/
theorem Story.extends (h : Story r es) (hr : r.Sound) :
    (receipts r es).Pairwise fun earlier later => later.Extends earlier := by
  induction h with
  | nil => exact List.pairwise_singleton ..
  | cons hdeed _ ih =>
    have hrest := ih (hdeed.sound hr)
    have hfirst := hdeed.extends hr
    rw [receipts_cons]
    refine List.pairwise_cons.2 ⟨fun q hq => ?_, hrest⟩
    rcases List.mem_cons.1 hq with rfl | hq
    · exact hfirst
    · exact hfirst.trans ((List.pairwise_cons.1 hrest).1 q hq)

/-- Each stage is further on than all that were entered before it. -/
theorem Story.entered (h : Story r es) :
    (entered r es).Pairwise fun earlier later => earlier.rank < later.rank := by
  induction h with
  | nil => exact List.pairwise_singleton ..
  | @cons e es hdeed _ ih =>
    -- an action that leaves the stage as it was enters none
    by_cases hstage : e.before.stage = e.after.stage
    · rwa [entered_cons_of_eq hstage]
    have hlt : e.before.stage.rank < e.after.stage.rank := by
      rcases hdeed.after with heq | hnext
      · exact absurd (congrArg Receipt.stage heq.symm) hstage
      · exact hnext.rank_lt
    rw [entered_cons_of_ne hstage]
    refine List.pairwise_cons.2 ⟨fun s hs => ?_, ih⟩
    rcases List.mem_cons.1 hs with rfl | hs
    · exact hlt
    · exact Nat.lt_trans hlt ((List.pairwise_cons.1 ih).1 s hs)

/-! ## Starting -/

/-- A receipt as it comes out of the start of a transfer. -/
inductive Opening : Receipt → Prop where
  | new (source destination : ChainId) (txs : List Transaction) :
      Opening (.new source destination txs)
  | attested (a : Attestation) (txs : List Transaction) : Opening (.attested a txs)
  | initiated {request : TransferRequest} {quote : RelayQuote} {now : Instant}
      {answer : Events → (c : Call) → c.Outcome} {log : Events} {r : Receipt}
      (h : ((initiate request quote now).run.record answer log).1 = .ok r) : Opening r
  | resumed {t : Tracker} {tx : Transaction} {answer : Events → (c : Call) → c.Outcome}
      {log : Events} {r : Receipt} (h : ((t.resume tx).run.record answer log).1 = .ok r) :
      Opening r

theorem yields_initiate (request : TransferRequest) (quote : RelayQuote) (now : Instant) :
    Yields (fun _ => True) (fun r => ∃ txs, r = .new request.source request.destination txs)
      (initiate request quote now) := by
  refine yields_guard fun _ => ?_
  refine (yields_lift fun _ _ => trivial).bind fun _ _ => ?_
  refine (yields_call trivial).bind fun (txs : List Transaction) _ => ?_
  exact yields_guard fun _ => yields_pure ⟨txs, rfl⟩

theorem yields_resume (t : Tracker) (tx : Transaction) :
    Yields (fun _ => True) (fun r => ∃ a, r = .attested a [tx]) (t.resume tx) := by
  refine (yields_callPatiently trivial).bind fun found _ => ?_
  cases (found : Option Attestation) with
  | none => exact yields_throw
  | some a => exact yields_pure ⟨a, rfl⟩

theorem Opening.sound (h : Opening r) : r.Sound := by
  cases h with
  | new source destination txs => exact Receipt.sound_new source destination txs
  | attested a txs => exact Receipt.sound_attested a txs
  | initiated h =>
    obtain ⟨txs, rfl⟩ := (yields_initiate _ _ _).record h
    exact Receipt.sound_new _ _ txs
  | resumed h =>
    obtain ⟨a, rfl⟩ := (yields_resume _ _).record h
    exact Receipt.sound_attested a _

/-- **A transfer goes through its stages once.** A client starts a transfer and performs any actions
on it; the backends may reply anything, and the replies may depend on all that was said before. Each
action changes the stage by a step that the stages allow, or nothing, and no stage is entered twice.
Each receipt fits its stage, and it has all that those before it have recorded. -/
theorem lifecycle_monotone (hr : Opening r) (answer : Events → (c : Call) → c.Outcome)
    (log : Events) (actions : List Action) :
    (∀ e ∈ follow answer log r actions,
      e.after = e.before ∨ e.before.stage.canAdvanceTo e.after.stage = true) ∧
    (entered r (follow answer log r actions)).Nodup ∧
    (∀ q ∈ receipts r (follow answer log r actions), q.Sound) ∧
    (receipts r (follow answer log r actions)).Pairwise fun earlier later =>
      later.Extends earlier := by
  have hstory := story_follow answer log r actions
  refine ⟨fun e he => ?_, ?_, hstory.sound hr.sound, hstory.extends hr.sound⟩
  · exact (hstory.deed hr.sound e he).2.after.imp_right Receipt.Becomes.canAdvanceTo
  · exact hstory.entered.imp fun hlt heq => absurd (congrArg _ heq) (Nat.ne_of_lt hlt)

/-! A transfer whose relay fails, and which then has to wait at the destination until second 200. -/

namespace LifecycleSample

def tracker : Tracker :=
  ⟨⟨0, .ofMillis 0, .ofMillis 0, 1, 0⟩, ⟨1, .ofMillis 0⟩, ⟨1, .ofMillis 0⟩⟩

def start : Receipt := .attested ⟨⟨2⟩, Sample.address 161, 0, Sample.message 0 500⟩ [⟨⟨2⟩, "a"⟩]

def answer (_ : Events) : (c : Call) → c.Outcome
  | .isApproved _ => .ok false
  | .relayStatus _ => .ok (some .underpaid)
  | .redeem _ => .ok [⟨⟨1⟩, "b"⟩]
  | .waitingTransfer _ => .ok (some ⟨Sample.address 3, 500, 200⟩)
  | .completeWaiting _ => .ok [⟨⟨1⟩, "c"⟩]
  | _ => .error .missingAttestation

def actions : List Action :=
  [.advance tracker, .complete, .advance tracker, .finalize ⟨100, 0⟩, .finalize ⟨200, 0⟩]

end LifecycleSample

open LifecycleSample in
theorem lifecycle_monotone_sample :
    Opening start ∧
    entered start (follow answer [] start actions) =
      [.attested, .failed, .destinationInitiated, .destinationQueued, .destinationFinalized] ∧
    (entered start (follow answer [] start actions)).Nodup ∧
    ∀ q ∈ receipts start (follow answer [] start actions), q.Sound := by
  have hstart : Opening start := .attested _ _
  obtain ⟨-, hnodup, hsound, -⟩ := lifecycle_monotone hstart answer [] actions
  exact ⟨hstart, by decide +kernel, hnodup, hsound⟩

end Tracker

end TokenBridge
