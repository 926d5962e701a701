import TokenBridge.Backend

/-!
# Transcripts

What can happen in a dialogue, whatever is replied? A `Transcript` is one such list of events with
the value that the dialogue ends with; carrying a dialogue out with any answers leaves one behind
(`transcript_record`). A conversation `Ends` a transcript with a value or with an error.

The equivalences of this file take a `do` block apart, one line at a time: a check leaves no trace,
a call leaves one event, and a call that is repeated leaves only events of that call.
-/

namespace TokenBridge

namespace Dialogue

variable {Q : Type} {R : Q → Type} {α β : Type}

/-- The dialogue can go through these events, in which anything may be replied, and end with a
value. -/
inductive Transcript : Dialogue Q R α → List (Event Q R) → α → Prop where
  | done (a : α) : Transcript (done a) [] a
  | ask {q : Q} {next : R q → Dialogue Q R α} (reply : R q) {events : List (Event Q R)} {a : α} :
      Transcript (next reply) events a → Transcript (ask q next) (.asked q reply :: events) a
  | rest {p : Pause} {next : Dialogue Q R α} {events : List (Event Q R)} {a : α} :
      Transcript next events a → Transcript (rest p next) (.rested p :: events) a

variable {events : List (Event Q R)} {d : Dialogue Q R α} {f : α → Dialogue Q R β} {b : β}

theorem transcript_done {a a' : α} :
    (done a : Dialogue Q R α).Transcript events a' ↔ events = [] ∧ a = a' := by
  constructor
  · intro h
    cases h
    exact ⟨rfl, rfl⟩
  · rintro ⟨rfl, rfl⟩
    exact .done a

theorem transcript_bind : (d >>= f).Transcript events b ↔
    ∃ a before after, events = before ++ after ∧ d.Transcript before a ∧
      (f a).Transcript after b := by
  constructor
  · intro h
    induction d generalizing events with
    | done a => exact ⟨a, [], events, rfl, .done a, h⟩
    | ask q next ih =>
      cases h with
      | ask reply hnext =>
        obtain ⟨a, before, after, rfl, hd, hf⟩ := ih reply hnext
        exact ⟨a, _, after, rfl, .ask reply hd, hf⟩
    | rest p next ih =>
      cases h with
      | rest hnext =>
        obtain ⟨a, before, after, rfl, hd, hf⟩ := ih hnext
        exact ⟨a, _, after, rfl, .rest hd, hf⟩
  · rintro ⟨a, before, after, rfl, hd, hf⟩
    induction hd with
    | done a => exact hf
    | ask reply _ ih => exact .ask reply (ih hf)
    | rest _ ih => exact .rest (ih hf)

theorem transcript_question {q : Q} {reply : R q} :
    (question q).Transcript events reply ↔ events = [.asked q reply] := by
  constructor
  · intro h
    cases h with
    | ask _ hdone =>
      obtain ⟨rfl, rfl⟩ := transcript_done.1 hdone
      rfl
  · rintro rfl
    exact .ask reply (.done reply)

/-- Carrying out a dialogue appends a transcript of it to the log. -/
theorem transcript_record (answer : List (Event Q R) → (q : Q) → R q) (log : List (Event Q R))
    (d : Dialogue Q R α) :
    ∃ events, (d.record answer log).2 = log ++ events ∧
      d.Transcript events (d.record answer log).1 := by
  induction d generalizing log with
  | done a => exact ⟨[], (List.append_nil log).symm, .done a⟩
  | ask q next ih =>
    obtain ⟨events, hlog, ht⟩ := ih (answer log q) (log ++ [.asked q (answer log q)])
    exact ⟨_, hlog.trans (List.append_assoc ..), .ask _ ht⟩
  | rest p next ih =>
    obtain ⟨events, hlog, ht⟩ := ih (log ++ [.rested p])
    exact ⟨_, hlog.trans (List.append_assoc ..), .rest ht⟩

/-! ## Repeated questions -/

/-- Only questions of one kind are asked, whatever is replied. -/
def AsksOnly (P : Q → Prop) (d : Dialogue Q R α) : Prop :=
  ∀ events a, d.Transcript events a → ∀ q reply, .asked q reply ∈ events → P q

variable {P : Q → Prop}

theorem asksOnly_done (a : α) : AsksOnly P (done a : Dialogue Q R α) := by
  intro events a' h q reply hmem
  rw [(transcript_done.1 h).1] at hmem
  cases hmem

theorem asksOnly_question {q : Q} (h : P q) : AsksOnly P (question q : Dialogue Q R (R q)) := by
  intro events reply ht q' reply' hmem
  rw [transcript_question.1 ht, List.mem_singleton] at hmem
  cases hmem
  exact h

theorem asksOnly_wait (p : Pause) : AsksOnly P (wait p : Dialogue Q R Unit) := by
  intro events u ht q reply hmem
  cases ht with
  | rest hdone =>
    rw [(transcript_done.1 hdone).1, List.mem_singleton] at hmem
    cases hmem

theorem AsksOnly.bind (hd : AsksOnly P d) (hf : ∀ a, AsksOnly P (f a)) : AsksOnly P (d >>= f) := by
  intro events b ht q reply hmem
  obtain ⟨a, before, after, rfl, hbefore, hafter⟩ := transcript_bind.1 ht
  rcases List.mem_append.1 hmem with hmem | hmem
  · exact hd before a hbefore q reply hmem
  · exact hf a after b hafter q reply hmem

theorem asksOnly_retrying {p : RetryPolicy} {op : Nat → Dialogue Q R (Except Error α)}
    (h : ∀ n, AsksOnly P (op n)) : AsksOnly P (retrying p op) := by
  have hfrom (attempt : Nat) : AsksOnly P (retryFrom p op attempt) := by
    induction attempt using retryFrom.induct p with
    | case1 attempt ih =>
      rw [retryFrom]
      refine (h attempt).bind fun res => ?_
      cases res with
      | ok a => exact asksOnly_done _
      | error e =>
        dsimp only
        split
        · exact asksOnly_done _
        · split
          · next hallows => exact (asksOnly_wait _).bind fun _ => ih hallows
          · exact asksOnly_done _
  exact hfrom 0

end Dialogue

namespace Conversation

open Dialogue

variable {α β : Type}

abbrev Events := List (Event Call Call.Outcome)

/-- The conversation can go through these events and end with a value or an error. -/
def Ends (x : Conversation α) (events : Events) (res : Except Error α) : Prop :=
  x.run.Transcript events res

variable {events : Events} {res : Except Error β} {f : α → Conversation β}

theorem ends_pure {a : α} {res : Except Error α} :
    (pure a : Conversation α).Ends events res ↔ events = [] ∧ .ok a = res := transcript_done

theorem ends_throw {err : Error} {res : Except Error α} :
    (throw err : Conversation α).Ends events res ↔ events = [] ∧ .error err = res :=
  transcript_done

theorem ends_lift {x res : Except Error α} :
    (liftM x : Conversation α).Ends events res ↔ events = [] ∧ x = res := transcript_done

theorem ends_call {c : Call} {res : c.Outcome} :
    (call c).Ends events res ↔ events = [.asked c res] := transcript_question

/-- A conversation goes on unless it has failed. -/
theorem ends_bind {x : Conversation α} :
    (x >>= f).Ends events res ↔ (∃ err, x.Ends events (.error err) ∧ .error err = res) ∨
      ∃ a before after, events = before ++ after ∧ x.Ends before (.ok a) ∧
        (f a).Ends after res := by
  show (x.run >>= ExceptT.bindCont f).Transcript events res ↔ _
  rw [transcript_bind]
  constructor
  · rintro ⟨first, before, after, rfl, hx, hf⟩
    cases first with
    | error err =>
      obtain ⟨rfl, rfl⟩ := transcript_done.1 hf
      rw [List.append_nil]
      exact .inl ⟨err, hx, rfl⟩
    | ok a => exact .inr ⟨a, before, after, rfl, hx, hf⟩
  · rintro (⟨err, hx, rfl⟩ | ⟨a, before, after, rfl, hx, hf⟩)
    · exact ⟨.error err, events, [], (List.append_nil events).symm, hx, .done _⟩
    · exact ⟨.ok a, before, after, rfl, hx, hf⟩

/-- A check leaves no trace. -/
theorem ends_lift_bind {x : Except Error α} :
    (liftM x >>= f : Conversation β).Ends events res ↔
      (∃ err, x = .error err ∧ events = [] ∧ .error err = res) ∨
        ∃ a, x = .ok a ∧ (f a).Ends events res := by
  cases x with
  | error err =>
    refine transcript_done.trans ⟨fun h => .inl ⟨err, rfl, h⟩, ?_⟩
    rintro (⟨_, hx, h⟩ | ⟨_, hx, -⟩)
    · cases hx
      exact h
    · cases hx
  | ok a =>
    refine ⟨fun h => .inr ⟨a, rfl, h⟩, ?_⟩
    rintro (⟨_, hx, -⟩ | ⟨_, hx, h⟩)
    · cases hx
    · cases hx
      exact h

/-- A call leaves one event. -/
theorem ends_call_bind {c : Call} {f : c.Reply → Conversation β} :
    (call c >>= f).Ends events res ↔
      (∃ err, events = [.asked c (.error err)] ∧ .error err = res) ∨
        ∃ a after, events = .asked c (.ok a) :: after ∧ (f a).Ends after res := by
  simp only [ends_bind, ends_call]
  constructor
  · rintro (h | ⟨a, _, after, rfl, rfl, hf⟩)
    · exact .inl h
    · exact .inr ⟨a, after, rfl, hf⟩
  · rintro (h | ⟨a, after, rfl, hf⟩)
    · exact .inl h
    · exact .inr ⟨a, _, after, rfl, rfl, hf⟩

section
variable {b : β}

/-! A conversation that ends with a value has passed each check and had a value from each call. -/

theorem Ends.of_lift {x : Except Error α}
    (h : (liftM x >>= f : Conversation β).Ends events (.ok b)) :
    ∃ a, x = .ok a ∧ (f a).Ends events (.ok b) := by
  rcases ends_lift_bind.1 h with ⟨_, _, _, herr⟩ | h
  · cases herr
  · exact h

theorem Ends.of_call {c : Call} {f : c.Reply → Conversation β}
    (h : (call c >>= f).Ends events (.ok b)) :
    ∃ a after, events = .asked c (.ok a) :: after ∧ (f a).Ends after (.ok b) := by
  rcases ends_call_bind.1 h with ⟨_, _, herr⟩ | h
  · cases herr
  · exact h

end

/-! What is done with given answers goes the same way. -/

section
variable {answer : Events → (c : Call) → c.Outcome} {log : Events}

theorem record_lift_bind {x : Except Error α} {a : α} (h : x = .ok a) :
    (liftM x >>= f : Conversation β).run.record answer log = (f a).run.record answer log := by
  subst h
  rfl

theorem record_call_bind {c : Call} {f : c.Reply → Conversation β} {a : c.Reply}
    (h : answer log c = .ok a) : (call c >>= f).run.record answer log =
      (f a).run.record answer (log ++ [.asked c (.ok a)]) := by
  show (ExceptT.bindCont f (answer log c)).record answer (log ++ [.asked c (answer log c)]) = _
  rw [h]
  rfl

end

/-- A check that is written as a condition. -/
theorem ends_guard {p : Prop} [Decidable p] {err : Error} {g : α → Conversation β}
    {x : Conversation β} : (if p then throw err >>= g else x).Ends events res ↔
      (p ∧ events = [] ∧ .error err = res) ∨ (¬ p ∧ x.Ends events res) := by
  by_cases h : p
  · rw [if_pos h]
    refine transcript_done.trans ⟨fun hend => .inl ⟨h, hend⟩, ?_⟩
    rintro (⟨-, hend⟩ | ⟨hno, -⟩)
    · exact hend
    · exact absurd h hno
  · rw [if_neg h]
    refine ⟨fun hend => .inr ⟨h, hend⟩, ?_⟩
    rintro (⟨hp, -⟩ | ⟨-, hend⟩)
    · exact absurd hp h
    · exact hend

/-! ## What a conversation asks and yields -/

/-- Whatever is replied, only calls of one kind are made, and a value has a property. -/
def Yields (P : Call → Prop) (post : α → Prop) (x : Conversation α) : Prop :=
  ∀ events res, x.Ends events res →
    (∀ c outcome, .asked c outcome ∈ events → P c) ∧ ∀ a, res = .ok a → post a

section
variable {P : Call → Prop} {post : α → Prop} {post' : β → Prop} {x : Conversation α}

theorem yields_lift {x : Except Error α} (h : ∀ a, x = .ok a → post a) :
    Yields P post (liftM x : Conversation α) := by
  intro events res hend
  obtain ⟨rfl, rfl⟩ := ends_lift.1 hend
  exact ⟨fun _ _ hmem => absurd hmem List.not_mem_nil, h⟩

theorem yields_pure {a : α} (h : post a) : Yields P post (pure a) :=
  yields_lift (x := .ok a) fun _ ha => Except.ok.inj ha ▸ h

theorem yields_throw {err : Error} : Yields P post (throw err) :=
  yields_lift (x := .error err) nofun

theorem yields_of_asksOnly (h : AsksOnly P x.run) : Yields P (fun _ => True) x :=
  fun events res hend => ⟨h events res hend, fun _ _ => trivial⟩

theorem yields_call {c : Call} (h : P c) : Yields P (fun _ => True) (call c) :=
  yields_of_asksOnly (asksOnly_question h)

theorem yields_callPatiently {p : RetryPolicy} {c : Call} (h : P c) :
    Yields P (fun _ => True) (callPatiently p c) :=
  yields_of_asksOnly (asksOnly_retrying fun _ => asksOnly_question h)

theorem Yields.bind (hx : Yields P post x) (hf : ∀ a, post a → Yields P post' (f a)) :
    Yields P post' (x >>= f) := by
  intro events res hend
  rcases ends_bind.1 hend with ⟨err, herr, rfl⟩ | ⟨a, before, after, rfl, hbefore, hafter⟩
  · exact ⟨(hx events _ herr).1, nofun⟩
  · obtain ⟨hcalls, ha⟩ := hx before _ hbefore
    obtain ⟨hcalls', hres⟩ := hf a (ha a rfl) after res hafter
    refine ⟨fun c outcome hmem => ?_, hres⟩
    rcases List.mem_append.1 hmem with hmem | hmem
    · exact hcalls c outcome hmem
    · exact hcalls' c outcome hmem

theorem yields_guard {p : Prop} [Decidable p] {err : Error} {g : α → Conversation β}
    {x : Conversation β} (h : ¬ p → Yields P post' x) :
    Yields P post' (if p then throw err >>= g else x) := by
  by_cases hp : p
  · rw [if_pos hp]
    exact yields_throw
  · rw [if_neg hp]
    exact h hp

theorem Yields.record (hx : Yields P post x) {answer : Events → (c : Call) → c.Outcome}
    {log : Events} {a : α} (h : (x.run.record answer log).1 = .ok a) : post a := by
  obtain ⟨events, -, hend⟩ := transcript_record answer log x.run
  exact (hx events _ hend).2 a h

end

end Conversation

end TokenBridge
