import TokenBridge.Proofs.Backoff

/-!
# Which attempt is the last

An operation that is tried again goes through a `Series` of attempts, each of them made after the
attempts and the rests before it. What the series comes to does not depend on how many attempts
there are to be, so a repetition only chooses the last one: `retrying` the first whose outcome is
conclusive, or the one that uses up the retries, and `polling` the first that decides, or none.
Both follow from what one attempt does to the repetition, by induction on the attempts that are
passed over.

A series is recorded as if every rest came to an end. Whoever performs it follows the record up to
the first rest that has no length (`perform_eq_follow`).
-/

namespace TokenBridge

namespace Dialogue

variable {Q : Type} {R : Q → Type} {α β : Type}

/-! ## Logs -/

def calls (log : List (Event Q R)) : List Q :=
  log.filterMap fun
    | .asked q _ => some q
    | .rested _ => none

def rests (log : List (Event Q R)) : List Pause :=
  log.filterMap fun
    | .asked _ _ => none
    | .rested p => some p

@[simp] theorem calls_append (before after : List (Event Q R)) :
    calls (before ++ after) = calls before ++ calls after := List.filterMap_append

@[simp] theorem rests_append (before after : List (Event Q R)) :
    rests (before ++ after) = rests before ++ rests after := List.filterMap_append

/-! ## Series of attempts -/

/-- An operation that is tried with rests in between, and the answers that it gets. -/
structure Series (Q : Type) (R : Q → Type) (β : Type) where
  op : Nat → Dialogue Q R β
  pause : Nat → Pause
  answer : List (Event Q R) → (q : Q) → R q
  start : List (Event Q R)

namespace Series

variable (s : Series Q R β)

/-- The log when attempt `n` begins. -/
def before : Nat → List (Event Q R)
  | 0 => s.start
  | n + 1 => ((s.op n).record s.answer (before n)).2 ++ [.rested (s.pause n)]

/-- The outcome of attempt `n`, and the log after it. -/
def attempt (n : Nat) : β × List (Event Q R) := (s.op n).record s.answer (s.before n)

/-- The log after `n` attempts, where nothing follows the last. -/
def after : Nat → List (Event Q R)
  | 0 => s.start
  | n + 1 => (s.attempt n).2

theorem before_succ (n : Nat) : s.before (n + 1) = (s.attempt n).2 ++ [.rested (s.pause n)] := rfl

/-- What follows an attempt goes on from its outcome and its log. -/
theorem record_attempt_bind (n : Nat) (f : β → Dialogue Q R α) :
    (s.op n >>= f).record s.answer (s.before n) =
      (f (s.attempt n).1).record s.answer (s.attempt n).2 := record_bind ..

end Series

/-! ## Retries -/

/-- A result that is not tried again: a value, or an error that will not pass. -/
inductive Conclusive : Except Error α → Prop
  | value (a : α) : Conclusive (.ok a)
  | error {e : Error} (h : e.isTransient = false) : Conclusive (.error e)

section
variable {p : RetryPolicy} {s : Series Q R (Except Error α)} {n : Nat}

theorem allows_iff : p.allows n = true ↔ n < p.maxRetries.toNat := decide_eq_true_iff

theorem retryFrom_of_conclusive (h : Conclusive (s.attempt n).1 ∨ p.allows n = false) :
    (retryFrom p s.op n).record s.answer (s.before n) = s.attempt n := by
  rw [retryFrom, s.record_attempt_bind]
  generalize s.attempt n = last at h ⊢
  obtain ⟨res, log⟩ := last
  cases res with
  | ok a => rfl
  | error e =>
    cases htransient : e.isTransient with
    | false => simp [htransient, record]
    | true =>
      have hallows : p.allows n = false := by
        rcases h with h | h
        · cases h with
          | error h => simp [htransient] at h
        · exact h
      simp [htransient, hallows, record]

theorem retryFrom_of_not_conclusive (hp : s.pause = p.pause) (h : ¬ Conclusive (s.attempt n).1)
    (hallows : p.allows n = true) : (retryFrom p s.op n).record s.answer (s.before n) =
      (retryFrom p s.op (n + 1)).record s.answer (s.before (n + 1)) := by
  rw [retryFrom, s.record_attempt_bind, s.before_succ, hp]
  generalize s.attempt n = last at h ⊢
  obtain ⟨res, log⟩ := last
  cases res with
  | ok a => exact absurd (.value a) h
  | error e =>
    cases htransient : e.isTransient with
    | true => simp [htransient, hallows, wait, record]
    | false => exact absurd (.error htransient) h

/-- Attempts that are not conclusive are passed over. -/
theorem retryFrom_start (hp : s.pause = p.pause) {k : Nat} (hk : k ≤ p.maxRetries.toNat)
    (h : ∀ n < k, ¬ Conclusive (s.attempt n).1) :
    (retryFrom p s.op 0).record s.answer s.start =
      (retryFrom p s.op k).record s.answer (s.before k) := by
  induction k with
  | zero => rfl
  | succ k ih =>
    rw [ih (by omega) fun n hn => h n (by omega),
      retryFrom_of_not_conclusive hp (h k (by omega)) (allows_iff.2 (by omega))]

/-- Trying again ends with the first conclusive attempt, or else with the last that is allowed. -/
theorem record_retrying (hp : s.pause = p.pause) :
    ∃ k, IsLeast {n | Conclusive (s.attempt n).1 ∨ n = p.maxRetries.toNat} k ∧
      (retrying p s.op).record s.answer s.start = s.attempt k := by
  obtain ⟨k, hk⟩ : ∃ k, IsLeast {n | Conclusive (s.attempt n).1 ∨ n = p.maxRetries.toNat} k := by
    classical exact ⟨_, Nat.isLeast_find ⟨_, .inr rfl⟩⟩
  refine ⟨k, hk, ?_⟩
  have hle : k ≤ p.maxRetries.toNat := hk.2 (.inr rfl)
  have hbefore : ∀ n < k, ¬ Conclusive (s.attempt n).1 := by
    intro n hn hconcl
    exact absurd (hk.2 (.inl hconcl)) (by omega)
  have hend : Conclusive (s.attempt k).1 ∨ p.allows k = false := by
    refine hk.1.imp_right ?_
    rintro rfl
    exact decide_eq_false (Nat.lt_irrefl _)
  rw [retrying, retryFrom_start hp hle hbefore, retryFrom_of_conclusive hend]

end

/-! ## Polls -/

/-- A result that ends a poll, and what the poll comes to then. -/
inductive Decides : Except Error (Option α) → Except Error α → Prop
  | value (a : α) : Decides (.ok (some a)) (.ok a)
  | error {e : Error} (h : e.isTransient = false) : Decides (.error e) (.error e)

theorem verdict?_eq_some {x : Except Error (Option α)} {res : Except Error α} :
    verdict? x = some res ↔ Decides x res := by
  constructor
  · intro h
    rcases x with e | _ | a
    · cases htransient : e.isTransient with
      | true => simp [verdict?, htransient] at h
      | false =>
        have hres : .error e = res := by simpa [verdict?, htransient] using h
        exact hres ▸ .error htransient
    · cases h
    · cases h
      exact .value a
  · intro h
    cases h with
    | value a => rfl
    | error h => simp [verdict?, h]

theorem verdict?_eq_none {x : Except Error (Option α)} :
    verdict? x = none ↔ ¬ ∃ res, Decides x res := by
  simp only [← verdict?_eq_some, Option.eq_none_iff_forall_ne_some, not_exists, ne_eq]

section
variable {p : PollSchedule} {s : Series Q R (Except Error (Option α))} {n : Nat}

theorem pollFrom_of_decides {res : Except Error α} (h : Decides (s.attempt n).1 res) (left : Nat) :
    (pollFrom p s.op (left + 1) n).record s.answer (s.before n) = (res, (s.attempt n).2) := by
  rw [pollFrom, s.record_attempt_bind, verdict?_eq_some.2 h]
  rfl

/-- An attempt that decides nothing is followed by a rest and the next, if there is one. -/
theorem pollFrom_of_not_decides (hp : s.pause = fun _ => .exactly p.interval)
    (h : ¬ ∃ res, Decides (s.attempt n).1 res) (left : Nat) :
    (pollFrom p s.op (left + 2) n).record s.answer (s.before n) =
      (pollFrom p s.op (left + 1) (n + 1)).record s.answer (s.before (n + 1)) := by
  rw [pollFrom, s.record_attempt_bind, verdict?_eq_none.2 h, s.before_succ, hp]
  rfl

theorem pollFrom_last (h : ¬ ∃ res, Decides (s.attempt n).1 res) :
    (pollFrom p s.op 1 n).record s.answer (s.before n) =
      (.error (.timeout p.maxAttempts), (s.attempt n).2) := by
  rw [pollFrom, s.record_attempt_bind, verdict?_eq_none.2 h]
  rfl

/-- Attempts that decide nothing are passed over, except for the last, which no rest follows. -/
theorem pollFrom_start (hp : s.pause = fun _ => .exactly p.interval) {left k : Nat} (hk : k < left)
    (h : ∀ n < k, ¬ ∃ res, Decides (s.attempt n).1 res) :
    (pollFrom p s.op left 0).record s.answer s.start =
      (pollFrom p s.op (left - k) k).record s.answer (s.before k) := by
  induction k with
  | zero => rfl
  | succ k ih =>
    obtain ⟨rest, rfl⟩ := Nat.exists_eq_add_of_lt hk
    have hleft : k + 1 + rest + 1 - k = rest + 2 := by omega
    have hleft' : k + 1 + rest + 1 - (k + 1) = rest + 1 := by omega
    rw [ih (by omega) fun n hn => h n (by omega), hleft, hleft',
      pollFrom_of_not_decides hp (h k (by omega))]

/-- A poll ends with the first attempt that decides. -/
theorem record_polling (hp : s.pause = fun _ => .exactly p.interval) {k : Nat}
    (hk : IsLeast {n | n < p.maxAttempts.toNat ∧ ∃ res, Decides (s.attempt n).1 res} k)
    {res : Except Error α} (hres : Decides (s.attempt k).1 res) :
    (polling p s.op).record s.answer s.start = (res, s.after (k + 1)) := by
  have hlt : k < p.maxAttempts.toNat := hk.1.1
  have hbefore : ∀ n < k, ¬ ∃ res, Decides (s.attempt n).1 res := by
    intro n hn hdecides
    exact absurd (hk.2 ⟨by omega, hdecides⟩) (by omega)
  obtain ⟨rest, hrest⟩ := Nat.exists_eq_add_of_lt hlt
  have hleft : p.maxAttempts.toNat - k = rest + 1 := by omega
  rw [polling, pollFrom_start hp hlt hbefore, hleft, pollFrom_of_decides hres]
  rfl

/-- A poll in which no attempt decides makes them all, and ends after the last. -/
theorem record_polling_timeout (hp : s.pause = fun _ => .exactly p.interval)
    (h : ∀ n < p.maxAttempts.toNat, ¬ ∃ res, Decides (s.attempt n).1 res) :
    (polling p s.op).record s.answer s.start =
      (.error (.timeout p.maxAttempts), s.after p.maxAttempts.toNat) := by
  unfold polling
  cases hm : p.maxAttempts.toNat with
  | zero => rfl
  | succ m =>
    rw [hm] at h
    have hleft : m + 1 - m = 1 := by omega
    rw [pollFrom_start hp (Nat.lt_succ_self m) fun n hn => h n (by omega), hleft,
      pollFrom_last (h m (Nat.lt_succ_self m))]
    rfl

end

/-! ## Rests that take time -/

section
variable (length : Nat → Pause → Option Duration)

/-- Goes through further events, up to the first rest without a length. -/
def follow : Progress Q R → List (Event Q R) → Except (Progress Q R) (Progress Q R)
  | c, [] => .ok c
  | c, .asked q reply :: events => follow { c with log := c.log ++ [.asked q reply] } events
  | c, .rested p :: events =>
    match length c.slept.length p with
    | some d => follow ⟨c.log ++ [.rested p], c.slept ++ [d]⟩ events
    | none => .error c

theorem follow_append (c : Progress Q R) (before after : List (Event Q R)) :
    follow length c (before ++ after) =
      follow length c before >>= fun c => follow length c after := by
  induction before generalizing c with
  | nil => rfl
  | cons event before ih =>
    cases event with
    | asked q reply => exact ih _
    | rested p =>
      rw [List.cons_append, follow, follow]
      cases length c.slept.length p with
      | some d => exact ih _
      | none => rfl

/-- A dialogue that is performed follows its record, and has its result if it gets to the end. -/
theorem perform_eq_follow (answer : List (Event Q R) → (q : Q) → R q) (d : Dialogue Q R α)
    (c : Progress Q R) : ∃ events, (d.record answer c.log).2 = c.log ++ events ∧
      d.perform answer length c =
        match follow length c events with
        | .ok c' => (some (d.record answer c.log).1, c')
        | .error c' => (none, c') := by
  induction d generalizing c with
  | done a => exact ⟨[], (List.append_nil _).symm, rfl⟩
  | ask q next ih =>
    obtain ⟨events, hlog, hperform⟩ :=
      ih (answer c.log q) { c with log := c.log ++ [.asked q (answer c.log q)] }
    exact ⟨.asked q (answer c.log q) :: events, hlog.trans (List.append_cons ..).symm, hperform⟩
  | rest p next ih =>
    cases hlength : length c.slept.length p with
    | none =>
      obtain ⟨events, hlog, -⟩ := ih { c with log := c.log ++ [.rested p] }
      refine ⟨.rested p :: events, hlog.trans (List.append_cons ..).symm, ?_⟩
      rw [perform, follow, hlength]
    | some d =>
      obtain ⟨events, hlog, hperform⟩ := ih ⟨c.log ++ [.rested p], c.slept ++ [d]⟩
      refine ⟨.rested p :: events, hlog.trans (List.append_cons ..).symm, ?_⟩
      rw [perform, follow, hlength]
      exact hperform

end

/-! ## Scripts -/

section
variable (r : Nat → β) (pause : Nat → Pause)

/-- Replies in the order of the script, whatever is asked. -/
def replay (log : List (Event Nat fun _ => β)) (_ : Nat) : β := r (calls log).length

/-- The series of an operation that asks for its number and is answered from the script. -/
def scripted : Series Nat (fun _ => β) β := ⟨question, pause, replay r, []⟩

/-- What `n` calls leave behind that are each followed by a rest. -/
def rounds : Nat → List (Event Nat fun _ => β)
  | 0 => []
  | n + 1 => rounds n ++ [.asked n (r n), .rested (pause n)]

/-- What `n` calls leave behind with rests between them. -/
def exchange : Nat → List (Event Nat fun _ => β)
  | 0 => []
  | n + 1 => rounds r pause n ++ [.asked n (r n)]

theorem calls_rounds (n : Nat) : calls (rounds r pause n) = List.range n := by
  induction n with
  | zero => rfl
  | succ n ih =>
    rw [rounds, calls_append, ih, List.range_succ]
    rfl

theorem rests_rounds (n : Nat) : rests (rounds r pause n) = (List.range n).map pause := by
  induction n with
  | zero => rfl
  | succ n ih =>
    rw [rounds, rests_append, ih, List.range_succ, List.map_append]
    rfl

theorem calls_exchange (n : Nat) : calls (exchange r pause n) = List.range n := by
  cases n with
  | zero => rfl
  | succ n =>
    rw [exchange, calls_append, calls_rounds, List.range_succ]
    rfl

theorem rests_exchange (n : Nat) :
    rests (exchange r pause n) = (List.range (n - 1)).map pause := by
  cases n with
  | zero => rfl
  | succ n =>
    rw [exchange, rests_append, rests_rounds]
    exact List.append_nil _

theorem attempt_of_before {n : Nat} (h : (scripted r pause).before n = rounds r pause n) :
    (scripted r pause).attempt n = (r n, exchange r pause (n + 1)) := by
  have hreply : replay r (rounds r pause n) n = r n := by
    rw [replay, calls_rounds, List.length_range]
  rw [Series.attempt, h]
  show (replay r (rounds r pause n) n,
    rounds r pause n ++ [.asked n (replay r (rounds r pause n) n)]) = _
  rw [hreply, exchange]

theorem before_scripted (n : Nat) : (scripted r pause).before n = rounds r pause n := by
  induction n with
  | zero => rfl
  | succ n ih =>
    rw [Series.before_succ, attempt_of_before r pause ih, exchange, List.append_assoc]
    rfl

theorem attempt_scripted (n : Nat) :
    (scripted r pause).attempt n = (r n, exchange r pause (n + 1)) :=
  attempt_of_before r pause (before_scripted r pause n)

theorem after_scripted (n : Nat) : (scripted r pause).after n = exchange r pause n := by
  cases n with
  | zero => rfl
  | succ n => rw [Series.after, attempt_scripted]

end

/-! ## Rests of a script -/

section
variable {r : Nat → β} {pause : Nat → Pause} {length : Nat → Pause → Option Duration}

/-- The rests so far are those of the first attempts. -/
def Slept (pause : Nat → Pause) (length : Nat → Pause → Option Duration) (n : Nat)
    (slept : List Duration) : Prop :=
  List.Forall₂ (fun i d => length i (pause i) = some d) (List.range n) slept

theorem Slept.length_eq {n : Nat} {slept : List Duration} (h : Slept pause length n slept) :
    slept.length = n := by
  simpa using (List.Forall₂.length_eq h).symm

theorem Slept.concat {n : Nat} {slept : List Duration} {d : Duration}
    (h : Slept pause length n slept) (hd : length n (pause n) = some d) :
    Slept pause length (n + 1) (slept ++ [d]) := by
  rw [Slept, List.range_succ]
  exact List.rel_append h (.cons hd .nil)

/-- A script is followed through rounds whose rests have a length. -/
theorem follow_rounds {n : Nat} (h : ∀ i < n, ∃ d, length i (pause i) = some d) :
    ∃ slept, Slept pause length n slept ∧
      follow length ⟨[], []⟩ (rounds r pause n) = .ok ⟨rounds r pause n, slept⟩ := by
  induction n with
  | zero => exact ⟨[], .nil, rfl⟩
  | succ n ih =>
    obtain ⟨slept, hslept, hfollow⟩ := ih fun i hi => h i (by omega)
    obtain ⟨d, hd⟩ := h n (Nat.lt_succ_self n)
    refine ⟨slept ++ [d], hslept.concat hd, ?_⟩
    rw [rounds, follow_append, hfollow]
    show follow length ⟨rounds r pause n, slept⟩ [.asked n (r n), .rested (pause n)] = _
    simp [follow, hslept.length_eq, hd]

/-- A script is not followed past the first round whose rest has none. -/
theorem follow_rounds_of_none {m n : Nat} (h : ∀ i < m, ∃ d, length i (pause i) = some d)
    (hnone : length m (pause m) = none) (hmn : m < n) :
    ∃ slept, Slept pause length m slept ∧
      follow length ⟨[], []⟩ (rounds r pause n) = .error ⟨exchange r pause (m + 1), slept⟩ := by
  induction n, hmn using Nat.le_induction with
  | base =>
    obtain ⟨slept, hslept, hfollow⟩ := follow_rounds (r := r) h
    refine ⟨slept, hslept, ?_⟩
    rw [Nat.succ_eq_add_one, rounds, follow_append, hfollow]
    show follow length ⟨rounds r pause m, slept⟩ [.asked m (r m), .rested (pause m)] = _
    simp [follow, hslept.length_eq, hnone, exchange]
  | succ n hn ih =>
    obtain ⟨slept, hslept, hfollow⟩ := ih
    refine ⟨slept, hslept, ?_⟩
    rw [rounds, follow_append, hfollow]
    rfl

theorem follow_exchange {n : Nat} (h : ∀ i < n, ∃ d, length i (pause i) = some d) :
    ∃ slept, Slept pause length n slept ∧ follow length ⟨[], []⟩ (exchange r pause (n + 1)) =
      .ok ⟨exchange r pause (n + 1), slept⟩ := by
  obtain ⟨slept, hslept, hfollow⟩ := follow_rounds (r := r) h
  refine ⟨slept, hslept, ?_⟩
  rw [exchange, follow_append, hfollow]
  rfl

theorem follow_exchange_of_none {m n : Nat} (h : ∀ i < m, ∃ d, length i (pause i) = some d)
    (hnone : length m (pause m) = none) (hmn : m < n) :
    ∃ slept, Slept pause length m slept ∧ follow length ⟨[], []⟩ (exchange r pause (n + 1)) =
      .error ⟨exchange r pause (m + 1), slept⟩ := by
  obtain ⟨slept, hslept, hfollow⟩ := follow_rounds_of_none (r := r) h hnone hmn
  refine ⟨slept, hslept, ?_⟩
  rw [exchange, follow_append, hfollow]
  rfl

theorem perform_of_record {d : Dialogue Nat (fun _ => β) α} {a : α} {n : Nat}
    (hrecord : d.record (replay r) [] = (a, exchange r pause (n + 1)))
    (h : ∀ i < n, ∃ d, length i (pause i) = some d) :
    ∃ slept, Slept pause length n slept ∧ d.perform (replay r) length ⟨[], []⟩ =
      (some a, ⟨exchange r pause (n + 1), slept⟩) := by
  obtain ⟨events, hlog, hperform⟩ := perform_eq_follow length (replay r) d ⟨[], []⟩
  rw [hrecord] at hlog hperform
  obtain rfl : exchange r pause (n + 1) = events := hlog
  obtain ⟨slept, hslept, hfollow⟩ := follow_exchange (r := r) h
  rw [hfollow] at hperform
  exact ⟨slept, hslept, hperform⟩

theorem perform_of_record_of_none {d : Dialogue Nat (fun _ => β) α} {a : α} {m n : Nat}
    (hrecord : d.record (replay r) [] = (a, exchange r pause (n + 1)))
    (h : ∀ i < m, ∃ d, length i (pause i) = some d) (hnone : length m (pause m) = none)
    (hmn : m < n) : ∃ slept, Slept pause length m slept ∧
      d.perform (replay r) length ⟨[], []⟩ = (none, ⟨exchange r pause (m + 1), slept⟩) := by
  obtain ⟨events, hlog, hperform⟩ := perform_eq_follow length (replay r) d ⟨[], []⟩
  rw [hrecord] at hlog hperform
  obtain rfl : exchange r pause (n + 1) = events := hlog
  obtain ⟨slept, hslept, hfollow⟩ := follow_exchange_of_none (r := r) h hnone hmn
  rw [hfollow] at hperform
  exact ⟨slept, hslept, hperform⟩

end

/-- **Retries follow the script to its end.** An operation that is tried again is called with the
numbers from zero in order, up to the first whose reply is conclusive or that uses up the
retries; it comes to that reply, and between any two calls it rests as the policy says for the
earlier one. It breaks off where such a rest has no length, which does not happen with a steady
policy or with one that was read from an environment. -/
theorem retrying_exact (p : RetryPolicy) (r : Nat → Except Error α)
    (draw : Nat → Float → Float → Float) :
    let run := (retrying p question).perform (replay r)
      (fun n pause => pause.duration? (draw n)) ⟨[], []⟩
    let Takes (n : Nat) (d : Duration) := p.Sleeps (draw n) n d
    ∃ k, IsLeast {n | Conclusive (r n) ∨ n = p.maxRetries.toNat} k ∧
      ((∀ n < k, ∃ d, Takes n d) →
        run.1 = some (r k) ∧ run.2.log = exchange r p.pause (k + 1) ∧
        calls run.2.log = List.range (k + 1) ∧ List.Forall₂ Takes (List.range k) run.2.slept) ∧
      (∀ m, IsLeast {n | n < k ∧ ¬ ∃ d, Takes n d} m →
        run.1 = none ∧ run.2.log = exchange r p.pause (m + 1) ∧
        calls run.2.log = List.range (m + 1) ∧ List.Forall₂ Takes (List.range m) run.2.slept) ∧
      ((p.Steady ∨ ∃ env s, Settings.ofEnvironment env = .ok s ∧ s.retry = p) →
        ∀ n, ∃ d, Takes n d) := by
  intro run Takes
  have htakes (n : Nat) (d : Duration) : (p.pause n).duration? (draw n) = some d ↔ Takes n d :=
    RetryPolicy.duration?_eq_some
  obtain ⟨k, hk, hrecord⟩ := record_retrying (p := p) (s := scripted r p.pause) rfl
  simp only [attempt_scripted] at hk hrecord
  refine ⟨k, hk, ?_, ?_, ?_⟩
  · intro h
    obtain ⟨slept, hslept, hrun⟩ := perform_of_record (n := k) hrecord fun n hn =>
      (h n hn).imp fun d => (htakes n d).2
    have hrun : run = (some (r k), ⟨exchange r p.pause (k + 1), slept⟩) := hrun
    rw [hrun, calls_exchange]
    exact ⟨rfl, rfl, rfl, hslept.imp fun n d => (htakes n d).1⟩
  · rintro m ⟨⟨hmk, hm⟩, hleast⟩
    have hbefore (n : Nat) (hn : n < m) : ∃ d, (p.pause n).duration? (draw n) = some d := by
      by_contra hnone
      have := hleast ⟨hn.trans hmk, fun ⟨d, hd⟩ => hnone ⟨d, (htakes n d).2 hd⟩⟩
      omega
    have hnone : (p.pause m).duration? (draw m) = none :=
      Option.eq_none_iff_forall_ne_some.2 fun d hd => hm ⟨d, (htakes m d).1 hd⟩
    obtain ⟨slept, hslept, hrun⟩ :=
      perform_of_record_of_none (n := k) (m := m) hrecord hbefore hnone hmk
    have hrun : run = (none, ⟨exchange r p.pause (m + 1), slept⟩) := hrun
    rw [hrun, calls_exchange]
    exact ⟨rfl, rfl, rfl, hslept.imp fun n d => (htakes n d).1⟩
  · rintro (h | ⟨env, s, hs, rfl⟩) n
    · exact h.exists_sleeps _ _
    · exact (Settings.retry_steady hs).exists_sleeps _ _

/-- Retries with a spread that is not a number break off after the first error, though the second
call would have had a value. -/
theorem retrying_breaks_off :
    let p : RetryPolicy := ⟨3, .ofMillis 500, .ofMillis 30000, 2, 0 / 0⟩
    let r : Nat → Except Error Unit
      | 0 => .error (.backend "connection reset")
      | _ => .ok ()
    let run := (retrying p question).perform (replay r)
      (fun _ pause => pause.duration? fun low high => (low + high) / 2) ⟨[], []⟩
    IsLeast {n | Conclusive (r n) ∨ n = p.maxRetries.toNat} 1 ∧
      run.1 = none ∧ calls run.2.log = List.range 1 ∧ run.2.slept = [] := by
  intro p r run
  have htransient : (Error.backend "connection reset").isTransient = true := by decide +kernel
  have hlength : ((p.pause 0).duration? fun low high => (low + high) / 2) = none := by
    unfold RetryPolicy.pause RetryPolicy.grown RetryPolicy.powerTimes
    decide +kernel
  have hrun : run = (none, ⟨[.asked 0 (r 0)], []⟩) := by
    unfold run retrying
    rw [retryFrom]
    simp [question, perform, replay, calls, r, htransient, wait, RetryPolicy.allows, p, hlength]
  refine ⟨⟨.inl (.value ()), fun n hn => ?_⟩, ?_⟩
  · rcases hn with hconclusive | rfl
    · refine Nat.one_le_iff_ne_zero.2 ?_
      rintro rfl
      cases hconclusive with
      | error h =>
        rw [htransient] at h
        cases h
    · decide
  · rw [hrun]
    exact ⟨rfl, rfl, rfl⟩

/-- **A poll follows its script to the first reply that decides**, or makes all of its attempts
and gives up. The operation is called with the numbers from zero in order, and the poll rests
for its interval between any two calls. -/
theorem polling_exact (p : PollSchedule) (r : Nat → Except Error (Option α)) :
    let run := (polling p question).record (replay r) []
    let pause : Nat → Pause := fun _ => .exactly p.interval
    (∀ k, IsLeast {n | n < p.maxAttempts.toNat ∧ ∃ res, Decides (r n) res} k →
      Decides (r k) run.1 ∧ run.2 = exchange r pause (k + 1) ∧
      calls run.2 = List.range (k + 1) ∧ rests run.2 = List.replicate k (.exactly p.interval)) ∧
    ((∀ n < p.maxAttempts.toNat, ¬ ∃ res, Decides (r n) res) →
      run.1 = .error (.timeout p.maxAttempts) ∧ run.2 = exchange r pause p.maxAttempts.toNat ∧
      calls run.2 = List.range p.maxAttempts.toNat ∧
      rests run.2 = List.replicate (max p.maxAttempts.toNat 1 - 1) (.exactly p.interval)) := by
  intro run pause
  have hresult (n : Nat) : ((scripted r pause).attempt n).1 = r n := by rw [attempt_scripted]
  have hrests (n : Nat) : rests (exchange r pause n) =
      List.replicate (n - 1) (.exactly p.interval) := by
    rw [rests_exchange, List.map_const', List.length_range]
  constructor
  · intro k hk
    obtain ⟨-, res, hres⟩ := hk.1
    have hrun : run = (res, (scripted r pause).after (k + 1)) :=
      record_polling (s := scripted r pause) rfl (by simpa only [hresult] using hk)
        (by rwa [hresult])
    rw [hrun, after_scripted, calls_exchange, hrests]
    exact ⟨hres, rfl, rfl, rfl⟩
  · intro h
    have hrun : run = (.error (.timeout p.maxAttempts),
        (scripted r pause).after p.maxAttempts.toNat) :=
      record_polling_timeout (s := scripted r pause) rfl (by simpa only [hresult] using h)
    have hbetween : p.maxAttempts.toNat - 1 = max p.maxAttempts.toNat 1 - 1 := by omega
    rw [hrun, after_scripted, calls_exchange, hrests, hbetween]
    exact ⟨rfl, rfl, rfl, rfl⟩

end Dialogue

end TokenBridge
