import TokenBridge.Endpoint
import TokenBridge.Proofs.IndexSet

/-!
# Computations that may fail

When a computation in `Except` ends well: a sequence does if its parts do, a guard does if
it is passed. With these equivalences a `do` block is read as the list of its checks. Their
counterparts for errors tell which of the checks an error comes from. The rest of the file
reads the look-ups of the tables and the entry of a vote that way.
-/

namespace TokenBridge

section
variable {ε α β : Type}

theorem bind_eq_ok {x : Except ε α} {f : α → Except ε β} {b : β} :
    x >>= f = .ok b ↔ ∃ a, x = .ok a ∧ f a = .ok b := by
  cases x <;> simp [bind, Except.bind]

/-- The error of a sequence is that of its first part that fails. -/
theorem bind_eq_error {x : Except ε α} {f : α → Except ε β} {err : ε} :
    x >>= f = .error err ↔ x = .error err ∨ ∃ a, x = .ok a ∧ f a = .error err := by
  cases x <;> simp [bind, Except.bind]

theorem guard_eq_ok {c : Prop} [Decidable c] {err : ε} {f : α → Except ε β} {x : Except ε β}
    {b : β} : (if c then throw err >>= f else x) = .ok b ↔ ¬ c ∧ x = .ok b := by
  by_cases h : c
  · simp only [h, ↓reduceIte, not_true, false_and, iff_false]
    exact nofun
  · simp [h]

theorem guard_eq_error {c : Prop} [Decidable c] {err err' : ε} {f : α → Except ε β}
    {x : Except ε β} : (if c then throw err >>= f else x) = .error err' ↔
      c ∧ err = err' ∨ ¬ c ∧ x = .error err' := by
  by_cases h : c
  · rw [if_pos h]
    show (.error err : Except ε β) = .error err' ↔ _
    simp [h]
  · simp [h]

/-- A guard at the end of a sequence. -/
theorem last_guard_eq_ok {c : Prop} [Decidable c] {err : ε} {u : PUnit} :
    (if c then throw err else pure PUnit.unit : Except ε PUnit) = .ok u ↔ ¬ c := by
  by_cases h : c
  · rw [if_pos h]
    exact ⟨nofun, fun hno => absurd h hno⟩
  · rw [if_neg h]
    exact ⟨fun _ => h, fun _ => rfl⟩

theorem pure_eq_ok {a b : α} : (pure a : Except ε α) = .ok b ↔ a = b := by
  simp [pure, Except.pure]

theorem pure_eq_error {a : α} {err : ε} : (pure a : Except ε α) = .error err ↔ False :=
  ⟨nofun, False.elim⟩

theorem map_eq_ok {f : α → β} {x : Except ε α} {b : β} :
    f <$> x = .ok b ↔ ∃ a, x = .ok a ∧ f a = b := by
  cases x <;> simp [Functor.map, Except.map]

theorem discard_eq_ok {x : Except ε α} {u : PUnit} : discard x = .ok u ↔ ∃ a, x = .ok a := by
  cases x <;> simp [discard, Functor.mapConst, Except.map]

end

theorem scaled_eq_ok {α : Type} {r : Except ScalingFault α} {a : α} :
    scaled r = .ok a ↔ r = .ok a := by
  cases r with
  | ok b =>
    show (.ok b : Except Error α) = .ok a ↔ _
    rw [Except.ok.injEq, Except.ok.injEq]
  | error fault =>
    show (.error (.scaling fault) : Except Error α) = .ok a ↔ _
    constructor <;> intro h <;> cases h

theorem scaled_eq_error {α : Type} {r : Except ScalingFault α} {err : Error} :
    scaled r = .error err ↔ ∃ fault, r = .error fault ∧ .scaling fault = err := by
  cases r with
  | ok b =>
    show (.ok b : Except Error α) = .error err ↔ _
    simp
  | error fault =>
    show (.error (.scaling fault) : Except Error α) = .error err ↔ _
    simp

theorem Peers.require_eq_ok {ps : Peers} {chain : ChainId} {peer : Peer} :
    ps.require chain = .ok peer ↔ ps.get? chain = some peer := by
  unfold require
  split <;> simp_all

theorem Peers.require_eq_error {ps : Peers} {chain : ChainId} {err : Error} :
    ps.require chain = .error err ↔ ps.get? chain = none ∧ .peerNotRegistered chain = err := by
  unfold require
  split <;> simp_all

theorem Arrivals.require_eq_ok {as : Arrivals} {chain : ChainId} {id : MessageId} {a : Arrival} :
    as.require chain id = .ok a ↔ as.get? (chain, id) = some a := by
  unfold require
  split <;> simp_all

theorem Departures.require_eq_ok {ds : Departures} {id : UInt64} {d : Departure} :
    ds.require id = .ok d ↔ ds.get? id = some d := by
  unfold require
  split <;> simp_all

theorem Transceivers.requireEnabled_eq_ok {ts : Transceivers} {index : UInt8} {t : Transceiver} :
    ts.requireEnabled index = .ok t ↔ ts.isEnabled index = true ∧ ts.get? index = some t := by
  unfold requireEnabled
  split
  · split <;> simp_all
  · simp_all

/-- A vote adds its index to the votes and changes nothing else. -/
theorem Arrival.vote_eq_ok {a b : Arrival} {index : UInt8} {isNew : Bool}
    (h : a.vote index = .ok (isNew, b)) :
    index.toNat < 128 ∧ (∀ i, b.votes.has i = (decide (i = index.toNat) || a.votes.has i)) ∧
      b = { a with votes := b.votes } := by
  simp only [vote, bind_eq_ok, IndexSet.get_eq_ok] at h
  obtain ⟨had, ⟨hi, hhad⟩, h⟩ := h
  cases had with
  | true =>
    simp only [↓reduceIte, pure_eq_ok] at h
    cases h
    refine ⟨hi, fun i => ?_, rfl⟩
    by_cases hii : i = index.toNat
    · rw [hii, hhad]
      simp
    · simp [hii]
  | false =>
    simp only [Bool.false_eq_true, ↓reduceIte, bind_eq_ok, pure_eq_ok] at h
    obtain ⟨s, hs, h⟩ := h
    cases h
    refine ⟨hi, fun i => ?_, rfl⟩
    simp only [IndexSet.has_set hs]
    by_cases hii : i = index.toNat <;> simp [hii]

/-- An entry for a message is the stored one or a new one. -/
theorem Arrivals.entryFor_eq_ok {as : Arrivals} {m : TransferMessage} {amount : Amount}
    {a : Arrival} (h : as.entryFor m amount = .ok a) :
    a.message = m ∧ (as.get? (key m) = some a ∨ as.get? (key m) = none ∧ a = .new m amount) := by
  unfold entryFor at h
  split at h
  · cases h
    exact ⟨rfl, .inr ⟨‹_›, rfl⟩⟩
  · split at h
    · cases h
      exact ⟨‹_›, .inl ‹_›⟩
    · cases h

end TokenBridge
