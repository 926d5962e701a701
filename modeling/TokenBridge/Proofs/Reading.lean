import TokenBridge.Bytes.Cursor
import TokenBridge.Proofs.Outcome

/-!
# What readings accept

A reading `Reads` a way of writing if it takes off the front exactly what that writing puts
there: a field has one written form, and each written form is one field. Numbers, words, chains
and addresses are such fields (`reads_number`, `reads_take`). A `do` block of fields is
then read as an equation between the byte string and what its fields write
(`Reads.bind_eq_ok`), in both directions at once. A field is refused only for want of bytes
(`take_eq_error`, `number_eq_error`).
-/

namespace TokenBridge

theorem Bytes.ofNat_one (x : UInt8) : Bytes.ofNat 1 x.toNat = [x] := by
  simp [Bytes.ofNat, Bytes.capacity]

theorem Bytes.toNat_ofNat_of_lt {width n : Nat} (h : n < capacity width) :
    toNat (ofNat width n) = n := by
  rw [toNat_ofNat, Nat.mod_eq_of_lt h]

namespace Reading

section
variable {α β : Type}

/-- `r` takes off the front of the rest what `write` puts there, and fails on any other rest. -/
def Reads (r : Reading α) (write : α → Bytes) : Prop :=
  ∀ c x c', r c = .ok (x, c') ↔
    c.rest = write x ++ c'.rest ∧ c'.offset = c.offset + (write x).length

theorem run_bind_eq_ok {r : Reading α} {f : α → Reading β} {c : Cursor} {res : β × Cursor} :
    (r >>= f) c = .ok res ↔ ∃ x c', r c = .ok (x, c') ∧ f x c' = .ok res := by
  show (r c >>= fun p => f p.1 p.2) = .ok res ↔ _
  rw [TokenBridge.bind_eq_ok, Prod.exists]

theorem run_pure_eq_ok {x : α} {c : Cursor} {res : α × Cursor} :
    (pure x : Reading α) c = .ok res ↔ (x, c) = res := TokenBridge.pure_eq_ok

/-- A field followed by something else. -/
theorem Reads.bind_eq_ok {r : Reading α} {write : α → Bytes} (h : Reads r write)
    {f : α → Reading β} {c : Cursor} {res : β × Cursor} :
    (r >>= f) c = .ok res ↔
      ∃ x rest, c.rest = write x ++ rest ∧ f x ⟨c.offset + (write x).length, rest⟩ = .ok res := by
  rw [run_bind_eq_ok]
  constructor
  · rintro ⟨x, c', hr, hf⟩
    obtain ⟨hrest, hoffset⟩ := (h c x c').1 hr
    refine ⟨x, c'.rest, hrest, ?_⟩
    rwa [← hoffset]
  · rintro ⟨x, rest, hrest, hf⟩
    exact ⟨x, _, (h c x _).2 ⟨hrest, rfl⟩, hf⟩

/-- A computation that reads nothing, followed by something else. -/
theorem lift_bind_eq_ok {x : Except Error α} {f : α → Reading β} {c : Cursor} {res : β × Cursor} :
    (liftM x >>= f : Reading β) c = .ok res ↔ ∃ a, x = .ok a ∧ f a c = .ok res := by
  cases x with
  | error err => exact ⟨nofun, fun ⟨_, h, _⟩ => nomatch h⟩
  | ok a =>
    show f a c = .ok res ↔ _
    simp

/-- The same values in another form. -/
theorem Reads.map {r : Reading α} {write : α → Bytes} (h : Reads r write) {f : α → β} {g : β → α}
    (hfg : ∀ y, f (g y) = y) (hgf : ∀ x, g (f x) = x) :
    Reads (do return f (← r)) (fun y => write (g y)) := by
  intro c y c'
  simp only [h.bind_eq_ok, run_pure_eq_ok, Prod.mk.injEq]
  constructor
  · rintro ⟨x, rest, hrest, rfl, rfl⟩
    rw [hgf]
    exact ⟨hrest, rfl⟩
  · rintro ⟨hrest, hoffset⟩
    refine ⟨g y, c'.rest, hrest, hfg y, ?_⟩
    rw [← hoffset]

/-- What a reading takes, if all that it takes is equally long. -/
theorem Reads.eq_ok_of_length {r : Reading α} {write : α → Bytes} {n : Nat} (h : Reads r write)
    (hlen : ∀ x, (write x).length = n) {c c' : Cursor} {x : α} : r c = .ok (x, c') ↔
      (write x).length = n ∧ c.rest = write x ++ c'.rest ∧ c'.offset = c.offset + n := by
  rw [h, hlen]
  exact (and_iff_right rfl).symm

end

/-! ## Fields -/

theorem reads_take (n : Nat) : Reads (take n) Subtype.val := by
  intro c x c'
  unfold take
  constructor
  · intro h
    split at h
    · rename_i hle
      cases h
      exact ⟨(List.take_append_drop n c.rest).symm, by rw [List.length_take_of_le hle]⟩
    · cases h
  · rintro ⟨hrest, hoffset⟩
    have hlen := x.property
    have hle : n ≤ c.rest.length := by
      rw [hrest, List.length_append]
      omega
    have htake : c.rest.take n = x.val := by rw [hrest, List.take_left' hlen]
    have hdrop : c.rest.drop n = c'.rest := by rw [hrest, List.drop_left' hlen]
    rw [dif_pos hle, Except.ok.injEq, Prod.mk.injEq]
    refine ⟨Subtype.ext htake, ?_⟩
    rw [hdrop, ← hlen, ← hoffset]

/-- The next bytes are whatever stands there, if it is long enough. -/
theorem bytes_eq_ok {n : Nat} {c c' : Cursor} {b : Bytes} :
    bytes n c = .ok (b, c') ↔
      b.length = n ∧ c.rest = b ++ c'.rest ∧ c'.offset = c.offset + b.length := by
  unfold bytes
  simp only [(reads_take n).bind_eq_ok, run_pure_eq_ok, Prod.mk.injEq]
  constructor
  · rintro ⟨x, rest, hrest, rfl, rfl⟩
    exact ⟨x.property, hrest, rfl⟩
  · rintro ⟨hlen, hrest, hoffset⟩
    refine ⟨⟨b, hlen⟩, c'.rest, hrest, rfl, ?_⟩
    rw [← hoffset]

/-- Each byte string of the width is what is written for the number in it. -/
theorem ofNat_make {α : Type} (width : Nat) (make : Nat → α) (number : α → Nat)
    (hnumber : ∀ n < Bytes.capacity width, number (make n) = n) {b : Bytes}
    (h : b.length = width) : Bytes.ofNat width (number (make (Bytes.toNat b))) = b := by
  subst h
  rw [hnumber _ (Bytes.toNat_lt b), Bytes.ofNat_toNat]

/-- A number of fixed width; `make` and `number` are the type's own conversions. -/
theorem reads_number {α : Type} {width : Nat} {make : Nat → α} {number : α → Nat}
    (hmake : ∀ x, make (number x) = x)
    (hnumber : ∀ n < Bytes.capacity width, number (make n) = n)
    (hlt : ∀ x, number x < Bytes.capacity width) :
    Reads (do return make (Bytes.toNat (← bytes width)))
      (fun x => Bytes.ofNat width (number x)) := by
  intro c x c'
  simp only [run_bind_eq_ok, run_pure_eq_ok, bytes_eq_ok, Prod.mk.injEq]
  constructor
  · rintro ⟨b, c'', ⟨hlen, hrest, hoffset⟩, rfl, rfl⟩
    rw [ofNat_make width make number hnumber hlen]
    exact ⟨hrest, hoffset⟩
  · rintro ⟨hrest, hoffset⟩
    refine ⟨_, c', ⟨Bytes.length_ofNat .., hrest, hoffset⟩, ?_, rfl⟩
    rw [Bytes.toNat_ofNat_of_lt (hlt x), hmake]

theorem reads_word32 : Reads word32 Subtype.val := reads_take 32

theorem reads_address : Reads address Address.bytes :=
  reads_word32.map (g := Address.word) (fun _ => rfl) (fun _ => rfl)

theorem reads_uint8 : Reads uint8 (fun x => Bytes.ofNat 1 x.toNat) :=
  reads_number (fun _ => UInt8.ofNat_toNat) (fun _ h => UInt8.toNat_ofNat_of_lt' h) UInt8.toNat_lt

theorem reads_uint16 : Reads uint16 (fun x => Bytes.ofNat 2 x.toNat) :=
  reads_number (fun _ => UInt16.ofNat_toNat) (fun _ h => UInt16.toNat_ofNat_of_lt' h)
    UInt16.toNat_lt

theorem reads_uint64 : Reads uint64 (fun x => Bytes.ofNat 8 x.toNat) :=
  reads_number (fun _ => UInt64.ofNat_toNat) (fun _ h => UInt64.toNat_ofNat_of_lt' h)
    UInt64.toNat_lt

theorem reads_wide : Reads wide (fun x => Bytes.ofNat 16 x.toNat) :=
  reads_number (fun x => BitVec.ofNat_toNat 128 x) (fun _ h => Nat.mod_eq_of_lt h) BitVec.isLt

theorem reads_chain : Reads chain ChainId.toBytes :=
  reads_uint16.map (g := ChainId.number) (fun _ => rfl) (fun _ => rfl)

/-! ## Refusals -/

section
variable {α β : Type} {n : Nat} {c : Cursor} {err : Error}

theorem run_bind_eq_error {r : Reading α} {f : α → Reading β} : (r >>= f) c = .error err ↔
    r c = .error err ∨ ∃ x c', r c = .ok (x, c') ∧ f x c' = .error err := by
  show (r c >>= fun p => f p.1 p.2) = .error err ↔ _
  rw [TokenBridge.bind_eq_error, Prod.exists]

theorem run_pure_eq_error {x : α} : (pure x : Reading α) c = .error err ↔ False :=
  TokenBridge.pure_eq_error

theorem take_eq_error : take n c = .error err ↔
    c.rest.length < n ∧ .truncated c.offset n c.rest.length = err := by
  unfold take
  by_cases h : n ≤ c.rest.length
  · rw [dif_pos h]
    exact ⟨nofun, fun hno => absurd hno.1 (Nat.not_lt.2 h)⟩
  · rw [dif_neg h, Except.error.injEq]
    exact ⟨fun heq => ⟨Nat.not_le.1 h, heq⟩, And.right⟩

theorem bytes_eq_error : bytes n c = .error err ↔
    c.rest.length < n ∧ .truncated c.offset n c.rest.length = err := by
  simp only [bytes, run_bind_eq_error, run_pure_eq_error, and_false, exists_false, or_false,
    take_eq_error]

/-- A number is refused for the bytes that it lacks. -/
theorem number_eq_error {make : Nat → α} :
    (do return make (Bytes.toNat (← bytes n)) : Reading α) c = .error err ↔
      c.rest.length < n ∧ .truncated c.offset n c.rest.length = err := by
  simp only [run_bind_eq_error, run_pure_eq_error, and_false, exists_false, or_false,
    bytes_eq_error]

end

/-! ## Whole inputs -/

section
variable {α β : Type}

/-- A check between two fields takes nothing. -/
theorem guard_eq_ok {p : Prop} [Decidable p] {err : Error} {f : β → Reading α} {r : Reading α}
    {c : Cursor} {res : α × Cursor} :
    (if p then throw err >>= f else r) c = .ok res ↔ ¬ p ∧ r c = .ok res := by
  by_cases h : p
  · rw [if_pos h, run_bind_eq_ok]
    constructor
    · rintro ⟨_, _, hthrow, -⟩
      cases hthrow
    · exact fun hno => absurd h hno.1
  · rw [if_neg h]
    exact ⟨fun hr => ⟨h, hr⟩, fun hr => hr.2⟩

theorem finish_eq (c : Cursor) : finish c = if c.rest = [] then .ok ((), c) else
    .error (.invalidPayload s!"{c.remaining} trailing bytes at offset {c.offset}") := by
  have hempty : c.isEmpty = true ↔ c.rest = [] := List.isEmpty_iff
  show (if c.isEmpty then _ else _ : Reading Unit) c = _
  simp only [hempty]
  by_cases h : c.rest = []
  · rw [if_pos h, if_pos h]
    rfl
  · rw [if_neg h, if_neg h]
    rfl

theorem finish_bind_eq_ok {f : Unit → Reading α} {c : Cursor} {res : α × Cursor} :
    (finish >>= f) c = .ok res ↔ c.rest = [] ∧ f () c = .ok res := by
  rw [run_bind_eq_ok, finish_eq]
  by_cases h : c.rest = []
  · rw [if_pos h]
    constructor
    · rintro ⟨_, _, hend, hres⟩
      cases hend
      exact ⟨h, hres⟩
    · rintro ⟨-, hres⟩
      exact ⟨(), c, rfl, hres⟩
  · rw [if_neg h]
    exact ⟨nofun, fun hno => absurd hno.1 h⟩

theorem of_eq_ok {r : Reading α} {b : Bytes} {x : α} :
    r.of b = .ok x ↔ ∃ c, r ⟨0, b⟩ = .ok (x, c) := by
  show ((·.1) <$> r ⟨0, b⟩) = .ok x ↔ _
  cases r ⟨0, b⟩ with
  | error err => exact ⟨nofun, nofun⟩
  | ok p =>
    obtain ⟨y, c⟩ := p
    constructor
    · intro h
      cases h
      exact ⟨c, rfl⟩
    · rintro ⟨c', h⟩
      cases h
      rfl

end

end Reading

end TokenBridge
