import Mathlib.Data.List.Induction
import TokenBridge.Proofs.Reading
import TokenBridge.Word

/-!
# What a cursor goes through

A `Field` is what can be asked of a cursor: bytes, or a number of fixed width. Its reading takes
the next bytes if there are enough, and fails otherwise (`reading_eq_ok`, `reading_eq_error`).
Fields are asked for one after another (`askAll`); one that is refused leaves the cursor where it
stands, so that less can be asked for next. What was delivered on the way is what lies behind the
cursor (`ReadOff`), and what is left before it is what a further field is measured against
(`askAll_exact`).
-/

namespace TokenBridge

namespace Cursor

/-- What a cursor can be asked for: a number of fixed width, or bytes. The type of an `array` knows
how many there are. -/
inductive Field where
  | bytes (n : Nat)
  | array (n : Nat)
  | uint8
  | uint16
  | uint64
  | wide
  deriving DecidableEq, Repr

namespace Field

def width : Field → Nat
  | bytes n | array n => n
  | uint8 => 1
  | uint16 => 2
  | uint64 => 8
  | wide => 16

abbrev Content : Field → Type
  | bytes _ => Bytes
  | array n => { b : Bytes // b.length = n }
  | uint8 => UInt8
  | uint16 => UInt16
  | uint64 => UInt64
  | wide => Wide

def reading : (f : Field) → Reading f.Content
  | bytes n => Reading.bytes n
  | array n => Reading.take n
  | uint8 => Reading.uint8
  | uint16 => Reading.uint16
  | uint64 => Reading.uint64
  | wide => Reading.wide

/-- The bytes of a content; those of a number are its digits, most significant first. -/
def toBytes : (f : Field) → f.Content → Bytes
  | bytes _, b => b
  | array _, b => b.val
  | uint8, x => Bytes.ofNat 1 x.toNat
  | uint16, x => Bytes.ofNat 2 x.toNat
  | uint64, x => Bytes.ofNat 8 x.toNat
  | wide, x => Bytes.ofNat 16 x.toNat

end Field

/-- A field that was asked for, and what came of it. -/
abbrev Outcome := (f : Field) × Except Error f.Content

/-- What was delivered: nothing, if the field was refused. -/
def Outcome.bytes : Outcome → Bytes
  | ⟨f, .ok x⟩ => f.toBytes x
  | ⟨_, .error _⟩ => []

def Outcome.isDelivered (o : Outcome) : Bool := o.2.isOk

/-- A reading that fails hands no cursor back, so its caller goes on from the one it has. -/
def ask (c : Cursor) (f : Field) : Except Error f.Content × Cursor :=
  match f.reading c with
  | .ok (x, next) => (.ok x, next)
  | .error err => (.error err, c)

/-- The outcomes of some fields, in the order in which they are asked for, and the cursor after
them. -/
def askAll (c : Cursor) : List Field → List Outcome × Cursor
  | [] => ([], c)
  | f :: fs => (⟨f, (c.ask f).1⟩ :: ((c.ask f).2.askAll fs).1, ((c.ask f).2.askAll fs).2)

/-! ## One field -/

namespace Field

open Reading

variable {f : Field} {c c' : Cursor} {err : Error}

/-- A field takes the next bytes, as many as it is wide. -/
theorem reading_eq_ok {x : f.Content} : f.reading c = .ok (x, c') ↔
    (f.toBytes x).length = f.width ∧ c.rest = f.toBytes x ++ c'.rest ∧
      c'.offset = c.offset + f.width := by
  cases f with
  | bytes n =>
    refine bytes_eq_ok.trans (and_congr_right fun hlen => ?_)
    rw [hlen]
    rfl
  | array n => exact (reads_take n).eq_ok_of_length Subtype.property
  | uint8 => exact reads_uint8.eq_ok_of_length fun _ => Bytes.length_ofNat ..
  | uint16 => exact reads_uint16.eq_ok_of_length fun _ => Bytes.length_ofNat ..
  | uint64 => exact reads_uint64.eq_ok_of_length fun _ => Bytes.length_ofNat ..
  | wide => exact reads_wide.eq_ok_of_length fun _ => Bytes.length_ofNat ..

/-- A field is refused if fewer bytes are left than it is wide, and for nothing else. -/
theorem reading_eq_error : f.reading c = .error err ↔
    c.rest.length < f.width ∧ .truncated c.offset f.width c.rest.length = err := by
  cases f with
  | bytes n => exact bytes_eq_error
  | array n => exact take_eq_error
  | uint8 | uint16 | uint64 | wide => exact number_eq_error

/-- A field is delivered as soon as enough bytes are left. -/
theorem exists_reading (h : f.width ≤ c.rest.length) : ∃ x,
    f.reading c = .ok (x, ⟨c.offset + f.width, c.rest.drop f.width⟩) ∧
      f.toBytes x = c.rest.take f.width := by
  cases hr : f.reading c with
  | error err =>
    have hless := (reading_eq_error.1 hr).1
    omega
  | ok p =>
    obtain ⟨x, offset, rest⟩ := p
    obtain ⟨hlen, hrest, hoffset⟩ := reading_eq_ok.1 hr
    dsimp only at hrest hoffset
    rw [hrest, List.drop_left' hlen, List.take_left' hlen, hoffset]
    exact ⟨x, rfl, rfl⟩

end Field

/-! ## Field after field -/

variable {b : Bytes} {outcomes : List Outcome} {c : Cursor} {f : Field}

theorem ask_of_le (h : f.width ≤ c.remaining) : ∃ x,
    c.ask f = (.ok x, ⟨c.offset + f.width, c.rest.drop f.width⟩) ∧
      f.toBytes x = c.rest.take f.width := by
  obtain ⟨x, hread, hbytes⟩ := Field.exists_reading h
  refine ⟨x, ?_, hbytes⟩
  rw [ask, hread]

/-- What is refused leaves the cursor where it stands. -/
theorem ask_of_lt (h : c.remaining < f.width) :
    c.ask f = (.error (.truncated c.offset f.width c.remaining), c) := by
  have hread : f.reading c = .error (.truncated c.offset f.width c.remaining) :=
    Field.reading_eq_error.2 ⟨h, rfl⟩
  rw [ask, hread]

theorem askAll_concat (c : Cursor) (fs : List Field) (f : Field) :
    c.askAll (fs ++ [f]) = ((c.askAll fs).1 ++ [⟨f, ((c.askAll fs).2.ask f).1⟩],
      ((c.askAll fs).2.ask f).2) := by
  induction fs generalizing c with
  | nil => rfl
  | cons g fs ih => simp only [List.cons_append, askAll, ih]

/-- Fields that are refused may as well not be asked for. -/
theorem askAll_delivered (c : Cursor) (fs : List Field) :
    c.askAll (((c.askAll fs).1.filter Outcome.isDelivered).map Sigma.fst) =
      ((c.askAll fs).1.filter Outcome.isDelivered, (c.askAll fs).2) := by
  induction fs generalizing c with
  | nil => rfl
  | cons f fs ih =>
    rw [askAll]
    rcases Nat.lt_or_ge c.remaining f.width with hless | henough
    · rw [ask_of_lt hless, List.filter_cons_of_neg Bool.false_ne_true]
      exact ih c
    · obtain ⟨x, hask, -⟩ := ask_of_le henough
      rw [hask, List.filter_cons_of_pos rfl, List.map_cons, askAll, hask, ih]

/-- The outcomes were read off `b`, and the cursor stands behind what they delivered. -/
structure ReadOff (b : Bytes) (outcomes : List Outcome) (c : Cursor) : Prop where
  offset_le : c.offset ≤ b.length
  rest : c.rest = b.drop c.offset
  delivered : outcomes.flatMap Outcome.bytes = b.take c.offset

theorem ReadOff.remaining (h : ReadOff b outcomes c) : c.remaining = b.length - c.offset := by
  rw [Cursor.remaining, h.rest, List.length_drop]

/-- Whether a field is delivered or refused, the outcomes and the cursor keep in step. -/
theorem ReadOff.ask (h : ReadOff b outcomes c) (f : Field) :
    ReadOff b (outcomes ++ [⟨f, (c.ask f).1⟩]) (c.ask f).2 := by
  have hremaining := h.remaining
  have hle := h.offset_le
  rcases Nat.lt_or_ge c.remaining f.width with hless | henough
  · rw [ask_of_lt hless]
    refine ⟨hle, h.rest, ?_⟩
    simpa [Outcome.bytes] using h.delivered
  · obtain ⟨x, hask, hbytes⟩ := ask_of_le henough
    rw [hask]
    constructor
    · dsimp only
      omega
    · rw [h.rest, List.drop_drop]
    · rw [List.take_add, ← h.delivered, ← h.rest, ← hbytes]
      simp [Outcome.bytes]

theorem readOff_askAll (b : Bytes) (fs : List Field) :
    ReadOff b ((start b).askAll fs).1 ((start b).askAll fs).2 := by
  induction fs using List.reverseRecOn with
  | nil => exact ⟨Nat.zero_le _, rfl, rfl⟩
  | append_singleton fs f ih =>
    rw [askAll_concat]
    exact ih.ask f

/-- **A cursor neither loses nor invents bytes.** Whatever fields are asked for one after another,
the cursor stays within the byte string, and the contents delivered so far are, put together, the
bytes that lie behind it. A further field is delivered if enough is left for its width, and takes
the next bytes. If not, the refusal tells how much was left at which offset, and the cursor stays, so
that a narrower field is delivered next: the refused ones may be left out. Reading may finish exactly
at the end. -/
theorem askAll_exact (b : Bytes) (fs : List Field) :
    let outcomes := ((start b).askAll fs).1
    let c := ((start b).askAll fs).2
    c.offset ≤ b.length ∧ c.remaining = b.length - c.offset ∧
    outcomes.flatMap Outcome.bytes = b.take c.offset ∧
    (∀ f, (start b).askAll (fs ++ [f]) = (outcomes ++ [⟨f, (c.ask f).1⟩], (c.ask f).2)) ∧
    (∀ f, f.width ≤ c.remaining → ∃ x,
      c.ask f = (.ok x, ⟨c.offset + f.width, b.drop (c.offset + f.width)⟩) ∧
        f.toBytes x = (b.drop c.offset).take f.width) ∧
    (∀ f, c.remaining < f.width →
      c.ask f = (.error (.truncated c.offset f.width c.remaining), c) ∧
        ∀ g, g.width ≤ c.remaining → ∃ x, ((c.ask f).2.ask g).1 = .ok x) ∧
    (start b).askAll ((outcomes.filter Outcome.isDelivered).map Sigma.fst) =
      (outcomes.filter Outcome.isDelivered, c) ∧
    Reading.finish c = if c.offset = b.length then .ok ((), c) else
      .error (.invalidPayload s!"{c.remaining} trailing bytes at offset {c.offset}") := by
  intro outcomes c
  have h : ReadOff b outcomes c := readOff_askAll b fs
  have hle := h.offset_le
  have hremaining := h.remaining
  refine ⟨hle, hremaining, h.delivered, fun f => askAll_concat .., fun f henough => ?_,
    fun f hless => ?_, askAll_delivered _ fs, ?_⟩
  · obtain ⟨x, hask, hbytes⟩ := ask_of_le henough
    rw [h.rest, List.drop_drop] at hask
    rw [h.rest] at hbytes
    exact ⟨x, hask, hbytes⟩
  · have hrefused := ask_of_lt hless
    refine ⟨hrefused, fun g henough => ?_⟩
    obtain ⟨x, hask, -⟩ := ask_of_le henough
    rw [hrefused, hask]
    exact ⟨x, rfl⟩
  · have hend : c.rest = [] ↔ c.offset = b.length := by
      rw [h.rest, List.drop_eq_nil_iff]
      omega
    simp only [Reading.finish_eq, hend]

/-- Eight bytes are asked for in the middle, where three are left. Two are delivered next, and the
last one is what another eight are refused for. -/
theorem askAll_exact_sample :
    let outcomes : List Outcome :=
      [⟨.uint8, .ok 1⟩, ⟨.uint64, .error (.truncated 1 8 3)⟩, ⟨.uint16, .ok 2⟩, ⟨.bytes 0, .ok []⟩]
    let c : Cursor := ⟨3, [9]⟩
    (start [1, 0, 2, 9]).askAll [.uint8, .uint64, .uint16, .bytes 0] = (outcomes, c) ∧
      outcomes.flatMap Outcome.bytes = [1, 0, 2] ∧
      c.ask .uint64 = (.error (.truncated 3 8 1), c) ∧
      (∃ x, ((c.ask .uint64).2.ask (.array 1)).1 = .ok x) ∧
      ∃ x, c.ask (.array 1) = (.ok x, ⟨4, []⟩) ∧ Field.toBytes (.array 1) x = [9] := by
  intro outcomes c
  obtain ⟨-, -, hdelivered, -, hasks, hrefused, -, -⟩ :=
    askAll_exact [1, 0, 2, 9] [.uint8, .uint64, .uint16, .bytes 0]
  obtain ⟨herror, hnarrower⟩ := hrefused .uint64 (by decide)
  exact ⟨rfl, hdelivered, herror, hnarrower (.array 1) (by decide), hasks (.array 1) (by decide)⟩

end Cursor

end TokenBridge
