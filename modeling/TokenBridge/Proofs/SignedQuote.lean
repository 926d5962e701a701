import Mathlib.Algebra.BigOperators.Group.List.Lemmas
import Mathlib.Algebra.GroupWithZero.Nat
import Mathlib.Data.List.SplitLengths
import TokenBridge.Proofs.Reading
import TokenBridge.Relay.SignedQuote

/-!
# The layout of signed quotes

The bytes of a quote are the concatenation of eleven fields of fixed widths, so each stands at a
fixed offset, and a byte string of their total width splits into such fields in one way.
`ofBytes_eq_ok` takes the reading apart into one equation between the bytes and what the quote
writes, and `toBytes_ofSlices` solves it: only the tag and the calendar stand in the way.
-/

namespace TokenBridge

namespace SignedQuote

open Reading

/-! ## Fields -/

/-- What stands in the bytes of a quote, in order. -/
def fields (q : SignedQuote) : List Bytes :=
  [tag, q.quoter.val, q.payee.bytes, q.source.toBytes, q.destination.toBytes,
    Bytes.ofNat 8 q.expiry.seconds.toNat, Bytes.ofNat 8 q.baseFee.toNat,
    Bytes.ofNat 8 q.gasPrice.toNat, Bytes.ofNat 8 q.sourcePrice.toNat,
    Bytes.ofNat 8 q.destinationPrice.toNat, q.signature.val]

def widths : List Nat := [4, 20, 32, 2, 2, 8, 8, 8, 8, 8, 65]

def toBytes (q : SignedQuote) : Bytes := q.fields.flatten

theorem length_fields (q : SignedQuote) : q.fields.map List.length = widths := by
  simp [fields, widths, tag, q.quoter.property, q.signature.property]

theorem length_toBytes (q : SignedQuote) : q.toBytes.length = size := by
  rw [toBytes, List.length_flatten, length_fields]
  rfl

/-- A field stands behind the widths of those before it. -/
theorem extract_toBytes (q : SignedQuote) (i : Nat) {x : Bytes} (h : q.fields[i]? = some x) :
    q.toBytes.extract (widths.take i).sum (widths.take (i + 1)).sum = x := by
  obtain ⟨hi, rfl⟩ := List.getElem?_eq_some_iff.1 h
  rw [List.extract_eq_take_drop, ← List.drop_take, ← q.length_fields]
  exact List.drop_take_succ_flatten_eq_getElem q.fields i hi

/-! ## The expiry -/

/-- The times that a quote can expire at. -/
def IsExpiry (t : Instant) : Prop := ∃ n : Nat, n ≤ 8210266876799 ∧ t = ⟨n, 0⟩

theorem expiryOf_eq_ok {seconds : UInt64} {t : Instant} :
    expiryOf seconds = .ok t ↔ seconds.toNat ≤ 8210266876799 ∧ t = ⟨seconds.toNat, 0⟩ := by
  have hrange : Instant.minSeconds ≤ (seconds.toNat : Int) ∧
      (seconds.toNat : Int) ≤ Instant.maxSeconds ↔ seconds.toNat ≤ 8210266876799 := by
    unfold Instant.minSeconds Instant.maxSeconds
    omega
  unfold expiryOf Instant.ofSeconds?
  by_cases h : seconds.toNat ≤ 8210266876799
  · rw [if_pos (hrange.2 h)]
    simp [h, eq_comm]
  · rw [if_neg (mt hrange.1 h)]
    simp [h]

/-! ## Reading -/

theorem ofBytes_eq_ok {b : Bytes} {q : SignedQuote} :
    ofBytes b = .ok q ↔ IsExpiry q.expiry ∧ b = q.toBytes := by
  unfold ofBytes reading
  simp only [of_eq_ok, run_bind_eq_ok (r := Reading.bytes 4), bytes_eq_ok, Reading.guard_eq_ok,
    ne_eq, Decidable.not_not, (reads_take _).bind_eq_ok, reads_address.bind_eq_ok,
    reads_chain.bind_eq_ok, reads_uint64.bind_eq_ok, lift_bind_eq_ok, expiryOf_eq_ok,
    finish_bind_eq_ok, run_pure_eq_ok]
  constructor
  -- each field leaves an equation for the rest of the bytes, which gives that rest a value
  · rintro ⟨c, start, c₁, ⟨-, rfl, -⟩, rfl, quoter, r₂, hr₂, payee, r₃, rfl, source, r₄, rfl,
      destination, r₅, rfl, seconds, r₆, rfl, _, ⟨hle, rfl⟩, baseFee, r₇, rfl, gasPrice, r₈, rfl,
      sourcePrice, r₉, rfl, destinationPrice, r₁₀, rfl, signature, r₁₁, rfl, rfl, h⟩
    cases h
    refine ⟨⟨_, hle, rfl⟩, ?_⟩
    rw [hr₂]
    rfl
  · rintro ⟨⟨n, hle, hexpiry⟩, rfl⟩
    obtain ⟨seconds, rfl⟩ : ∃ seconds : UInt64, seconds.toNat = n :=
      ⟨.ofNat n, UInt64.toNat_ofNat_of_lt' (Nat.lt_of_le_of_lt hle (by decide))⟩
    obtain ⟨quoter, payee, source, destination, expiry, baseFee, gasPrice, sourcePrice,
      destinationPrice, signature⟩ := q
    subst hexpiry
    exact ⟨_, tag, ⟨4, _⟩, ⟨rfl, rfl, rfl⟩, rfl, quoter, _, rfl, payee, _, rfl, source, _, rfl,
      destination, _, rfl, seconds, _, rfl, _, ⟨hle, rfl⟩, baseFee, _, rfl, gasPrice, _, rfl,
      sourcePrice, _, rfl, destinationPrice, _, rfl, signature, [], rfl, rfl, rfl⟩

/-! ## Offsets -/

theorem length_slice {b : Bytes} (hlen : b.length = size) (i n : Nat) (h : i + n ≤ size) :
    (b.extract i (i + n)).length = n := by
  rw [List.extract_eq_take_drop, List.length_take, List.length_drop]
  omega

/-- The quote that is made of what stands at the offsets. -/
def ofSlices (b : Bytes) (hlen : b.length = size) : SignedQuote where
  quoter := ⟨b.extract 4 24, length_slice hlen 4 20 (by decide)⟩
  payee := ⟨b.extract 24 56, length_slice hlen 24 32 (by decide)⟩
  source := ⟨.ofNat (Bytes.toNat (b.extract 56 58))⟩
  destination := ⟨.ofNat (Bytes.toNat (b.extract 58 60))⟩
  expiry := ⟨Bytes.toNat (b.extract 60 68), 0⟩
  baseFee := .ofNat (Bytes.toNat (b.extract 68 76))
  gasPrice := .ofNat (Bytes.toNat (b.extract 76 84))
  sourcePrice := .ofNat (Bytes.toNat (b.extract 84 92))
  destinationPrice := .ofNat (Bytes.toNat (b.extract 92 100))
  signature := ⟨b.extract 100 165, length_slice hlen 100 65 (by decide)⟩

/-- Any bytes of the right length behind a tag are what a quote writes. -/
theorem toBytes_ofSlices {b : Bytes} (hlen : b.length = size) (htag : b.take 4 = tag) :
    (ofSlices b hlen).toBytes = b := by
  have hword (i : Nat) (h : i + 2 ≤ size) :
      Bytes.ofNat 2 (UInt16.ofNat (Bytes.toNat (b.extract i (i + 2)))).toNat = b.extract i (i + 2) :=
    ofNat_make 2 UInt16.ofNat UInt16.toNat (fun _ h => UInt16.toNat_ofNat_of_lt' h)
      (length_slice hlen i 2 h)
  have hlong (i : Nat) (h : i + 8 ≤ size) :
      Bytes.ofNat 8 (UInt64.ofNat (Bytes.toNat (b.extract i (i + 8)))).toNat = b.extract i (i + 8) :=
    ofNat_make 8 UInt64.ofNat UInt64.toNat (fun _ h => UInt64.toNat_ofNat_of_lt' h)
      (length_slice hlen i 8 h)
  have hseconds : Bytes.ofNat 8 (Int.toNat (Bytes.toNat (b.extract 60 68))) = b.extract 60 68 :=
    ofNat_make 8 Int.ofNat Int.toNat (fun n _ => Int.toNat_natCast n)
      (length_slice hlen 60 8 (by decide))
  have hfields : (ofSlices b hlen).fields = widths.splitLengths b := by
    simp only [widths, List.splitLengths_cons, List.splitLengths_nil, List.drop_drop, htag]
    simp only [ofSlices, fields, ChainId.toBytes, hword 56 (by decide), hword 58 (by decide),
      hseconds, hlong 68 (by decide), hlong 76 (by decide), hlong 84 (by decide),
      hlong 92 (by decide)]
    rfl
  rw [toBytes, hfields, List.flatten_splitLengths _ _ hlen.le]

/-- Each field of the quote is what stands at its offset. -/
structure StandsIn (q : SignedQuote) (b : Bytes) : Prop where
  quoter : q.quoter.val = b.extract 4 24
  payee : q.payee.bytes = b.extract 24 56
  source : q.source.number.toNat = Bytes.toNat (b.extract 56 58)
  destination : q.destination.number.toNat = Bytes.toNat (b.extract 58 60)
  expiry : q.expiry = ⟨Bytes.toNat (b.extract 60 68), 0⟩
  baseFee : q.baseFee.toNat = Bytes.toNat (b.extract 68 76)
  gasPrice : q.gasPrice.toNat = Bytes.toNat (b.extract 76 84)
  sourcePrice : q.sourcePrice.toNat = Bytes.toNat (b.extract 84 92)
  destinationPrice : q.destinationPrice.toNat = Bytes.toNat (b.extract 92 100)
  signature : q.signature.val = b.extract 100 165

theorem standsIn_toBytes {q : SignedQuote} (h : IsExpiry q.expiry) : q.StandsIn q.toBytes := by
  have hat := q.extract_toBytes
  have hword {x : UInt16} (i : Nat) (hi : q.fields[i]? = some (Bytes.ofNat 2 x.toNat)) :
      x.toNat = Bytes.toNat (q.toBytes.extract (widths.take i).sum (widths.take (i + 1)).sum) := by
    rw [hat i hi, Bytes.toNat_ofNat_of_lt x.toNat_lt]
  have hlong {x : UInt64} (i : Nat) (hi : q.fields[i]? = some (Bytes.ofNat 8 x.toNat)) :
      x.toNat = Bytes.toNat (q.toBytes.extract (widths.take i).sum (widths.take (i + 1)).sum) := by
    rw [hat i hi, Bytes.toNat_ofNat_of_lt x.toNat_lt]
  have hexpiry : q.expiry = ⟨Bytes.toNat (q.toBytes.extract 60 68), 0⟩ := by
    obtain ⟨n, hle, hn⟩ := h
    have hlt : n < Bytes.capacity 8 := Nat.lt_of_le_of_lt hle (by decide)
    rw [show q.toBytes.extract 60 68 = _ from hat 5 rfl, hn, Int.toNat_natCast,
      Bytes.toNat_ofNat_of_lt hlt]
  exact {
    quoter := (hat 1 rfl).symm
    payee := (hat 2 rfl).symm
    source := hword 3 rfl
    destination := hword 4 rfl
    expiry := hexpiry
    baseFee := hlong 6 rfl
    gasPrice := hlong 7 rfl
    sourcePrice := hlong 8 rfl
    destinationPrice := hlong 9 rfl
    signature := (hat 10 rfl).symm }

theorem take_toBytes (q : SignedQuote) : q.toBytes.take 4 = tag := q.extract_toBytes 0 rfl

/-- The tag in letters. -/
theorem tag_eq : tag = "EQ01".toUTF8.toList := by decide +kernel

/-- **Exactly the byte strings of the layout are quotes.** A byte string reads as a quote if it
has the length, starts with the tag and names a second of the calendar as the expiry; each field
is then what stands at its offset, and no other byte string reads as the same quote. -/
theorem ofBytes_exact :
    (∀ b : Bytes, (∃ q, ofBytes b = .ok q) ↔ b.length = 165 ∧ b.take 4 = "EQ01".toUTF8.toList ∧
      Bytes.toNat (b.extract 60 68) ≤ 8210266876799) ∧
    (∀ b q, ofBytes b = .ok q → q.StandsIn b) ∧
    ∀ b b' q q', ofBytes b = .ok q → ofBytes b' = .ok q' → b ≠ b' → q ≠ q' := by
  refine ⟨fun b => ?_, ?_, ?_⟩
  · rw [← tag_eq]
    constructor
    · rintro ⟨q, h⟩
      obtain ⟨⟨n, hle, hn⟩, rfl⟩ := ofBytes_eq_ok.1 h
      refine ⟨q.length_toBytes, q.take_toBytes, ?_⟩
      have hexpiry := (standsIn_toBytes ⟨n, hle, hn⟩).expiry
      rw [hn, Instant.mk.injEq] at hexpiry
      omega
    · rintro ⟨hlen, htag, hle⟩
      exact ⟨ofSlices b hlen, ofBytes_eq_ok.2 ⟨⟨_, hle, rfl⟩, (toBytes_ofSlices hlen htag).symm⟩⟩
  · intro b q h
    obtain ⟨hexpiry, rfl⟩ := ofBytes_eq_ok.1 h
    exact standsIn_toBytes hexpiry
  · rintro b b' q q' h h' hne rfl
    exact hne ((ofBytes_eq_ok.1 h).2.trans (ofBytes_eq_ok.1 h').2.symm)

/-- The last second of the calendar is an expiry, and the second after it is none. -/
theorem ofBytes_exact_sample :
    let b (n : Nat) : Bytes := tag ++ List.replicate 56 0 ++ Bytes.ofNat 8 n ++ List.replicate 97 0
    (∃ q, ofBytes (b 8210266876799) = .ok q) ∧ ¬ ∃ q, ofBytes (b 8210266876800) = .ok q := by
  intro b
  constructor
  · exact (ofBytes_exact.1 _).2 (by rw [← tag_eq]; decide +kernel)
  · exact fun h => absurd ((ofBytes_exact.1 _).1 h).2.2 (by decide +kernel)

end SignedQuote

end TokenBridge
