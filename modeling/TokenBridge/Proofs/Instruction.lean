import Mathlib.Algebra.Order.Ring.Nat
import TokenBridge.Proofs.Hex
import TokenBridge.Proofs.Reading
import TokenBridge.Relay.Instruction

/-!
# Lists of relay instructions

An instruction has one written form (`reads_instruction`), and none is empty. So a byte string is
the encoding of at most one list: the reader takes instructions off the front until nothing is
left, and each one brings it closer to the end (`readAll_eq_ok`, `readAll_congr`).

`totals` adds over the words of 128 bits. It succeeds exactly if the sums over the naturals are
such words, and these are its answer (`totals_eq_ok`).
-/

namespace TokenBridge

theorem Wide.exists_toNat {n : Nat} (h : n < 2 ^ 128) : ∃ w : Wide, w.toNat = n :=
  ⟨.ofNat 128 n, Nat.mod_eq_of_lt h⟩

namespace RelayInstruction

open Reading

/-! ## One instruction -/

theorem reads_instruction : Reads reading toBytes := by
  intro c i c'
  unfold reading
  simp only [reads_uint8.bind_eq_ok, Bytes.ofNat_one]
  constructor
  · rintro ⟨tag, rest, hrest, h⟩
    rw [hrest]
    split at h
    · simp only [reads_wide.bind_eq_ok, run_pure_eq_ok, Prod.mk.injEq] at h
      obtain ⟨gasLimit, _, rfl, msgValue, _, rfl, rfl, rfl⟩ := h
      simp [toBytes, RelayInstruction.tag, fields]
    · simp only [reads_wide.bind_eq_ok, reads_address.bind_eq_ok, run_pure_eq_ok,
        Prod.mk.injEq] at h
      obtain ⟨value, _, rfl, recipient, _, rfl, rfl, rfl⟩ := h
      simp [toBytes, RelayInstruction.tag, fields]
    · cases h
  · rintro ⟨hrest, hoffset⟩
    obtain ⟨offset, rest⟩ := c'
    dsimp only at hrest hoffset
    subst hoffset
    cases i with
    | gas gasLimit msgValue =>
      refine ⟨1, fields (gas gasLimit msgValue) ++ rest, hrest, ?_⟩
      simp only [reads_wide.bind_eq_ok, run_pure_eq_ok, fields, List.append_assoc]
      refine ⟨gasLimit, _, rfl, msgValue, _, rfl, ?_⟩
      simp [length_toBytes]
    | dropOff value recipient =>
      refine ⟨2, fields (dropOff value recipient) ++ rest, hrest, ?_⟩
      simp only [reads_wide.bind_eq_ok, reads_address.bind_eq_ok, run_pure_eq_ok, fields,
        List.append_assoc]
      refine ⟨value, _, rfl, recipient, _, rfl, ?_⟩
      simp [length_toBytes]

theorem length_toBytes_pos (i : RelayInstruction) : 0 < i.toBytes.length := Nat.succ_pos _

/-- Reading an instruction leaves less to read. -/
theorem length_rest_lt {c c' : Cursor} {i : RelayInstruction} (h : reading c = .ok (i, c')) :
    c'.rest.length < c.rest.length := by
  have hpos := i.length_toBytes_pos
  rw [((reads_instruction c i c').1 h).1, List.length_append]
  omega

/-! ## Lists -/

theorem encode_cons (i : RelayInstruction) (is : List RelayInstruction) :
    encode (i :: is) = i.toBytes ++ encode is := List.flatMap_cons

theorem encode_eq_nil {is : List RelayInstruction} : encode is = [] ↔ is = [] := by
  cases is with
  | nil => exact ⟨fun _ => rfl, fun _ => rfl⟩
  | cons i is =>
    rw [encode_cons]
    exact ⟨fun h => absurd h (by simp [toBytes]), nofun⟩

theorem readAll_of_nil {c : Cursor} (h : c.rest = []) (most : Nat) :
    readAll most c = .ok ([], c) := by
  cases most with
  | zero => rfl
  | succ most =>
    show (if c.rest.isEmpty then _ else _ : Reading (List RelayInstruction)) c = _
    rw [if_pos (List.isEmpty_iff.2 h), run_pure_eq_ok]

theorem readAll_eq_ok_of_nil {most : Nat} {c c' : Cursor} {is : List RelayInstruction}
    (h : c.rest = []) :
    readAll most c = .ok (is, c') ↔ c.rest = encode is ∧ c' = ⟨c.offset + c.rest.length, []⟩ := by
  obtain ⟨offset, rest⟩ := c
  obtain rfl : rest = [] := h
  rw [readAll_of_nil rfl, Except.ok.injEq, Prod.mk.injEq, eq_comm (a := []), ← encode_eq_nil,
    eq_comm (a := encode is), eq_comm (b := c')]
  rfl

/-- One turn of the loop. -/
theorem readAll_succ {c : Cursor} (h : c.rest ≠ []) (most : Nat) :
    readAll (most + 1) c =
      (reading >>= fun i => readAll most >>= fun is => pure (i :: is)) c := by
  show (if c.rest.isEmpty then _ else _ : Reading (List RelayInstruction)) c = _
  rw [if_neg (mt List.isEmpty_iff.1 h)]

/-- A bound that is no less than what is left to read does not matter: the loop ends before. -/
theorem readAll_congr {m n : Nat} {c : Cursor} (hm : c.rest.length ≤ m) (hn : c.rest.length ≤ n) :
    readAll m c = readAll n c := by
  induction m generalizing n c with
  | zero =>
    have hnil : c.rest = [] := List.length_eq_zero_iff.1 (Nat.le_zero.1 hm)
    rw [readAll_of_nil hnil, readAll_of_nil hnil]
  | succ m ih =>
    by_cases hnil : c.rest = []
    · rw [readAll_of_nil hnil, readAll_of_nil hnil]
    · have hpos : 0 < c.rest.length := List.length_pos_iff.2 hnil
      obtain ⟨n, rfl⟩ : ∃ k, n = k + 1 := ⟨n - 1, by omega⟩
      rw [readAll_succ hnil, readAll_succ hnil]
      show (reading c >>= fun p => readAll m p.2 >>= fun q => pure (p.1 :: q.1, q.2)) =
        reading c >>= fun p => readAll n p.2 >>= fun q => pure (p.1 :: q.1, q.2)
      cases hr : reading c with
      | error err => rfl
      | ok p =>
        have hlt := length_rest_lt hr
        have hrest : readAll m p.2 = readAll n p.2 := ih (by omega) (by omega)
        show (readAll m p.2 >>= _) = (readAll n p.2 >>= _)
        rw [hrest]

/-- With such a bound, what is read is the whole rest. -/
theorem readAll_eq_ok {most : Nat} {c c' : Cursor} {is : List RelayInstruction}
    (h : c.rest.length ≤ most) :
    readAll most c = .ok (is, c') ↔ c.rest = encode is ∧ c' = ⟨c.offset + c.rest.length, []⟩ := by
  induction most generalizing c c' is with
  | zero =>
    have hnil : c.rest = [] := List.length_eq_zero_iff.1 (Nat.le_zero.1 h)
    exact readAll_eq_ok_of_nil hnil
  | succ most ih =>
    by_cases hnil : c.rest = []
    · exact readAll_eq_ok_of_nil hnil
    rw [readAll_succ hnil, reads_instruction.bind_eq_ok]
    constructor
    · rintro ⟨i, rest, hrest, hread⟩
      obtain ⟨is, c'', htail, hlast⟩ := run_bind_eq_ok.1 hread
      have hlen : c.rest.length = i.toBytes.length + rest.length := by
        rw [hrest, List.length_append]
      have hpos := i.length_toBytes_pos
      have hle : rest.length ≤ most := by omega
      obtain ⟨rfl, rfl⟩ := (ih (c := ⟨_, rest⟩) hle).1 htail
      cases hlast
      rw [hlen, ← Nat.add_assoc]
      exact ⟨hrest, rfl⟩
    · rintro ⟨hrest, rfl⟩
      cases is with
      | nil => exact absurd hrest hnil
      | cons i is =>
        have hlen : c.rest.length = i.toBytes.length + (encode is).length := by
          rw [hrest, encode_cons, List.length_append]
        have hpos := i.length_toBytes_pos
        have hle : (encode is).length ≤ most := by omega
        have htail := (ih (c := ⟨c.offset + i.toBytes.length, encode is⟩) hle).2 ⟨rfl, rfl⟩
        rw [hlen, ← Nat.add_assoc]
        exact ⟨i, encode is, hrest, run_bind_eq_ok.2 ⟨is, _, htail, rfl⟩⟩

theorem decode_eq_ok {b : Bytes} {is : List RelayInstruction} :
    decode b = .ok is ↔ b = encode is := by
  unfold decode
  simp only [of_eq_ok, readAll_eq_ok (c := ⟨0, b⟩) (Nat.le_refl _)]
  constructor
  · rintro ⟨_, hb, -⟩
    exact hb
  · intro hb
    exact ⟨_, hb, rfl⟩

theorem decodeHex_encodeHex (is : List RelayInstruction) : decodeHex (encodeHex is) = .ok is := by
  rw [decodeHex, encodeHex, Hex.unprefixed_prefixed, Hex.decode_toString]
  exact decode_eq_ok.2 rfl

/-- **Decoding accepts the encodings of lists, and nothing else.** A byte string decodes to a list
exactly if it is the encoding of the list, so no two lists have one encoding. The reader comes to
the end of every byte string by itself: any greater bound on the number of instructions leads to
the same list, or to the same error. The `0x` form reads back too. -/
theorem encoding_exact :
    (∀ b is, decode b = .ok is ↔ b = encode is) ∧
    Function.Injective encode ∧
    (∀ b most, b.length ≤ most → (readAll most).of b = decode b) ∧
    ∀ is, decodeHex (encodeHex is) = .ok is := by
  refine ⟨fun b is => decode_eq_ok, ?_, ?_, decodeHex_encodeHex⟩
  · intro is js h
    have his : decode (encode is) = .ok is := decode_eq_ok.2 rfl
    have hjs : decode (encode is) = .ok js := decode_eq_ok.2 h
    exact Except.ok.inj (his.symm.trans hjs)
  · intro b most hmost
    show (·.1) <$> readAll most ⟨0, b⟩ = (·.1) <$> readAll b.length ⟨0, b⟩
    rw [readAll_congr (c := ⟨0, b⟩) hmost (Nat.le_refl _)]

/-- A tag that is not known rejects what stands before it as well. -/
example : decode (encode [gas 1 0] ++ [255]) = .error (.unsupportedInstruction 255) := rfl

/-! ## Totals -/

def gasUnits : RelayInstruction → Nat
  | gas gasLimit _ => gasLimit.toNat
  | dropOff .. => 0

def valueUnits : RelayInstruction → Nat
  | gas _ msgValue => msgValue.toNat
  | dropOff .. => 0

def dropOffUnits : RelayInstruction → Nat
  | gas .. => 0
  | dropOff value _ => value.toNat

theorem addWide_eq_ok {what : String} {a b c : Wide} :
    addWide what a b = .ok c ↔ c.toNat = a.toNat + b.toNat := by
  rw [← Wide.add?_eq_some]
  unfold addWide
  cases Wide.add? a b <;> simp

/-- `t` and the instructions come to `total`, without overflow. -/
structure AddsUp (t : RelayTotals) (is : List RelayInstruction) (total : RelayTotals) : Prop where
  gasLimit : total.gasLimit.toNat = t.gasLimit.toNat + (is.map gasUnits).sum
  msgValue : total.msgValue.toNat = t.msgValue.toNat + (is.map valueUnits).sum
  dropOff : total.dropOff.toNat = t.dropOff.toNat + (is.map dropOffUnits).sum

theorem addTo_eq_ok {t total : RelayTotals} {i : RelayInstruction} :
    addTo t i = .ok total ↔ AddsUp t [i] total := by
  cases i with
  | gas gasLimit msgValue =>
    simp only [addTo, bind_eq_ok, pure_eq_ok, addWide_eq_ok]
    constructor
    · rintro ⟨a, ha, b, hb, rfl⟩
      exact ⟨ha, hb, rfl⟩
    · rintro ⟨hgas, hvalue, hdrop⟩
      have hsame : t.dropOff = total.dropOff := BitVec.toNat_inj.1 hdrop.symm
      exact ⟨total.gasLimit, hgas, total.msgValue, hvalue, by rw [hsame]⟩
  | dropOff value recipient =>
    simp only [addTo, bind_eq_ok, pure_eq_ok, addWide_eq_ok]
    constructor
    · rintro ⟨a, ha, rfl⟩
      exact ⟨rfl, rfl, ha⟩
    · rintro ⟨hgas, hvalue, hdrop⟩
      have hsame : t.gasLimit = total.gasLimit ∧ t.msgValue = total.msgValue :=
        ⟨BitVec.toNat_inj.1 hgas.symm, BitVec.toNat_inj.1 hvalue.symm⟩
      exact ⟨total.dropOff, hdrop, by rw [hsame.1, hsame.2]⟩

/-- Partial sums are words if the whole sum is one. -/
theorem addsUp_cons {t total : RelayTotals} {i : RelayInstruction} {is : List RelayInstruction} :
    AddsUp t (i :: is) total ↔ ∃ s, AddsUp t [i] s ∧ AddsUp s is total := by
  constructor
  · rintro ⟨hgas, hvalue, hdrop⟩
    simp only [List.map_cons, List.sum_cons] at hgas hvalue hdrop
    have hgasLt := total.gasLimit.isLt
    have hvalueLt := total.msgValue.isLt
    have hdropLt := total.dropOff.isLt
    obtain ⟨gas, hgas'⟩ := Wide.exists_toNat (n := t.gasLimit.toNat + i.gasUnits) (by omega)
    obtain ⟨value, hvalue'⟩ := Wide.exists_toNat (n := t.msgValue.toNat + i.valueUnits) (by omega)
    obtain ⟨drop, hdrop'⟩ := Wide.exists_toNat (n := t.dropOff.toNat + i.dropOffUnits) (by omega)
    refine ⟨⟨gas, value, drop⟩, ⟨hgas', hvalue', hdrop'⟩, ?_, ?_, ?_⟩
    · rw [hgas, hgas', Nat.add_assoc]
    · rw [hvalue, hvalue', Nat.add_assoc]
    · rw [hdrop, hdrop', Nat.add_assoc]
  · rintro ⟨s, ⟨hgas, hvalue, hdrop⟩, ⟨hgas', hvalue', hdrop'⟩⟩
    simp only [List.map_cons, List.map_nil, List.sum_cons, List.sum_nil] at hgas hvalue hdrop
    constructor
    · rw [hgas', hgas, List.map_cons, List.sum_cons]
      omega
    · rw [hvalue', hvalue, List.map_cons, List.sum_cons]
      omega
    · rw [hdrop', hdrop, List.map_cons, List.sum_cons]
      omega

theorem foldlM_addTo_eq_ok {t total : RelayTotals} {is : List RelayInstruction} :
    is.foldlM addTo t = .ok total ↔ AddsUp t is total := by
  induction is generalizing t with
  | nil =>
    rw [List.foldlM_nil, pure_eq_ok]
    constructor
    · rintro rfl
      exact ⟨rfl, rfl, rfl⟩
    · rintro ⟨hgas, hvalue, hdrop⟩
      cases t
      cases total
      rw [RelayTotals.mk.injEq]
      exact ⟨BitVec.toNat_inj.1 hgas.symm, BitVec.toNat_inj.1 hvalue.symm,
        BitVec.toNat_inj.1 hdrop.symm⟩
  | cons i is ih =>
    rw [List.foldlM_cons, bind_eq_ok, addsUp_cons]
    simp only [addTo_eq_ok, ih]

/-- The totals of a list are its sums over the naturals. -/
theorem totals_eq_ok {is : List RelayInstruction} {total : RelayTotals} :
    totals is = .ok total ↔ total.gasLimit.toNat = (is.map gasUnits).sum ∧
      total.msgValue.toNat = (is.map valueUnits).sum ∧
      total.dropOff.toNat = (is.map dropOffUnits).sum := by
  rw [totals, foldlM_addTo_eq_ok]
  constructor
  · rintro ⟨hgas, hvalue, hdrop⟩
    exact ⟨hgas.trans (Nat.zero_add _), hvalue.trans (Nat.zero_add _), hdrop.trans (Nat.zero_add _)⟩
  · rintro ⟨hgas, hvalue, hdrop⟩
    exact ⟨hgas.trans (Nat.zero_add _).symm, hvalue.trans (Nat.zero_add _).symm,
      hdrop.trans (Nat.zero_add _).symm⟩

end RelayInstruction

end TokenBridge
