import TokenBridge.Bytes.Hex

/-!
# Hexadecimal text reads back

`Hex.decode` works on the bytes of a text's UTF-8 form. A digit is one byte there, so the text of a
byte string is twice as long as the string, and each pair of its digits is one byte again
(`decode_toString`). The prefix of the `0x` form is taken off as it was put on.
-/

namespace TokenBridge

theorem byteArray_toList_loop (a : ByteArray) (i : Nat) (acc : Bytes) :
    ByteArray.toList.loop a i acc = acc.reverse ++ a.data.toList.drop i := by
  fun_induction ByteArray.toList.loop a i acc with
  | case1 i acc hlt ih =>
    have hlen : i < a.data.toList.length := by simpa using hlt
    have hget : a.get! i = a.data.toList[i] := by
      rw [Array.getElem_toList]
      exact getElem!_pos a.data i hlt
    rw [ih, List.drop_eq_getElem_cons hlen, hget, List.reverse_cons, List.append_assoc]
    rfl
  | case2 i acc hge =>
    rw [List.drop_eq_nil_of_le (by simpa using Nat.le_of_not_lt hge), List.append_nil]

/-- The bytes of a text are those of its characters. -/
theorem toList_toUTF8_ofList (cs : List Char) :
    (String.ofList cs).toUTF8.toList = cs.flatMap String.utf8EncodeChar := by
  show ByteArray.toList.loop (String.ofList cs).toByteArray 0 [] = _
  rw [byteArray_toList_loop, String.toByteArray_ofList, List.utf8Encode,
    List.toList_data_toByteArray]
  rfl

namespace Hex

def digitByte (n : Nat) : UInt8 := UInt8.ofNat (digit n).toNat

theorem utf8EncodeChar_digit : ∀ n < 16, String.utf8EncodeChar (digit n) = [digitByte n] := by
  decide

theorem value?_digitByte : ∀ n < 16, value? (digitByte n) = some n := by decide

/-- The bytes of a text of digits. -/
def digitBytes (b : Bytes) : Bytes :=
  b.flatMap fun x => [digitByte (x.toNat / 16), digitByte (x.toNat % 16)]

theorem flatMap_encode (b : Bytes) : (encode b).flatMap String.utf8EncodeChar = digitBytes b := by
  induction b with
  | nil => rfl
  | cons x b ih =>
    have hx := x.toNat_lt
    have hhi := utf8EncodeChar_digit (x.toNat / 16) (by omega)
    have hlo := utf8EncodeChar_digit (x.toNat % 16) (by omega)
    rw [encode, digitBytes, List.flatMap_cons, List.flatMap_cons, List.flatMap_append]
    rw [← encode, ih, List.flatMap_cons, List.flatMap_cons, hhi, hlo]
    rfl

theorem length_digitBytes (b : Bytes) : (digitBytes b).length = 2 * b.length := by
  induction b with
  | nil => rfl
  | cons x b ih =>
    rw [digitBytes, List.flatMap_cons, List.length_append, ← digitBytes, ih, List.length_cons,
      List.length_cons, List.length_cons, List.length_nil]
    omega

theorem decodePairs_digitBytes (b : Bytes) (position : Nat) :
    decodePairs position (digitBytes b) = .ok b := by
  induction b generalizing position with
  | nil => rfl
  | cons x b ih =>
    have hx := x.toNat_lt
    have hhi := value?_digitByte (x.toNat / 16) (by omega)
    have hlo := value?_digitByte (x.toNat % 16) (by omega)
    have hbyte : UInt8.ofNat (16 * (x.toNat / 16) + x.toNat % 16) = x := by
      rw [Nat.div_add_mod, UInt8.ofNat_toNat]
    show decodePairs position (_ :: _ :: digitBytes b) = _
    rw [decodePairs]
    simp only [hhi, hlo, hbyte, ih]
    rfl

theorem utf8ByteSize_toString (b : Bytes) : (toString b).utf8ByteSize = 2 * b.length := by
  have hbytes : (toString b).toUTF8.data.toList = digitBytes b := by
    rw [← flatMap_encode, ← toList_toUTF8_ofList]
    exact (byteArray_toList_loop _ 0 []).symm
  have hsize : (toString b).utf8ByteSize = (toString b).toUTF8.data.toList.length := rfl
  rw [hsize, hbytes, length_digitBytes]

theorem decode_toString (b : Bytes) : decode (toString b) = .ok b := by
  have heven : ¬ (digitBytes b).length % 2 = 1 := by
    rw [length_digitBytes]
    omega
  rw [decode, toString, toList_toUTF8_ofList, flatMap_encode, decodeBytes, if_neg heven,
    decodePairs_digitBytes]

theorem unprefixed_prefixed (b : Bytes) : unprefixed (prefixed b) = toString b := by
  have hlist : (prefixed b).toList = '0' :: 'x' :: encode b := by
    rw [prefixed, toString, String.toList_append, String.toList_ofList, String.toList_ofList]
    rfl
  rw [unprefixed, hlist]
  rfl

end Hex

end TokenBridge
