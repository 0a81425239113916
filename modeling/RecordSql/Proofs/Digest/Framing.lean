import Mathlib.Data.List.GetD
import Mathlib.Data.List.Nodup
import Mathlib.Tactic.Ring
import RecordSql.Digest.Fingerprint
import RecordSql.Text.Offset

namespace RecordSql

namespace Sha256

theorem bigEndian_succ (count n : Nat) :
    bigEndian (count + 1) n = UInt8.ofNat (n >>> (8 * count)) :: bigEndian count n := by
  simp [bigEndian, List.range_succ]

def numberOf (bytes : List UInt8) : Nat := bytes.foldl (fun number byte => number * 256 + byte.toNat) 0

theorem foldl_bigEndian (count n start : Nat) :
    (bigEndian count n).foldl (fun number byte => number * 256 + byte.toNat) start =
      start * 256 ^ count + n % 256 ^ count := by
  induction count generalizing start with
  | zero => simp [bigEndian, Nat.mod_one]
  | succ count ih =>
    have byte : (UInt8.ofNat (n >>> (8 * count))).toNat = n / 256 ^ count % 256 := by
      rw [UInt8.toNat_ofNat', Nat.shiftRight_eq_div_pow, Nat.pow_mul]
    rw [bigEndian_succ, List.foldl_cons, ih, byte, Nat.mod_pow_succ, Nat.pow_succ]
    ring

theorem numberOf_bigEndian (count n : Nat) : numberOf (bigEndian count n) = n % 256 ^ count := by
  rw [numberOf, foldl_bigEndian, Nat.zero_mul, Nat.zero_add]

theorem bigEndian_inj {count m n : Nat} (small : m < 256 ^ count) (small' : n < 256 ^ count)
    (same : bigEndian count m = bigEndian count n) : m = n := by
  rw [← Nat.mod_eq_of_lt small, ← numberOf_bigEndian, same, numberOf_bigEndian, Nat.mod_eq_of_lt small']

end Sha256

theorem textBytes_injective : Function.Injective textBytes := by
  intro s t same
  exact String.toByteArray_inj.mp (ByteArray.ext (Array.toList_inj.mp same))

/-- The frame of a text that is not too long says where it ends. -/
theorem framed_append_inj {s t : String} (short : (textBytes s).length < 4294967295) {rest rest' : List UInt8}
    (same : framed s ++ rest = framed t ++ rest') : s = t ∧ rest = rest' := by
  unfold framed at same
  rw [List.append_assoc, List.append_assoc] at same
  obtain ⟨frames, texts⟩ := List.append_inj same (by rw [Sha256.length_bigEndian, Sha256.length_bigEndian])
  have lengths := Sha256.bigEndian_inj (by omega) (by omega) frames
  obtain ⟨bytes, rests⟩ := List.append_inj texts (by omega)
  exact ⟨textBytes_injective bytes, rests⟩

theorem framed_injective : Function.Injective framed := by
  intro s t same
  obtain ⟨-, texts⟩ := List.append_inj same (by rw [Sha256.length_bigEndian, Sha256.length_bigEndian])
  exact textBytes_injective texts

theorem statementBytes_inj {kind kind' sql sql' : String} (short : (textBytes kind).length < 4294967295)
    (same : statementBytes kind sql = statementBytes kind' sql') : kind = kind' ∧ sql = sql' := by
  unfold statementBytes at same
  rw [List.append_assoc, List.append_assoc] at same
  obtain ⟨kinds, texts⟩ := framed_append_inj short (List.append_cancel_left same)
  exact ⟨kinds, framed_injective texts⟩

theorem utf8Size_hexDigit (n : Nat) : (hexDigit n).utf8Size = 1 := by
  have digits : ∀ c ∈ "0123456789abcdef".toList, c.utf8Size = 1 := by simp [Char.utf8Size]
  unfold hexDigit
  by_cases small : n < "0123456789abcdef".toList.length
  · rw [List.getD_eq_getElem _ _ small]
    exact digits _ (List.getElem_mem small)
  · rw [List.getD_eq_default _ _ (Nat.le_of_not_lt small)]
    decide

theorem hexDigit_inj {m n : Nat} (small : m < 16) (small' : n < 16) (same : hexDigit m = hexDigit n) :
    m = n := by
  have distinct : "0123456789abcdef".toList.Nodup := by simp
  have size : "0123456789abcdef".toList.length = 16 := rfl
  unfold hexDigit at same
  rw [List.getD_eq_getElem _ _ (by omega), List.getD_eq_getElem _ _ (by omega)] at same
  exact (List.Nodup.getElem_inj_iff distinct).mp same

theorem hexByte_injective : Function.Injective hexByte := by
  intro byte other same
  have bound := byte.toNat_lt
  have bound' := other.toNat_lt
  simp only [hexByte, List.cons.injEq, and_true] at same
  have high := hexDigit_inj (by omega) (by omega) same.1
  have low := hexDigit_inj (by omega) (by omega) same.2
  exact UInt8.toNat_inj.mp (by omega)

theorem hexText_injective : Function.Injective hexText := by
  intro bytes others same
  have spelled : bytes.flatMap hexByte = others.flatMap hexByte := String.ofList_injective same
  clear same
  induction bytes generalizing others with
  | nil => cases others with
    | nil => rfl
    | cons _ _ => cases spelled
  | cons byte bytes ih => cases others with
    | nil => cases spelled
    | cons other others =>
      obtain ⟨first, rest⟩ := List.append_inj spelled rfl
      rw [hexByte_injective first, ih rest]

theorem byteLength_hexBytes (bytes : List UInt8) : Text.byteLength (bytes.flatMap hexByte) = 2 * bytes.length := by
  induction bytes with
  | nil => rfl
  | cons byte bytes ih =>
    have pair : Text.byteLength (hexByte byte) = 2 := by
      simp [Text.byteLength, hexByte, utf8Size_hexDigit]
    rw [List.flatMap_cons, Text.byteLength_append, pair, ih, List.length_cons]
    omega

namespace Fingerprint

theorem slice?_toHex (print : Fingerprint) : Text.slice? 0 16 print.toHex.toList = some print.short.toList := by
  have size : (print.bytes.take 8).length = 8 := by
    rw [List.length_take, print.size]
    rfl
  have digits : Text.byteLength ((print.bytes.take 8).flatMap hexByte) = 16 := by
    rw [byteLength_hexBytes, size]
  have whole : print.toHex.toList = (print.bytes.take 8).flatMap hexByte ++ (print.bytes.drop 8).flatMap hexByte := by
    rw [toHex, hexText, String.toList_ofList, ← List.flatMap_append, List.take_append_drop]
  have head := Text.slice?_append [] ((print.bytes.take 8).flatMap hexByte) ((print.bytes.drop 8).flatMap hexByte)
  rw [List.nil_append, digits, ← whole] at head
  rw [short, hexText, String.toList_ofList]
  exact head

theorem short_eq_iff {print other : Fingerprint} :
    print.short = other.short ↔ print.bytes.take 8 = other.bytes.take 8 :=
  hexText_injective.eq_iff

end Fingerprint

end RecordSql
