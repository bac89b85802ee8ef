import Camouflage.Bytes
import Mathlib.Algebra.Order.Floor.Div
import Mathlib.Tactic.Lemma

namespace Camouflage.Bytes

variable {n size : Nat} {bytes rest : Bytes}

lemma forall_byte {p : UInt8 → Prop} (h : ∀ n < 256, p (.ofNat n)) (byte : UInt8) : p byte := by
  have hb := h byte.toNat byte.toNat_lt
  rwa [UInt8.ofNat_toNat] at hb

lemma ofBigEndian_append_singleton (bytes : Bytes) (byte : UInt8) :
    ofBigEndian (bytes ++ [byte]) = 256 * ofBigEndian bytes + byte.toNat := by
  simp [ofBigEndian, List.foldl_append]

lemma ofBigEndian_bigEndian {width : Nat} (h : n < Nat.pow 256 width) : ofBigEndian (bigEndian width n) = n := by
  induction width generalizing n with
  | zero =>
    have hn : n = 0 := Nat.lt_one_iff.mp h
    rw [hn]
    rfl
  | succ width ih =>
    have hd : n / 256 < Nat.pow 256 width := Nat.div_lt_of_lt_mul (by rwa [Nat.mul_comm])
    rw [bigEndian, ofBigEndian_append_singleton, ih hd, UInt8.toNat_ofNat']
    exact Nat.div_add_mod n 256

lemma bigEndian_inj {a b : UInt64} (h : bigEndian 8 a.toNat = bigEndian 8 b.toNat) : a = b := by
  have ha : ofBigEndian (bigEndian 8 a.toNat) = a.toNat := ofBigEndian_bigEndian a.toNat_lt
  have hb : ofBigEndian (bigEndian 8 b.toNat) = b.toNat := ofBigEndian_bigEndian b.toNat_lt
  apply UInt64.toNat_inj.mp
  rw [← ha, h, hb]

lemma number?_append (width : Nat) (h : n < Nat.pow 256 width) :
    number? width (bigEndian width n ++ rest) = some (n, rest) := by
  have hl : (bigEndian width n).length = width := length_bigEndian width n
  rw [number?, if_pos (by rw [List.length_append]; omega), List.take_left' hl, List.drop_left' hl,
    ofBigEndian_bigEndian h]

lemma counted?_append (width : Nat) (h : bytes.length < Nat.pow 256 width) :
    counted? width (counted width bytes ++ rest) = some (bytes, rest) := by
  rw [counted?, counted, List.append_assoc, number?_append width h]
  change (if bytes.length ≤ (bytes ++ rest).length then _ else none) = _
  rw [if_pos (by rw [List.length_append]; omega), List.take_left, List.drop_left]

lemma vector?_append (first : Vector UInt8 n) (rest : Bytes) :
    vector? n (first.toList ++ rest) = some (first, rest) := by
  have hl : first.toList.length = n := first.length_toList
  rw [vector?, dif_pos (by rw [List.length_append]; omega)]
  have hf : (⟨((first.toList ++ rest).take n).toArray, by simp⟩ : Vector UInt8 n) = first := by
    apply Vector.toList_inj.mp
    exact List.take_left' hl
  rw [hf, List.drop_left' hl]

lemma length_le_of_mem_cut (hs : 0 < size) {piece : Bytes} (h : piece ∈ cut size bytes) :
    piece.length ≤ size := by
  fun_induction cut size bytes with
  | case1 => cases h
  | case2 bytes _ => omega
  | case3 bytes _ _ ih =>
    rcases List.mem_cons.mp h with rfl | h
    · exact List.length_take_le _ _
    · exact ih h

lemma cut_of_length_le (hb : bytes ≠ []) (hl : bytes.length ≤ size) : cut size bytes = [bytes] := by
  have hs : size ≠ 0 := by
    have hp := List.length_pos_iff.mpr hb
    omega
  rw [cut, if_neg hb, if_neg hs, List.take_of_length_le hl, List.drop_of_length_le hl, cut_nil]

lemma length_cut (hs : 0 < size) (bytes : Bytes) : (cut size bytes).length = bytes.length ⌈/⌉ size := by
  rw [Nat.ceilDiv_eq_add_pred_div]
  fun_induction cut size bytes with
  | case1 => exact (Nat.div_eq_of_lt (by simpa using hs)).symm
  | case2 bytes _ => omega
  | case3 bytes hb _ ih =>
    have hl := List.length_pos_iff.mpr hb
    rw [List.length_cons, ih, List.length_drop]
    rcases Nat.le_total size bytes.length with hle | hle
    · rw [← Nat.add_div_right _ hs]
      congr 1
      omega
    · have hrest : (bytes.length - size + size - 1) / size = 0 := Nat.div_eq_of_lt (by omega)
      have hall : (bytes.length + size - 1) / size = 1 := Nat.div_eq_of_lt_le (by omega) (by omega)
      rw [hrest, hall]

lemma length_of_mem_dropLast_cut {piece : Bytes} (h : piece ∈ (cut size bytes).dropLast) :
    piece.length = size := by
  fun_induction cut size bytes with
  | case1 => cases h
  | case2 bytes _ => cases h
  | case3 bytes hb hs ih =>
    by_cases hr : bytes.drop size = []
    · rw [hr, cut_nil] at h
      cases h
    · have hn : cut size (bytes.drop size) ≠ [] := by
        intro he
        have hf := flatten_cut size (bytes.drop size)
        rw [he] at hf
        exact hr hf.symm
      rw [List.dropLast_cons_of_ne_nil hn] at h
      rcases List.mem_cons.mp h with rfl | h
      · rw [List.drop_eq_nil_iff, Nat.not_le] at hr
        exact List.length_take_of_le (Nat.le_of_lt hr)
      · exact ih h

lemma take_drop_flatMap {α : Type} {f : α → Bytes} {i : Nat} {values : List α} (size : Nat)
    (hf : ∀ value, (f value).length = size) (hi : i < values.length) :
    ((values.flatMap f).drop (size * i)).take size = f values[i] := by
  induction values generalizing i with
  | nil => cases hi
  | cons value values ih =>
    rw [List.flatMap_cons]
    cases i with
    | zero => exact List.take_left' (hf value)
    | succ i =>
      have hl : size * (i + 1) = (f value).length + size * i := by
        rw [hf, Nat.mul_add_one, Nat.add_comm]
      rw [hl, List.drop_length_add_append]
      exact ih (Nat.lt_of_succ_lt_succ hi)

end Camouflage.Bytes
