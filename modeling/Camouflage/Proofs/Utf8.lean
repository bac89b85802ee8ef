import Camouflage.Bytes
import Mathlib.Tactic.Lemma
import Mathlib.Tactic.SplitIfs

namespace Camouflage.Bytes

variable {m n : Nat}

lemma cons_lt_cons (hn : n < 256) (h : m < n) (x y : Bytes) :
    UInt8.ofNat m :: x < UInt8.ofNat n :: y := by
  rw [List.cons_lt_cons_iff, UInt8.lt_iff_toNat_lt, UInt8.toNat_ofNat_of_lt' (Nat.lt_trans h hn),
    UInt8.toNat_ofNat_of_lt' hn]
  exact Or.inl h

lemma append_sixBits_lt {f : Nat → Bytes}
    (hf : m / 64 < n / 64 → ∀ x y, f (m / 64) ++ x < f (n / 64) ++ y) (h : m < n) (x y : Bytes) :
    f (m / 64) ++ UInt8.ofNat (m % 64 + 128) :: x <
      f (n / 64) ++ UInt8.ofNat (n % 64 + 128) :: y := by
  rcases Nat.lt_or_eq_of_le (Nat.div_le_div_right (c := 64) (Nat.le_of_lt h)) with hl | he
  · exact hf hl _ _
  · rw [he]
    apply List.append_left_lt
    exact cons_lt_cons (by omega) (by omega) x y

lemma twoBytes_lt (hn : n < 2048) (h : m < n) (x y : Bytes) :
    [UInt8.ofNat (m / 64 % 32 + 192)] ++ UInt8.ofNat (m % 64 + 128) :: x <
      [UInt8.ofNat (n / 64 % 32 + 192)] ++ UInt8.ofNat (n % 64 + 128) :: y := by
  apply append_sixBits_lt (f := fun q => [UInt8.ofNat (q % 32 + 192)]) ?_ h
  intro hq
  exact cons_lt_cons (by omega) (by omega)

lemma threeBytes_lt (hn : n < 65536) (h : m < n) (x y : Bytes) :
    [UInt8.ofNat (m / 64 / 64 % 16 + 224), UInt8.ofNat (m / 64 % 64 + 128)] ++
        UInt8.ofNat (m % 64 + 128) :: x <
      [UInt8.ofNat (n / 64 / 64 % 16 + 224), UInt8.ofNat (n / 64 % 64 + 128)] ++
        UInt8.ofNat (n % 64 + 128) :: y := by
  apply append_sixBits_lt
    (f := fun q => [UInt8.ofNat (q / 64 % 16 + 224), UInt8.ofNat (q % 64 + 128)]) ?_ h
  intro hq
  apply append_sixBits_lt (f := fun q => [UInt8.ofNat (q % 16 + 224)]) ?_ hq
  intro hq
  exact cons_lt_cons (by omega) (by omega)

lemma fourBytes_lt (hn : n < 2097152) (h : m < n) (x y : Bytes) :
    [UInt8.ofNat (m / 64 / 64 / 64 % 8 + 240), UInt8.ofNat (m / 64 / 64 % 64 + 128),
        UInt8.ofNat (m / 64 % 64 + 128)] ++ UInt8.ofNat (m % 64 + 128) :: x <
      [UInt8.ofNat (n / 64 / 64 / 64 % 8 + 240), UInt8.ofNat (n / 64 / 64 % 64 + 128),
        UInt8.ofNat (n / 64 % 64 + 128)] ++ UInt8.ofNat (n % 64 + 128) :: y := by
  apply append_sixBits_lt (f := fun q => [UInt8.ofNat (q / 64 / 64 % 8 + 240),
    UInt8.ofNat (q / 64 % 64 + 128), UInt8.ofNat (q % 64 + 128)]) ?_ h
  intro hq
  apply append_sixBits_lt
    (f := fun q => [UInt8.ofNat (q / 64 % 8 + 240), UInt8.ofNat (q % 64 + 128)]) ?_ hq
  intro hq
  apply append_sixBits_lt (f := fun q => [UInt8.ofNat (q % 8 + 240)]) ?_ hq
  intro hq
  exact cons_lt_cons (by omega) (by omega)

lemma utf8EncodeChar_lt {c d : Char} (h : c < d) (x y : Bytes) :
    String.utf8EncodeChar c ++ x < String.utf8EncodeChar d ++ y := by
  have hlt : c.val.toNat < d.val.toNat := h
  have hd : d.val.toNat < 1114112 := by
    have hv := d.valid
    simp only [UInt32.isValidChar, Nat.isValidChar] at hv
    omega
  have hdiv : ∀ v, v / 4096 = v / 64 / 64 ∧ v / 262144 = v / 64 / 64 / 64 := by
    intro v
    omega
  simp only [String.utf8EncodeChar, hdiv]
  generalize c.val.toNat = m at hlt ⊢
  generalize d.val.toNat = n at hlt hd ⊢
  split_ifs
  -- the shorter form has the smaller first byte, and forms of one length are ordered byte by byte
  all_goals first
    | exact cons_lt_cons (by omega) (by omega) _ _
    | exact twoBytes_lt (by omega) hlt x y
    | exact threeBytes_lt (by omega) hlt x y
    | exact fourBytes_lt (by omega) hlt x y

lemma ofChars_lt {s t : List Char} (h : s < t) : ofChars s < ofChars t := by
  induction s generalizing t with
  | nil =>
    cases t with
    | nil => exact absurd h (List.lt_irrefl [])
    | cons c t =>
      have hpos := c.utf8Size_pos
      rw [← String.length_utf8EncodeChar] at hpos
      obtain ⟨byte, bytes, hc⟩ := List.exists_cons_of_length_pos hpos
      rw [ofChars, ofChars, List.flatMap_cons, hc]
      exact List.nil_lt_cons _ _
  | cons c s ih =>
    cases t with
    | nil => exact absurd h (List.not_lt_nil _)
    | cons d t =>
      rw [ofChars, ofChars, List.flatMap_cons, List.flatMap_cons]
      rcases List.cons_lt_cons_iff.mp h with hlt | ⟨rfl, hlt⟩
      · exact utf8EncodeChar_lt hlt _ _
      · exact List.append_left_lt (ih hlt)

end Camouflage.Bytes
