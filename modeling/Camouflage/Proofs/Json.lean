import Camouflage.Json.Reader
import Camouflage.Json.Text
import Camouflage.Proofs.Decimal

namespace Camouflage.Json

variable {c : Char} {text written piece digits blanks rest : List Char}

def IsBlanks (blanks : List Char) : Prop := ∀ c ∈ blanks, isBlank c = true

lemma skipBlank_append (h : IsBlanks blanks) (text : List Char) :
    skipBlank (blanks ++ text) = skipBlank text :=
  List.dropWhile_append_of_pos h

lemma skipBlank_eq_nil (h : IsBlanks blanks) : skipBlank blanks = [] := by
  have hs := skipBlank_append h []
  rw [List.append_nil] at hs
  exact hs

lemma skipBlank_cons (h : isBlank c = false) (text : List Char) : skipBlank (c :: text) = c :: text := by
  rw [skipBlank, List.dropWhile_cons, h]
  rfl

lemma isBlanks_nil : IsBlanks [] := List.forall_mem_nil _

def IsHex (digits : List Char) : Prop := digits.length = 4 ∧ ∀ c ∈ digits, (hexDigit? c).isSome

def hexValue (digits : List Char) : Nat :=
  (digits.filterMap hexDigit?).foldl (fun n digit => 16 * n + digit) 0

inductive Spells (c : Char) : List Char → Prop
  | plain : ' ' ≤ c → c ≠ '"' → c ≠ '\\' → Spells c [c]
  | short {letter : Char} : escapes.lookup letter = some c → Spells c ['\\', letter]
  | hex {digits : List Char} : IsHex digits → hexValue digits = c.toNat →
      Spells c ('\\' :: 'u' :: digits)
  | surrogates {high low : List Char} : IsHex high → IsHex low → isHighSurrogate (hexValue high) →
      isLowSurrogate (hexValue low) → joinSurrogates (hexValue high) (hexValue low) = c →
      Spells c ('\\' :: 'u' :: high ++ '\\' :: 'u' :: low)

inductive IsSpelled : (text : List Char) → (written : List Char) → Prop
  | nil : IsSpelled [] []
  | cons {c : Char} {piece text written : List Char} : Spells c piece → IsSpelled text written →
      IsSpelled (c :: text) (piece ++ written)

lemma readHex_append (h : IsHex digits) (text : List Char) :
    readHex (digits ++ text) = .ok (hexValue digits, text) := by
  obtain ⟨hl, hd⟩ := h
  have hs : (digits.filterMap hexDigit?).length = 4 := by
    rw [List.filterMap_length_eq_length.mpr hd, hl]
  simp only [readHex, ← hl, List.take_left, List.drop_left]
  rw [if_pos (hs.trans hl.symm)]
  rfl

lemma not_surrogate (c : Char) : isLowSurrogate c.toNat = false ∧ isHighSurrogate c.toNat = false := by
  have hv : c.toNat < 0xd800 ∨ 0xdfff < c.toNat ∧ c.toNat < 0x110000 := c.valid
  simp only [isLowSurrogate, isHighSurrogate, Bool.and_eq_false_iff, decide_eq_false_iff_not]
  omega

lemma readEscape_short {letter : Char} (h : escapes.lookup letter = some c) (text : List Char) :
    readEscape (letter :: text) = .ok (c, text) := by
  simp only [readEscape, h]

lemma readEscape_hex (h : IsHex digits) (hc : hexValue digits = c.toNat) (text : List Char) :
    readEscape ('u' :: (digits ++ text)) = .ok (c, text) := by
  obtain ⟨hlow, hhigh⟩ := not_surrogate c
  have hu : escapes.lookup 'u' = none := rfl
  simp only [readEscape, hu, readHex_append h, hc, hlow, hhigh, Char.ofNat_toNat]
  rfl

lemma readEscape_surrogates {high low : List Char} (hhigh : IsHex high) (hlow : IsHex low)
    (hh : isHighSurrogate (hexValue high)) (hl : isLowSurrogate (hexValue low)) (text : List Char) :
    readEscape ('u' :: (high ++ '\\' :: 'u' :: (low ++ text))) =
      .ok (joinSurrogates (hexValue high) (hexValue low), text) := by
  have hu : escapes.lookup 'u' = none := rfl
  have hn : isLowSurrogate (hexValue high) = false := by
    simp only [isHighSurrogate, Bool.and_eq_true, decide_eq_true_eq] at hh
    simp only [isLowSurrogate, Bool.and_eq_false_iff, decide_eq_false_iff_not]
    omega
  simp only [readEscape, hu, readHex_append hhigh, hn, hh, readLowSurrogate, readHex_append hlow, hl]
  rfl

lemma readString_escape {text rest : List Char} (h : readEscape text = .ok (c, rest)) :
    readString ('\\' :: text) = (readString rest).map fun (value, rest) => (c :: value, rest) := by
  rw [readString]
  split
  · next he => cases h.symm.trans he
  · next he =>
    cases h.symm.trans he
    cases readString rest <;> rfl

lemma readString_of_spells (h : Spells c piece) (text : List Char) :
    readString (piece ++ text) = (readString text).map fun (value, rest) => (c :: value, rest) := by
  cases h with
  | plain hp hq hb =>
    rw [List.singleton_append, readString, if_neg (Char.not_lt.mpr hp)]
    · cases readString text <;> rfl
    · exact hq
    · exact hb
  | short hl => exact readString_escape (readEscape_short hl text)
  | hex hd hv => exact readString_escape (readEscape_hex hd hv text)
  | surrogates hhigh hlow hh hl hj =>
    subst hj
    have he := readEscape_surrogates hhigh hlow hh hl text
    rw [List.append_assoc]
    exact readString_escape he

lemma readString_append (h : IsSpelled text written) (rest : List Char) :
    readString (written ++ '"' :: rest) = .ok (text, rest) := by
  induction h with
  | nil => rw [List.nil_append, readString]
  | cons hc _ ih =>
    rw [List.append_assoc, readString_of_spells hc, ih]
    rfl

lemma readText_append (hb : IsBlanks blanks) (h : IsSpelled text written) (rest : List Char) :
    readText (blanks ++ '"' :: (written ++ '"' :: rest)) = .ok (text, rest) := by
  simp only [readText, skipBlank_append hb, skipBlank_cons (c := '"') rfl]
  exact readString_append h rest

lemma hexDigit?_digitChar : ∀ digit < 16, hexDigit? digit.digitChar = some digit := by decide

lemma hexValue_append_digitChar {digit : Nat} (h : digit < 16) (digits : List Char) :
    hexValue (digits ++ [digit.digitChar]) = 16 * hexValue digits + digit := by
  simp only [hexValue, List.filterMap_append, List.filterMap_cons, hexDigit?_digitChar digit h,
    List.filterMap_nil, List.foldl_append]
  rfl

lemma hexValue_replicate_append (count : Nat) (digits : List Char) :
    hexValue (List.replicate count '0' ++ digits) = hexValue digits := by
  induction count with
  | zero => rfl
  | succ count ih => exact ih

lemma toDigits_hex (n : Nat) :
    (∀ c ∈ Nat.toDigits 16 n, (hexDigit? c).isSome) ∧ hexValue (Nat.toDigits 16 n) = n := by
  induction n using Nat.strongRecOn with
  | ind n ih =>
    have hlast : n % 16 < 16 := Nat.mod_lt _ (by decide)
    have hsome : ∀ {digit : Nat}, digit < 16 → (hexDigit? digit.digitChar).isSome := by
      intro digit hd
      rw [hexDigit?_digitChar digit hd]
      rfl
    by_cases hn : n < 16
    · rw [Nat.toDigits_of_lt_base hn]
      refine ⟨List.forall_mem_singleton.mpr (hsome hn), ?_⟩
      exact (hexValue_append_digitChar hn []).trans (Nat.zero_add n)
    · have hle := Nat.le_of_not_lt hn
      obtain ⟨hd, hv⟩ := ih (n / 16) (Nat.div_lt_self (by omega) (by decide))
      rw [Nat.toDigits_of_base_le (by decide) hle]
      refine ⟨List.forall_mem_append.mpr ⟨hd, List.forall_mem_singleton.mpr (hsome hlast)⟩, ?_⟩
      rw [hexValue_append_digitChar hlast, hv]
      omega

lemma spells_controlEscape (h : c.toNat < 65536) : Spells c (controlEscape c) := by
  obtain ⟨hd, hv⟩ := toDigits_hex c.toNat
  have hl : (Nat.toDigits 16 c.toNat).length ≤ 4 :=
    (Nat.length_toDigits_le_iff (by decide) (by decide)).mpr h
  have hlength : (List.replicate (4 - (Nat.toDigits 16 c.toNat).length) '0' ++
      Nat.toDigits 16 c.toNat).length = 4 := by
    rw [List.length_append, List.length_replicate]
    omega
  refine .hex ⟨hlength, List.forall_mem_append.mpr ⟨?_, hd⟩⟩ ?_
  · intro d hm
    rw [List.eq_of_mem_replicate hm]
    rfl
  · exact (hexValue_replicate_append _ _).trans hv

lemma spells_escape (c : Char) : Spells c (escape c) := by
  unfold escape
  split
  · next hc =>
    apply Spells.short
    rcases hc with rfl | rfl <;> rfl
  · next hc =>
    rw [not_or] at hc
    split
    · next hlt =>
      have hn : c.toNat < 32 := hlt
      exact spells_controlEscape (Nat.lt_trans hn (by decide))
    · next hge => exact .plain (Char.not_lt.mp hge) hc.1 hc.2

lemma isSpelled_flatMap (text : List Char) : IsSpelled text (text.flatMap escape) := by
  induction text with
  | nil => exact .nil
  | cons c text ih => exact .cons (spells_escape c) ih

def Delimits (rest : List Char) : Prop :=
  ∀ c ∈ rest.head?, c.isDigit = false ∧ c ≠ '.' ∧ c ≠ 'e' ∧ c ≠ 'E'

lemma Delimits.startsWithDigit (h : Delimits rest) : startsWithDigit rest = false := by
  cases rest with
  | nil => rfl
  | cons c rest =>
    have hc := (h c rfl).1
    simp [Json.startsWithDigit, Decimal.digit?, hc]

lemma Delimits.skipDigits (h : Delimits rest) : skipDigits rest = rest := by
  cases rest with
  | nil => rfl
  | cons c rest =>
    have hc := (h c rfl).1
    simp [Json.skipDigits, Decimal.digit?, hc]

lemma Delimits.readAfterInteger (h : Delimits rest) (isNegative : Bool) (significand : Nat) :
    readAfterInteger isNegative significand 0 rest =
      .ok (.ofInteger isNegative significand, rest) := by
  unfold Json.readAfterInteger
  split
  · exact absurd rfl (h '.' rfl).2.1
  · exact absurd rfl (h 'e' rfl).2.2.1
  · exact absurd rfl (h 'E' rfl).2.2.2
  · exact if_pos rfl

lemma takeDigits_append {significand : Nat} (hd : ∀ c ∈ digits, c.isDigit)
    (hb : Decimal.valueFrom significand digits < Number.wholeBound) (hr : Delimits rest) :
    takeDigits significand (digits ++ rest) =
      (Decimal.valueFrom significand digits, digits.length, rest) := by
  induction digits generalizing significand with
  | nil =>
    cases rest with
    | nil => rfl
    | cons c rest =>
      have hc := (hr c rfl).1
      simp [takeDigits, Decimal.digit?, hc, Decimal.valueFrom]
  | cons c digits ih =>
    have hle := Decimal.le_valueFrom (10 * significand + (c.toNat - '0'.toNat)) digits
    have hlt : ¬ Number.wholeBound ≤ 10 * significand + (c.toNat - '0'.toNat) :=
      Nat.not_le_of_lt (Nat.lt_of_le_of_lt hle hb)
    have hi := ih (fun d hm => hd d (List.mem_cons_of_mem _ hm)) hb
    simp only [List.cons_append, takeDigits, Decimal.digit?_of_isDigit (hd c List.mem_cons_self),
      if_neg hlt, hi]
    rfl

lemma readNumber_toDigits {n : Nat} (hn : n < Number.wholeBound) (hr : Delimits rest) :
    readNumber false (Nat.toDigits 10 n ++ rest) = .ok (.whole n, rest) := by
  rcases Nat.eq_zero_or_pos n with rfl | hpos
  · have hs := hr.startsWithDigit
    simp only [Nat.toDigits_zero, List.singleton_append, readNumber, hs]
    exact hr.readAfterInteger false 0
  · obtain ⟨-, hd⟩ := Decimal.isNumeral_toDigits n
    have hv := Decimal.value_toDigits n
    have hz := Decimal.head_toDigits_ne hpos
    cases hdigits : Nat.toDigits 10 n with
    | nil => exact absurd hdigits Nat.toDigits_ne_nil
    | cons c digits =>
      rw [hdigits] at hd hv hz
      have hc : c ≠ '0' := fun he => hz (by rw [he]; rfl)
      have hf : Decimal.valueFrom (c.toNat - '0'.toNat) digits = n := by
        rw [← hv]
        simp only [Decimal.value, List.foldl_cons, Nat.mul_zero, Nat.zero_add]
        rfl
      have ht := takeDigits_append (fun d hm => hd d (List.mem_cons_of_mem _ hm)) (by rw [hf]; exact hn) hr
      rw [List.cons_append, readNumber]
      · simp only [Decimal.digit?_of_isDigit (hd c List.mem_cons_self), ht, hr.skipDigits, hf,
          Nat.sub_self]
        exact hr.readAfterInteger false n
      · exact hc

lemma readWhole_append (hb : IsBlanks blanks) (hr : Delimits rest) (n : UInt64) :
    readWhole (blanks ++ (Nat.toDigits 10 n.toNat ++ rest)) = .ok (n, rest) := by
  have hread := readNumber_toDigits n.toNat_lt hr
  obtain ⟨hne, hd⟩ := Decimal.isNumeral_toDigits n.toNat
  cases hdigits : Nat.toDigits 10 n.toNat with
  | nil => exact absurd hdigits hne
  | cons c digits =>
    rw [hdigits] at hread hd
    have hc := hd c List.mem_cons_self
    have hblank : isBlank c = false := by
      apply Bool.of_not_eq_true
      intro ht
      simp only [isBlank, Bool.or_eq_true, decide_eq_true_eq] at ht
      rcases ht with ((rfl | rfl) | rfl) | rfl <;> exact absurd hc (by decide)
    rw [List.cons_append] at hread ⊢
    rw [readWhole, skipBlank_append hb, skipBlank_cons hblank]
    split
    · next he =>
      cases he
      exact absurd hc (by decide)
    · next he =>
      cases he
      rw [if_pos hc, hread]
      exact congrArg (fun n => Except.ok (n, rest)) UInt64.ofNat_toNat
    · next he => cases he

lemma readBoolean_append (hb : IsBlanks blanks) (value : Bool) (rest : List Char) :
    readBoolean (blanks ++ ((toString value).toList ++ rest)) = .ok (value, rest) := by
  rw [readBoolean, skipBlank_append hb]
  cases value <;> rfl

end Camouflage.Json
