namespace Camouflage

abbrev Bytes := List UInt8

namespace Bytes

/-- The last `width` bytes of a number, high byte first. -/
def bigEndian : (width : Nat) → (n : Nat) → Bytes
  | 0, _ => []
  | width + 1, n => bigEndian width (n / 256) ++ [UInt8.ofNat n]

def ofBigEndian (bytes : Bytes) : Nat :=
  bytes.foldl (fun n byte => 256 * n + byte.toNat) 0

def ofChars (text : List Char) : Bytes := text.flatMap String.utf8EncodeChar

def ofString (text : String) : Bytes := ofChars text.toList

/-- Bytes behind their own count, which is `width` bytes long. -/
def counted (width : Nat) (bytes : Bytes) : Bytes := bigEndian width bytes.length ++ bytes

def vector? (n : Nat) (bytes : Bytes) : Option (Vector UInt8 n × Bytes) :=
  if h : n ≤ bytes.length then
    some (⟨(bytes.take n).toArray, by simpa using Nat.min_eq_left h⟩, bytes.drop n)
  else none

def number? (width : Nat) (bytes : Bytes) : Option (Nat × Bytes) :=
  if width ≤ bytes.length then some (ofBigEndian (bytes.take width), bytes.drop width) else none

def counted? (width : Nat) (bytes : Bytes) : Option (Bytes × Bytes) :=
  match number? width bytes with
  | none => none
  | some (count, rest) =>
    if count ≤ rest.length then some (rest.take count, rest.drop count) else none

@[simp] theorem length_bigEndian (width n : Nat) : (bigEndian width n).length = width := by
  induction width generalizing n with
  | zero => rfl
  | succ width ih => simp [bigEndian, ih]

@[simp] theorem length_counted (width : Nat) (bytes : Bytes) :
    (counted width bytes).length = width + bytes.length := by
  simp [counted]

theorem eq_append_of_vector? {n : Nat} {bytes rest : Bytes} {first : Vector UInt8 n}
    (h : vector? n bytes = some (first, rest)) : bytes = first.toList ++ rest := by
  unfold vector? at h
  split at h
  · cases h
    simp
  · cases h

theorem vector?_eq_none_iff {n : Nat} {bytes : Bytes} :
    vector? n bytes = none ↔ bytes.length < n := by
  simp [vector?]

theorem length_of_number? {width n : Nat} {bytes rest : Bytes}
    (h : number? width bytes = some (n, rest)) : rest.length + width = bytes.length := by
  unfold number? at h
  split at h
  · cases h
    simp only [List.length_drop]
    omega
  · cases h

theorem length_of_counted? {width : Nat} {bytes first rest : Bytes}
    (h : counted? width bytes = some (first, rest)) :
    first.length + rest.length + width = bytes.length := by
  unfold counted? at h
  split at h
  · cases h
  · next hn =>
    have := length_of_number? hn
    split at h
    · cases h
      simp only [List.length_take, List.length_drop]
      omega
    · cases h

/-- With size zero the bytes stay whole. -/
def cut (size : Nat) (bytes : Bytes) : List Bytes :=
  if bytes = [] then []
  else if size = 0 then [bytes]
  else bytes.take size :: cut size (bytes.drop size)
termination_by bytes.length
decreasing_by
  rename_i h _
  have := List.length_pos_iff.mpr h
  simp only [List.length_drop]
  omega

@[simp] theorem cut_nil (size : Nat) : cut size [] = [] := by
  rw [cut]
  rfl

theorem flatten_cut (size : Nat) (bytes : Bytes) : (cut size bytes).flatten = bytes := by
  fun_induction cut size bytes with
  | case1 => rfl
  | case2 => simp
  | case3 bytes _ _ ih => simp [ih]

theorem ne_nil_of_mem_cut {size : Nat} {bytes piece : Bytes} (h : piece ∈ cut size bytes) :
    piece ≠ [] := by
  fun_induction cut size bytes with
  | case1 => simp at h
  | case2 bytes hb => simp_all
  | case3 bytes hb hs ih =>
    rcases List.mem_cons.mp h with rfl | h
    · simpa [List.take_eq_nil_iff] using ⟨hs, hb⟩
    · exact ih h

end Bytes

end Camouflage
