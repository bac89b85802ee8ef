import Camouflage.Record.Stream
import Mathlib.Tactic.Lemma

namespace Camouflage.Record

variable {a b bytes rest : Bytes} {record : Whole} {header : Header}

def headers (bytes : Bytes) : List Header :=
  let (records, rest) := split bytes
  records.map Whole.header ++ if headerLength ≤ rest.length then [.ofBytes rest] else []

lemma ofBytes_append (h : headerLength ≤ a.length) : Header.ofBytes (a ++ b) = Header.ofBytes a := by
  match a with
  | [] | [_] | [_, _] | [_, _, _] | [_, _, _, _] => simp [headerLength] at h
  | _ :: _ :: _ :: _ :: _ :: _ => simp [Header.ofBytes]

lemma first?_eq_some_iff : first? bytes = some (record, rest) ↔
    headerLength + (Header.ofBytes bytes).length.toNat ≤ bytes.length ∧
    record = ⟨.ofBytes bytes, (bytes.drop headerLength).take (Header.ofBytes bytes).length.toNat⟩ ∧
    rest = bytes.drop (headerLength + (Header.ofBytes bytes).length.toNat) := by
  rw [first?]
  split
  · next hl =>
    rw [Option.some_inj, Prod.mk.injEq, List.drop_drop]
    exact ⟨fun h => ⟨hl, h.1.symm, h.2.symm⟩, fun h => ⟨h.2.1.symm, h.2.2.symm⟩⟩
  · next hl =>
    constructor
    · intro h
      cases h
    · intro h
      exact absurd h.1 hl

lemma first?_eq_none_iff : first? bytes = none ↔
    bytes.length < headerLength + (Header.ofBytes bytes).length.toNat := by
  rw [first?]
  split
  · next hl =>
    constructor
    · intro h
      cases h
    · intro h
      exact absurd hl (Nat.not_le_of_lt h)
  · next hl => exact ⟨fun _ => Nat.lt_of_not_le hl, fun _ => rfl⟩

lemma header_of_first? (h : first? bytes = some (record, rest)) :
    record.header = .ofBytes bytes ∧ record.payload.length = record.header.length.toNat := by
  obtain ⟨hl, rfl, -⟩ := first?_eq_some_iff.mp h
  exact ⟨rfl, List.length_take_of_le (by rw [List.length_drop]; omega)⟩

lemma first?_append (h : first? a = some (record, rest)) :
    first? (a ++ b) = some (record, rest ++ b) := by
  obtain ⟨hl, rfl, rfl⟩ := first?_eq_some_iff.mp h
  have hle := Nat.le_of_add_right_le hl
  have hlb : (a ++ b).length = a.length + b.length := List.length_append
  rw [first?_eq_some_iff, ofBytes_append hle, List.drop_append_of_le_length hl,
    List.drop_append_of_le_length hle,
    List.take_append_of_le_length (by rw [List.length_drop]; omega)]
  exact ⟨by omega, rfl, rfl⟩

lemma split_of_none (h : first? bytes = none) : split bytes = ([], bytes) := by
  rw [split]
  split
  · rfl
  · next hs => rw [h] at hs; cases hs

lemma split_of_some (h : first? bytes = some (record, rest)) :
    split bytes = (record :: (split rest).1, (split rest).2) := by
  rw [split]
  split
  · next hn => rw [h] at hn; cases hn
  · next hs => rw [h] at hs; cases hs; rfl

inductive Reads : Bytes → List Whole → Bytes → Prop
  | nil (bytes : Bytes) : Reads bytes [] bytes
  | cons {bytes rest unread : Bytes} {record : Whole} {records : List Whole} :
      first? bytes = some (record, rest) → Reads rest records unread →
      Reads bytes (record :: records) unread

lemma Reads.append {c : Bytes} {records records' : List Whole} (h : Reads a records b)
    (h' : Reads b records' c) : Reads a (records ++ records') c := by
  induction h with
  | nil => exact h'
  | cons hf _ ih => exact .cons hf (ih h')

lemma Reads.split_eq {records : List Whole} (h : Reads a records b) :
    split a = (records ++ (split b).1, (split b).2) := by
  induction h with
  | nil => rfl
  | cons hf _ ih =>
    rw [split_of_some hf, ih]
    rfl

@[simp] lemma split_nil : split [] = ([], []) := split_of_none rfl

lemma split_append (a b : Bytes) :
    split (a ++ b) =
      ((split a).1 ++ (split ((split a).2 ++ b)).1, (split ((split a).2 ++ b)).2) := by
  fun_induction split a with
  | case1 a h => simp
  | case2 a record rest h records rest' hs ih =>
    rw [hs] at ih
    rw [split_of_some (first?_append h), ih]
    rfl

@[simp] lemma payloads_nil : payloads [] = [] := by rw [payloads, split_nil, List.map_nil]

lemma payloads_append (a b : Bytes) :
    payloads (a ++ b) = payloads a ++ payloads ((split a).2 ++ b) := by
  simp only [payloads, split_append a b, List.map_append]

lemma payloads_prefix (a b : Bytes) : payloads a <+: payloads (a ++ b) := by
  rw [payloads_append]
  exact List.prefix_append _ _

lemma headers_append (a b : Bytes) :
    headers (a ++ b) = (split a).1.map Whole.header ++ headers ((split a).2 ++ b) := by
  simp only [headers, split_append a b, List.map_append, List.append_assoc]

lemma ofBytes_mem_headers (h : headerLength ≤ bytes.length) : Header.ofBytes bytes ∈ headers bytes := by
  cases hf : first? bytes with
  | none => simp [headers, split_of_none hf, h]
  | some found =>
    obtain ⟨record, rest⟩ := found
    simp [headers, split_of_some hf, (header_of_first? hf).1]

lemma mem_headers_append (h : header ∈ headers a) : header ∈ headers (a ++ b) := by
  rw [headers_append, List.mem_append]
  rcases List.mem_append.mp h with h | h
  · exact Or.inl h
  · split at h
    · next hl =>
      obtain rfl := List.mem_singleton.mp h
      rw [← ofBytes_append (b := b) hl]
      exact Or.inr (ofBytes_mem_headers (by rw [List.length_append]; omega))
    · cases h

end Camouflage.Record
