import Camouflage.Proofs.Record.Reader

/-! Which of the records in some bytes are accepted: all up to the first that does not fit. A reader that
has come to the end of some records has found that they all fit. -/

namespace Camouflage.Record

def accepted (capacity : Nat) (bytes : Bytes) : List Bytes := (parse capacity .closed bytes).1

variable {a bytes rest piece payload read : Bytes} {record : Whole} {header : Header} {capacity : Nat}
  {reader reader' : Reader} {ending : Ending}

lemma first?_split (bytes : Bytes) : first? (split bytes).2 = none := by
  fun_induction split bytes with
  | case1 _ h => exact h
  | case2 _ _ _ _ _ _ hs ih =>
    rw [hs] at ih
    exact ih

lemma parse_of_some (h : first? bytes = some (record, rest)) (hc : record.payload.length ≤ capacity) :
    parse capacity ending bytes =
      (record.payload :: (parse capacity ending rest).1, (parse capacity ending rest).2) := by
  obtain ⟨hh, hl⟩ := header_of_first? h
  rw [parse, if_neg (Nat.not_lt_of_le (Nat.le_of_add_right_le (first?_eq_some_iff.mp h).1))]
  rw [if_neg (by rw [← hh, ← hl]; exact Nat.not_lt_of_le hc)]
  split
  · next hn =>
    rw [h] at hn
    cases hn
  · next hs =>
    rw [h] at hs
    cases hs
    rfl

lemma parse_of_tooLong (hl : headerLength ≤ bytes.length)
    (hc : capacity < (Header.ofBytes bytes).length.toNat) :
    parse capacity ending bytes =
      ([], .recordTooLong (.ofBytes bytes) capacity, bytes.drop headerLength) := by
  rw [parse, if_neg (Nat.not_lt_of_le hl), if_pos hc]

lemma parse_of_none (h : first? bytes = none)
    (hc : headerLength ≤ bytes.length → (Header.ofBytes bytes).length.toNat ≤ capacity) :
    parse capacity ending bytes = ([], ending.error, []) := by
  rw [parse]
  by_cases hl : bytes.length < headerLength
  · rw [if_pos hl]
  · rw [if_neg hl, if_neg (Nat.not_lt_of_le (hc (Nat.le_of_not_lt hl)))]
    split
    · rfl
    · next hs =>
      rw [h] at hs
      cases hs

lemma accepted_of_none (h : first? bytes = none) : accepted capacity bytes = [] := by
  rw [accepted]
  by_cases hc : headerLength ≤ bytes.length → (Header.ofBytes bytes).length.toNat ≤ capacity
  · rw [parse_of_none h hc]
  · rw [Classical.not_imp, Nat.not_le] at hc
    rw [parse_of_tooLong hc.1 hc.2]

lemma accepted_of_some (h : first? bytes = some (record, rest)) (hc : record.payload.length ≤ capacity) :
    accepted capacity bytes = record.payload :: accepted capacity rest := by
  rw [accepted, parse_of_some h hc]
  rfl

lemma accepted_of_tooLong (hl : headerLength ≤ bytes.length)
    (hc : capacity < (Header.ofBytes bytes).length.toNat) : accepted capacity bytes = [] := by
  rw [accepted, parse_of_tooLong hl hc]

lemma accepted_append (h : ∀ payload ∈ payloads a, payload.length ≤ capacity) (b : Bytes) :
    accepted capacity (a ++ b) = payloads a ++ accepted capacity ((split a).2 ++ b) := by
  fun_induction split a with
  | case1 a ha =>
    rw [payloads, split_of_none ha]
    rfl
  | case2 a record rest ha records rest' hs ih =>
    have hp : payloads a = record.payload :: payloads rest := by
      rw [payloads, split_of_some ha]
      rfl
    rw [hp] at h ⊢
    rw [hs] at ih
    rw [accepted_of_some (first?_append ha) (h _ List.mem_cons_self),
      ih fun _ hm => h _ (List.mem_cons_of_mem _ hm)]
    rfl

lemma accepted_eq_payloads (h : ∀ payload ∈ payloads bytes, payload.length ≤ capacity) :
    accepted capacity bytes = payloads bytes := by
  have ha := accepted_append h []
  rwa [List.append_nil, List.append_nil, accepted_of_none (first?_split bytes), List.append_nil] at ha

namespace Reader

def Fits (capacity : Nat) : Reader → Prop
  | .header _ _ => True
  | .payload got missing _ => got.length + missing ≤ capacity

lemma Fits.incomplete (h : reader.Fits capacity) (hp : piece.length ≤ reader.missing)
    (hf : reader.feed capacity piece = .incomplete reader') : reader'.Fits capacity := by
  cases reader with
  | header got short =>
    simp only [feed, begin] at hf
    split at hf
    · cases hf
      trivial
    · split at hf
      · cases hf
      · next hc =>
        split at hf
        · cases hf
          simp only [Fits, List.length_nil]
          omega
        · cases hf
  | payload got missing pos =>
    simp only [feed] at hf
    simp only [Fits, Reader.missing] at h hp
    split at hf
    · cases hf
      simp only [Fits, List.length_append, List.length_reverse]
      omega
    · cases hf

lemma Fits.complete (h : reader.Fits capacity) (hp : piece.length ≤ reader.missing)
    (hf : reader.feed capacity piece = .complete payload) : payload.length ≤ capacity := by
  cases reader with
  | header got short =>
    simp only [feed, begin] at hf
    split at hf
    · cases hf
    · split at hf
      · cases hf
      · split at hf
        · cases hf
        · cases hf
          exact Nat.zero_le _
  | payload got missing pos =>
    simp only [feed] at hf
    simp only [Fits, Reader.missing] at h hp
    split at hf
    · cases hf
    · cases hf
      simp only [List.length_reverse, List.length_append]
      omega

lemma StandsAt.accepted_tooLong (h : reader.StandsAt read) (hp : piece.length ≤ reader.missing)
    (hf : reader.feed capacity piece = .tooLong header)
    (hfit : ∀ payload ∈ Record.payloads read, payload.length ≤ capacity) (more : Bytes) :
    accepted capacity (read ++ piece ++ more) = Record.payloads read := by
  obtain ⟨hl, rfl, hc⟩ := header_of_feed h hp hf
  rw [List.append_assoc, accepted_append hfit, ← List.append_assoc]
  rw [accepted_of_tooLong, List.append_nil]
  · rw [List.length_append]
    omega
  · rw [ofBytes_append (Nat.le_of_eq hl.symm)]
    exact hc

end Reader

end Camouflage.Record
