import Camouflage.Proofs.Record.Split

/-! A reader holds the bytes of the record that it reads. With each piece it takes in, it stands
where `split` stands on all the bytes read so far. -/

namespace Camouflage.Record

def Reader.Holds : Reader → Bytes → Prop
  | .header got _, held => held = got
  | .payload got missing _, held =>
    ∃ head : Bytes, head.length = headerLength ∧ held = head ++ got.reverse ∧
      (Header.ofBytes head).length.toNat = got.length + missing

def Reader.StandsAt (reader : Reader) (read : Bytes) : Prop := reader.Holds (split read).2

variable {reader reader' : Reader} {held piece payload read : Bytes} {header : Header} {capacity : Nat}

namespace Reader

lemma first?_of_holds (h : reader.Holds held) : first? held = none := by
  cases reader with
  | header got short =>
    cases h
    rw [first?_eq_none_iff]
    omega
  | payload got missing pos =>
    obtain ⟨head, hl, rfl, hg⟩ := h
    rw [first?_eq_none_iff, ofBytes_append (Nat.le_of_eq hl.symm), List.length_append, List.length_reverse]
    omega

lemma first?_head {head : Bytes} (hl : head.length = headerLength)
    (hp : payload.length = (Header.ofBytes head).length.toNat) :
    first? (head ++ payload) = some (⟨.ofBytes head, payload⟩, []) := by
  simp only [first?, ofBytes_append (Nat.le_of_eq hl.symm), List.length_append, hl, hp]
  rw [if_pos (Nat.le_refl _), ← hl, List.drop_left, ← hp]
  simp

lemma holds_of_feed (h : reader.Holds held) (hp : piece.length ≤ reader.missing)
    (hf : reader.feed capacity piece = .incomplete reader') : reader'.Holds (held ++ piece) := by
  cases reader with
  | header got short =>
    cases h
    simp only [feed, begin] at hf
    split at hf
    · cases hf
      rfl
    · next hs =>
      have hl : (held ++ piece).length = headerLength := by
        simp only [missing] at hp
        rw [List.length_append] at hs ⊢
        omega
      split at hf
      · cases hf
      · split at hf
        · cases hf
          exact ⟨held ++ piece, hl, by simp, by simp⟩
        · cases hf
  | payload got missing pos =>
    obtain ⟨head, hl, rfl, hg⟩ := h
    simp only [feed] at hf
    simp only [Reader.missing] at hp
    split at hf
    · cases hf
      refine ⟨head, hl, by simp, ?_⟩
      rw [hg, List.length_append, List.length_reverse]
      omega
    · cases hf

lemma first?_of_feed (h : reader.Holds held) (hp : piece.length ≤ reader.missing)
    (hf : reader.feed capacity piece = .complete payload) :
    ∃ header, first? (held ++ piece) = some (⟨header, payload⟩, []) := by
  cases reader with
  | header got short =>
    cases h
    simp only [feed, begin] at hf
    split at hf
    · cases hf
    · next hs =>
      have hl : (held ++ piece).length = headerLength := by
        simp only [missing] at hp
        rw [List.length_append] at hs ⊢
        omega
      split at hf
      · cases hf
      · split at hf
        · cases hf
        · next hz =>
          cases hf
          refine ⟨.ofBytes (held ++ piece), ?_⟩
          have hn : ([] : Bytes).length = (Header.ofBytes (held ++ piece)).length.toNat := by
            rw [List.length_nil]
            omega
          simpa using first?_head hl hn
  | payload got missing pos =>
    obtain ⟨head, hl, rfl, hg⟩ := h
    simp only [feed] at hf
    simp only [Reader.missing] at hp
    split at hf
    · cases hf
    · next hm =>
      cases hf
      refine ⟨.ofBytes head, ?_⟩
      rw [List.append_assoc, List.reverse_append, List.reverse_reverse]
      apply first?_head hl
      rw [hg, List.length_append, List.length_reverse]
      omega

lemma header_of_feed (h : reader.Holds held) (hp : piece.length ≤ reader.missing)
    (hf : reader.feed capacity piece = .tooLong header) :
    (held ++ piece).length = headerLength ∧ header = .ofBytes (held ++ piece) ∧
      capacity < header.length.toNat := by
  cases reader with
  | header got short =>
    cases h
    simp only [feed, begin] at hf
    split at hf
    · cases hf
    · next hs =>
      split at hf
      · next hc =>
        cases hf
        refine ⟨?_, rfl, hc⟩
        simp only [missing] at hp
        rw [List.length_append] at hs ⊢
        omega
      · split at hf <;> cases hf
  | payload got missing pos =>
    simp only [feed] at hf
    split at hf <;> cases hf

lemma standsAt_start : start.StandsAt read ↔ (split read).2 = [] := Iff.rfl

lemma StandsAt.incomplete (h : reader.StandsAt read) (hp : piece.length ≤ reader.missing)
    (hf : reader.feed capacity piece = .incomplete reader') :
    reader'.StandsAt (read ++ piece) ∧ Record.payloads (read ++ piece) = Record.payloads read := by
  have hh := holds_of_feed h hp hf
  have hs : split (read ++ piece) = ((split read).1, (split read).2 ++ piece) := by
    rw [split_append, split_of_none (first?_of_holds hh), List.append_nil]
  rw [StandsAt, Record.payloads, hs]
  exact ⟨hh, rfl⟩

lemma StandsAt.complete (h : reader.StandsAt read) (hp : piece.length ≤ reader.missing)
    (hf : reader.feed capacity piece = .complete payload) :
    start.StandsAt (read ++ piece) ∧
      Record.payloads (read ++ piece) = Record.payloads read ++ [payload] := by
  obtain ⟨header, hh⟩ := first?_of_feed h hp hf
  have hs : split (read ++ piece) = ((split read).1 ++ [⟨header, payload⟩], []) := by
    rw [split_append, split_of_some hh, split_nil]
  rw [standsAt_start, Record.payloads, hs, List.map_append]
  exact ⟨rfl, rfl⟩

lemma StandsAt.tooLong (h : reader.StandsAt read) (hp : piece.length ≤ reader.missing)
    (hf : reader.feed capacity piece = .tooLong header) :
    header ∈ headers (read ++ piece) ∧ capacity < header.length.toNat ∧
      Record.payloads (read ++ piece) = Record.payloads read := by
  obtain ⟨hl, rfl, hc⟩ := header_of_feed h hp hf
  have hn : first? ((split read).2 ++ piece) = none := by
    rw [first?_eq_none_iff]
    omega
  refine ⟨?_, hc, ?_⟩
  · rw [headers_append, List.mem_append]
    exact Or.inr (ofBytes_mem_headers (Nat.le_of_eq hl.symm))
  · rw [Record.payloads, split_append, split_of_none hn, List.append_nil]
    rfl

end Reader

end Camouflage.Record
