import Camouflage.Proofs.Connection
import Camouflage.Proofs.Record.Accepted

/-! What is read from a stream depends on its bytes and its end alone, not on its chunks: record by record
it is what parsing the bytes finds. -/

namespace Camouflage.Record

section

variable (capacity : Nat) (ending : Ending) (bytes : Bytes)

inductive Attempt : Outcome → Bytes → Prop
  | record {record : Whole} {rest : Bytes} : first? bytes = some (record, rest) →
      record.payload.length ≤ capacity → Attempt (.record record.payload) rest
  | tooLong : headerLength ≤ bytes.length → capacity < (Header.ofBytes bytes).length.toNat →
      Attempt (.failed (.recordTooLong (.ofBytes bytes) capacity)) (bytes.drop headerLength)
  | cutShort : first? bytes = none →
      (headerLength ≤ bytes.length → (Header.ofBytes bytes).length.toNat ≤ capacity) →
      Attempt (.failed ending.error) []

structure Decided (outcome : Outcome) (unread : Bytes) : Prop where
  record_iff : ∀ payload, outcome = .record payload ↔
    headerLength + (Header.ofBytes bytes).length.toNat ≤ bytes.length ∧
    (Header.ofBytes bytes).length.toNat ≤ capacity ∧
    payload = (bytes.drop headerLength).take (Header.ofBytes bytes).length.toNat
  consumed : ∀ payload, outcome = .record payload →
    unread = bytes.drop (headerLength + (Header.ofBytes bytes).length.toNat)
  tooLong : headerLength ≤ bytes.length → capacity < (Header.ofBytes bytes).length.toNat →
    unread = bytes.drop headerLength ∧ ∃ error, outcome = .failed error ∧
      error.kind = .invalidData ∧
      error.message = "Record of type " ++
        IoError.hexadecimal 2 (Header.ofBytes bytes).contentType.toNat ++ ", version " ++
        IoError.hexadecimal 4 (Header.ofBytes bytes).version.toNat ++ " and " ++
        toString (Header.ofBytes bytes).length.toNat ++ " bytes does not fit in a buffer of " ++
        toString capacity ++ " bytes"
  cutShort : bytes.length < headerLength ∨ (Header.ofBytes bytes).length.toNat ≤ capacity ∧
      bytes.length < headerLength + (Header.ofBytes bytes).length.toNat →
    unread = [] ∧ ∃ error, outcome = .failed error ∧
      match ending with
      | .closed => error.kind = .unexpectedEof
      | .failed own => error = own

end

variable {capacity : Nat} {ending : Ending} {bytes held unread : Bytes} {reader : Reader}
  {source : Source} {outcome : Outcome} {record : Whole} {rest : Bytes}

lemma Attempt.decided (h : Attempt capacity ending bytes outcome unread) :
    Decided capacity ending bytes outcome unread := by
  cases h with
  | @record record rest hf hc =>
    obtain ⟨hl, rfl, rfl⟩ := first?_eq_some_iff.mp hf
    have hn := (header_of_first? hf).2
    rw [hn] at hc
    refine ⟨?_, ?_, ?_, ?_⟩
    · intro payload
      rw [Outcome.record.injEq]
      exact ⟨fun h => ⟨hl, hc, h.symm⟩, fun h => h.2.2.symm⟩
    · exact fun _ _ => rfl
    · exact fun _ h => absurd hc (Nat.not_le_of_lt h)
    · intro h
      omega
  | tooLong hl hc =>
    refine ⟨?_, nofun, ?_, ?_⟩
    · exact fun payload => ⟨nofun, fun h => absurd h.2.1 (Nat.not_le_of_lt hc)⟩
    · exact fun _ _ => ⟨rfl, _, rfl, rfl, rfl⟩
    · intro h
      omega
  | cutShort hf hc =>
    have hl := first?_eq_none_iff.mp hf
    refine ⟨?_, nofun, ?_, ?_⟩
    · exact fun payload => ⟨nofun, fun h => absurd h.1 (Nat.not_le_of_lt hl)⟩
    · exact fun h hn => absurd (hc h) (Nat.not_le_of_lt hn)
    · refine fun _ => ⟨rfl, _, rfl, ?_⟩
      cases ending <;> rfl

lemma Attempt.parse_of_record {payload : Bytes}
    (h : Attempt capacity ending bytes (.record payload) unread) :
    parse capacity ending bytes =
      (payload :: (parse capacity ending unread).1, (parse capacity ending unread).2) := by
  cases h with
  | record hf hc => exact parse_of_some hf hc

lemma Attempt.parse_of_failed (h : Attempt capacity ending bytes outcome unread)
    (hn : ∀ payload, outcome ≠ .record payload) :
    ∃ error, outcome = .failed error ∧ parse capacity ending bytes = ([], error, unread) := by
  cases h with
  | record => exact (hn _ rfl).elim
  | tooLong hl hc => exact ⟨_, rfl, parse_of_tooLong hl hc⟩
  | cutShort hf hc => exact ⟨_, rfl, parse_of_none hf hc⟩

lemma Reader.Holds.length_le (h : reader.Holds held) (hf : reader.Fits capacity)
    (hl : headerLength ≤ held.length) : (Header.ofBytes held).length.toNat ≤ capacity := by
  cases reader with
  | header got short =>
    cases h
    exact absurd hl (Nat.not_le_of_lt short)
  | payload got missing pos =>
    obtain ⟨head, hh, rfl, hg⟩ := h
    rw [ofBytes_append (Nat.le_of_eq hh.symm), hg]
    exact hf

lemma attempt_of_resume (hh : reader.Holds held) (hf : reader.Fits capacity)
    (hn : [] ∉ source.chunks) (he : source.ending = some ending) :
    Attempt capacity ending (held ++ source.bytes) (resume capacity reader source).1
      (resume capacity reader source).2.bytes := by
  fun_induction resume capacity reader source generalizing held with
  | case1 reader source hr =>
    rw [(Source.read_eq_waits hr).2] at he
    cases he
  | case2 reader source hr =>
    obtain ⟨hc, hend⟩ := Source.ended_of_read hn reader.missing_pos hr
    obtain rfl : .closed = ending := Option.some.inj (hend.symm.trans he)
    rw [Source.bytes, hc, List.flatten_nil, List.append_nil]
    exact .cutShort (Reader.first?_of_holds hh) (hh.length_le hf)
  | case3 reader source error hr =>
    obtain ⟨hc, hend⟩ := Source.failed_of_read hr
    obtain rfl : .failed error = ending := Option.some.inj (hend.symm.trans he)
    rw [Source.bytes, hc, List.flatten_nil, List.append_nil]
    exact .cutShort (Reader.first?_of_holds hh) (hh.length_le hf)
  | case4 reader source piece rest hr reader' hfeed ih =>
    have hp := Source.length_le_of_read hr
    have hu := Source.used_of_read hr
    rw [Source.bytes_of_read hr, ← List.append_assoc]
    exact ih (Reader.holds_of_feed hh hp hfeed) (hf.incomplete hp hfeed) (hu.notMem hn)
      (hu.ending.trans he)
  | case5 reader source piece rest hr payload hfeed =>
    have hp := Source.length_le_of_read hr
    obtain ⟨header, hfirst⟩ := Reader.first?_of_feed hh hp hfeed
    rw [Source.bytes_of_read hr, ← List.append_assoc]
    exact .record (first?_append hfirst) (hf.complete hp hfeed)
  | case6 reader source piece rest hr header hfeed =>
    obtain ⟨hl, rfl, hc⟩ := Reader.header_of_feed hh (Source.length_le_of_read hr) hfeed
    rw [Source.bytes_of_read hr, ← List.append_assoc]
    rw [← ofBytes_append (b := rest.bytes) (Nat.le_of_eq hl.symm)] at hc ⊢
    have hd : (held ++ piece ++ rest.bytes).drop headerLength = rest.bytes := List.drop_left' hl
    have ha : headerLength ≤ (held ++ piece ++ rest.bytes).length := by
      rw [List.length_append]
      omega
    have ht : Attempt capacity ending (held ++ piece ++ rest.bytes) _ _ := .tooLong ha hc
    rwa [hd] at ht

lemma used_of_resume (capacity : Nat) (reader : Reader) (source : Source) :
    source.Used (resume capacity reader source).2 := by
  fun_induction resume capacity reader source with
  | case1 | case2 | case3 => exact .refl _
  | case4 _ _ _ _ hr _ _ ih => exact (Source.used_of_read hr).trans ih
  | case5 _ _ _ _ hr => exact Source.used_of_read hr
  | case6 _ _ _ _ hr => exact Source.used_of_read hr

lemma attempt_of_read (capacity : Nat) (hn : [] ∉ source.chunks) (he : source.ending = some ending) :
    Attempt capacity ending source.bytes (read capacity source).1 (read capacity source).2.bytes := by
  have hs : Reader.start.Holds [] := rfl
  exact attempt_of_resume hs trivial hn he

lemma readAll_eq_parse (capacity : Nat) (hn : [] ∉ source.chunks) (he : source.ending = some ending) :
    ∃ payloads error unread, readAll capacity source = (payloads, .failed error, unread) ∧
      parse capacity ending source.bytes = (payloads, error, unread.bytes) := by
  fun_induction readAll capacity source with
  | case1 source payload rest hr payloads last unread hs ih =>
    have ha := attempt_of_read capacity hn he
    have hu := used_of_resume capacity .start source
    rw [hr] at ha
    rw [← read, hr] at hu
    obtain ⟨payloads', error, unread', hall, hparse⟩ := ih (hu.notMem hn) (hu.ending.trans he)
    cases hs.symm.trans hall
    refine ⟨_, error, unread, rfl, ?_⟩
    rw [ha.parse_of_record, hparse]
  | case2 source last rest hl hr =>
    have ha := attempt_of_read capacity hn he
    rw [hr] at ha
    obtain ⟨error, rfl, hparse⟩ := ha.parse_of_failed hl
    exact ⟨[], error, rest, rfl, hparse⟩

lemma length_parse_le (capacity : Nat) (ending : Ending) (bytes : Bytes) :
    (parse capacity ending bytes).1.length * headerLength ≤ bytes.length := by
  fun_induction parse capacity ending bytes with
  | case1 | case2 | case3 => exact Nat.zero_mul _ ▸ Nat.zero_le _
  | case4 bytes _ _ _ record rest hf payloads _ _ hs ih =>
    obtain ⟨hl, -, rfl⟩ := first?_eq_some_iff.mp hf
    rw [hs, List.length_drop] at ih
    change payloads.length * headerLength ≤ _ at ih
    rw [List.length_cons, Nat.add_one_mul]
    omega

/-- However a stream is cut into chunks and however it ends, reading records until that fails gives the
payloads, the error and the unread bytes that parsing its bytes gives, and no more records than there are
headers in as many bytes. Each single attempt is decided by the header that stands first. -/
theorem read_as_parsed {chunks : List Bytes} (h : [] ∉ chunks) (ending : Ending) (capacity : Nat) :
    (∃ payloads error unread,
      readAll capacity ⟨chunks, some ending⟩ = (payloads, .failed error, unread) ∧
      parse capacity ending chunks.flatten = (payloads, error, unread.bytes) ∧
      payloads.length ≤ chunks.flatten.length / headerLength) ∧
    Decided capacity ending chunks.flatten (read capacity ⟨chunks, some ending⟩).1
      (read capacity ⟨chunks, some ending⟩).2.bytes := by
  let source : Source := ⟨chunks, some ending⟩
  have hn : [] ∉ source.chunks := h
  have he : source.ending = some ending := rfl
  obtain ⟨payloads, error, unread, hread, hparse⟩ := readAll_eq_parse capacity hn he
  have hl := length_parse_le capacity ending source.bytes
  rw [hparse] at hl
  refine ⟨⟨payloads, error, unread, hread, hparse, ?_⟩, ?_⟩
  · exact (Nat.le_div_iff_mul_le (by decide)).mpr hl
  · exact (attempt_of_read capacity hn he).decided

/-- Chunks end inside headers and payloads. An empty record and a full one are read, and the announced
nine bytes are too many, whether they are there or not. -/
theorem chunks_across_headers : ∃ unread : Source,
    readAll 2 ⟨[[0x14, 3], [3, 0], [0, 0x16, 3, 1, 0], [2, 7], [8, 0x17, 3, 3], [0, 9, 1]],
      some .closed⟩ =
        ([[], [7, 8]], .failed (.recordTooLong ⟨0x17, 0x0303, 9⟩ 2), unread) ∧
    unread.bytes = [1] := by
  have hn : [] ∉ ([[0x14, 3], [3, 0], [0, 0x16, 3, 1, 0], [2, 7], [8, 0x17, 3, 3], [0, 9, 1]] :
      List Bytes) := by decide
  obtain ⟨⟨payloads, error, unread, hread, hparse, -⟩, -⟩ := read_as_parsed hn .closed 2
  have hflat : parse 2 .closed [0x14, 3, 3, 0, 0, 0x16, 3, 1, 0, 2, 7, 8, 0x17, 3, 3, 0, 9, 1] =
      ([[], [7, 8]], .recordTooLong ⟨0x17, 0x0303, 9⟩ 2, [1]) := by decide +kernel
  obtain ⟨rfl, he⟩ := Prod.mk.inj (hparse.symm.trans hflat)
  obtain ⟨rfl, hu⟩ := Prod.mk.inj he
  exact ⟨unread, hread, hu⟩

end Camouflage.Record
