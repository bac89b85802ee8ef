import Camouflage.Proofs.Record.Frame

namespace Camouflage.Record

lemma framedLength_mono {shorter longer : Nat} (h : shorter ≤ longer) :
    framedLength shorter ≤ framedLength longer := by
  simp only [framedLength, maxPayload, headerLength]
  split <;> split <;> omega

lemma length_frameOnto (type : ContentType) (version : Version) (buffer payload : Bytes) :
    (frameOnto type version buffer payload).length = buffer.length + framedLength payload.length := by
  rw [frameOnto_eq, List.length_append, length_frame]

def word? (n : Nat) : Option UInt64 := if n < UInt64.size then some (.ofNat n) else none

def framedWord? (length : UInt64) : Option UInt64 := do
  let records ←
    if length = 0 then some 1
    else do
      let sum ← word? (length.toNat + maxPayload)
      let last ← word? (sum.toNat - 1)
      word? (last.toNat / maxPayload)
  let headers ← word? (records.toNat * headerLength)
  word? (length.toNat + headers.toNat)

def longestBuffer : Nat := 9223372036854775807

variable {n : Nat} {length : UInt64}

lemma exists_word (h : n < UInt64.size) : ∃ word, word? n = some word ∧ word.toNat = n :=
  ⟨.ofNat n, if_pos h, UInt64.toNat_ofNat_of_lt' h⟩

lemma exists_framedWord (h : length.toNat ≤ longestBuffer) :
    ∃ word, framedWord? length = some word ∧ word.toNat = framedLength length.toNat := by
  by_cases hz : length = 0
  · rw [hz]
    exact ⟨5, rfl, rfl⟩
  · have hne : length.toNat ≠ 0 := fun he => hz (UInt64.toNat_inj.mp he)
    have hsize : UInt64.size = 18446744073709551616 := rfl
    rw [longestBuffer] at h
    -- The sum is the greatest value on the way to the number of records. That number is then so small
    -- that its headers and the payload fit together.
    have hsum : length.toNat + maxPayload < UInt64.size := by
      rw [maxPayload]
      omega
    have hrecords : (length.toNat + maxPayload - 1) / maxPayload < 1125899906842624 := by
      rw [maxPayload]
      omega
    obtain ⟨sum, hs, hsn⟩ := exists_word hsum
    obtain ⟨last, hl, hln⟩ := exists_word (n := sum.toNat - 1) (by omega)
    obtain ⟨records, hr, hrn⟩ := exists_word (n := last.toNat / maxPayload) (by
      rw [hln, hsn]
      omega)
    obtain ⟨headers, hh, hhn⟩ := exists_word (n := records.toNat * headerLength) (by
      rw [hrn, hln, hsn, headerLength]
      omega)
    obtain ⟨total, ht, htn⟩ := exists_word (n := length.toNat + headers.toNat) (by
      rw [hhn, hrn, hln, hsn, headerLength]
      omega)
    refine ⟨total, ?_, ?_⟩
    · simp only [framedWord?, if_neg hz, hs, hl, hr, hh, ht, Option.bind_eq_bind, Option.bind_some]
    · rw [htn, hhn, hrn, hln, hsn, framedLength, if_neg hne]

end Camouflage.Record
