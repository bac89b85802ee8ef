import Camouflage.Proofs.ClientHello.Extensions

namespace Camouflage.ClientHello

variable (parameters : Parameters)

def longestPadded : Browser → Nat
  | .chrome => 101
  | .firefox => 112

def unpadded : Browser → Nat
  | .chrome => 4 + 403
  | .firefox => 4 + 392

def sizeWith (browser : Browser) (n : Nat) : Nat :=
  if n ≤ longestPadded browser then 4 + 508 else unpadded browser + n

def nameLength (parameters : Parameters) : Nat := (Bytes.ofString parameters.serverName).length

lemma unpadded_eq (browser : Browser) : unpadded browser = 13 + ownLength browser := by
  cases browser <;> rfl

lemma unpadded_add_longestPadded (browser : Browser) :
    unpadded browser + longestPadded browser = bodyLength := by
  cases browser <;> rfl

lemma length_body_of_named (hn : parameters.serverName ≠ "") :
    4 + (plain parameters).body.length = unpadded parameters.browser + nameLength parameters := by
  have hl := length_body_plain parameters
  have hu := unpadded_eq parameters.browser
  rw [serverNameLength, if_neg hn] at hl
  rw [nameLength]
  omega

lemma hasRoom_iff : (plain parameters).body.length + 4 ≤ bodyLength ↔
    nameLength parameters ≤ longestPadded parameters.browser := by
  have hr := unpadded_add_longestPadded parameters.browser
  by_cases hn : parameters.serverName = ""
  · have hl := length_body_plain parameters
    have hu := unpadded_eq parameters.browser
    have hz : nameLength parameters = 0 := by
      rw [nameLength, hn]
      rfl
    rw [serverNameLength, if_pos hn] at hl
    omega
  · have hl := length_body_of_named parameters hn
    omega

lemma size_body_build :
    4 + (build parameters).body.length = sizeWith parameters.browser (nameLength parameters) := by
  rw [length_body_build, sizeWith]
  by_cases hr : nameLength parameters ≤ longestPadded parameters.browser
  · rw [if_pos ((hasRoom_iff parameters).mpr hr), if_pos hr]
    rfl
  · have hn : parameters.serverName ≠ "" := by
      intro he
      rw [nameLength, he] at hr
      exact hr (Nat.zero_le _)
    rw [if_neg (mt (hasRoom_iff parameters).mp hr), if_neg hr]
    exact length_body_of_named parameters hn

lemma length_encode_build :
    (build parameters).encode.length = sizeWith parameters.browser (nameLength parameters) := by
  rw [encode, List.length_cons, Bytes.length_counted, ← size_body_build]
  omega

lemma exists_padding_iff : (∃ length, .padding length ∈ (build parameters).extensions) ↔
    nameLength parameters ≤ longestPadded parameters.browser := by
  rw [← hasRoom_iff, extensions_build, paddingFor]
  simp only [List.mem_append, padding_notMem_extensionsOf, false_or]
  constructor
  · rintro ⟨length, hm⟩
    by_contra hr
    rw [if_neg hr] at hm
    cases hm
  · intro hr
    rw [if_pos hr]
    exact ⟨_, List.mem_singleton_self _⟩

/-- Names that leave no room for the padding's header make a body that is too short by up to three bytes, and
longer names one that is too long. No other names do. -/
theorem short_just_beyond_padding :
    ((build parameters).body.length < bodyLength ↔ longestPadded parameters.browser < nameLength parameters ∧
      nameLength parameters ≤ longestPadded parameters.browser + 3) ∧
    (bodyLength < (build parameters).body.length ↔
      longestPadded parameters.browser + 4 < nameLength parameters) := by
  have hs := size_body_build parameters
  have hr := unpadded_add_longestPadded parameters.browser
  rw [sizeWith] at hs
  rw [bodyLength] at hr ⊢
  split at hs <;> omega

theorem one_byte_short : ∃ parameters : Parameters,
    parameters.browser = .chrome ∧ parameters.serverName = .ofList (.replicate 104 'a') ∧
      (Bytes.ofString parameters.serverName).length ≤ maxServerName ∧
      (build parameters).body.length = 507 ∧ ¬ bodyLength ≤ (build parameters).body.length := by
  let parameters : Parameters :=
    { browser := .chrome
      serverName := .ofList (.replicate 104 'a')
      random := .replicate 32 0x11
      sessionId := .replicate 32 0x22
      ticket := .replicate 192 0x33
      grease := .ofBytes #v[0x00, 0x10, 0x20, 0x30] }
  have hn : nameLength parameters = 104 := by decide +kernel
  have hs := size_body_build parameters
  rw [hn, sizeWith, if_neg (by decide)] at hs
  have hl : (build parameters).body.length = 507 := Nat.add_left_cancel hs
  refine ⟨parameters, rfl, rfl, ?_, hl, ?_⟩
  · exact Nat.le_trans (Nat.le_of_eq hn) (by decide)
  · rw [hl]
    decide

end Camouflage.ClientHello
