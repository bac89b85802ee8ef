import Camouflage.Proofs.ClientHello.Length

namespace Camouflage.ClientHello

variable {parameters : Parameters}

def typesOf (browser : Browser) (grease : Grease) (name : List UInt16) : List UInt16 :=
  match browser with
  | .chrome =>
    [grease.firstExtension, 0xff01] ++ name ++ [0x0017, 0x0023, 0x000d, 0x0005, 0x0012, 0x0010, 0x7550,
      0x000b, 0x000a, grease.lastExtension]
  | .firefox => name ++ [0x0017, 0xff01, 0x000b, 0x0023, 0x0010, 0x0005, 0x000a, 0x000d]

lemma types_extensionsOf (parameters : Parameters) :
    (extensionsOf parameters).map Extension.type =
      typesOf parameters.browser parameters.grease
        (if parameters.serverName = "" then [] else [0x0000]) := by
  have hn : (serverNameExtensions parameters.serverName).map Extension.type =
      if parameters.serverName = "" then [] else [0x0000] := by
    rw [serverNameExtensions]
    split <;> rfl
  cases hb : parameters.browser with
  | chrome =>
    simp only [extensionsOf, hb, List.map_append, hn]
    rfl
  | firefox =>
    simp only [extensionsOf, hb, List.map_append, hn]
    rfl

lemma serverName_mem_extensionsOf {name : Bytes} :
    Extension.serverName name ∈ extensionsOf parameters ↔
      parameters.serverName ≠ "" ∧ name = Bytes.ofString parameters.serverName := by
  have hn : Extension.serverName name ∈ serverNameExtensions parameters.serverName ↔
      parameters.serverName ≠ "" ∧ name = Bytes.ofString parameters.serverName := by
    rw [serverNameExtensions]
    split
    · next he => simp [he]
    · next he => simp [he]
  rw [← hn]
  cases hb : parameters.browser with
  | chrome => simp [extensionsOf, hb]
  | firefox => simp [extensionsOf, hb]

lemma sessionTicket_mem_extensionsOf {ticket : Bytes} :
    Extension.sessionTicket ticket ∈ extensionsOf parameters ↔ ticket = parameters.ticket.toList := by
  have hn : Extension.sessionTicket ticket ∉ serverNameExtensions parameters.serverName := by
    rw [serverNameExtensions]
    split
    · exact List.not_mem_nil
    · simp
  cases hb : parameters.browser with
  | chrome => simp [extensionsOf, hb, hn]
  | firefox => simp [extensionsOf, hb, hn]

lemma filter_extensionsOf (hf : Grease.IsValue parameters.grease.firstExtension)
    (hl : Grease.IsValue parameters.grease.lastExtension) :
    (extensionsOf parameters).filter (fun extension => extension.type = 0x0023) =
      [.sessionTicket parameters.ticket.toList] := by
  have hn : (serverNameExtensions parameters.serverName).filter
      (fun extension => extension.type = 0x0023) = [] := by
    rw [serverNameExtensions]
    split <;> rfl
  have hg : ∀ type, Grease.IsValue type → type ≠ 0x0023 := by
    rintro _ h rfl
    exact absurd h (by decide)
  cases hb : parameters.browser with
  | chrome =>
    simp only [extensionsOf, hb, List.filter_append, hn]
    simp [Extension.type, hg _ hf, hg _ hl]
  | firefox =>
    simp only [extensionsOf, hb, List.filter_append, hn]
    simp [Extension.type]

lemma padding_notMem_extensionsOf {length : Nat} :
    Extension.padding length ∉ extensionsOf parameters := by
  have hn : Extension.padding length ∉ serverNameExtensions parameters.serverName := by
    rw [serverNameExtensions]
    split
    · exact List.not_mem_nil
    · simp
  cases hb : parameters.browser with
  | chrome => simp [extensionsOf, hb, hn]
  | firefox => simp [extensionsOf, hb, hn]

lemma paddingFor_cases (length : Nat) :
    paddingFor length = [] ∨ ∃ count, paddingFor length = [.padding count] := by
  rw [paddingFor]
  split
  · exact Or.inr ⟨_, rfl⟩
  · exact Or.inl rfl

lemma eq_nil_of_padding {total length : Nat} {before after : List Extension}
    (h : extensionsOf parameters ++ paddingFor total = before ++ .padding length :: after) :
    after = [] := by
  rcases List.append_eq_append_iff.mp h with ⟨between, _, hp⟩ | ⟨between, he, hp⟩
  · have hl := congrArg List.length hp
    rw [List.length_append, List.length_cons] at hl
    apply List.eq_nil_of_length_eq_zero
    rcases paddingFor_cases total with hn | ⟨_, hn⟩
    · rw [hn, List.length_nil] at hl
      omega
    · rw [hn, List.length_singleton] at hl
      omega
  · cases between with
    | nil =>
      rcases paddingFor_cases total with hn | ⟨_, hn⟩
      · rw [hn] at hp
        cases hp
      · rw [hn] at hp
        exact (List.cons.inj hp).2
    | cons first between =>
      have hf : Extension.padding length ∈ extensionsOf parameters := by
        rw [he, (List.cons.inj hp).1]
        exact List.mem_append_right _ List.mem_cons_self
      exact absurd hf padding_notMem_extensionsOf

lemma fits_of_mem_extensionsOf
    (hn : (Bytes.ofString parameters.serverName).length ≤ maxServerName)
    (hf : Grease.IsValue parameters.grease.firstExtension)
    (hl : Grease.IsValue parameters.grease.lastExtension) {extension : Extension}
    (hm : extension ∈ extensionsOf parameters) : extension.Fits := by
  have hname : ∀ extension ∈ serverNameExtensions parameters.serverName, extension.Fits := by
    intro extension hm
    rw [serverNameExtensions] at hm
    split at hm
    · cases hm
    · rw [List.mem_singleton.mp hm]
      exact Nat.lt_of_le_of_lt hn (by decide)
  have hticket : (Extension.sessionTicket parameters.ticket.toList).Fits := by
    change parameters.ticket.toList.length < 65536
    simp
  have hprotocols : (Extension.protocols protocolNames).Fits := by
    constructor <;> decide +kernel
  have hfirst : (Extension.grease parameters.grease.firstExtension []).Fits := ⟨hf, by decide⟩
  have hlast : (Extension.grease parameters.grease.lastExtension [0]).Fits := ⟨hl, by decide⟩
  cases hb : parameters.browser with
  | chrome =>
    simp only [extensionsOf, hb, List.mem_append, List.mem_cons, List.not_mem_nil, or_false] at hm
    rcases hm with ((rfl | rfl) | hm) | rfl | rfl | rfl | rfl | rfl | rfl | rfl | rfl | rfl | rfl
    · exact hfirst
    · trivial
    · exact hname _ hm
    · trivial
    · exact hticket
    · exact (by decide : chromeSignatureAlgorithms.length < 32767)
    · trivial
    · trivial
    · exact hprotocols
    · trivial
    · exact (by decide : [(0 : UInt8)].length < 256)
    · exact (by simp [chromeGroups] : (parameters.grease.group :: chromeGroups).length < 32767)
    · exact hlast
  | firefox =>
    simp only [extensionsOf, hb, List.mem_append, List.mem_cons, List.not_mem_nil, or_false] at hm
    rcases hm with hm | rfl | rfl | rfl | rfl | rfl | rfl | rfl | rfl
    · exact hname _ hm
    · trivial
    · trivial
    · exact (by decide : [(0 : UInt8)].length < 256)
    · exact hticket
    · exact hprotocols
    · trivial
    · exact (by decide : firefoxGroups.length < 32767)
    · exact (by decide : firefoxSignatureAlgorithms.length < 32767)

lemma fits_of_mem_paddingFor {length : Nat} {extension : Extension}
    (hm : extension ∈ paddingFor length) : extension.Fits := by
  rw [paddingFor] at hm
  split at hm
  · rw [List.mem_singleton.mp hm]
    change bodyLength - (length + 4) < 65536
    simp only [bodyLength]
    omega
  · cases hm

lemma length_body_build_le (hn : (Bytes.ofString parameters.serverName).length ≤ maxServerName) :
    (build parameters).body.length ≤ 658 := by
  have hp := length_body_plain parameters
  have hs : serverNameLength parameters.serverName ≤ 264 := by
    rw [serverNameLength]
    simp only [maxServerName] at hn
    split <;> omega
  have ho : ownLength parameters.browser ≤ 394 := by cases parameters.browser <;> decide
  rw [length_body_build]
  split
  · decide
  · omega

lemma fits_build (hn : (Bytes.ofString parameters.serverName).length ≤ maxServerName)
    (hf : Grease.IsValue parameters.grease.firstExtension)
    (hl : Grease.IsValue parameters.grease.lastExtension) : (build parameters).Fits := by
  have hb := length_body_build_le hn
  rw [length_body] at hb
  refine ⟨?_, ?_, by omega⟩
  · omega
  · intro extension hm
    rw [extensions_build, List.mem_append] at hm
    rcases hm with hm | hm
    · exact fits_of_mem_extensionsOf hn hf hl hm
    · exact fits_of_mem_paddingFor hm

end Camouflage.ClientHello
