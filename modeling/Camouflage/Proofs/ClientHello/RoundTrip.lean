import Camouflage.ClientHello.Reader
import Camouflage.Proofs.Bytes
import Mathlib.Data.Option.Basic

namespace Camouflage

namespace Grease

def IsValue (value : UInt16) : Prop := value &&& 0x0f0f = 0x0a0a

instance (value : UInt16) : Decidable (IsValue value) := decEq _ _

def IsReserved (value : UInt16) : Prop :=
  value.toNat / 256 = value.toNat % 256 ∧ value.toNat % 16 = 10

instance (value : UInt16) : Decidable (IsReserved value) := instDecidableAnd

lemma IsReserved.isValue {value : UInt16} (h : IsReserved value) : IsValue value := by
  obtain ⟨hsame, hend⟩ := h
  have hvalues : ∀ k < 16, IsValue (.ofNat (257 * (16 * k + 10))) := by decide
  have hk : value.toNat % 256 / 16 < 16 := by omega
  have he : 257 * (16 * (value.toNat % 256 / 16) + 10) = value.toNat := by omega
  have hv := hvalues _ hk
  rwa [he, UInt16.ofNat_toNat] at hv

lemma isReserved_value (byte : UInt8) : IsReserved (value byte) ∧
    IsReserved (value byte ^^^ 0x1010) ∧ value byte ^^^ 0x1010 ≠ value byte := by
  refine Bytes.forall_byte (p := fun byte => IsReserved (value byte) ∧
    IsReserved (value byte ^^^ 0x1010) ∧ value byte ^^^ 0x1010 ≠ value byte) ?_ byte
  decide +kernel

structure IsDrawn (grease : Grease) : Prop where
  cipherSuite : IsReserved grease.cipherSuite
  group : IsReserved grease.group
  firstExtension : IsReserved grease.firstExtension
  lastExtension : IsReserved grease.lastExtension
  distinct : grease.lastExtension ≠ grease.firstExtension

lemma lastExtension_ofBytes (bytes : Vector UInt8 4) : IsReserved (ofBytes bytes).lastExtension ∧
    (ofBytes bytes).lastExtension ≠ (ofBytes bytes).firstExtension := by
  obtain ⟨hv, hx, hne⟩ := isReserved_value bytes[3]
  -- If both draws give one value, the mask keeps its form but not the value.
  by_cases he : value bytes[3] = value bytes[2]
  · have hlast : (ofBytes bytes).lastExtension = value bytes[3] ^^^ 0x1010 := if_pos he
    rw [hlast]
    exact ⟨hx, fun hf => hne (hf.trans he.symm)⟩
  · have hlast : (ofBytes bytes).lastExtension = value bytes[3] := if_neg he
    rw [hlast]
    exact ⟨hv, he⟩

lemma isDrawn_ofBytes (bytes : Vector UInt8 4) : IsDrawn (ofBytes bytes) where
  cipherSuite := (isReserved_value bytes[0]).1
  group := (isReserved_value bytes[1]).1
  firstExtension := (isReserved_value bytes[2]).1
  lastExtension := (lastExtension_ofBytes bytes).1
  distinct := (lastExtension_ofBytes bytes).2

lemma isValue_firstExtension (bytes : Vector UInt8 4) : IsValue (ofBytes bytes).firstExtension :=
  (isDrawn_ofBytes bytes).firstExtension.isValue

lemma isValue_lastExtension (bytes : Vector UInt8 4) : IsValue (ofBytes bytes).lastExtension :=
  (isDrawn_ofBytes bytes).lastExtension.isValue

end Grease

namespace Extension

variable {extension : Extension} {extensions : List Extension} {rest : Bytes}

lemma ofWords?_words (values : List UInt16) : ofWords? (words values) = some values := by
  induction values with
  | nil => rfl
  | cons value values ih =>
    have hv : Bytes.ofBigEndian (Bytes.bigEndian 2 value.toNat) = value.toNat :=
      Bytes.ofBigEndian_bigEndian value.toNat_lt
    change (ofWords? (words values)).map
      (UInt16.ofNat (Bytes.ofBigEndian (Bytes.bigEndian 2 value.toNat)) :: ·) = _
    rw [ih, hv, UInt16.ofNat_toNat]
    rfl

@[simp] lemma length_words (values : List UInt16) : (words values).length = 2 * values.length := by
  induction values with
  | nil => rfl
  | cons value values ih =>
    rw [words, List.flatMap_cons, List.length_append, Bytes.length_bigEndian, ← words, ih,
      List.length_cons]
    omega

lemma ofNames?_append {names : List Bytes} (h : ∀ name ∈ names, name.length < 256) :
    ofNames? (names.flatMap (Bytes.counted 1)) = some names := by
  induction names with
  | nil =>
    rw [ofNames?]
    rfl
  | cons name names ih =>
    have hn : name.length < 256 := h name List.mem_cons_self
    have hr := ih fun other hm => h other (List.mem_cons_of_mem _ hm)
    have hne : Bytes.counted 1 name ++ names.flatMap (Bytes.counted 1) ≠ [] := by
      apply List.ne_nil_of_length_pos
      rw [List.length_append, Bytes.length_counted]
      omega
    rw [List.flatMap_cons, ofNames?, if_neg hne]
    split
    · next hc =>
      rw [Bytes.counted?_append 1 hn] at hc
      cases hc
    · next hc =>
      rw [Bytes.counted?_append 1 hn] at hc
      cases hc
      rw [hr]
      rfl

lemma only?_counted (width : Nat) {bytes : Bytes} (h : bytes.length < Nat.pow 256 width) :
    Bytes.only? (Bytes.counted? width (Bytes.counted width bytes)) = some bytes := by
  have hc : Bytes.counted? width (Bytes.counted width bytes ++ []) = some (bytes, []) :=
    Bytes.counted?_append width h
  rw [List.append_nil] at hc
  rw [hc]
  rfl

/-- All counts in the written form of the extension have room for what they count, and its type is
not that of another extension. -/
def Fits : Extension → Prop
  | .serverName name => name.length < 65531
  | .supportedGroups values | .signatureAlgorithms values => values.length < 32767
  | .pointFormats formats => formats.length < 256
  | .protocols names =>
    (∀ name ∈ names, name.length < 256) ∧ (names.flatMap (Bytes.counted 1)).length < 65534
  | .padding length => length < 65536
  | .sessionTicket ticket => ticket.length < 65536
  | .grease type body => Grease.IsValue type ∧ body.length < 65536
  | .statusRequest | .certificateTimestamp | .extendedMasterSecret | .channelId
  | .renegotiationInfo => True

lemma ofBody?_grease {type : UInt16} (h : Grease.IsValue type) (body : Bytes) :
    ofBody? type body = some (.grease type body) := by
  have hne : ∀ other : UInt16, other &&& 0x0f0f ≠ 0x0a0a → type ≠ other := by
    rintro other ho rfl
    exact ho h
  unfold ofBody?
  rw [if_neg (hne _ (by decide)), if_neg (hne _ (by decide)), if_neg (hne _ (by decide)),
    if_neg (hne _ (by decide)), if_neg (hne _ (by decide)), if_neg (hne _ (by decide)),
    if_neg (hne _ (by decide)), if_neg (hne _ (by decide)), if_neg (hne _ (by decide)),
    if_neg (hne _ (by decide)), if_neg (hne _ (by decide)), if_neg (hne _ (by decide))]

lemma ofServerName?_body {name : Bytes} (h : name.length < 65531) :
    ofServerName? (Extension.serverName name).body = some name := by
  have he : (0 :: Bytes.counted 2 name).length < 65536 := by
    rw [List.length_cons, Bytes.length_counted]
    omega
  have hn : name.length < 65536 := by omega
  simp only [ofServerName?, body, only?_counted 2 he]
  exact only?_counted 2 hn

lemma ofBody?_body (h : extension.Fits) :
    ofBody? extension.type extension.body = some extension := by
  cases extension with
  | serverName name =>
    change (ofServerName? (Extension.serverName name).body).map Extension.serverName = _
    rw [ofServerName?_body h]
    rfl
  | supportedGroups values =>
    have hl : (words values).length < 65536 := by
      have hv : values.length < 32767 := h
      rw [length_words]
      omega
    change ((Bytes.only? (Bytes.counted? 2 (Bytes.counted 2 (words values)))).bind ofWords?).map _ = _
    rw [only?_counted 2 hl, Option.bind_some, ofWords?_words]
    rfl
  | signatureAlgorithms values =>
    have hl : (words values).length < 65536 := by
      have hv : values.length < 32767 := h
      rw [length_words]
      omega
    change ((Bytes.only? (Bytes.counted? 2 (Bytes.counted 2 (words values)))).bind ofWords?).map _ = _
    rw [only?_counted 2 hl, Option.bind_some, ofWords?_words]
    rfl
  | pointFormats formats =>
    have hf : formats.length < 256 := h
    change (Bytes.only? (Bytes.counted? 1 (Bytes.counted 1 formats))).map _ = _
    rw [only?_counted 1 hf]
    rfl
  | protocols names =>
    obtain ⟨hn, hl⟩ := h
    have hl : (names.flatMap (Bytes.counted 1)).length < 65536 := by omega
    change ((Bytes.only? (Bytes.counted? 2
      (Bytes.counted 2 (names.flatMap (Bytes.counted 1))))).bind ofNames?).map _ = _
    rw [only?_counted 2 hl, Option.bind_some, ofNames?_append hn]
    rfl
  | padding length =>
    have hz : (padding length).body = List.replicate (padding length).body.length 0 := by
      simp only [body, List.length_replicate]
    change (if (padding length).body = List.replicate (padding length).body.length 0
      then some (padding (padding length).body.length) else none) = _
    rw [if_pos hz, body, List.length_replicate]
  | grease type body => exact ofBody?_grease h.1 body
  | _ => rfl

lemma length_body_lt (h : extension.Fits) : extension.body.length < 65536 := by
  cases extension with
  | serverName name =>
    have hn : name.length < 65531 := h
    simp only [body, Bytes.length_counted, List.length_cons]
    omega
  | supportedGroups values =>
    have hv : values.length < 32767 := h
    simp only [body, Bytes.length_counted, length_words]
    omega
  | signatureAlgorithms values =>
    have hv : values.length < 32767 := h
    simp only [body, Bytes.length_counted, length_words]
    omega
  | pointFormats formats =>
    have hf : formats.length < 256 := h
    simp only [body, Bytes.length_counted]
    omega
  | protocols names =>
    have hl := h.2
    simp only [body, Bytes.length_counted]
    omega
  | padding length =>
    simp only [body, List.length_replicate]
    exact h
  | sessionTicket ticket => exact h
  | grease type body => exact h.2
  | _ => decide

lemma read?_encode (h : extension.Fits) (rest : Bytes) :
    read? (extension.encode ++ rest) = some (extension, rest) := by
  have ht : extension.type.toNat < 65536 := extension.type.toNat_lt
  have hb := length_body_lt h
  simp only [read?, encode, List.append_assoc, Bytes.number?_append 2 ht,
    Bytes.counted?_append 2 hb, UInt16.ofNat_toNat, ofBody?_body h, Option.map_some]

lemma readAll?_encode (h : ∀ extension ∈ extensions, extension.Fits) :
    readAll? (extensions.flatMap encode) = some extensions := by
  induction extensions with
  | nil =>
    rw [readAll?]
    rfl
  | cons extension extensions ih =>
    have he := h extension List.mem_cons_self
    have hr := ih fun other hm => h other (List.mem_cons_of_mem _ hm)
    have hne : extension.encode ++ extensions.flatMap encode ≠ [] := by
      apply List.ne_nil_of_length_pos
      rw [List.length_append, encode, List.length_append, Bytes.length_bigEndian]
      omega
    rw [List.flatMap_cons, readAll?, if_neg hne]
    split
    · next hn =>
      rw [read?_encode he] at hn
      cases hn
    · next hs =>
      rw [read?_encode he] at hs
      cases hs
      rw [hr]
      rfl

end Extension

namespace ClientHello

variable {hello : ClientHello}

structure Fits (hello : ClientHello) : Prop where
  cipherSuites : hello.cipherSuites.length < 32768
  extensions : ∀ extension ∈ hello.extensions, extension.Fits
  block : (hello.extensions.flatMap Extension.encode).length < 65536

lemma length_body (hello : ClientHello) : hello.body.length =
    73 + 2 * hello.cipherSuites.length + (hello.extensions.flatMap Extension.encode).length := by
  simp only [body, List.length_append, Bytes.length_bigEndian, Vector.length_toList,
    Bytes.length_counted, Extension.length_words, List.length_cons, List.length_nil]
  omega

lemma ofBody?_body (h : hello.Fits) : ofBody? hello.body = some hello := by
  have hv : Version.tls12.toNat < 65536 := by decide
  have hi : hello.sessionId.toList.length < 256 := by simp
  have hs : (Extension.words hello.cipherSuites).length < 65536 := by
    have := h.cipherSuites
    rw [Extension.length_words]
    omega
  have hm : [1, 0] = Bytes.counted 1 [0] := rfl
  have hz : ([0] : Bytes).length < 256 := by decide
  have hid : Bytes.vector? 32 hello.sessionId.toList = some (hello.sessionId, []) := by
    simpa using Bytes.vector?_append hello.sessionId []
  simp only [ofBody?, body, List.append_assoc, hm, Option.bind_eq_bind, Option.bind_some, guard,
    Bytes.number?_append 2 hv, Bytes.vector?_append,
    Bytes.counted?_append 1 hi, hid, Bytes.counted?_append 2 hs,
    Bytes.counted?_append 1 hz, Extension.ofWords?_words,
    Extension.only?_counted 2 h.block, Extension.readAll?_encode h.extensions]
  rfl

lemma ofBytes?_encode (h : hello.Fits) : ofBytes? hello.encode = some hello := by
  have hl : hello.body.length < 16777216 := by
    have hc := h.cipherSuites
    have hb := h.block
    rw [length_body]
    omega
  simp only [ofBytes?, encode, if_pos, Extension.only?_counted 3 hl, Option.bind_some]
  exact ofBody?_body h

end ClientHello

end Camouflage
