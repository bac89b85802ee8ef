import Camouflage.Proofs.ClientHello.RoundTrip

namespace Camouflage.ClientHello

variable (parameters : Parameters)

def plain (parameters : Parameters) : ClientHello where
  random := parameters.random
  sessionId := parameters.sessionId
  cipherSuites := cipherSuitesOf parameters
  extensions := extensionsOf parameters

@[simp] lemma length_encode_extension (extension : Extension) :
    extension.encode.length = 4 + extension.body.length := by
  rw [Extension.encode, List.length_append, Bytes.length_bigEndian, Bytes.length_counted]
  omega

def serverNameLength (name : String) : Nat :=
  if name = "" then 0 else 9 + (Bytes.ofString name).length

lemma length_serverNameExtensions (name : String) :
    ((serverNameExtensions name).flatMap Extension.encode).length = serverNameLength name := by
  rw [serverNameExtensions, serverNameLength]
  split
  · rfl
  · simp only [List.flatMap_singleton, length_encode_extension, Extension.body, Bytes.length_counted,
      List.length_cons]
    omega

def ownLength : Browser → Nat
  | .chrome => 394
  | .firefox => 383

lemma length_body_plain :
    (plain parameters).body.length =
      ownLength parameters.browser + serverNameLength parameters.serverName := by
  have hn := length_serverNameExtensions parameters.serverName
  have hp : (protocolNames.flatMap (Bytes.counted 1)).length = 12 := by decide +kernel
  have ht : parameters.ticket.toList.length = 192 := by simp
  rw [length_body, plain]
  cases hb : parameters.browser with
  | chrome =>
    simp only [cipherSuitesOf, extensionsOf, hb, List.flatMap_append, List.length_append, hn,
      List.flatMap_cons, List.flatMap_nil, length_encode_extension, Extension.body,
      Bytes.length_counted, Extension.length_words, hp, ht, List.length_cons, List.length_nil,
      chromeCipherSuites, chromeSignatureAlgorithms, chromeGroups, ownLength]
    omega
  | firefox =>
    simp only [cipherSuitesOf, extensionsOf, hb, List.flatMap_append, List.length_append, hn,
      List.flatMap_cons, List.flatMap_nil, length_encode_extension, Extension.body,
      Bytes.length_counted, Extension.length_words, hp, ht, List.length_cons, List.length_nil,
      firefoxCipherSuites, firefoxSignatureAlgorithms, firefoxGroups, ownLength]
    omega

def paddingFor (length : Nat) : List Extension :=
  if length + 4 ≤ bodyLength then [.padding (bodyLength - (length + 4))] else []

lemma extensions_build :
    (build parameters).extensions =
      extensionsOf parameters ++ paddingFor (plain parameters).body.length := by
  change (pad (plain parameters)).extensions = _
  simp only [pad, paddingFor]
  split
  · rfl
  · exact (List.append_nil _).symm

@[simp] lemma random_build : (build parameters).random = parameters.random := by
  change (pad (plain parameters)).random = _
  simp only [pad]
  split <;> rfl

@[simp] lemma sessionId_build : (build parameters).sessionId = parameters.sessionId := by
  change (pad (plain parameters)).sessionId = _
  simp only [pad]
  split <;> rfl

@[simp] lemma cipherSuites_build :
    (build parameters).cipherSuites = cipherSuitesOf parameters := by
  change (pad (plain parameters)).cipherSuites = _
  simp only [pad]
  split <;> rfl

lemma length_body_build : (build parameters).body.length =
    if (plain parameters).body.length + 4 ≤ bodyLength then bodyLength
    else (plain parameters).body.length := by
  have hp := length_body (plain parameters)
  rw [length_body, extensions_build, cipherSuites_build, List.flatMap_append, List.length_append,
    paddingFor]
  change _ = 73 + 2 * (cipherSuitesOf parameters).length +
    ((extensionsOf parameters).flatMap Extension.encode).length at hp
  split
  · simp only [List.flatMap_singleton, length_encode_extension, Extension.body, List.length_replicate]
    omega
  · simp only [List.flatMap_nil, List.length_nil]
    omega

end Camouflage.ClientHello
