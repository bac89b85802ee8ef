import Camouflage.ClientHello

/-!
Reading a hello back from its written form. Reading is strict: every count must be met, and no byte
may be left over in any part.
-/

namespace Camouflage

def Bytes.only? {α : Type} : Option (α × Bytes) → Option α
  | some (value, []) => some value
  | _ => none

namespace Extension

def ofWords? : Bytes → Option (List UInt16)
  | [] => some []
  | [_] => none
  | high :: low :: rest =>
    (ofWords? rest).map (UInt16.ofNat (Bytes.ofBigEndian [high, low]) :: ·)

def ofNames? (bytes : Bytes) : Option (List Bytes) :=
  if bytes = [] then some []
  else
    match _h : Bytes.counted? 1 bytes with
    | none => none
    | some (name, rest) => (ofNames? rest).map (name :: ·)
termination_by bytes.length
decreasing_by
  have := Bytes.length_of_counted? _h
  omega

def ofServerName? (body : Bytes) : Option Bytes :=
  match Bytes.only? (Bytes.counted? 2 body) with
  | some (0 :: entry) => Bytes.only? (Bytes.counted? 2 entry)
  | _ => none

/-- Types that stand for nothing here make a `grease`. -/
def ofBody? (type : UInt16) (body : Bytes) : Option Extension :=
  if type = 0x0000 then (ofServerName? body).map .serverName
  else if type = 0x0005 then if body = [1, 0, 0, 0, 0] then some .statusRequest else none
  else if type = 0x000a then
    ((Bytes.only? (Bytes.counted? 2 body)).bind ofWords?).map .supportedGroups
  else if type = 0x000b then (Bytes.only? (Bytes.counted? 1 body)).map .pointFormats
  else if type = 0x000d then
    ((Bytes.only? (Bytes.counted? 2 body)).bind ofWords?).map .signatureAlgorithms
  else if type = 0x0010 then ((Bytes.only? (Bytes.counted? 2 body)).bind ofNames?).map .protocols
  else if type = 0x0012 then if body = [] then some .certificateTimestamp else none
  else if type = 0x0015 then
    if body = List.replicate body.length 0 then some (.padding body.length) else none
  else if type = 0x0017 then if body = [] then some .extendedMasterSecret else none
  else if type = 0x0023 then some (.sessionTicket body)
  else if type = 0x7550 then if body = [] then some .channelId else none
  else if type = 0xff01 then if body = [0] then some .renegotiationInfo else none
  else some (.grease type body)

def read? (bytes : Bytes) : Option (Extension × Bytes) :=
  match Bytes.number? 2 bytes with
  | none => none
  | some (type, rest) =>
    match Bytes.counted? 2 rest with
    | none => none
    | some (body, rest) => (ofBody? (UInt16.ofNat type) body).map (·, rest)

theorem length_lt_of_read? {bytes rest : Bytes} {extension : Extension}
    (h : read? bytes = some (extension, rest)) : rest.length < bytes.length := by
  unfold read? at h
  split at h
  · cases h
  · next hn =>
    split at h
    · cases h
    · next hc =>
      have := Bytes.length_of_number? hn
      have := Bytes.length_of_counted? hc
      obtain ⟨_, _, he⟩ := Option.map_eq_some_iff.mp h
      cases he
      omega

def readAll? (bytes : Bytes) : Option (List Extension) :=
  if bytes = [] then some []
  else
    match _h : read? bytes with
    | none => none
    | some (extension, rest) => (readAll? rest).map (extension :: ·)
termination_by bytes.length
decreasing_by exact length_lt_of_read? _h

end Extension

namespace ClientHello

def ofBody? (body : Bytes) : Option ClientHello := do
  let (version, rest) ← Bytes.number? 2 body
  guard (version = Version.tls12.toNat)
  let (random, rest) ← Bytes.vector? 32 rest
  let (sessionId, rest) ← Bytes.counted? 1 rest
  let (sessionId, _) ← (Bytes.vector? 32 sessionId).filter (·.2 = [])
  let (suites, rest) ← Bytes.counted? 2 rest
  let cipherSuites ← Extension.ofWords? suites
  let (methods, rest) ← Bytes.counted? 1 rest
  guard (methods = [0])
  let block ← Bytes.only? (Bytes.counted? 2 rest)
  let extensions ← Extension.readAll? block
  return { random, sessionId, cipherSuites, extensions }

def ofBytes? (bytes : Bytes) : Option ClientHello :=
  match bytes with
  | [] => none
  | type :: rest =>
    if type = handshakeType then (Bytes.only? (Bytes.counted? 3 rest)).bind ofBody? else none

end ClientHello

end Camouflage
