import Camouflage.Browser
import Camouflage.Record
import Camouflage.Token

/-!
The hello that opens a session, as each browser would send it, and its written form. Its only
meaningful parts are the random field and the session ticket; the rest is a browser's fingerprint.
-/

namespace Camouflage

/-- Values of the form `0x?a?a` that a browser scatters over its hello to keep servers tolerant. -/
structure Grease where
  cipherSuite : UInt16
  group : UInt16
  firstExtension : UInt16
  lastExtension : UInt16
  deriving DecidableEq, Repr

namespace Grease

def value (byte : UInt8) : UInt16 :=
  let half := ((byte &&& 0xf0) ||| 0x0a).toUInt16
  (half <<< 8) ||| half

/-- The last extension's type is moved away from the first's, as no type may occur twice. -/
def ofBytes (bytes : Vector UInt8 4) : Grease :=
  let first := value bytes[2]
  let last := value bytes[3]
  { cipherSuite := value bytes[0]
    group := value bytes[1]
    firstExtension := first
    lastExtension := if last = first then last ^^^ 0x1010 else last }

end Grease

inductive Extension
  | serverName (name : Bytes)
  | statusRequest
  | supportedGroups (groups : List UInt16)
  | pointFormats (formats : Bytes)
  | signatureAlgorithms (algorithms : List UInt16)
  | protocols (names : List Bytes)
  | certificateTimestamp
  | padding (length : Nat)
  | extendedMasterSecret
  | sessionTicket (ticket : Bytes)
  | channelId
  | renegotiationInfo
  | grease (type : UInt16) (body : Bytes)
  deriving DecidableEq, Repr

namespace Extension

def type : Extension → UInt16
  | .serverName _ => 0x0000
  | .statusRequest => 0x0005
  | .supportedGroups _ => 0x000a
  | .pointFormats _ => 0x000b
  | .signatureAlgorithms _ => 0x000d
  | .protocols _ => 0x0010
  | .certificateTimestamp => 0x0012
  | .padding _ => 0x0015
  | .extendedMasterSecret => 0x0017
  | .sessionTicket _ => 0x0023
  | .channelId => 0x7550
  | .renegotiationInfo => 0xff01
  | .grease type _ => type

def words (values : List UInt16) : Bytes :=
  values.flatMap fun value => Bytes.bigEndian 2 value.toNat

def body : Extension → Bytes
  | .serverName name => Bytes.counted 2 (0 :: Bytes.counted 2 name)
  | .statusRequest => [1, 0, 0, 0, 0]
  | .supportedGroups groups => Bytes.counted 2 (words groups)
  | .pointFormats formats => Bytes.counted 1 formats
  | .signatureAlgorithms algorithms => Bytes.counted 2 (words algorithms)
  | .protocols names => Bytes.counted 2 (names.flatMap (Bytes.counted 1))
  | .padding length => List.replicate length 0
  | .sessionTicket ticket => ticket
  | .renegotiationInfo => [0]
  | .grease _ body => body
  | .certificateTimestamp | .extendedMasterSecret | .channelId => []

def encode (extension : Extension) : Bytes :=
  Bytes.bigEndian 2 extension.type.toNat ++ Bytes.counted 2 extension.body

end Extension

structure ClientHello where
  random : RandomField
  sessionId : Vector UInt8 32
  cipherSuites : List UInt16
  extensions : List Extension

namespace ClientHello

def handshakeType : UInt8 := 1

def bodyLength : Nat := 508

def maxServerName : Nat := 255

def body (hello : ClientHello) : Bytes :=
  Bytes.bigEndian 2 Version.tls12.toNat ++ hello.random.toList ++
    Bytes.counted 1 hello.sessionId.toList ++ Bytes.counted 2 (Extension.words hello.cipherSuites) ++
    [1, 0] ++ Bytes.counted 2 (hello.extensions.flatMap Extension.encode)

def encode (hello : ClientHello) : Bytes :=
  handshakeType :: Bytes.counted 3 hello.body

/-- Pads the body to `bodyLength`, if the four bytes of the padding's own header still fit. -/
def pad (hello : ClientHello) : ClientHello :=
  let length := hello.body.length + 4
  if length ≤ bodyLength then
    { hello with extensions := hello.extensions ++ [.padding (bodyLength - length)] }
  else hello

structure Parameters where
  browser : Browser
  serverName : String
  random : RandomField
  sessionId : Vector UInt8 32
  ticket : Ticket
  grease : Grease

def chromeCipherSuites : List UInt16 := [
  0xc02b, 0xc02f, 0xc02c, 0xc030, 0xcca9, 0xcca8, 0xc013, 0xc014, 0x009c, 0x009d, 0x002f, 0x0035,
  0x000a]

def chromeSignatureAlgorithms : List UInt16 := [
  0x0403, 0x0804, 0x0401, 0x0503, 0x0805, 0x0501, 0x0806, 0x0601, 0x0201]

def chromeGroups : List UInt16 := [0x001d, 0x0017, 0x0018]

def firefoxCipherSuites : List UInt16 := [
  0xc02b, 0xc02f, 0xcca9, 0xcca8, 0xc02c, 0xc030, 0xc00a, 0xc009, 0xc013, 0xc014, 0x0033, 0x0039,
  0x002f, 0x0035, 0x000a]

def firefoxSignatureAlgorithms : List UInt16 := [
  0x0403, 0x0503, 0x0603, 0x0804, 0x0805, 0x0806, 0x0401, 0x0501, 0x0601, 0x0203, 0x0201]

def firefoxGroups : List UInt16 := [0x001d, 0x0017, 0x0018, 0x0019]

def protocolNames : List Bytes := [.ofString "h2", .ofString "http/1.1"]

def serverNameExtensions (name : String) : List Extension :=
  if name = "" then [] else [.serverName (.ofString name)]

def cipherSuitesOf (parameters : Parameters) : List UInt16 :=
  match parameters.browser with
  | .chrome => parameters.grease.cipherSuite :: chromeCipherSuites
  | .firefox => firefoxCipherSuites

def extensionsOf (parameters : Parameters) : List Extension :=
  let ticket := Extension.sessionTicket parameters.ticket.toList
  let name := serverNameExtensions parameters.serverName
  match parameters.browser with
  | .chrome =>
    [.grease parameters.grease.firstExtension [], .renegotiationInfo] ++ name ++
      [.extendedMasterSecret, ticket, .signatureAlgorithms chromeSignatureAlgorithms, .statusRequest,
        .certificateTimestamp, .protocols protocolNames, .channelId, .pointFormats [0],
        .supportedGroups (parameters.grease.group :: chromeGroups),
        .grease parameters.grease.lastExtension [0]]
  | .firefox =>
    name ++
      [.extendedMasterSecret, .renegotiationInfo, .pointFormats [0], ticket, .protocols protocolNames,
        .statusRequest, .supportedGroups firefoxGroups, .signatureAlgorithms firefoxSignatureAlgorithms]

def build (parameters : Parameters) : ClientHello :=
  pad {
    random := parameters.random
    sessionId := parameters.sessionId
    cipherSuites := cipherSuitesOf parameters
    extensions := extensionsOf parameters }

end ClientHello

end Camouflage
