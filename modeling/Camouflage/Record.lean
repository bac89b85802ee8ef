import Camouflage.Bytes

/-!
The record layer, used as a framing shell: a content type, a version, a length of two bytes, and
as many bytes of payload. A payload longer than `Record.maxPayload` goes into several records.
-/

namespace Camouflage

inductive ContentType
  | changeCipherSpec
  | handshake
  | applicationData
  deriving DecidableEq, Repr

def ContentType.code : ContentType → UInt8
  | .changeCipherSpec => 0x14
  | .handshake => 0x16
  | .applicationData => 0x17

abbrev Version := UInt16

def Version.tls10 : Version := 0x0301

def Version.tls12 : Version := 0x0303

namespace Record

def headerLength : Nat := 5

def maxPayload : Nat := 16384

structure Header where
  contentType : UInt8
  version : Version
  length : UInt16
  deriving DecidableEq, Repr

def Header.ofBytes (bytes : Bytes) : Header where
  contentType := bytes.headD 0
  version := UInt16.ofNat (Bytes.ofBigEndian ((bytes.drop 1).take 2))
  length := UInt16.ofNat (Bytes.ofBigEndian ((bytes.drop 3).take 2))

variable (type : ContentType) (version : Version)

/-- The length field holds the last two bytes of the payload's length. -/
def single (payload : Bytes) : Bytes :=
  type.code :: Bytes.bigEndian 2 version.toNat ++ Bytes.counted 2 payload

def fragments (payload : Bytes) : List Bytes :=
  if payload = [] then [[]] else Bytes.cut maxPayload payload

def frame (payload : Bytes) : Bytes :=
  (fragments payload).flatMap (single type version)

def frameOnto (buffer payload : Bytes) : Bytes :=
  (fragments payload).foldl (fun buffer piece => buffer ++ single type version piece) buffer

def framedLength (length : Nat) : Nat :=
  let records := if length = 0 then 1 else (length + maxPayload - 1) / maxPayload
  length + records * headerLength

@[simp] theorem length_single (payload : Bytes) :
    (single type version payload).length = headerLength + payload.length := by
  simp [single, headerLength]
  omega

theorem frameOnto_eq (buffer payload : Bytes) :
    frameOnto type version buffer payload = buffer ++ frame type version payload := by
  unfold frameOnto frame
  induction fragments payload generalizing buffer with
  | nil => simp
  | cons piece pieces ih => rw [List.foldl_cons, ih, List.flatMap_cons, List.append_assoc]

theorem flatten_fragments (payload : Bytes) : (fragments payload).flatten = payload := by
  unfold fragments
  split
  · simp_all
  · exact Bytes.flatten_cut _ _

end Record

end Camouflage
