import Camouflage.Digest.Hmac
import Camouflage.Instant

/-!
The authentication token inside a hello. The random field is a salt and half of a digest of the key,
the replay window and the salt. The session ticket is a key stream over the process's tag and the
window; it stays the same throughout a window. The digest and the keyed digest are parameters.
-/

namespace Camouflage

abbrev Key := Vector UInt8 32

/-- The value that is drawn once per process, for the tickets. -/
abbrev Tag := Vector UInt8 32

abbrev Salt := Vector UInt8 16

abbrev RandomField := Vector UInt8 32

abbrev Ticket := Vector UInt8 192

namespace Token

def deriveKey (digest : Bytes → Digest) (secret : String) : Key :=
  digest (.ofString secret)

def fieldMessage (key : Key) (index : UInt64) (salt : Salt) : Bytes :=
  key.toList ++ Bytes.bigEndian 8 index.toNat ++ salt.toList

def randomField (digest : Bytes → Digest) (key : Key) (index : UInt64) (salt : Salt) : RandomField :=
  salt ++ (digest (fieldMessage key index salt)).extract 0 16

def saltOf (field : RandomField) : Salt := field.extract 0 16

def accepts (digest : Bytes → Digest) (key : Key) (index : UInt64) (field : RandomField) : Bool :=
  randomField digest key index (saltOf field) == field

def blockMessage (tag : Tag) (index : UInt64) (counter : Nat) : Bytes :=
  tag.toList ++ Bytes.bigEndian 8 index.toNat ++ [UInt8.ofNat counter]

def sessionTicket (mac : Bytes → Bytes → Digest) (key : Key) (tag : Tag) (index : UInt64) : Ticket :=
  ⟨((List.range 6).flatMap fun counter =>
      (mac key.toList (blockMessage tag index counter)).toList).toArray, by simp [List.range, List.range.loop]⟩

end Token

end Camouflage
