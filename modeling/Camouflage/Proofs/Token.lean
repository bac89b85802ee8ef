import Camouflage.Proofs.Bytes
import Camouflage.Token

/-! What the digests of a token cover tells the key or the tag, the window, and the rest apart, so two
tokens agree where they should not only if the digest itself takes two messages for one. -/

namespace Camouflage

namespace Token

lemma message_inj {n : Nat} {head head' : Vector UInt8 n} {index index' : UInt64} {rest rest' : Bytes}
    (h : head.toList ++ Bytes.bigEndian 8 index.toNat ++ rest =
      head'.toList ++ Bytes.bigEndian 8 index'.toNat ++ rest') :
    head = head' ∧ index = index' ∧ rest = rest' := by
  obtain ⟨hfront, hrest⟩ := List.append_inj h (by simp)
  obtain ⟨hhead, hindex⟩ := List.append_inj hfront (by simp)
  exact ⟨Vector.toList_inj.mp hhead, Bytes.bigEndian_inj hindex, hrest⟩

section

variable (digest : Bytes → Digest) (key key' : Key) (index index' : UInt64) (salt : Salt)

def HalfCollision (message message' : Bytes) : Prop :=
  message ≠ message' ∧ (digest message).extract 0 16 = (digest message').extract 0 16

variable {key key' index index'}

lemma fieldMessage_ne (h : key' ≠ key ∨ index' ≠ index) :
    fieldMessage key' index' salt ≠ fieldMessage key index salt := by
  intro he
  obtain ⟨hkey, hindex, -⟩ := message_inj he
  rcases h with h | h
  · exact h hkey
  · exact h hindex

lemma toList_randomField : (randomField digest key index salt).toList =
    salt.toList ++ ((digest (fieldMessage key index salt)).extract 0 16).toList :=
  Vector.toList_append

@[simp] lemma saltOf_randomField : saltOf (randomField digest key index salt) = salt := by
  apply Vector.toList_inj.mp
  rw [saltOf, Vector.toList_extract, toList_randomField]
  simp

lemma accepts_randomField_iff :
    accepts digest key' index' (randomField digest key index salt) = true ↔
      (digest (fieldMessage key' index' salt)).extract 0 16 =
        (digest (fieldMessage key index salt)).extract 0 16 := by
  rw [accepts, saltOf_randomField, beq_iff_eq, ← Vector.toList_inj, toList_randomField,
    toList_randomField, List.append_cancel_left_eq, Vector.toList_inj]

lemma collision_of_accepts (hd : key' ≠ key ∨ index' ≠ index)
    (h : accepts digest key' index' (randomField digest key index salt) = true) :
    HalfCollision digest (fieldMessage key' index' salt) (fieldMessage key index salt) :=
  ⟨fieldMessage_ne salt hd, (accepts_randomField_iff digest salt).mp h⟩

end

section

variable {mac : Bytes → Bytes → Digest} {key : Key} {tag tag' : Tag} {index index' : UInt64}
  {counter counter' : Nat}

def block (counter : Nat) (ticket : Ticket) : Bytes := (ticket.toList.drop (32 * counter)).take 32

lemma block_sessionTicket (h : counter < 6) : block counter (sessionTicket mac key tag index) =
    (mac key.toList (blockMessage tag index counter)).toList := by
  have hl : counter < (List.range 6).length := h
  have hb := Bytes.take_drop_flatMap 32
    (f := fun counter => (mac key.toList (blockMessage tag index counter)).toList)
    (fun _ => Vector.length_toList) hl
  rw [List.getElem_range] at hb
  exact hb

lemma blockMessage_inj (hc : counter < 6) (hc' : counter' < 6)
    (h : blockMessage tag index counter = blockMessage tag' index' counter') :
    tag = tag' ∧ index = index' ∧ counter = counter' := by
  obtain ⟨htag, hindex, hrest⟩ := message_inj h
  refine ⟨htag, hindex, ?_⟩
  have hn := congrArg UInt8.toNat (List.cons.inj hrest).1
  rwa [UInt8.toNat_ofNat_of_lt' (Nat.lt_trans hc (by decide)),
    UInt8.toNat_ofNat_of_lt' (Nat.lt_trans hc' (by decide))] at hn

lemma collision_of_block (hc : counter < 6) (hd : (tag, index) ≠ (tag', index'))
    (h : block counter (sessionTicket mac key tag index) =
      block counter (sessionTicket mac key tag' index')) :
    blockMessage tag index counter ≠ blockMessage tag' index' counter ∧
      mac key.toList (blockMessage tag index counter) =
        mac key.toList (blockMessage tag' index' counter) := by
  rw [block_sessionTicket hc, block_sessionTicket hc, Vector.toList_inj] at h
  refine ⟨?_, h⟩
  intro he
  obtain ⟨rfl, rfl, -⟩ := blockMessage_inj hc hc he
  exact hd rfl

end

end Token

end Camouflage
