import Camouflage.Proofs.Record.Frame

namespace Camouflage.Record

structure Message where
  type : ContentType
  version : Version
  payload : Bytes

def Message.pushOnto (buffer : Bytes) (message : Message) : Bytes :=
  frameOnto message.type message.version buffer message.payload

structure Message.CarriedBy (message : Message) (records : List Whole) : Prop where
  count : records.length = max 1 (message.payload.length ⌈/⌉ maxPayload)
  marks : ∀ record ∈ records,
    record.header.contentType = message.type.code ∧ record.header.version = message.version
  lengths : ∀ record ∈ records,
    record.header.length.toNat = record.payload.length ∧ record.payload.length ≤ maxPayload
  full : ∀ record ∈ records.dropLast, record.payload.length = maxPayload
  nonempty : message.payload ≠ [] → ∀ record ∈ records, record.payload ≠ []
  payload : (records.map Whole.payload).flatten = message.payload

namespace Message

def frame (message : Message) : Bytes := Record.frame message.type message.version message.payload

def records (message : Message) : List Whole :=
  (fragments message.payload).map (whole message.type message.version)

lemma carriedBy_records (message : Message) : message.CarriedBy message.records where
  count := by rw [records, List.length_map, length_fragments]
  marks record hm := by
    obtain ⟨piece, -, rfl⟩ := List.mem_map.mp hm
    exact ⟨rfl, rfl⟩
  lengths record hm := by
    obtain ⟨piece, hp, rfl⟩ := List.mem_map.mp hm
    have hl := (length_le_of_mem_fragments hp).1
    refine ⟨toNat_length_whole _ _ ?_, hl⟩
    rw [maxPayload] at hl
    omega
  full record hm := by
    rw [records, ← List.map_dropLast] at hm
    obtain ⟨piece, hp, rfl⟩ := List.mem_map.mp hm
    exact length_of_mem_dropLast_fragments hp
  nonempty hn record hm := by
    obtain ⟨piece, hp, rfl⟩ := List.mem_map.mp hm
    exact ne_nil_of_mem_fragments hn hp
  payload := by
    have hp : message.records.map Whole.payload = fragments message.payload := by
      rw [records, List.map_map]
      exact List.map_id _
    rw [hp, flatten_fragments]

lemma foldl_pushOnto (buffer : Bytes) (messages : List Message) :
    messages.foldl pushOnto buffer = buffer ++ messages.flatMap frame := by
  induction messages generalizing buffer with
  | nil => simp
  | cons message messages ih =>
    rw [List.foldl_cons, ih, pushOnto, frameOnto_eq, List.append_assoc, List.flatMap_cons]
    rfl

lemma reads_frames (messages : List Message) (rest : Bytes) :
    Reads (messages.flatMap frame ++ rest) (messages.flatMap records) rest := by
  induction messages with
  | nil => exact .nil rest
  | cons message messages ih =>
    rw [List.flatMap_cons, List.flatMap_cons, List.append_assoc]
    exact (reads_frame message.type message.version message.payload _).append ih

/-- Each message lengthens the buffer by its framed length. What was in the buffer stays in front, and
reading behind it finds the records of the messages in their order, up to whatever follows them. -/
theorem pushed_messages_read_back (before : Bytes) (messages : List Message) :
    (∀ buffer message, (pushOnto buffer message).length =
      buffer.length + framedLength message.payload.length) ∧
    ∃ appended groups, messages.foldl pushOnto before = before ++ appended ∧
      List.Forall₂ CarriedBy messages groups ∧
      ∀ further, Reads (appended ++ further) groups.flatten further := by
  refine ⟨?_, messages.flatMap frame, messages.map records, foldl_pushOnto before messages, ?_, ?_⟩
  · intro buffer message
    rw [pushOnto, frameOnto_eq, List.length_append, length_frame]
  · rw [List.forall₂_map_right_iff]
    exact List.forall₂_same.mpr fun message _ => carriedBy_records message
  · intro further
    rw [← List.flatMap_def]
    exact reads_frames messages further

end Message

end Camouflage.Record
