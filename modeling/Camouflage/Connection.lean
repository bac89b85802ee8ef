import Camouflage.IoError

/-!
A connection as the program meets it: what it will deliver, what it will take, and whether the
program holds it. Reading and writing are single attempts; an attempt that can not go on waits.
-/

namespace Camouflage

inductive Ending
  | closed
  | failed (error : IoError)
  deriving DecidableEq, Repr

/-- One read takes from one chunk only. -/
structure Source where
  chunks : List Bytes := []
  ending : Option Ending := none
  deriving DecidableEq, Repr

inductive Reading
  | waits
  | ended
  | failed (error : IoError)
  | got (piece : Bytes) (rest : Source)

namespace Source

def bytes (source : Source) : Bytes := source.chunks.flatten

def read (room : Nat) (source : Source) : Reading :=
  match source.chunks with
  | [] =>
    match source.ending with
    | none => .waits
    | some .closed => .ended
    | some (.failed error) => .failed error
  | chunk :: chunks =>
    let piece := chunk.take room
    let rest := chunk.drop room
    if piece = [] then .ended
    else if rest = [] then .got piece { source with chunks }
    else .got piece { source with chunks := rest :: chunks }

def queue (chunks : List Bytes) (source : Source) : Source :=
  { source with chunks := source.chunks ++ chunks }

variable {room : Nat} {source rest : Source} {piece : Bytes}

theorem ne_nil_of_read (h : source.read room = .got piece rest) : piece ≠ [] := by
  unfold read at h
  split at h
  · split at h <;> cases h
  · dsimp only at h
    split at h
    · cases h
    · split at h <;> (cases h; assumption)

theorem length_le_of_read (h : source.read room = .got piece rest) : piece.length ≤ room := by
  unfold read at h
  split at h
  · split at h <;> cases h
  · dsimp only at h
    split at h
    · cases h
    · split at h <;> (cases h; exact List.length_take_le _ _)

theorem bytes_of_read (h : source.read room = .got piece rest) :
    source.bytes = piece ++ rest.bytes := by
  unfold read at h
  split at h
  · split at h <;> cases h
  · next chunk chunks hc =>
    dsimp only at h
    split at h
    · cases h
    · split at h
      · next hr =>
        cases h
        simp [bytes, hc, List.take_of_length_le (List.drop_eq_nil_iff.mp hr)]
      · cases h
        simp [bytes, hc, ← List.append_assoc, List.take_append_drop]

theorem length_lt_of_read (h : source.read room = .got piece rest) :
    rest.bytes.length < source.bytes.length := by
  have hp := List.length_pos_iff.mpr (ne_nil_of_read h)
  rw [bytes_of_read h, List.length_append]
  omega

end Source

inductive Refusal
  | stalls
  | takesNothing
  | fails (error : IoError)
  deriving DecidableEq, Repr

/-- Writes take `left` more bytes, and then meet the refusal. -/
structure Limit where
  left : Nat
  refusal : Refusal
  deriving DecidableEq, Repr

/-- The pieces that were taken stand newest first. -/
structure Sink where
  pieces : List Bytes := []
  limit : Option Limit := none
  deriving DecidableEq, Repr

inductive Writing
  | waits
  | failed (error : IoError)
  | took (left : Bytes) (sink : Sink)

namespace Sink

def taken (sink : Sink) : Bytes := sink.pieces.reverse.flatten

def room (sink : Sink) (wanted : Nat) : Nat :=
  match sink.limit with
  | none => wanted
  | some limit => min limit.left wanted

def take (bytes : Bytes) (sink : Sink) : Sink where
  pieces := bytes :: sink.pieces
  limit := sink.limit.map fun limit => { limit with left := limit.left - bytes.length }

def write (bytes : Bytes) (sink : Sink) : Writing :=
  if bytes = [] then .took [] sink
  else
    match sink.limit with
    | some ⟨0, .stalls⟩ => .waits
    | some ⟨0, .takesNothing⟩ => .failed .tookNothing
    | some ⟨0, .fails error⟩ => .failed error
    | _ =>
      let room := sink.room bytes.length
      .took (bytes.drop room) (sink.take (bytes.take room))

@[simp] theorem taken_take (bytes : Bytes) (sink : Sink) :
    (sink.take bytes).taken = sink.taken ++ bytes := by
  simp [taken, take]

variable {bytes left : Bytes} {sink sink' : Sink}

theorem taken_of_write (h : sink.write bytes = .took left sink') :
    sink'.taken ++ left = sink.taken ++ bytes := by
  unfold write at h
  split at h
  · next hb => cases h; simp [hb]
  · split at h
    · cases h
    · cases h
    · cases h
    · cases h
      simp [List.take_append_drop]

theorem room_pos {wanted : Nat} (hw : 0 < wanted) (hs : ∀ refusal, sink.limit ≠ some ⟨0, refusal⟩) :
    0 < sink.room wanted := by
  unfold room
  cases hl : sink.limit with
  | none => simpa using hw
  | some limit =>
    obtain ⟨left, refusal⟩ := limit
    cases left with
    | zero => exact absurd hl (hs refusal)
    | succ left =>
      simp only [Nat.lt_min]
      omega

theorem length_lt_of_write (hb : bytes ≠ []) (h : sink.write bytes = .took left sink') :
    left.length < bytes.length := by
  have hp := List.length_pos_iff.mpr hb
  unfold write at h
  rw [if_neg hb] at h
  split at h
  · cases h
  · cases h
  · cases h
  · next h1 h2 h3 =>
    cases h
    have : 0 < sink.room bytes.length := room_pos hp fun refusal => by
      cases refusal with
      | stalls => exact h1
      | takesNothing => exact h2
      | fails error => exact h3 error
    simp only [List.length_drop]
    omega

end Sink

inductive Tenure
  | awaited
  | held
  | released
  deriving DecidableEq, Repr

structure Connection where
  source : Source := {}
  sink : Sink := {}
  tenure : Tenure := .awaited
  isShut : Bool := false
  shutError : Option IoError := none
  deriving DecidableEq, Repr

namespace Connection

def hold (connection : Connection) : Connection := { connection with tenure := .held }

def release (connection : Connection) : Connection :=
  match connection.tenure with
  | .awaited => connection
  | _ => { connection with tenure := .released }

@[simp] theorem source_release (connection : Connection) :
    connection.release.source = connection.source := by
  unfold release
  split <;> rfl

@[simp] theorem sink_release (connection : Connection) :
    connection.release.sink = connection.sink := by
  unfold release
  split <;> rfl

def shut (connection : Connection) : Connection × Option IoError :=
  match connection.shutError with
  | none => ({ connection with isShut := true }, none)
  | some error => (connection, some error)

end Connection

/-- The two connections of a session: the near one was accepted from this machine, the far one
leads to the proxy server. -/
inductive Side
  | near
  | far
  deriving DecidableEq, Repr

structure Link where
  near : Connection := { tenure := .held }
  far : Connection := {}
  deriving DecidableEq, Repr

namespace Link

def modify (side : Side) (change : Connection → Connection) (link : Link) : Link :=
  match side with
  | .near => { link with near := change link.near }
  | .far => { link with far := change link.far }

def release (link : Link) : Link := ⟨link.near.release, link.far.release⟩

end Link

inductive Link.Event
  | arrive (side : Side) (chunks : List Bytes)
  | finish (side : Side) (ending : Ending)
  /-- Writes take a limited number of further bytes; `none` lifts the limit. -/
  | limit (side : Side) (limit : Option Limit)
  | refuseShut (side : Side) (error : IoError)
  deriving DecidableEq, Repr

def Link.apply (event : Link.Event) (link : Link) : Link :=
  match event with
  | .arrive side chunks => link.modify side fun c => { c with source := c.source.queue chunks }
  | .finish side ending =>
    link.modify side fun c => { c with source := { c.source with ending := some ending } }
  | .limit side limit => link.modify side fun c => { c with sink := { c.sink with limit } }
  | .refuseShut side error => link.modify side fun c => { c with shutError := some error }

end Camouflage
