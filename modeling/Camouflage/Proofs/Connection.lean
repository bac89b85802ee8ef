import Camouflage.Relay.Run
import Mathlib.Tactic.Lemma

namespace Camouflage

namespace Source

variable {room : Nat} {source rest : Source} {piece : Bytes}

def pieces (room : Nat) (source : Source) : List Bytes := source.chunks.flatMap (Bytes.cut room)

lemma pieces_of_read (h : source.read room = .got piece rest) :
    source.pieces room = piece :: rest.pieces room ∧ rest.ending = source.ending := by
  have hp := ne_nil_of_read h
  simp only [read] at h
  split at h
  · split at h <;> cases h
  · next chunk chunks hc =>
    have hcut : chunk.take room ≠ [] →
        Bytes.cut room chunk = chunk.take room :: Bytes.cut room (chunk.drop room) := by
      intro hne
      rw [Bytes.cut, if_neg (by rintro rfl; simp at hne), if_neg (by rintro rfl; simp at hne)]
    split at h
    · cases h
    · split at h
      · next hd =>
        cases h
        refine ⟨?_, rfl⟩
        simp only [pieces, hc, List.flatMap_cons, hcut hp, hd, Bytes.cut_nil, List.cons_append,
          List.nil_append]
      · cases h
        refine ⟨?_, rfl⟩
        simp only [pieces, hc, List.flatMap_cons, hcut hp, List.cons_append]

lemma flatten_pieces (room : Nat) (source : Source) : (source.pieces room).flatten = source.bytes := by
  simp only [pieces, bytes]
  induction source.chunks with
  | nil => rfl
  | cons chunk chunks ih =>
    rw [List.flatMap_cons, List.flatten_append, ih, Bytes.flatten_cut, List.flatten_cons]

lemma read_eq_waits (h : source.read room = .waits) : source.chunks = [] ∧ source.ending = none := by
  simp only [read] at h
  split at h
  · next hc =>
    split at h
    · next he => exact ⟨hc, he⟩
    · cases h
    · cases h
  · split at h
    · cases h
    · split at h <;> cases h

lemma chunks_of_read (h : source.read room = .got piece rest) {chunk : Bytes}
    (hm : chunk ∈ rest.chunks) : chunk ∈ source.chunks ∨ chunk ≠ [] := by
  simp only [read] at h
  split at h
  · split at h <;> cases h
  · next first chunks hc =>
    rw [hc, List.mem_cons]
    split at h
    · cases h
    · split at h
      · cases h
        exact Or.inl (Or.inr hm)
      · next hd =>
        cases h
        rcases List.mem_cons.mp hm with rfl | hm
        · exact Or.inr hd
        · exact Or.inl (Or.inr hm)

lemma read_of_closed (hb : source.bytes = []) (he : source.ending = some .closed) :
    source.read room = .ended := by
  simp only [read]
  split
  · rw [he]
  · next chunk chunks hc =>
    have hn : chunk = [] := by
      rw [bytes, hc, List.flatten_cons] at hb
      exact (List.append_eq_nil_iff.mp hb).1
    rw [hn, List.take_nil, if_pos rfl]

structure Used (before after : Source) : Prop where
  chunks : ∀ chunk ∈ after.chunks, chunk ∈ before.chunks ∨ chunk ≠ []
  ending : after.ending = before.ending

lemma Used.refl (source : Source) : source.Used source :=
  ⟨fun _ hm => Or.inl hm, rfl⟩

lemma Used.trans {between : Source} (h : source.Used between) (h' : between.Used rest) :
    source.Used rest := by
  refine ⟨?_, h'.ending.trans h.ending⟩
  intro chunk hm
  rcases h'.chunks chunk hm with hm | hne
  · exact h.chunks chunk hm
  · exact Or.inr hne

lemma used_of_read (h : source.read room = .got piece rest) : source.Used rest :=
  ⟨fun _ hm => chunks_of_read h hm, (pieces_of_read h).2⟩

lemma Used.notMem (h : source.Used rest) (hn : [] ∉ source.chunks) : [] ∉ rest.chunks := by
  intro hm
  rcases h.chunks _ hm with hm | hm
  · exact hn hm
  · exact hm rfl

lemma ended_of_read (hn : [] ∉ source.chunks) (hr : 0 < room) (h : source.read room = .ended) :
    source.chunks = [] ∧ source.ending = some .closed := by
  simp only [read] at h
  split at h
  · next hc =>
    split at h
    · cases h
    · next he => exact ⟨hc, he⟩
    · cases h
  · next chunk chunks hc =>
    rw [hc, List.mem_cons, not_or] at hn
    rw [if_neg] at h
    · split at h <;> cases h
    · rw [List.take_eq_nil_iff, not_or]
      exact ⟨Nat.ne_of_gt hr, fun he => hn.1 he.symm⟩

lemma failed_of_read {error : IoError} (h : source.read room = .failed error) :
    source.chunks = [] ∧ source.ending = some (.failed error) := by
  simp only [read] at h
  split at h
  · next hc =>
    split at h
    · cases h
    · cases h
    · next he =>
      cases h
      exact ⟨hc, he⟩
  · split at h
    · cases h
    · split at h <;> cases h

end Source

namespace Sink

variable {bytes left : Bytes} {sink sink' : Sink}

lemma write_eq_waits (h : sink.write bytes = .waits) : sink.limit = some ⟨0, .stalls⟩ := by
  simp only [write] at h
  split at h
  · cases h
  · split at h
    · next hl => exact hl
    · cases h
    · cases h
    · cases h

lemma ne_nil_of_write {error : IoError} (h : sink.write bytes = .failed error) : bytes ≠ [] := by
  rintro rfl
  simp [write] at h

lemma split_of_write (h : sink.write bytes = .took left sink') :
    ∃ part, part ++ left = bytes ∧ sink'.taken = sink.taken ++ part := by
  simp only [write] at h
  split at h
  · next hb =>
    cases h
    exact ⟨[], hb.symm, by simp⟩
  · split at h
    · cases h
    · cases h
    · cases h
    · cases h
      exact ⟨bytes.take (sink.room bytes.length), List.take_append_drop _ _, taken_take _ _⟩

lemma refusal_of_write (h : sink.write bytes = .took left sink') :
    sink'.limit.map Limit.refusal = sink.limit.map Limit.refusal := by
  simp only [write] at h
  split at h
  · cases h
    rfl
  · split at h
    · cases h
    · cases h
    · cases h
    · cases h
      cases hl : sink.limit <;> simp [take, hl]

end Sink

namespace Connection

variable {connection : Connection}

@[simp] lemma halves_shut : connection.shut.1.source = connection.source ∧
    connection.shut.1.sink = connection.sink := by
  simp only [shut]
  split <;> exact ⟨rfl, rfl⟩

@[simp] lemma isShut_release : connection.release.isShut = connection.isShut := by
  simp only [release]
  split <;> rfl

@[simp] lemma tenure_shut : connection.shut.1.tenure = connection.tenure := by
  simp only [shut]
  split <;> rfl

lemma tenure_release_ne : connection.release.tenure ≠ .held := by
  simp only [release]
  split
  · next ht =>
    rw [ht]
    nofun
  · nofun

lemma tenure_release (h : connection.tenure = .held) : connection.release.tenure = .released := by
  simp [release, h]

end Connection

namespace Link

variable (event : Event) (link : Link)

def on (side : Side) (link : Link) : Connection :=
  match side with
  | .near => link.near
  | .far => link.far

lemma chunks_apply (side : Side) :
    ((link.apply event).on side).source.chunks =
      (link.on side).source.chunks ++ event.arrived side := by
  cases event with
  | arrive other chunks => cases other <;> cases side <;> simp [apply, modify, on, Source.queue, Event.arrived]
  | finish other ending => cases other <;> cases side <;> simp [apply, modify, on, Event.arrived]
  | limit other limit => cases other <;> cases side <;> simp [apply, modify, on, Event.arrived]
  | refuseShut other error => cases other <;> cases side <;> simp [apply, modify, on, Event.arrived]

lemma kept_apply (side : Side) :
    ((link.apply event).on side).sink.pieces = (link.on side).sink.pieces ∧
      ((link.apply event).on side).tenure = (link.on side).tenure := by
  cases event with
  | arrive other chunks => cases other <;> cases side <;> exact ⟨rfl, rfl⟩
  | finish other ending => cases other <;> cases side <;> exact ⟨rfl, rfl⟩
  | limit other limit => cases other <;> cases side <;> exact ⟨rfl, rfl⟩
  | refuseShut other error => cases other <;> cases side <;> exact ⟨rfl, rfl⟩

lemma ending_apply (side : Side) :
    (∃ ending, event = .finish side ending ∧
      ((link.apply event).on side).source.ending = some ending) ∨
    (∀ ending, event ≠ .finish side ending) ∧
      ((link.apply event).on side).source.ending = (link.on side).source.ending := by
  cases event with
  | finish other ending =>
    cases other <;> cases side <;> first
      | exact Or.inl ⟨ending, rfl, rfl⟩
      | exact Or.inr ⟨nofun, rfl⟩
  | arrive other chunks => cases other <;> cases side <;> exact Or.inr ⟨nofun, rfl⟩
  | limit other limit => cases other <;> cases side <;> exact Or.inr ⟨nofun, rfl⟩
  | refuseShut other error => cases other <;> cases side <;> exact Or.inr ⟨nofun, rfl⟩

lemma limit_apply (side : Side) :
    (∃ limit, event = .limit side limit ∧ ((link.apply event).on side).sink.limit = limit) ∨
    ((link.apply event).on side).sink.limit = (link.on side).sink.limit := by
  cases event with
  | limit other limit =>
    cases other <;> cases side <;> first
      | exact Or.inl ⟨limit, rfl, rfl⟩
      | exact Or.inr rfl
  | arrive other chunks => cases other <;> cases side <;> exact Or.inr rfl
  | finish other ending => cases other <;> cases side <;> exact Or.inr rfl
  | refuseShut other error => cases other <;> cases side <;> exact Or.inr rfl

end Link

end Camouflage
