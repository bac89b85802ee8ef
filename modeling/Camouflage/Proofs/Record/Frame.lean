import Camouflage.Proofs.Bytes
import Camouflage.Proofs.Record.Split

/-! Splitting framed bytes gives back what was framed: the records of a payload are found at the
start of the bytes, and splitting goes on behind them. -/

namespace Camouflage.Record

variable {payload piece : Bytes} {header : Header}

section

variable (type : ContentType) (version : Version)

def whole (payload : Bytes) : Whole := ⟨⟨type.code, version, .ofNat payload.length⟩, payload⟩

lemma toNat_length_whole (h : payload.length < 65536) :
    (whole type version payload).header.length.toNat = payload.length :=
  UInt16.toNat_ofNat_of_lt' h

lemma ofBytes_single (h : payload.length < 65536) (rest : Bytes) :
    Header.ofBytes (single type version payload ++ rest) = (whole type version payload).header := by
  have hv : version.toNat < 65536 := version.toNat_lt
  have hl : (Bytes.bigEndian 2 version.toNat).length = 2 := Bytes.length_bigEndian 2 _
  have hd : (single type version payload ++ rest).drop 1 =
      Bytes.bigEndian 2 version.toNat ++ (Bytes.bigEndian 2 payload.length ++ (payload ++ rest)) := by
    simp only [single, Bytes.counted, List.cons_append, List.append_assoc, List.drop_succ_cons,
      List.drop_zero]
  have hd' : (single type version payload ++ rest).drop 3 =
      Bytes.bigEndian 2 payload.length ++ (payload ++ rest) := by
    change ((single type version payload ++ rest).drop (1 + 2)) = _
    rw [← List.drop_drop, hd, List.drop_left' hl]
  rw [Header.ofBytes, hd, hd', List.take_left' hl, List.take_left' (Bytes.length_bigEndian 2 _),
    Bytes.ofBigEndian_bigEndian hv, Bytes.ofBigEndian_bigEndian h, UInt16.ofNat_toNat]
  rfl

lemma first?_single_append (h : payload.length < 65536) (rest : Bytes) :
    first? (single type version payload ++ rest) = some (whole type version payload, rest) := by
  have hl : (whole type version payload).header.length.toNat = payload.length :=
    toNat_length_whole type version h
  have hd : (single type version payload ++ rest).drop headerLength = payload ++ rest := by
    have hs : single type version payload =
        (type.code :: Bytes.bigEndian 2 version.toNat ++ Bytes.bigEndian 2 payload.length) ++ payload := by
      simp only [single, Bytes.counted, List.cons_append, List.append_assoc]
    rw [hs, List.append_assoc]
    exact List.drop_left' (by simp [headerLength])
  simp only [first?, ofBytes_single type version h, hl, hd]
  rw [if_pos (by rw [List.length_append, length_single]; omega), List.take_left, List.drop_left]
  rfl

lemma reads_singles {pieces : List Bytes} (h : ∀ piece ∈ pieces, piece.length < 65536) (rest : Bytes) :
    Reads (pieces.flatMap (single type version) ++ rest) (pieces.map (whole type version)) rest := by
  induction pieces with
  | nil => exact .nil rest
  | cons piece pieces ih =>
    have hp := h piece List.mem_cons_self
    have hr := ih fun other hm => h other (List.mem_cons_of_mem _ hm)
    rw [List.flatMap_cons, List.append_assoc]
    exact .cons (first?_single_append type version hp _) hr

lemma length_flatMap_single (pieces : List Bytes) : (pieces.flatMap (single type version)).length =
    pieces.flatten.length + pieces.length * headerLength := by
  induction pieces with
  | nil => rfl
  | cons piece pieces ih =>
    rw [List.flatMap_cons, List.length_append, length_single, ih, List.flatten_cons,
      List.length_append, List.length_cons, Nat.add_one_mul]
    omega

end

lemma frame_ne_nil (type : ContentType) (version : Version) (payload : Bytes) :
    frame type version payload ≠ [] := by
  rw [frame, fragments]
  split
  · simp [single]
  · next hp =>
    rw [Bytes.cut, if_neg hp, if_neg (by decide)]
    simp [single]

lemma length_le_of_mem_fragments (h : piece ∈ fragments payload) :
    piece.length ≤ maxPayload ∧ piece.length ≤ payload.length := by
  have hs : piece.length ≤ payload.length := by
    rw [← flatten_fragments payload]
    exact (List.sublist_flatten_of_mem h).length_le
  refine ⟨?_, hs⟩
  rw [fragments] at h
  split at h
  · rw [List.mem_singleton.mp h]
    exact Nat.zero_le _
  · exact Bytes.length_le_of_mem_cut (by decide) h

lemma length_of_mem_dropLast_fragments (h : piece ∈ (fragments payload).dropLast) :
    piece.length = maxPayload := by
  rw [fragments] at h
  split at h
  · cases h
  · exact Bytes.length_of_mem_dropLast_cut h

lemma ne_nil_of_mem_fragments (hp : payload ≠ []) (h : piece ∈ fragments payload) : piece ≠ [] := by
  rw [fragments, if_neg hp] at h
  exact Bytes.ne_nil_of_mem_cut h

lemma length_fragments (payload : Bytes) :
    (fragments payload).length = max 1 (payload.length ⌈/⌉ maxPayload) := by
  rw [fragments]
  split
  · next hp =>
    rw [hp]
    rfl
  · next hp =>
    have hl := List.length_pos_iff.mpr hp
    have hone : 1 ≤ payload.length ⌈/⌉ maxPayload := by
      rw [Nat.ceilDiv_eq_add_pred_div, Nat.le_div_iff_mul_le (by decide)]
      omega
    rw [Bytes.length_cut (by decide), Nat.max_eq_right hone]

lemma fragments_of_length_le (h : payload.length ≤ maxPayload) : fragments payload = [payload] := by
  rw [fragments]
  split
  · next hp => rw [hp]
  · next hp => exact Bytes.cut_of_length_le hp h

variable (type : ContentType) (version : Version)

lemma reads_frame (payload rest : Bytes) : Reads (frame type version payload ++ rest)
    ((fragments payload).map (whole type version)) rest := by
  apply reads_singles
  intro piece hm
  have hl := (length_le_of_mem_fragments hm).1
  rw [maxPayload] at hl
  omega

lemma length_frame (payload : Bytes) :
    (frame type version payload).length = framedLength payload.length := by
  rw [frame, length_flatMap_single, flatten_fragments, framedLength, length_fragments,
    Nat.ceilDiv_eq_add_pred_div]
  congr 2
  split
  · next hz =>
    rw [hz]
    rfl
  · next hz =>
    apply Nat.max_eq_right
    rw [Nat.le_div_iff_mul_le (by decide)]
    omega

lemma split_frame_append (payload rest : Bytes) : split (frame type version payload ++ rest) =
    ((fragments payload).map (whole type version) ++ (split rest).1, (split rest).2) :=
  (reads_frame type version payload rest).split_eq

lemma split_frames (units : List Bytes) : split (units.flatMap (frame type version)) =
    ((units.flatMap fragments).map (whole type version), []) := by
  induction units with
  | nil => exact split_nil
  | cons unit units ih =>
    rw [List.flatMap_cons, split_frame_append, ih, List.flatMap_cons, List.map_append]

lemma payloads_frames (units : List Bytes) :
    payloads (units.flatMap (frame type version)) = units.flatMap fragments := by
  rw [payloads, split_frames, List.map_map]
  exact List.map_id _

lemma flatten_payloads_frames (units : List Bytes) :
    (payloads (units.flatMap (frame type version))).flatten = units.flatten := by
  rw [payloads_frames]
  induction units with
  | nil => rfl
  | cons unit units ih =>
    rw [List.flatMap_cons, List.flatten_append, flatten_fragments, ih, List.flatten_cons]

lemma length_le_of_mem_headers {units : List Bytes} {size : Nat}
    (hs : ∀ unit ∈ units, unit.length ≤ size)
    (h : header ∈ headers (units.flatMap (frame type version))) :
    header.length.toNat ≤ min size maxPayload := by
  have hn : ¬ headerLength ≤ ([] : Bytes).length := by decide
  simp only [headers, split_frames, if_neg hn, List.append_nil] at h
  obtain ⟨_, hw, rfl⟩ := List.mem_map.mp h
  obtain ⟨piece, hp, rfl⟩ := List.mem_map.mp hw
  obtain ⟨unit, hu, hp⟩ := List.mem_flatMap.mp hp
  obtain ⟨hm, hl⟩ := length_le_of_mem_fragments hp
  have hlt : piece.length < 65536 := by
    rw [maxPayload] at hm
    omega
  rw [toNat_length_whole type version hlt]
  exact Nat.le_min.mpr ⟨Nat.le_trans hl (hs unit hu), hm⟩

end Camouflage.Record
