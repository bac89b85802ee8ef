import Camouflage.Proofs.Greeting.Decoding

namespace Camouflage.Greeting

variable {setup : Setup} {settings : Settings} {options : Options} {made drawn tape rest : Tape}
  {now : Instant} {greeting : Bytes}

def hello? (greeting : Bytes) : Option ClientHello :=
  match Record.split greeting with
  | ([record], []) => ClientHello.ofBytes? record.payload
  | _ => none

lemma hello?_frame (hn : (Bytes.ofString setup.serverName).length ≤ ClientHello.maxServerName)
    (index : UInt64) (salt : Salt) (sessionId : Vector UInt8 32) (grease : Vector UInt8 4) :
    hello? (Record.frame .handshake .tls10 (hello setup index salt sessionId grease).encode) =
      some (hello setup index salt sessionId grease) := by
  have hl := length_encode_hello_le index salt sessionId grease hn
  have hs := Record.split_frame_append .handshake .tls10
    (hello setup index salt sessionId grease).encode []
  rw [Record.fragments_of_length_le hl, List.append_nil, Record.split_nil] at hs
  rw [hello?, hs]
  exact ClientHello.ofBytes?_encode (fits_hello index salt sessionId grease hn)

lemma exists_draws (h : compose setup now tape = (.ok greeting, rest)) :
    ∃ (salt : Salt) (sessionId : Vector UInt8 32) (grease : Vector UInt8 4),
      tape = salt.toList ++ (sessionId.toList ++ (grease.toList ++ rest)) ∧
      greeting = Record.frame .handshake .tls10
        (hello setup (now.windowIndex setup.replayWindow) salt sessionId grease).encode := by
  simp only [compose] at h
  split at h
  · cases h
  · next salt tape' hsalt =>
    split at h
    · cases h
    · next sessionId tape'' hid =>
      split at h
      · cases h
      · next grease tape''' hgrease =>
        cases h
        refine ⟨salt, sessionId, grease, ?_, rfl⟩
        rw [← Tape.eq_append_of_draw? hgrease, ← Tape.eq_append_of_draw? hid]
        exact Tape.eq_append_of_draw? hsalt

lemma ne_nil_of_compose (h : compose setup now tape = (.ok greeting, rest)) : greeting ≠ [] := by
  obtain ⟨_, _, _, _, rfl⟩ := exists_draws h
  exact Record.frame_ne_nil _ _ _

lemma exists_hello (hm : Setup.make settings options made = .ok (setup, drawn))
    (h : compose setup now tape = (.ok greeting, rest)) :
    ∃ salt sessionId grease, hello? greeting =
      some (hello setup (now.windowIndex setup.replayWindow) salt sessionId grease) := by
  obtain ⟨salt, sessionId, grease, -, rfl⟩ := exists_draws h
  exact ⟨salt, sessionId, grease, hello?_frame (Setup.length_serverName_le hm) _ _ _ _⟩

end Camouflage.Greeting
