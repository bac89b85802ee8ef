import Camouflage.Proofs.ClientHello.Size
import Camouflage.Proofs.Greeting.Reading

namespace Camouflage.Greeting

variable {setup : Setup} {now : Instant} {tape rest : Tape} {greeting : Bytes}

lemma length_of_compose (h : compose setup now tape = (.ok greeting, rest)) :
    greeting.length = Record.framedLength
      (ClientHello.sizeWith setup.browser (Bytes.ofString setup.serverName).length) := by
  obtain ⟨salt, sessionId, grease, -, rfl⟩ := exists_draws h
  have hl := ClientHello.length_encode_build
    (parameters setup (now.windowIndex setup.replayWindow) salt sessionId grease)
  rw [Record.length_frame]
  exact congrArg Record.framedLength hl

/-- A hello has the size that its browser and the length of its server name give, and it is padded just up to
the longest name that leaves room for that. So the greetings of one setup are all of one size. -/
theorem size_by_name :
    (∀ parameters : ClientHello.Parameters,
      (ClientHello.build parameters).encode.length =
        ClientHello.sizeWith parameters.browser (Bytes.ofString parameters.serverName).length ∧
      ((∃ length, .padding length ∈ (ClientHello.build parameters).extensions) ↔
        (Bytes.ofString parameters.serverName).length ≤ ClientHello.longestPadded parameters.browser)) ∧
    ∀ (setup : Setup) (now now' : Instant) (tape tape' rest rest' : Tape) (greeting greeting' : Bytes),
      compose setup now tape = (.ok greeting, rest) → compose setup now' tape' = (.ok greeting', rest') →
        greeting.length = greeting'.length := by
  refine ⟨?_, ?_⟩
  · intro parameters
    exact ⟨ClientHello.length_encode_build parameters, ClientHello.exists_padding_iff parameters⟩
  · intro setup now now' tape tape' rest rest' greeting greeting' h h'
    rw [length_of_compose h, length_of_compose h']

theorem same_size_a_minute_later : ∃ setup greeting greeting',
    Setup.make ⟨"127.0.0.1", some 1984, some "proxy.example.com", 443, ""⟩
      { serverName := "example.com", key := "K", ticketTimeHint := 60 } (List.replicate 32 0) =
        .ok (setup, []) ∧
    compose setup ⟨0, by decide, by decide⟩ (List.replicate 52 0) = (.ok greeting, []) ∧
    compose setup ⟨60000000000, by decide, by decide⟩ (List.replicate 53 7) = (.ok greeting', [7]) ∧
    greeting.length = greeting'.length := by
  obtain ⟨setup, hm⟩ : ∃ setup,
      Setup.make ⟨"127.0.0.1", some 1984, some "proxy.example.com", 443, ""⟩
        { serverName := "example.com", key := "K", ticketTimeHint := 60 } (List.replicate 32 0) =
          .ok (setup, []) := ⟨_, rfl⟩
  obtain ⟨greeting, hg⟩ : ∃ greeting,
      compose setup ⟨0, by decide, by decide⟩ (List.replicate 52 0) = (.ok greeting, []) :=
    ⟨_, compose_append _ (.replicate 16 0) (.replicate 32 0) (.replicate 4 0) []⟩
  obtain ⟨greeting', hg'⟩ : ∃ greeting,
      compose setup ⟨60000000000, by decide, by decide⟩ (List.replicate 53 7) = (.ok greeting, [7]) :=
    ⟨_, compose_append _ (.replicate 16 7) (.replicate 32 7) (.replicate 4 7) [7]⟩
  exact ⟨setup, greeting, greeting', hm, hg, hg', size_by_name.2 _ _ _ _ _ _ _ _ _ hg hg'⟩

end Camouflage.Greeting
