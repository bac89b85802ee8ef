import Camouflage.Proofs.Greeting.Reading
import Camouflage.Proofs.Instant
import Camouflage.Proofs.Token

/-! A random field is good for the window that it was made in, with the key that it was made with. To be
accepted elsewhere, two messages of which one is not the other must have the same half digest. -/

namespace Camouflage.Greeting

open Token (HalfCollision accepts fieldMessage randomField saltOf)

variable {setup : Setup} {settings : Settings} {options : Options} {made drawn tape rest : Tape}
  {now later : Instant} {greeting : Bytes}

lemma exists_field (hm : Setup.make settings options made = .ok (setup, drawn))
    (h : compose setup now tape = (.ok greeting, rest)) :
    ∃ hello salt, hello? greeting = some hello ∧
      hello.random = randomField sha256 setup.key (now.windowIndex setup.replayWindow) salt ∧
      salt.toList = tape.take 16 := by
  obtain ⟨salt, sessionId, grease, ht, rfl⟩ := exists_draws h
  let index := now.windowIndex setup.replayWindow
  refine ⟨hello setup index salt sessionId grease, salt, ?_, ?_, ?_⟩
  · exact hello?_frame (Setup.length_serverName_le hm) index salt sessionId grease
  · exact ClientHello.random_build (parameters setup index salt sessionId grease)
  · rw [ht]
    exact (List.take_left' salt.length_toList).symm

lemma windowIndex_ne_of_made (hm : Setup.make settings options made = .ok (setup, drawn))
    (hn : 0 ≤ now.nanos) (hl : 0 ≤ later.nanos)
    (h : setup.replayWindow.nanos ≤ (later.nanos - now.nanos).natAbs) :
    later.windowIndex setup.replayWindow ≠ now.windowIndex setup.replayWindow := by
  apply Instant.windowIndex_ne hn hl
  rw [Span.width, Nat.max_eq_right (Setup.one_le_seconds_replayWindow hm)]
  exact Nat.le_trans (Nat.div_mul_le_self _ _) h

/-- Whatever the digest, a field is accepted throughout its own window, and under another window or
another key only if the digest takes two messages for one. A whole window later another window has come,
so a greeting that is sent again then is not accepted but for such a collision. -/
theorem token_bound_to_window (digest : Bytes → Digest) (key : Key) (salt : Salt) (window : Span)
    (now : Instant) :
    (∀ later : Instant, later.windowIndex window = now.windowIndex window →
      accepts digest key (later.windowIndex window)
        (randomField digest key (now.windowIndex window) salt) = true) ∧
    (∀ key' index, key' ≠ key ∨ index ≠ now.windowIndex window →
      accepts digest key' index (randomField digest key (now.windowIndex window) salt) = true →
      HalfCollision digest (fieldMessage key' index salt)
        (fieldMessage key (now.windowIndex window) salt)) ∧
    (∀ later : Instant, 0 ≤ now.nanos → 0 ≤ later.nanos →
      max 1 window.seconds * nanosPerSecond ≤ (later.nanos - now.nanos).natAbs →
      later.windowIndex window ≠ now.windowIndex window) ∧
    (∀ settings options made setup drawn tape greeting rest,
      Setup.make settings options made = .ok (setup, drawn) →
      compose setup now tape = (.ok greeting, rest) →
      ∃ hello, hello? greeting = some hello ∧ (saltOf hello.random).toList = tape.take 16 ∧
        (∀ later : Instant,
          later.windowIndex setup.replayWindow = now.windowIndex setup.replayWindow →
          accepts sha256 setup.key (later.windowIndex setup.replayWindow) hello.random = true) ∧
        (∀ later : Instant, 0 ≤ now.nanos → 0 ≤ later.nanos →
          setup.replayWindow.nanos ≤ (later.nanos - now.nanos).natAbs →
          accepts sha256 setup.key (later.windowIndex setup.replayWindow) hello.random = true →
          HalfCollision sha256
            (fieldMessage setup.key (later.windowIndex setup.replayWindow) (saltOf hello.random))
            (fieldMessage setup.key (now.windowIndex setup.replayWindow) (saltOf hello.random)))) := by
  refine ⟨?_, ?_, ?_, ?_⟩
  · intro later hsame
    rw [hsame, Token.accepts_randomField_iff]
  · intro key' index hd ha
    exact Token.collision_of_accepts digest salt hd ha
  · intro later hn hl hd
    exact Instant.windowIndex_ne hn hl hd
  · intro settings options made setup drawn tape greeting rest hm hc
    obtain ⟨hello, salt, hh, hr, hs⟩ := exists_field hm hc
    refine ⟨hello, hh, ?_, ?_, ?_⟩
    · rw [hr, Token.saltOf_randomField]
      exact hs
    · intro later hsame
      rw [hsame, hr, Token.accepts_randomField_iff]
    · intro later hn hl hd ha
      rw [hr] at ha ⊢
      rw [Token.saltOf_randomField]
      exact Token.collision_of_accepts sha256 salt (Or.inr (windowIndex_ne_of_made hm hn hl hd)) ha

theorem rejected_a_minute_later :
    (∃ setup greeting hello,
      Setup.make ⟨"127.0.0.1", some 1984, some "proxy.example.com", 443, ""⟩
        { serverName := "example.com", key := "K", ticketTimeHint := 60 } (List.replicate 32 0) =
          .ok (setup, []) ∧
      compose setup ⟨0, by decide, by decide⟩ (List.replicate 52 0) = (.ok greeting, []) ∧
      hello? greeting = some hello ∧
      accepts sha256 setup.key
        ((⟨59999999999, by decide, by decide⟩ : Instant).windowIndex setup.replayWindow)
        hello.random = true ∧
      accepts sha256 setup.key
        ((⟨60000000000, by decide, by decide⟩ : Instant).windowIndex setup.replayWindow)
        hello.random = false) ∧
    HalfCollision (fun _ => .replicate 32 0) (fieldMessage (.replicate 32 0) 1 (.replicate 16 0))
      (fieldMessage (.replicate 32 0) 0 (.replicate 16 0)) := by
  let epoch : Instant := ⟨0, by decide, by decide⟩
  constructor
  · obtain ⟨setup, hm, hk, hw⟩ : ∃ setup,
        Setup.make ⟨"127.0.0.1", some 1984, some "proxy.example.com", 443, ""⟩
          { serverName := "example.com", key := "K", ticketTimeHint := 60 } (List.replicate 32 0) =
            .ok (setup, []) ∧
        setup.key = Token.deriveKey sha256 "K" ∧ setup.replayWindow = .ofSeconds 60 :=
      ⟨_, rfl, rfl, rfl⟩
    obtain ⟨greeting, hc⟩ : ∃ greeting, compose setup epoch (List.replicate 52 0) = (.ok greeting, []) :=
      ⟨_, compose_append epoch (.replicate 16 0) (.replicate 32 0) (.replicate 4 0) []⟩
    obtain ⟨hello, hh, hs, hin, hout⟩ := (token_bound_to_window sha256 setup.key (.replicate 16 0)
      setup.replayWindow epoch).2.2.2 _ _ _ setup _ _ greeting _ hm hc
    refine ⟨setup, greeting, hello, hm, hc, hh, ?_, ?_⟩
    · apply hin
      rw [hw]
      decide
    · apply Bool.eq_false_iff.mpr
      intro ha
      have hd : setup.replayWindow.nanos ≤ ((60000000000 : Int) - epoch.nanos).natAbs := by
        rw [hw]
        decide
      have hsalt : saltOf hello.random = .replicate 16 0 := Vector.toList_inj.mp hs
      have hcollision := (hout ⟨60000000000, by decide, by decide⟩ (by decide) (by decide) hd ha).2
      rw [hk, hw, hsalt] at hcollision
      exact absurd hcollision (by decide +kernel)
  · have hz : epoch.windowIndex (.ofSeconds 60) = 0 := by decide
    have hb := (token_bound_to_window (fun _ => .replicate 32 0) (.replicate 32 0) (.replicate 16 0)
      (.ofSeconds 60) epoch).2.1 (.replicate 32 0) 1
    rw [hz] at hb
    exact hb (Or.inr (by decide)) (by decide +kernel)

end Camouflage.Greeting
