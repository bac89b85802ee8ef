import Camouflage.Setup
import Mathlib.Tactic.Lemma

namespace Camouflage.Setup

variable {settings : Settings} {options : Options} {tape rest : Tape} {setup : Setup}

structure Made (settings : Settings) (options : Options) (tape : Tape) (setup : Setup) (rest : Tape) :
    Prop where
  localPort : settings.localPort = some setup.localPort
  remoteHost : settings.remoteHost = some setup.remoteHost
  key_ne : options.key ≠ ""
  ticketTimeHint_ne : options.ticketTimeHint ≠ 0
  length_serverName_le : (Bytes.ofString options.serverName).length ≤ ClientHello.maxServerName
  drawn : tape.draw? 32 = some (setup.tag, rest)
  eq : setup =
    { localHost := settings.localHost
      localPort := setup.localPort
      remoteHost := setup.remoteHost
      remotePort := settings.remotePort
      serverName := options.serverName
      browser := options.browser
      fastOpen := options.fastOpen
      replayWindow := .ofSeconds options.ticketTimeHint.toNat
      key := Token.deriveKey sha256 options.key
      tag := setup.tag
      capacities := {} }

lemma made_of_make (h : make settings options tape = .ok (setup, rest)) :
    Made settings options tape setup rest := by
  simp only [make] at h
  split at h
  · cases h
  · cases h
  · next hp hr =>
    split at h
    · cases h
    · next hk =>
      split at h
      · cases h
      · next ht =>
        split at h
        · cases h
        · next hn =>
          split at h
          · cases h
          · next hd =>
            cases h
            exact ⟨hp, hr, hk, ht, Nat.le_of_not_lt hn, hd, rfl⟩

lemma length_serverName_le (h : make settings options tape = .ok (setup, rest)) :
    (Bytes.ofString setup.serverName).length ≤ ClientHello.maxServerName := by
  have hm := made_of_make h
  rw [hm.eq]
  exact hm.length_serverName_le

lemma one_le_seconds_replayWindow (h : make settings options tape = .ok (setup, rest)) :
    1 ≤ setup.replayWindow.seconds := by
  have hm := made_of_make h
  rw [hm.eq, Span.seconds_ofSeconds]
  apply Nat.pos_of_ne_zero
  intro hz
  exact hm.ticketTimeHint_ne (UInt64.toNat_inj.mp hz)

end Camouflage.Setup
