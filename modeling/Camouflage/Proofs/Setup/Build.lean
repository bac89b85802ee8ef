import Camouflage.Proofs.Settings
import Camouflage.Proofs.Setup
import Mathlib

/-! Every setup that the program starts with is sane, whether it was told on the command line or by a parent
proxy what to do. A parent proxy that names the local host is the only one to decide; without that name,
nothing else that it says counts. -/

namespace Camouflage.Setup

variable {setup : Setup} {settings : Settings} {options : Options} {arguments arguments' : Arguments}
  {environment environment' : Environment} {files : Options.Files} {tape rest : Tape} {host : String}

structure IsSane (setup : Setup) : Prop where
  localHost : setup.localHost ≠ ""
  remoteHost : setup.remoteHost ≠ ""
  localPort : 1 ≤ setup.localPort.toNat ∧ setup.localPort.toNat ≤ 65535
  remotePort : 1 ≤ setup.remotePort.toNat ∧ setup.remotePort.toNat ≤ 65535
  replayWindow : ∃ seconds, 1 ≤ seconds ∧ setup.replayWindow = .ofSeconds seconds
  serverName : (Bytes.ofString setup.serverName).length ≤ 255
  key : ∃ secret, secret ≠ "" ∧ setup.key = sha256 (Bytes.ofString secret)
  /-- What is read at once goes into records that would be accepted. -/
  capacities : min setup.capacities.nearRead 16384 ≤ setup.capacities.farRecord

lemma port_bounds {port : UInt16} (h : port ≠ 0) : 1 ≤ port.toNat ∧ port.toNat ≤ 65535 := by
  refine ⟨Nat.pos_of_ne_zero fun hz => h (UInt16.toNat_inj.mp hz), Nat.le_of_lt_succ port.toNat_lt⟩

lemma isSane_of_make (h : make settings options tape = .ok (setup, rest)) (hu : settings.IsUsable) :
    setup.IsSane := by
  have hm := made_of_make h
  have hlocal : setup.localPort ≠ 0 := fun hz => hu.localPort (hz ▸ hm.localPort)
  have hremote : setup.remoteHost ≠ "" := fun hz => hu.remoteHost (hz ▸ hm.remoteHost)
  have hhint : options.ticketTimeHint.toNat ≠ 0 := fun hz => hm.ticketTimeHint_ne (UInt64.toNat_inj.mp hz)
  refine ⟨?_, hremote, port_bounds hlocal, port_bounds ?_, ?_, length_serverName_le h, ?_, ?_⟩
  · rw [hm.eq]
    exact hu.localHost
  · rw [hm.eq]
    exact hu.remotePort
  · rw [hm.eq]
    exact ⟨_, Nat.pos_of_ne_zero hhint, rfl⟩
  · rw [hm.eq]
    exact ⟨options.key, hm.key_ne, rfl⟩
  · rw [hm.eq]
    exact (by decide : min ({} : Capacities).nearRead 16384 ≤ ({} : Capacities).farRecord)

lemma isUsable_of_settings (h : Setup.settings arguments environment = .ok settings)
    (hu : arguments.IsUsable) : settings.IsUsable := by
  rw [Setup.settings] at h
  split at h
  · cases h
  · next he =>
    cases h
    exact Settings.isUsable_of_ofEnvironment he
  · cases h
    exact Settings.isUsable_ofArguments hu

lemma exists_make_of_build (h : build arguments environment files tape = .ok (setup, rest)) :
    ∃ settings options, Setup.settings arguments environment = .ok settings ∧
      Options.load files settings.options = .ok options ∧
      make settings options tape = .ok (setup, rest) := by
  rw [build] at h
  split at h
  · cases h
  · next settings hs =>
    split at h
    · cases h
    · next options ho => exact ⟨settings, options, hs, ho, h⟩

lemma settings_of_localHost (h : environment Settings.localHostVariable = some host) (hn : host ≠ "") :
    Setup.settings arguments environment = Setup.settings arguments' environment := by
  have hh := Settings.nonEmpty_eq_some h hn
  simp only [Setup.settings, Settings.ofEnvironment, hh]
  split
  · rfl
  · rfl
  · next he =>
    split at he
    · cases he
    · split at he <;> cases he

lemma settings_of_noLocalHost (h : environment Settings.localHostVariable = none ∨
      environment Settings.localHostVariable = some "") :
    Setup.settings arguments environment = .ok (.ofArguments arguments) := by
  simp only [Setup.settings, Settings.ofEnvironment, Settings.nonEmpty_eq_none h]

/-- Whatever the arguments that ask for a run, the environment, the files and the tape: the setup that is
built is sane. It does not hang on the arguments where the environment names a local host, and on nothing
else in the environment where it does not. -/
theorem build_sane :
    (∀ words arguments environment files tape setup rest,
      Request.parse words = .ok (.run arguments) →
      build arguments environment files tape = .ok (setup, rest) → setup.IsSane) ∧
    (∀ environment host, environment Settings.localHostVariable = some host → host ≠ "" →
      ∀ arguments arguments' files tape,
        build arguments environment files tape = build arguments' environment files tape) ∧
    (∀ environment environment',
      (environment Settings.localHostVariable = none ∨
        environment Settings.localHostVariable = some "") →
      (environment' Settings.localHostVariable = none ∨
        environment' Settings.localHostVariable = some "") →
      ∀ arguments files tape,
        build arguments environment files tape = build arguments environment' files tape) := by
  refine ⟨?_, ?_, ?_⟩
  · intro words arguments environment files tape setup rest hp hb
    obtain ⟨settings, options, hs, -, hm⟩ := exists_make_of_build hb
    exact isSane_of_make hm (isUsable_of_settings hs (Request.isUsable_of_parse hp))
  · intro environment host hh hn arguments arguments' files tape
    rw [build, build, settings_of_localHost hh hn]
  · intro environment environment' hn hn' arguments files tape
    rw [build, build, settings_of_noLocalHost hn, settings_of_noLocalHost hn']

theorem parent_overrides_arguments :
    let parent : Environment := fun name =>
      [("SS_LOCAL_HOST", "::1"), ("SS_LOCAL_PORT", " 1080\n"), ("SS_REMOTE_HOST", "10.0.0.1"),
        ("SS_PLUGIN_OPTIONS", "Key=K;TicketTimeHint=60")].lookup name
    let hostless : Environment := fun name =>
      [("SS_LOCAL_HOST", ""), ("SS_LOCAL_PORT", "70000")].lookup name
    let files : Options.Files := fun _ => .error .notUtf8
    let tape := List.replicate 32 0
    ∃ arguments other setup,
      Request.parse ["camouflage", "-l", "1984", "-s", "proxy.example.com"] = .ok (.run arguments) ∧
      Request.parse ["camouflage", "--quiet"] = .ok (.run other) ∧
      build arguments parent files tape = .ok (setup, []) ∧
      build other parent files tape = .ok (setup, []) ∧
      setup.IsSane ∧ setup.localPort = 1080 ∧
      build arguments hostless files tape = build arguments (fun _ => none) files tape := by
  intro parent hostless files tape
  obtain ⟨arguments, hp⟩ : ∃ arguments,
      Request.parse ["camouflage", "-l", "1984", "-s", "proxy.example.com"] = .ok (.run arguments) :=
    ⟨_, by cbv⟩
  obtain ⟨other, ho⟩ : ∃ other, Request.parse ["camouflage", "--quiet"] = .ok (.run other) :=
    ⟨_, by cbv⟩
  have hs : Setup.settings arguments parent =
      .ok ⟨"::1", some 1080, some "10.0.0.1", 443, "Key=K;TicketTimeHint=60"⟩ := rfl
  have hl : Options.load files "Key=K;TicketTimeHint=60" = .ok { key := "K", ticketTimeHint := 60 } := by
    cbv
  obtain ⟨setup, hb, hport⟩ : ∃ setup, build arguments parent files tape = .ok (setup, []) ∧
      setup.localPort = 1080 := by
    simp only [build, hs, hl]
    exact ⟨_, rfl, rfl⟩
  obtain ⟨hsane, hparent, hnone⟩ := build_sane
  refine ⟨arguments, other, setup, hp, ho, hb, ?_, ?_, hport, ?_⟩
  · rw [← hb]
    exact hparent parent "::1" rfl (by decide) other arguments files tape
  · exact hsane _ arguments parent files tape setup [] hp hb
  · exact hnone hostless _ (Or.inr rfl) (Or.inl rfl) arguments files tape

end Camouflage.Setup
