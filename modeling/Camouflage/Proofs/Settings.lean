import Camouflage.Proofs.Settings.Port

namespace Camouflage

structure Arguments.IsUsable (arguments : Arguments) : Prop where
  localPort : arguments.localPort ≠ some 0
  remoteHost : arguments.remoteHost ≠ some ""
  remotePort : arguments.remotePort ≠ 0

namespace Arguments

variable {arguments changed : Arguments} {flag value : String} {verbosity : Verbosity} {number : UInt16}

lemma ne_zero_of_port (h : port flag value = .ok number) : number ≠ 0 := (port_eq_ok_iff.mp h).2.2

lemma IsUsable.setVerbosity (hu : arguments.IsUsable)
    (h : arguments.setVerbosity flag verbosity = .ok changed) : changed.IsUsable := by
  rw [Arguments.setVerbosity] at h
  split at h
  · cases h
    exact ⟨hu.localPort, hu.remoteHost, hu.remotePort⟩
  · cases h

lemma IsUsable.withDefaults (hu : arguments.IsUsable) : arguments.withDefaults.IsUsable := by
  rw [Arguments.withDefaults]
  split
  · exact ⟨hu.localPort, hu.remoteHost, hu.remotePort⟩
  · exact hu

end Arguments

namespace Request

variable {arguments result : Arguments} {words : List String}

lemma isUsable_of_parseFrom (h : parseFrom arguments words = .ok (.run result))
    (hu : arguments.IsUsable) : result.IsUsable := by
  fun_induction parseFrom arguments words with
  | case1 =>
    cases h
    exact hu.withDefaults
  | case2 _ _ ih => exact ih h hu
  | case7 _ _ _ _ _ _ _ hs ih => exact ih h (hu.setVerbosity hs)
  | case11 _ _ _ _ _ _ _ hp ih =>
    have hp := Arguments.ne_zero_of_port hp
    exact ih h ⟨by simpa using hp, hu.remoteHost, hu.remotePort⟩
  | case13 _ _ _ _ _ _ _ hp ih =>
    exact ih h ⟨hu.localPort, hu.remoteHost, Arguments.ne_zero_of_port hp⟩
  | case16 _ _ _ _ _ _ hh ih => exact ih h ⟨hu.localPort, by simpa using hh, hu.remotePort⟩
  | case19 _ _ _ _ _ _ _ ih => exact ih h ⟨hu.localPort, hu.remoteHost, hu.remotePort⟩
  | _ => cases h

lemma isUsable_of_parse (h : parse words = .ok (.run result)) : result.IsUsable :=
  isUsable_of_parseFrom h ⟨nofun, nofun, by decide⟩

end Request

namespace Settings

structure IsUsable (settings : Settings) : Prop where
  localHost : settings.localHost ≠ ""
  localPort : settings.localPort ≠ some 0
  remoteHost : settings.remoteHost ≠ some ""
  remotePort : settings.remotePort ≠ 0

variable {environment environment' : Environment} {settings : Settings} {arguments : Arguments}
  {name value : String} {number : Option UInt16}

lemma nonEmpty_ne : nonEmpty environment name ≠ some "" := by
  intro h
  obtain ⟨_, hn⟩ := Option.filter_eq_some_iff.mp h
  exact absurd hn (by decide)

lemma nonEmpty_eq_none (h : environment name = none ∨ environment name = some "") :
    nonEmpty environment name = none := by
  rcases h with h | h
  · rw [nonEmpty, h]
    rfl
  · rw [nonEmpty, h]
    rfl

lemma nonEmpty_eq_some (h : environment name = some value) (hn : value ≠ "") :
    nonEmpty environment name = some value := by
  rw [nonEmpty, h, Option.filter_some, if_pos (by simpa using hn)]

lemma ne_zero_of_portOfText (h : portOfText name value = .ok number) : number ≠ some 0 := by
  rintro rfl
  exact (portOfText_eq_some_iff.mp h).2.2 rfl

lemma ne_zero_of_port (h : port environment name = .ok number) : number ≠ some 0 := by
  rw [port] at h
  split at h
  · cases h
    nofun
  · exact ne_zero_of_portOfText h

lemma isUsable_of_ofEnvironment (h : ofEnvironment environment = .ok (some settings)) :
    settings.IsUsable := by
  rw [ofEnvironment] at h
  split at h
  · cases h
  · next hh =>
    split at h
    · cases h
    · next hl =>
      split at h
      · cases h
      · next remotePort hr =>
        cases h
        refine ⟨?_, ne_zero_of_port hl, nonEmpty_ne, ?_⟩
        · rintro rfl
          exact nonEmpty_ne hh
        · cases remotePort with
          | none => exact (by decide : Arguments.defaultRemotePort ≠ 0)
          | some remotePort => simpa using ne_zero_of_port hr

lemma isUsable_ofArguments (h : arguments.IsUsable) : (ofArguments arguments).IsUsable :=
  ⟨(by decide : defaultLocalHost ≠ ""), h.localPort, h.remoteHost, h.remotePort⟩

end Settings

end Camouflage
