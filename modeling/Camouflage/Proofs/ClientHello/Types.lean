import Camouflage.Proofs.ClientHello.Extensions
import Mathlib.Data.List.Nodup

/-! No two extensions of a browser's hello have the same type, whatever is drawn for it. Where a browser
draws values, they stand at the ends of its lists, and no other value is of their form. -/

namespace Camouflage

namespace Grease

/-- The first of the values is drawn, and no other looks like it. -/
def Leads (values : List UInt16) : Prop :=
  ∃ first rest, values = first :: rest ∧ IsReserved first ∧ ∀ value ∈ rest, ¬ IsReserved value

-- The test goes through the list. The statement could also be decided over all words, which are too many.
lemma not_isReserved_of_all {values : List UInt16} (h : values.all fun value => ¬ IsReserved value) :
    ∀ value ∈ values, ¬ IsReserved value := by
  intro value hm
  exact of_decide_eq_true (List.all_eq_true.mp h value hm)

end Grease

namespace ClientHello

open Grease (IsReserved)

variable {parameters : Parameters} {browser : Browser} {name padding types : List UInt16}

def fixedTypes (browser : Browser) (name : List UInt16) : List UInt16 :=
  match browser with
  | .chrome =>
    [0xff01] ++ name ++ [0x0017, 0x0023, 0x000d, 0x0005, 0x0012, 0x0010, 0x7550, 0x000b, 0x000a]
  | .firefox => name ++ [0x0017, 0xff01, 0x000b, 0x0023, 0x0010, 0x0005, 0x000a, 0x000d]

lemma typesOf_chrome (grease : Grease) (name : List UInt16) : typesOf .chrome grease name =
    grease.firstExtension :: (fixedTypes .chrome name ++ [grease.lastExtension]) := by
  simp only [typesOf, fixedTypes, List.append_assoc, List.cons_append, List.nil_append]

-- Without a name or without padding there are fewer types but no others, so what holds of all of them is
-- decided on the list with both.
lemma fixedTypes_sublist (hn : name.Sublist [0x0000]) (hp : padding.Sublist [0x0015]) :
    (fixedTypes browser name ++ padding).Sublist (fixedTypes browser [0x0000] ++ [0x0015]) := by
  cases browser with
  | chrome => exact (((List.Sublist.refl _).append hn).append (.refl _)).append hp
  | firefox => exact (hn.append (.refl _)).append hp

lemma nodup_fixedTypes (browser : Browser) (hn : name.Sublist [0x0000])
    (hp : padding.Sublist [0x0015]) : (fixedTypes browser name ++ padding).Nodup := by
  have hall : (fixedTypes browser [0x0000] ++ [0x0015]).Nodup := by cases browser <;> decide
  exact hall.sublist (fixedTypes_sublist hn hp)

lemma not_isReserved_fixedTypes (browser : Browser) (hn : name.Sublist [0x0000])
    (hp : padding.Sublist [0x0015]) : ∀ type ∈ fixedTypes browser name ++ padding, ¬ IsReserved type := by
  have hall : (fixedTypes browser [0x0000] ++ [0x0015]).all fun type => ¬ IsReserved type := by
    cases browser <;> decide
  intro type hm
  exact Grease.not_isReserved_of_all hall type ((fixedTypes_sublist hn hp).subset hm)

lemma padding_notMem_fixedTypes (browser : Browser) (hn : name.Sublist [0x0000]) :
    0x0015 ∉ fixedTypes browser name := by
  have hd := nodup_fixedTypes browser hn (List.Sublist.refl [0x0015])
  rw [List.nodup_append] at hd
  intro hm
  exact hd.2.2 _ hm _ (List.mem_singleton_self _) rfl

lemma nodup_drawn {first last : UInt16} {fixed padding : List UInt16} (hf : IsReserved first)
    (hl : IsReserved last) (hne : last ≠ first) (hd : (fixed ++ padding).Nodup)
    (hr : ∀ type ∈ fixed ++ padding, ¬ IsReserved type) :
    (first :: (fixed ++ last :: padding)).Nodup := by
  have hfirst : first ∉ fixed ++ padding := fun hm => hr first hm hf
  have hlast : last ∉ fixed ++ padding := fun hm => hr last hm hl
  refine List.nodup_cons.mpr ⟨?_, List.nodup_middle.mpr (List.nodup_cons.mpr ⟨hlast, hd⟩)⟩
  intro hm
  rw [List.mem_append, List.mem_cons] at hm
  rcases hm with hm | he | hm
  · exact hfirst (List.mem_append_left _ hm)
  · exact hne he.symm
  · exact hfirst (List.mem_append_right _ hm)

lemma exists_types (parameters : Parameters) : ∃ name padding : List UInt16,
    name.Sublist [0x0000] ∧ padding.Sublist [0x0015] ∧
    (build parameters).extensions.map Extension.type =
      typesOf parameters.browser parameters.grease name ++ padding := by
  refine ⟨if parameters.serverName = "" then [] else [0x0000],
    (paddingFor (plain parameters).body.length).map Extension.type, ?_, ?_, ?_⟩
  · split
    · exact List.nil_sublist _
    · exact List.Sublist.refl _
  · rcases paddingFor_cases (plain parameters).body.length with hp | ⟨_, hp⟩
    · rw [hp]
      exact List.nil_sublist _
    · rw [hp]
      exact List.Sublist.refl _
  · rw [extensions_build, List.map_append, types_extensionsOf]

lemma exists_types_chrome (hb : parameters.browser = .chrome) : ∃ name padding : List UInt16,
    name.Sublist [0x0000] ∧ padding.Sublist [0x0015] ∧
    (build parameters).extensions.map Extension.type = parameters.grease.firstExtension ::
      (fixedTypes .chrome name ++ parameters.grease.lastExtension :: padding) := by
  obtain ⟨name, padding, hn, hp, ht⟩ := exists_types parameters
  refine ⟨name, padding, hn, hp, ?_⟩
  rw [ht, hb, typesOf_chrome, List.cons_append, List.append_assoc, List.singleton_append]

lemma nodup_types (h : parameters.grease.IsDrawn) :
    ((build parameters).extensions.map Extension.type).Nodup := by
  cases hb : parameters.browser with
  | chrome =>
    obtain ⟨name, padding, hn, hp, ht⟩ := exists_types_chrome hb
    rw [ht]
    exact nodup_drawn h.firstExtension h.lastExtension h.distinct (nodup_fixedTypes .chrome hn hp)
      (not_isReserved_fixedTypes .chrome hn hp)
  | firefox =>
    obtain ⟨name, padding, hn, hp, ht⟩ := exists_types parameters
    rw [ht, hb]
    exact nodup_fixedTypes .firefox hn hp

lemma exists_drawn_ends (h : parameters.grease.IsDrawn) (hb : parameters.browser = .chrome) :
    ∃ first between last padding,
      (build parameters).extensions.map Extension.type = first :: (between ++ last :: padding) ∧
      IsReserved first ∧ IsReserved last ∧ (∀ type ∈ between ++ padding, ¬ IsReserved type) ∧
      0x0015 ∉ between ∧ (padding = [] ∨ padding = [0x0015]) := by
  obtain ⟨name, padding, hn, hp, ht⟩ := exists_types_chrome hb
  exact ⟨_, _, _, _, ht, h.firstExtension, h.lastExtension, not_isReserved_fixedTypes .chrome hn hp,
    padding_notMem_fixedTypes .chrome hn, List.sublist_singleton.mp hp⟩

def groupsOf (parameters : Parameters) : List UInt16 :=
  match parameters.browser with
  | .chrome => parameters.grease.group :: chromeGroups
  | .firefox => firefoxGroups

lemma supportedGroups_mem_build {groups : List UInt16} :
    Extension.supportedGroups groups ∈ (build parameters).extensions ↔
      groups = groupsOf parameters := by
  have hname : Extension.supportedGroups groups ∉ serverNameExtensions parameters.serverName := by
    rw [serverNameExtensions]
    split <;> simp
  have hpadding : Extension.supportedGroups groups ∉ paddingFor (plain parameters).body.length := by
    rw [paddingFor]
    split <;> simp
  rw [extensions_build, List.mem_append]
  cases hb : parameters.browser with
  | chrome => simp [extensionsOf, groupsOf, hb, hname, hpadding]
  | firefox => simp [extensionsOf, groupsOf, hb, hname, hpadding]

lemma leads_chrome (h : parameters.grease.IsDrawn) (hb : parameters.browser = .chrome) :
    Grease.Leads (cipherSuitesOf parameters) ∧ Grease.Leads (groupsOf parameters) := by
  rw [cipherSuitesOf, groupsOf, hb]
  exact ⟨⟨_, _, rfl, h.cipherSuite, Grease.not_isReserved_of_all (by decide)⟩,
    ⟨_, _, rfl, h.group, Grease.not_isReserved_of_all (by decide)⟩⟩

lemma not_isReserved_firefox (hb : parameters.browser = .firefox) :
    ∀ value ∈ cipherSuitesOf parameters ++ groupsOf parameters ++
      (build parameters).extensions.map Extension.type, ¬ IsReserved value := by
  obtain ⟨name, padding, hn, hp, ht⟩ := exists_types parameters
  have hlists : (firefoxCipherSuites ++ firefoxGroups).all fun value => ¬ IsReserved value := by
    decide
  rw [ht, cipherSuitesOf, groupsOf, hb]
  intro value hm
  rcases List.mem_append.mp hm with hm | hm
  · exact Grease.not_isReserved_of_all hlists value hm
  · exact not_isReserved_fixedTypes .firefox hn hp value hm

/-- The hello that is read back has no two extensions of one type, and one extension for the groups. In a
hello of chrome the drawn values are the first and the last of the types, padding apart, and the first of
the cipher suites and of the groups. In one of firefox there are none. -/
theorem types_never_repeat (parameters : Parameters) (draw : Vector UInt8 4)
    (hn : (Bytes.ofString parameters.serverName).length ≤ maxServerName) :
    ∃ hello groups,
      ofBytes? (build { parameters with grease := .ofBytes draw }).encode = some hello ∧
      (hello.extensions.map Extension.type).Nodup ∧
      (∀ other, .supportedGroups other ∈ hello.extensions ↔ other = groups) ∧
      (parameters.browser = .chrome →
        Grease.Leads hello.cipherSuites ∧ Grease.Leads groups ∧
        ∃ first between last padding,
          hello.extensions.map Extension.type = first :: (between ++ last :: padding) ∧
          IsReserved first ∧ IsReserved last ∧ (∀ type ∈ between ++ padding, ¬ IsReserved type) ∧
          0x0015 ∉ between ∧ (padding = [] ∨ padding = [0x0015])) ∧
      (parameters.browser = .firefox →
        ∀ value ∈ hello.cipherSuites ++ groups ++ hello.extensions.map Extension.type,
          ¬ IsReserved value) := by
  let drawn : Parameters := { parameters with grease := .ofBytes draw }
  have hd : drawn.grease.IsDrawn := Grease.isDrawn_ofBytes draw
  have hfits : (build drawn).Fits :=
    fits_build hn hd.firstExtension.isValue hd.lastExtension.isValue
  refine ⟨build drawn, groupsOf drawn, ofBytes?_encode hfits, nodup_types hd,
    fun _ => supportedGroups_mem_build, ?_, ?_⟩
  · intro hb
    have hleads := leads_chrome hd hb
    rw [cipherSuites_build]
    exact ⟨hleads.1, hleads.2, exists_drawn_ends hd hb⟩
  · intro hb
    rw [cipherSuites_build]
    exact not_isReserved_firefox hb

/-- Two draws that would give one type twice, with a name that leaves room for empty padding. -/
theorem colliding_draws_differ :
    let name := String.ofList (.replicate 101 'a')
    let parameters (browser : Browser) : Parameters :=
      ⟨browser, name, .replicate 32 0x11, .replicate 32 0x22, .replicate 192 0x33,
        .ofBytes #v[0x00, 0x10, 0x2f, 0x21]⟩
    (Bytes.ofString name).length ≤ maxServerName ∧
    (∃ hello, ofBytes? (build (parameters .chrome)).encode = some hello ∧
      (hello.extensions.map Extension.type).Nodup ∧ Grease.Leads hello.cipherSuites) ∧
    ∃ hello, ofBytes? (build (parameters .firefox)).encode = some hello ∧
      (hello.extensions.map Extension.type).Nodup ∧
      ∀ value ∈ hello.cipherSuites, ¬ IsReserved value := by
  intro name parameters
  have hn : (Bytes.ofString name).length ≤ maxServerName := by decide +kernel
  obtain ⟨chrome, _, hread, hd, -, hleads, -⟩ :=
    types_never_repeat (parameters .chrome) #v[0x00, 0x10, 0x2f, 0x21] hn
  obtain ⟨firefox, _, hread', hd', -, -, hnone⟩ :=
    types_never_repeat (parameters .firefox) #v[0x00, 0x10, 0x2f, 0x21] hn
  refine ⟨hn, ⟨chrome, hread, hd, (hleads rfl).1⟩, firefox, hread', hd', ?_⟩
  intro value hm
  exact hnone rfl value (List.mem_append_left _ (List.mem_append_left _ hm))

end ClientHello

end Camouflage
