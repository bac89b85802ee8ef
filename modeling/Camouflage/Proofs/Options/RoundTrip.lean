import Camouflage.Proofs.Options.Inline
import Camouflage.Proofs.Options.Json
import Camouflage.Proofs.Options.Outcome

namespace Camouflage.Options

variable {spelling : Spelling} {settings : List Setting} {options : Options} {text json tail : List Char}

def Spelling.ofCase {names : Browser → String}
    (h : ∀ browser, (names browser).toList.map Char.toLower = browser.name.toList) : Spelling where
  name := names
  ofName?_name browser := Browser.ofName?_eq_some_iff.mpr (h browser)

lemma isText_valueText (spelling : Spelling) (setting : Setting) :
    setting.IsText (setting.valueText spelling) := by
  cases setting with
  | serverName text | key text => rfl
  | ticketTimeHint seconds =>
    have hd := Decimal.isNumeral_toDigits seconds.toNat
    have ht : Text.trim (Nat.toDigits 10 seconds.toNat) = Nat.toDigits 10 seconds.toNat :=
      Text.trim_of_forall fun c hm => Text.isBlank_of_isDigit (hd.2 c hm)
    rw [Setting.IsText, Setting.valueText, ht, hd.unsigned]
    exact ⟨hd, Decimal.value_toDigits _⟩
  | browser choice =>
    rw [Setting.IsText, Setting.valueText, Browser.sameIgnoringCase_name]
    exact Browser.ofName?_eq_some_iff.mp (spelling.ofName?_name choice)
  | fastOpen value =>
    cases value with
    | true | false =>
      rw [Setting.IsText, Setting.valueText]
      decide

lemma setting_pair (spelling : Spelling) (setting : Setting) :
    (setting.pair spelling).setting = .ok setting :=
  Pair.setting_of_isText rfl (isText_valueText spelling setting)

lemma isAcceptable_pairs (spelling : Spelling) (settings : List Setting) :
    IsAcceptable (settings.map (Setting.pair spelling)) := by
  have hs : ∀ pair ∈ settings.map (Setting.pair spelling), ∃ setting, pair.setting = .ok setting := by
    intro pair hm
    obtain ⟨setting, -, rfl⟩ := List.mem_map.mp hm
    exact ⟨setting, setting_pair spelling setting⟩
  apply IsAcceptable.of_setting
  · intro pair hm hb
    obtain ⟨setting, he⟩ := hs pair hm
    cases he.symm.trans (Pair.setting_of_isBad hb)
  · intro pair hl
    exact hs pair hl.mem

lemma holdsLast_pairs (spelling : Spelling) (h : Holds settings options) :
    HoldsLast (settings.map (Setting.pair spelling)) options where
  given pair field hl hk := by
    obtain ⟨setting, hm, rfl⟩ := List.mem_map.mp hl.mem
    have hf : field = setting.field := hk.unique rfl
    rw [hf, h.given setting hm]
    exact isText_valueText spelling setting
  absent field hn := by
    apply h.absent
    rintro setting hm rfl
    exact hn _ (List.mem_map_of_mem hm) rfl

lemma ofInline_writeInline (spelling : Spelling) (h : (settings.map Setting.field).Nodup)
    (ht : IsTail tail) : ofInline (writeInline spelling settings ++ tail) = .ok (ofSettings settings) := by
  have hk : ∀ pair ∈ settings.map (Setting.pair spelling), pair.IsKeyed := by
    intro pair hm
    obtain ⟨setting, -, rfl⟩ := List.mem_map.mp hm
    exact isKeyed_pair spelling setting
  have ha := isAcceptable_pairs spelling settings
  obtain ⟨options, ho, hh⟩ := ofInline_of_isAcceptable (split_writePairs hk ht) ha
  rw [writeInline, ho, hh.unique (holdsLast_pairs spelling (holds_ofSettings h))]

lemma load_inline (h : ofInline text = .ok options) (hs : ';' ∈ text) (he : '=' ∈ text)
    (files : Files) :
    load files (.ofList text) = .ok options := by
  have hi : isInline (.ofList text) = true := by
    rw [isInline, String.toList_ofList, Bool.and_eq_true]
    exact ⟨List.contains_iff_mem.mpr hs, List.contains_iff_mem.mpr he⟩
  rw [load, if_pos hi, loadInline, String.toList_ofList, h]

lemma load_file {files : Files} {path : String} (h : ofJson json = .ok options)
    (hp : isInline path = false) (hf : files path = .ok (Bytes.ofChars json)) :
    load files path = .ok options := by
  rw [load, hp, if_neg Bool.false_ne_true, loadFile, hf]
  simp only [Text.fromUTF8?_ofChars, loadJson, String.toList_ofList, h]

lemma marks_mem_writeInline (spelling : Spelling) (first second : Setting) (settings : List Setting) :
    ';' ∈ writeInline spelling (first :: second :: settings) ∧
      '=' ∈ writeInline spelling (first :: second :: settings) := by
  rw [writeInline, List.map_cons, List.map_cons, writePairs, List.map_cons, List.map_cons,
    Text.intercalate_cons, List.flatMap_cons]
  constructor
  · exact List.mem_append_right _ (List.mem_append_left _ List.mem_cons_self)
  · exact List.mem_append_left _ (List.mem_append_right _ List.mem_cons_self)

/-- Whichever of the fields are given, in whatever order and with whatever values: the line and every
JSON object that give them are read as the same options, with these values and the defaults for the other
fields, and the line is read wherever it is told from a path. So all options come back as they were. -/
theorem written_forms_agree {names : Browser → String}
    (hnames : ∀ browser, (names browser).toList.map Char.toLower = browser.name.toList)
    (h : (settings.map Setting.field).Nodup) :
    (∃ options, Holds settings options ∧
      (∀ json, IsObject (.ofCase hnames) settings json → ofJson json = .ok options) ∧
      IsObject (.ofCase hnames) settings (writeJson (.ofCase hnames) settings) ∧
      ∀ text tail, text = writeInline (.ofCase hnames) settings ++ tail → IsTail tail →
        ofInline text = .ok options ∧
        (';' ∈ text → '=' ∈ text → ∀ files, load files (.ofList text) = .ok options)) ∧
    ∀ (options : Options) (files : Files),
      load files (.ofList (writeInline (.ofCase hnames) options.allSettings)) = .ok options ∧
      ∀ path, isInline path = false →
        files path = .ok (Bytes.ofChars (writeJson (.ofCase hnames) options.allSettings)) →
          load files path = .ok options := by
  refine ⟨⟨ofSettings settings, holds_ofSettings h, ?_, ?_, ?_⟩, ?_⟩
  · intro json hj
    exact ofJson_of_isObject h hj
  · exact isObject_writeJson _ settings
  · rintro text tail rfl ht
    have hi := ofInline_writeInline (.ofCase hnames) h ht
    exact ⟨hi, load_inline hi⟩
  · intro options files
    have hn := nodup_allSettings options
    constructor
    · obtain ⟨hs, he⟩ := marks_mem_writeInline (.ofCase hnames) (options.get .serverName)
        (options.get .key) [options.get .ticketTimeHint, options.get .browser, options.get .fastOpen]
      have hi := ofInline_writeInline (.ofCase hnames) hn (Or.inl rfl)
      rw [List.append_nil, ofSettings_allSettings] at hi
      exact load_inline hi hs he files
    · intro path hp hf
      have hj := ofJson_of_isObject hn (isObject_writeJson (.ofCase hnames) options.allSettings)
      exact load_file hj hp hf

def capitals : Browser → String
  | .chrome => "CHROME"
  | .firefox => "FIREFOX"

lemma toLower_capitals (browser : Browser) :
    (capitals browser).toList.map Char.toLower = browser.name.toList := by
  cases browser <;> decide

theorem capitals_and_marks_agree : ∃ options : Options,
    ofInline "Browser=FIREFOX;Key=\\;\\=\\\\\" ;TicketTimeHint=18446744073709551615".toList = .ok options ∧
    ofJson ("\x7b\"Browser\":\"FIREFOX\",\"Key\":\";=\\\\\\\" \"," ++
      "\"TicketTimeHint\":18446744073709551615\x7d").toList = .ok options ∧
    options.browser = .firefox ∧ options.key = ";=\\\" " ∧ options.serverName = "" := by
  have h : ([.browser .firefox, .key ";=\\\" ", .ticketTimeHint 18446744073709551615].map
      Setting.field).Nodup := by decide
  obtain ⟨⟨options, ho, hj, hobject, hi⟩, -⟩ := written_forms_agree toLower_capitals h
  have hbrowser := ho.given (.browser .firefox) (by decide)
  have hkey := ho.given (.key ";=\\\" ") (by decide)
  have hname := ho.absent .serverName (by decide)
  refine ⟨options, (hi _ [] ?_ (Or.inl rfl)).1, hj _ ?_, ?_, ?_, ?_⟩
  · decide +kernel
  · refine Eq.subst (motive := IsObject (.ofCase toLower_capitals) _) ?_ hobject
    decide +kernel
  · exact Setting.browser.inj hbrowser
  · exact Setting.key.inj hkey
  · exact Setting.serverName.inj hname

end Camouflage.Options
