import BlobRetrieval.Proofs.Program.Faults
import BlobRetrieval.Proofs.Program.Logging

/-!
# The configuration in the default place

Whatever the file in the default place holds, a configuration is loaded: the one that the file
describes, or else the default one. A file that is not used should not go unmentioned. It does
where its bytes are no text.
-/

set_option autoImplicit false

namespace BlobRetrieval

namespace Config

def Describes (bytes : Bytes) (config : Config) : Prop :=
  ∃ text : String, Utf8.encode text.toList = bytes ∧ ofDocument? text = some config

def IsText (bytes : Bytes) : Prop :=
  ∃ text : String, Utf8.encode text.toList = bytes

structure Promised (content : Option Bytes) (loaded : Loaded) : Prop where
  missing : content = none → loaded = { config := default }
  described : ∀ bytes config, content = some bytes → Describes bytes config → loaded = { config }
  ignored : ∀ bytes, content = some bytes → (¬∃ config, Describes bytes config) →
    loaded = { config := default, ignored := true }

variable {bytes : Bytes}

theorem isText_of_describes {config : Config} (h : Describes bytes config) : IsText bytes := by
  obtain ⟨text, htext, -⟩ := h
  exact ⟨text, htext⟩

/-- A file that describes a configuration is used. -/
theorem ofDefaultFile_described {config : Config} (h : Describes bytes config) :
    ofDefaultFile (some bytes) = { config } := by
  obtain ⟨text, htext, hconfig⟩ := h
  rw [ofDefaultFile, Option.bind_some, Utf8.text?_eq_some.mpr htext]
  simp only [hconfig]

/-- A text that describes none is ignored with a warning. -/
theorem ofDefaultFile_text (ht : IsText bytes) (h : ¬∃ config, Describes bytes config) :
    ofDefaultFile (some bytes) = { config := default, ignored := true } := by
  obtain ⟨text, htext⟩ := ht
  have hnone : ofDocument? text = none :=
    Option.eq_none_iff_forall_ne_some.mpr fun config hconfig => h ⟨config, text, htext, hconfig⟩
  rw [ofDefaultFile, Option.bind_some, Utf8.text?_eq_some.mpr htext]
  simp only [hnone]

/-- Bytes that are no text are passed over like a file that is not there. -/
theorem ofDefaultFile_no_text (h : ¬IsText bytes) :
    ofDefaultFile (some bytes) = ofDefaultFile none := by
  have hnone : Utf8.text? bytes = none := text?_eq_none fun text htext =>
    h ⟨String.ofList text, by rw [String.toList_ofList, htext]⟩
  rw [ofDefaultFile, Option.bind_some, hnone]
  rfl

/-- The promise is kept for every file but one that is no text. -/
theorem promised_iff (content : Option Bytes) :
    Promised content (ofDefaultFile content) ↔ ∀ bytes, content = some bytes → IsText bytes := by
  constructor
  · rintro h bytes rfl
    by_contra hbytes
    have hnone : ¬∃ config, Describes bytes config := by
      rintro ⟨config, hconfig⟩
      exact hbytes (isText_of_describes hconfig)
    have hignored := h.ignored bytes rfl hnone
    rw [ofDefaultFile_no_text hbytes] at hignored
    contradiction
  · intro h
    refine ⟨?_, ?_, ?_⟩
    · rintro rfl
      rfl
    · rintro bytes config rfl hconfig
      exact ofDefaultFile_described hconfig
    · rintro bytes rfl hnone
      exact ofDefaultFile_text (h bytes rfl) hnone

end Config

namespace Program

/-- Where no configuration is named, one is loaded whatever the file in the default place holds.
It is the one that the file describes, or the default one. The promise about warnings is kept
unless the file is no text, and a whole run warns just as it is kept or broken. -/
theorem load_default (files : Files) (content : Option Bytes) :
    Config.load files content none = .ok (Config.ofDefaultFile content) ∧
    (∀ bytes config, content = some bytes → Config.Describes bytes config →
      Config.ofDefaultFile content = { config }) ∧
    ((∀ bytes config, content = some bytes → ¬Config.Describes bytes config) →
      (Config.ofDefaultFile content).config = .default ∧
      ((Config.ofDefaultFile content).ignored = true ↔
        ∃ bytes, content = some bytes ∧ Config.IsText bytes)) ∧
    (Config.Promised content (Config.ofDefaultFile content) ↔
      ∀ bytes, content = some bytes → Config.IsText bytes) ∧
    ∀ (env : Environment) (servers : Servers) (system : System) (arguments : List String)
      (line : CommandLine), env.defaultConfig = content →
      CommandLine.ofArguments arguments = .ok line → line.config = none →
        (run env servers arguments system).configIgnored =
          (Config.ofDefaultFile content).ignored := by
  refine ⟨rfl, ?_, ?_, Config.promised_iff content, ?_⟩
  · rintro bytes config rfl hconfig
    exact Config.ofDefaultFile_described hconfig
  · intro hnone
    cases content with
    | none => exact ⟨rfl, by simp [Config.ofDefaultFile]⟩
    | some bytes =>
      by_cases htext : Config.IsText bytes
      · rw [Config.ofDefaultFile_text htext (not_exists.mpr fun config => hnone bytes config rfl)]
        exact ⟨rfl, by simp [htext]⟩
      · rw [Config.ofDefaultFile_no_text htext]
        exact ⟨rfl, by simp [Config.ofDefaultFile, htext]⟩
  · rintro env servers system arguments line rfl hline hconfig
    have hload : Config.load env.files env.defaultConfig line.config =
        .ok (Config.ofDefaultFile env.defaultConfig) := by
      rw [hconfig]
      rfl
    exact run_configIgnored ⟨hline, hload⟩ servers system

/-- A document with one setting, and a text that is no document, which a run warns of. -/
theorem load_default_setting_and_text :
    let servers : Servers := fun _ _ => .unreachable
    let setting := Utf8.encode "timeout_secs = 5".toList
    let text := Utf8.encode "=".toList
    Config.load {} (some setting) none =
        .ok { config := { Config.default with timeoutSecs := 5 } } ∧
      Config.load {} (some text) none = .ok { config := .default, ignored := true } ∧
      (run { defaultConfig := some text } servers ["fetch", "7"]).configIgnored = true := by
  intro servers setting text
  have hsetting : Config.Describes setting { Config.default with timeoutSecs := 5 } :=
    ⟨"timeout_secs = 5", rfl, by decide +kernel⟩
  have hnone : ∀ config, ¬Config.Describes text config := by
    rintro config ⟨other, hother, hconfig⟩
    have hsame : some other = some "=" :=
      (Utf8.text?_eq_some.mpr hother).symm.trans (Utf8.text?_eq_some.mpr rfl)
    have htext : Config.ofDocument? "=" = none := by decide +kernel
    rw [Option.some.inj hsame, htext] at hconfig
    contradiction
  obtain ⟨hload, hdescribed, -⟩ := load_default {} (some setting)
  obtain ⟨hload', -, -, hpromised, hrun⟩ := load_default {} (some text)
  have hignored : Config.ofDefaultFile (some text) = { config := .default, ignored := true } :=
    (hpromised.mpr fun bytes hb => ⟨"=", Option.some.inj hb⟩).ignored text rfl
      (not_exists.mpr hnone)
  refine ⟨?_, ?_, ?_⟩
  · rw [hload, hdescribed _ _ rfl hsetting]
  · rw [hload', hignored]
  · rw [hrun { defaultConfig := some text } servers {} ["fetch", "7"] _ rfl rfl rfl, hignored]

/-- A single byte that begins no character: nothing is said about it in the default place, while a
file that is named is refused for it. -/
theorem load_default_no_text :
    (¬∃ config, Config.Describes [0xFF] config) ∧
      Config.load {} (some [0xFF]) none = .ok { config := .default } ∧
      ¬Config.Promised (some [0xFF]) (Config.ofDefaultFile (some [0xFF])) ∧
      ∀ files path, files.content? path = some [0xFF] →
        Config.load files none (some path) = .error (.unreadable path) := by
  have hnot : ¬Config.IsText [0xFF] := by
    rintro ⟨text, htext⟩
    have hnone : Utf8.text? [0xFF] = none := by decide
    rw [Utf8.text?_eq_some.mpr htext] at hnone
    contradiction
  have hload : Config.ofDefaultFile (some [0xFF]) = { config := .default } :=
    Config.ofDefaultFile_no_text hnot
  refine ⟨?_, congrArg Except.ok hload, ?_, ?_⟩
  · rintro ⟨config, hconfig⟩
    exact hnot (Config.isText_of_describes hconfig)
  · intro hpromised
    exact hnot ((Config.promised_iff _).mp hpromised _ rfl)
  · intro files path hcontent
    refine Config.load_eq_error.mpr ⟨path, rfl, .notText [0xFF] hcontent fun text htext => ?_⟩
    exact hnot ⟨String.ofList text, by rw [String.toList_ofList, htext]⟩

end Program

end BlobRetrieval
