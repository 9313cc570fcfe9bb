import BlobRetrieval.Proofs.Config.Admission
import BlobRetrieval.Proofs.Program.DefaultConfig

/-!
# One source for the configuration

A configuration comes from one place as a whole. A file that is named is used or refused, and
nothing else is looked at; without a name it is the file in the default place or else all the
defaults together.
-/

set_option autoImplicit false

namespace BlobRetrieval

namespace Config

def Gives (content : Bytes) (config : Config) : Prop :=
  ∃ text : String, Utf8.encode text.toList = content ∧ ofText text = .ok config

structure NamedResult (files : Files) (path : String) (result : Except ConfigError Loaded) :
    Prop where
  used : ∀ loaded, result = .ok loaded ↔ ∃ content, files.content? path = some content ∧
    Gives content loaded.config ∧ loaded.ignored = false
  refused : (∀ content config, files.content? path = some content → ¬Gives content config) →
    ∃ error, result = .error error ∧ Unusable files path error

inductive UnnamedResult (content : Option Bytes) : Config → Prop
  | file (bytes : Bytes) (config : Config) : content = some bytes → Gives bytes config →
      UnnamedResult content config
  | defaults : (∀ bytes config, content = some bytes → ¬Gives bytes config) →
      UnnamedResult content {
        beaconUrl := "http://localhost:5052"
        archiverUrl := none
        format := .json
        timeoutSecs := 30
        logLevel := "info" }

theorem gives_iff_describes {content : Bytes} {config : Config} :
    Gives content config ↔ Describes content config :=
  exists_congr fun _ => and_congr_right fun _ => ofText_eq_ok

theorem load_eq_ok {files : Files} (content : Option Bytes) {path : String} {bytes : Bytes}
    {config : Config} (hbytes : files.content? path = some bytes) (hgives : Gives bytes config) :
    load files content (some path) = .ok { config } := by
  obtain ⟨text, htext, hconfig⟩ := hgives
  have hread : (files.content? path).bind Utf8.text? = some text := by
    rw [hbytes, Option.bind_some, Utf8.text?_eq_some.mpr htext]
  rw [load, ofFile_of_text?_eq_some hread (ofText_eq_ok.mp hconfig)]
  rfl

theorem gives_of_load_named {files : Files} {content : Option Bytes} {path : String}
    {loaded : Loaded} (h : load files content (some path) = .ok loaded) :
    ∃ bytes, files.content? path = some bytes ∧ Gives bytes loaded.config ∧
      loaded.ignored = false := by
  rw [load] at h
  cases htext : (files.content? path).bind Utf8.text? with
  | none =>
    rw [ofFile_of_text?_eq_none htext] at h
    contradiction
  | some text =>
    obtain ⟨bytes, hbytes, hencode⟩ := Option.bind_eq_some_iff.mp htext
    cases hconfig : ofDocument? text with
    | none =>
      rw [ofFile_of_text?_eq_some htext hconfig] at h
      contradiction
    | some config =>
      rw [ofFile_of_text?_eq_some htext hconfig] at h
      obtain rfl : { config } = loaded := Except.ok.inj h
      exact ⟨bytes, hbytes, ⟨text, Utf8.text?_eq_some.mp hencode, ofText_eq_ok.mpr hconfig⟩, rfl⟩

theorem namedResult_load (files : Files) (content : Option Bytes) (path : String) :
    NamedResult files path (load files content (some path)) where
  used loaded := by
    constructor
    · exact gives_of_load_named
    · rintro ⟨bytes, hbytes, hgives, hignored⟩
      rw [load_eq_ok content hbytes hgives, ← hignored]
  refused hnone := by
    cases hload : load files content (some path) with
    | error error =>
      obtain ⟨named, hnamed, hunusable⟩ := load_eq_error.mp hload
      rw [Option.some.inj hnamed]
      exact ⟨error, rfl, hunusable⟩
    | ok loaded =>
      obtain ⟨bytes, hbytes, hgives, -⟩ := gives_of_load_named hload
      exact absurd hgives (hnone bytes loaded.config hbytes)

/-- The file in the default place, and the other files, do not matter where a file is named. -/
theorem load_named_congr {files others : Files} {path : String}
    (h : others.content? path = files.content? path) (content other : Option Bytes) :
    load others other (some path) = load files content (some path) := by
  rw [load, load, ofFile_eq, ofFile_eq, h]

theorem unnamedResult_ofDefaultFile (content : Option Bytes) :
    UnnamedResult content (ofDefaultFile content).config := by
  by_cases h : ∃ bytes config, content = some bytes ∧ Gives bytes config
  · obtain ⟨bytes, config, rfl, hgives⟩ := h
    rw [ofDefaultFile_described (gives_iff_describes.mp hgives)]
    exact .file bytes config rfl hgives
  · have hnone : ∀ bytes config, content = some bytes → ¬Gives bytes config :=
      fun bytes config hbytes hgives => h ⟨bytes, config, hbytes, hgives⟩
    have hdefault : (ofDefaultFile content).config = default := by
      cases content with
      | none => rfl
      | some bytes =>
        by_cases htext : IsText bytes
        · rw [ofDefaultFile_text htext fun ⟨config, hconfig⟩ =>
            hnone bytes config rfl (gives_iff_describes.mpr hconfig)]
        · rw [ofDefaultFile_no_text htext]
          rfl
    rw [hdefault]
    exact .defaults hnone

/-- No source stands in for another. A named file decides alone whether there is a configuration
and which; without a name there always is one, that of the file in the default place or the one
of the defaults throughout. -/
theorem load_sources (files : Files) (content : Option Bytes) :
    (∀ path, NamedResult files path (load files content (some path)) ∧
      ∀ (others : Files) (other : Option Bytes), others.content? path = files.content? path →
        load others other (some path) = load files content (some path)) ∧
    ∃ loaded, load files content none = .ok loaded ∧ UnnamedResult content loaded.config := by
  refine ⟨fun path => ⟨namedResult_load files content path, fun others other h => ?_⟩, ?_⟩
  · exact load_named_congr h content other
  · exact ⟨ofDefaultFile content, rfl, unnamedResult_ofDefaultFile content⟩

/-- With one timeout in a file and another one in the default place, the named file counts; where
the named file is missing, nothing does. -/
theorem load_sources_two_timeouts :
    let five := Utf8.encode "timeout_secs = 5".toList
    let nine := Utf8.encode "timeout_secs = 9".toList
    let files : Files := { contents := [("five.toml", five)] }
    load files (some nine) (some "five.toml") =
        .ok { config := { default with timeoutSecs := 5 } } ∧
      (∃ error, load files (some nine) (some "six.toml") = .error error ∧
        Unusable files "six.toml" error) ∧
      ∃ loaded, load files (some nine) none = .ok loaded ∧
        UnnamedResult (some nine) loaded.config := by
  intro five nine files
  obtain ⟨hnamed, hunnamed⟩ := load_sources files (some nine)
  refine ⟨?_, ?_, hunnamed⟩
  · refine ((hnamed "five.toml").1.used _).mpr ⟨five, by decide +kernel, ?_, rfl⟩
    exact ⟨"timeout_secs = 5", rfl, by decide +kernel⟩
  · refine (hnamed "six.toml").1.refused fun bytes config hbytes => ?_
    have hmissing : files.content? "six.toml" = none := by decide +kernel
    rw [hmissing] at hbytes
    contradiction

end Config

end BlobRetrieval
