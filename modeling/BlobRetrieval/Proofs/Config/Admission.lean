import BlobRetrieval.Config.Load
import BlobRetrieval.Proofs.Toml.Values

/-!
# What a configuration document may say

Each setting is read from its own key. A document is a configuration just if every known key
that it has holds a value of the kind of that key; keys that it lacks have their defaults.
-/

set_option autoImplicit false

namespace BlobRetrieval.Config

open Toml

inductive GivesText : Node → String → Prop
  | text (t : String) : GivesText (.text t.toList) t

inductive GivesUrl : Node → Option String → Prop
  | text (t : String) : GivesUrl (.text t.toList) (some t)

inductive Names : String → Format → Prop
  | json : Names "json" .json
  | ssz : Names "ssz" .ssz

inductive IsVacant : Node → Prop
  | table (origin : Origin) : IsVacant (.table origin [])
  | array : IsVacant (.array [])

inductive GivesFormat : Node → Format → Prop
  | name {t : String} {format : Format} : Names t format → GivesFormat (.text t.toList) format
  | only {t : String} {format : Format} {inner : Node} (origin : Origin) :
      Names t format → IsVacant inner → GivesFormat (.table origin [(t, inner)]) format

inductive GivesSeconds : Node → UInt64 → Prop
  | integer (n : UInt64) : GivesSeconds (.integer n.toNat) n

inductive SettingIs {α : Type} (entries : Entries) (key : Key) (Gives : Node → α → Prop)
    (otherwise : α) : α → Prop
  | missing : entries.find? key = none → SettingIs entries key Gives otherwise otherwise
  | given {node : Node} {value : α} : entries.find? key = some node → Gives node value →
      SettingIs entries key Gives otherwise value

structure Fits (entries : Entries) (config : Config) : Prop where
  beaconUrl : SettingIs entries "beacon_url" GivesText "http://localhost:5052" config.beaconUrl
  archiverUrl : SettingIs entries "archiver_url" GivesUrl none config.archiverUrl
  format : SettingIs entries "format" GivesFormat .json config.format
  timeoutSecs : SettingIs entries "timeout_secs" GivesSeconds 30 config.timeoutSecs
  logLevel : SettingIs entries "log_level" GivesText "info" config.logLevel

structure Admits (entries : Entries) : Prop where
  beaconUrl : ∀ node, entries.find? "beacon_url" = some node → ∃ t, node = .text t
  archiverUrl : ∀ node, entries.find? "archiver_url" = some node → ∃ t, node = .text t
  format : ∀ node, entries.find? "format" = some node → ∃ format, GivesFormat node format
  timeoutSecs : ∀ node, entries.find? "timeout_secs" = some node →
    ∃ n : Int, node = .integer n ∧ 0 ≤ n
  logLevel : ∀ node, entries.find? "log_level" = some node → ∃ t, node = .text t

theorem textOf_eq_some {node : Node} {t : String} : textOf node = some t ↔ GivesText node t := by
  constructor
  · intro h
    cases node with
    | text value =>
      cases h
      have hvalue := GivesText.text (String.ofList value)
      rwa [String.toList_ofList] at hvalue
    | _ => cases h
  · rintro ⟨t⟩
    exact congrArg some (String.ofList_toList)

theorem urlOf_eq_some {node : Node} {url : Option String} :
    (textOf node).map some = some url ↔ GivesUrl node url := by
  rw [Option.map_eq_some_iff]
  constructor
  · rintro ⟨t, ht, rfl⟩
    cases textOf_eq_some.mp ht
    exact .text t
  · rintro ⟨t⟩
    exact ⟨t, textOf_eq_some.mpr (.text t), rfl⟩

theorem exactFormat_eq_ok {name : List Char} {format : Format} :
    (exactFormat name).toOption = some format ↔ Names (String.ofList name) format := by
  constructor
  · intro h
    rw [exactFormat] at h
    split at h
    · next hname =>
      cases h
      rw [hname, String.ofList_toList]
      exact .json
    · split at h
      · next hname =>
        cases h
        rw [hname, String.ofList_toList]
        exact .ssz
      · cases h
  · intro h
    generalize ht : String.ofList name = t at h
    obtain rfl : name = t.toList := by rw [← ht, String.toList_ofList]
    cases h <;> rfl

theorem isEmptyNode_eq_true {node : Node} : isEmptyNode node = true ↔ IsVacant node := by
  constructor
  · intro h
    unfold isEmptyNode at h
    split at h
    · exact .table _
    · exact .array
    · cases h
  · rintro (_ | _) <;> rfl

theorem formatOf_eq_some {node : Node} {format : Format} :
    formatOf node = some format ↔ GivesFormat node format := by
  constructor
  · intro h
    unfold formatOf at h
    split at h
    · next name =>
      have hname := GivesFormat.name (exactFormat_eq_ok.mp h)
      rwa [String.toList_ofList] at hname
    · next origin name inner =>
      split at h
      · next hinner =>
        have hname := exactFormat_eq_ok.mp h
        rw [String.ofList_toList] at hname
        exact .only origin hname (isEmptyNode_eq_true.mp hinner)
      · cases h
    · cases h
  · rintro (⟨hname⟩ | ⟨origin, hname, hinner⟩)
    · rw [formatOf, exactFormat_eq_ok, String.ofList_toList]
      exact hname
    · rw [formatOf, if_pos (isEmptyNode_eq_true.mpr hinner), exactFormat_eq_ok,
        String.ofList_toList]
      exact hname

theorem secondsOf_eq_some {node : Node} {seconds : UInt64}
    (hrange : ∀ n, node = .integer n → inRange n = true) :
    secondsOf node = some seconds ↔ GivesSeconds node seconds := by
  constructor
  · intro h
    unfold secondsOf at h
    split at h
    · next n =>
      split at h
      · next hn =>
        cases h
        have hlt : n < 2 ^ 63 := by
          have hboth := hrange n rfl
          simp only [inRange, Bool.and_eq_true, decide_eq_true_eq] at hboth
          exact hboth.2
        have hback : ((UInt64.ofNat n.toNat).toNat : Int) = n := by
          rw [UInt64.toNat_ofNat_of_lt' (by simp only [UInt64.size]; omega)]
          omega
        have hseconds := GivesSeconds.integer (UInt64.ofNat n.toNat)
        rwa [hback] at hseconds
      · cases h
    · cases h
  · rintro ⟨n⟩
    simp [secondsOf]

theorem exists_givesSeconds {node : Node}
    (hrange : ∀ n, node = .integer n → inRange n = true) :
    (∃ seconds, GivesSeconds node seconds) ↔ ∃ n : Int, node = .integer n ∧ 0 ≤ n := by
  constructor
  · rintro ⟨n, ⟨⟩⟩
    exact ⟨n.toNat, rfl, Int.natCast_nonneg _⟩
  · rintro ⟨n, rfl, hn⟩
    refine ⟨UInt64.ofNat n.toNat, (secondsOf_eq_some hrange).mp ?_⟩
    rw [secondsOf, if_pos hn]

theorem exists_givesText {node : Node} : (∃ t, GivesText node t) ↔ ∃ t, node = .text t := by
  constructor
  · rintro ⟨t, ⟨⟩⟩
    exact ⟨t.toList, rfl⟩
  · rintro ⟨t, rfl⟩
    exact ⟨_, textOf_eq_some.mp rfl⟩

theorem exists_givesUrl {node : Node} : (∃ url, GivesUrl node url) ↔ ∃ t, node = .text t := by
  constructor
  · rintro ⟨_, h⟩
    obtain ⟨t⟩ := h
    exact ⟨t.toList, rfl⟩
  · rintro ⟨t, rfl⟩
    exact ⟨_, urlOf_eq_some.mp rfl⟩

section Setting

variable {α : Type} {entries : Entries} {key : Key} {Gives : Node → α → Prop} {otherwise : α}

theorem setting_eq_some {read : Node → Option α} (otherwise : α)
    (h : ∀ node v, entries.find? key = some node → (read node = some v ↔ Gives node v)) (v : α) :
    (∃ given, setting entries key read = some given ∧ given.getD otherwise = v) ↔
      SettingIs entries key Gives otherwise v := by
  constructor
  · rintro ⟨given, hgiven, rfl⟩
    rw [setting] at hgiven
    split at hgiven
    · next hnone =>
      cases hgiven
      exact .missing hnone
    · next node hnode =>
      obtain ⟨v, hv, rfl⟩ := Option.map_eq_some_iff.mp hgiven
      exact .given hnode ((h node v hnode).mp hv)
  · rintro (hnone | ⟨hnode, hv⟩)
    · exact ⟨none, by rw [setting, hnone], rfl⟩
    · refine ⟨some v, ?_, rfl⟩
      rw [setting, hnode]
      exact congrArg (Option.map some) ((h _ v hnode).mpr hv)

/-- A setting has a value just if its key is missing or gives one. -/
theorem exists_settingIs : (∃ v, SettingIs entries key Gives otherwise v) ↔
    ∀ node, entries.find? key = some node → ∃ v, Gives node v := by
  constructor
  · rintro ⟨v, hnone | ⟨hnode, hv⟩⟩ node hsome
    · rw [hnone] at hsome
      cases hsome
    · rw [hnode] at hsome
      cases hsome
      exact ⟨v, hv⟩
  · intro h
    cases hfind : entries.find? key with
    | none => exact ⟨otherwise, .missing hfind⟩
    | some node =>
      obtain ⟨v, hv⟩ := h node hfind
      exact ⟨v, .given hfind hv⟩

end Setting

theorem setting_map {α β : Type} (entries : Entries) (key : Key) (read : Node → Option α)
    (f : α → β) :
    (setting entries key read).map (·.map f) = setting entries key fun node => (read node).map f := by
  unfold setting
  cases entries.find? key with
  | none => rfl
  | some node => cases h : read node <;> simp [h]

theorem draft_eq_some {entries : Entries} {d : Draft} :
    draft entries = some d ↔
      setting entries "beacon_url" textOf = some d.beaconUrl ∧
      setting entries "archiver_url" (fun node => (textOf node).map some) = some d.archiverUrl ∧
      setting entries "format" formatOf = some d.format ∧
      setting entries "timeout_secs" secondsOf = some d.timeoutSecs ∧
      setting entries "log_level" textOf = some d.logLevel := by
  rw [← setting_map]
  constructor
  · intro h
    obtain ⟨b, hb, h⟩ := Option.bind_eq_some_iff.mp h
    obtain ⟨a, ha, h⟩ := Option.bind_eq_some_iff.mp h
    obtain ⟨f, hf, h⟩ := Option.bind_eq_some_iff.mp h
    obtain ⟨t, ht, h⟩ := Option.bind_eq_some_iff.mp h
    obtain ⟨l, hl, h⟩ := Option.bind_eq_some_iff.mp h
    cases h
    exact ⟨hb, congrArg (Option.map (·.map some)) ha, hf, ht, hl⟩
  · rintro ⟨hb, ha, hf, ht, hl⟩
    obtain ⟨url, hurl, hmap⟩ := Option.map_eq_some_iff.mp ha
    obtain ⟨b, u, f, t, l⟩ := d
    obtain rfl : url.map some = u := hmap
    simp only [draft, hb, hurl, hf, ht, hl]
    rfl

theorem complete_draft_eq_some {entries : Entries} {config : Config}
    (hrange : ∀ n, entries.find? "timeout_secs" = some (.integer n) → inRange n = true) :
    (draft entries).map Draft.complete = some config ↔ Fits entries config := by
  have htext : ∀ key node t, entries.find? key = some node →
      (textOf node = some t ↔ GivesText node t) := fun _ _ _ _ => textOf_eq_some
  have hurl : ∀ node url, entries.find? "archiver_url" = some node →
      ((textOf node).map some = some url ↔ GivesUrl node url) := fun _ _ _ => urlOf_eq_some
  have hname : ∀ node format, entries.find? "format" = some node →
      (formatOf node = some format ↔ GivesFormat node format) := fun _ _ _ => formatOf_eq_some
  have hseconds : ∀ node seconds, entries.find? "timeout_secs" = some node →
      (secondsOf node = some seconds ↔ GivesSeconds node seconds) := fun node seconds hnode =>
    secondsOf_eq_some fun n hn => hrange n (hn ▸ hnode)
  have hbeacon := setting_eq_some default.beaconUrl (htext "beacon_url")
  have harchiver := setting_eq_some default.archiverUrl hurl
  have hformat := setting_eq_some default.format hname
  have htimeout := setting_eq_some default.timeoutSecs hseconds
  have hlevel := setting_eq_some default.logLevel (htext "log_level")
  constructor
  · intro h
    obtain ⟨d, hd, rfl⟩ := Option.map_eq_some_iff.mp h
    obtain ⟨hb, ha, hf, ht, hl⟩ := draft_eq_some.mp hd
    exact ⟨(hbeacon _).mp ⟨_, hb, rfl⟩, (harchiver _).mp ⟨_, ha, rfl⟩,
      (hformat _).mp ⟨_, hf, rfl⟩, (htimeout _).mp ⟨_, ht, rfl⟩, (hlevel _).mp ⟨_, hl, rfl⟩⟩
  · intro h
    obtain ⟨b, hb, hb'⟩ := (hbeacon _).mpr h.beaconUrl
    obtain ⟨a, ha, ha'⟩ := (harchiver _).mpr h.archiverUrl
    obtain ⟨f, hf, hf'⟩ := (hformat _).mpr h.format
    obtain ⟨t, ht, ht'⟩ := (htimeout _).mpr h.timeoutSecs
    obtain ⟨l, hl, hl'⟩ := (hlevel _).mpr h.logLevel
    refine Option.map_eq_some_iff.mpr ⟨⟨b, a, f, t, l⟩, draft_eq_some.mpr ⟨hb, ha, hf, ht, hl⟩, ?_⟩
    rw [Draft.complete, hb', ha', hf', ht', hl']

theorem ofDocument?_eq (text : String) : ofDocument? text =
    (Toml.parse text.toList).bind fun entries => (draft entries).map Draft.complete := by
  unfold ofDocument?
  cases Toml.parse text.toList with
  | none => rfl
  | some entries => cases h : draft entries <;> simp [h]

/-- A text gives a configuration just if it is a document that this configuration fits. -/
theorem ofDocument?_eq_some {text : String} {config : Config} :
    ofDocument? text = some config ↔
      ∃ entries, Toml.parse text.toList = some entries ∧ Fits entries config := by
  rw [ofDocument?_eq, Option.bind_eq_some_iff]
  refine exists_congr fun entries => and_congr_right fun hparse => ?_
  exact complete_draft_eq_some fun n => parse_integer hparse

/-- A document gives a configuration just if all its known keys have values of their kinds. -/
theorem exists_fits {text : List Char} {entries : Entries}
    (h : Toml.parse text = some entries) : (∃ config, Fits entries config) ↔ Admits entries := by
  have hrange : ∀ node, entries.find? "timeout_secs" = some node →
      ∀ n, node = .integer n → inRange n = true := by
    rintro node hnode n rfl
    exact parse_integer h hnode
  constructor
  · rintro ⟨config, hfits⟩
    exact {
      beaconUrl := fun node hnode =>
        exists_givesText.mp (exists_settingIs.mp ⟨_, hfits.beaconUrl⟩ node hnode)
      archiverUrl := fun node hnode =>
        exists_givesUrl.mp (exists_settingIs.mp ⟨_, hfits.archiverUrl⟩ node hnode)
      format := exists_settingIs.mp ⟨_, hfits.format⟩
      timeoutSecs := fun node hnode => (exists_givesSeconds (hrange node hnode)).mp
        (exists_settingIs.mp ⟨_, hfits.timeoutSecs⟩ node hnode)
      logLevel := fun node hnode =>
        exists_givesText.mp (exists_settingIs.mp ⟨_, hfits.logLevel⟩ node hnode) }
  · intro hadmits
    obtain ⟨b, hb⟩ := exists_settingIs.mpr fun node hnode =>
      exists_givesText.mpr (hadmits.beaconUrl node hnode)
    obtain ⟨a, ha⟩ := exists_settingIs.mpr fun node hnode =>
      exists_givesUrl.mpr (hadmits.archiverUrl node hnode)
    obtain ⟨f, hf⟩ := exists_settingIs.mpr hadmits.format
    obtain ⟨t, ht⟩ := exists_settingIs.mpr fun node hnode =>
      (exists_givesSeconds (hrange node hnode)).mpr (hadmits.timeoutSecs node hnode)
    obtain ⟨l, hl⟩ := exists_settingIs.mpr fun node hnode =>
      exists_givesText.mpr (hadmits.logLevel node hnode)
    exact ⟨⟨b, a, f, t, l⟩, hb, ha, hf, ht, hl⟩

theorem ofText_eq_ok {text : String} {config : Config} :
    ofText text = .ok config ↔ ofDocument? text = some config := by
  unfold ofText
  cases ofDocument? text <;> simp

end BlobRetrieval.Config
