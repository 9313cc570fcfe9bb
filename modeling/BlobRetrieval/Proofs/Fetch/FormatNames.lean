import BlobRetrieval.Proofs.Config.Admission
import BlobRetrieval.Proofs.Fetch.ContentType
import BlobRetrieval.Proofs.Text.Lowercase

/-!
# Names of the formats

A format is named in any letter case of ASCII and in no other way, although the name is looked
up in lower case. What the configuration takes as the name of a format names it here too.
-/

set_option autoImplicit false

namespace BlobRetrieval.Format

theorem plain_name (format : Format) : Plain format.name.toList := by
  cases format <;> decide

theorem foldAscii_name (format : Format) :
    foldAscii format.name.toList = format.name.toList := by
  cases format <;> decide

theorem ofText_eq_ok_iff {text : String} {format : Format} :
    ofText text = .ok format ↔ lowercase text = format.name := by
  have hne : Format.json.name ≠ Format.ssz.name := by decide
  unfold ofText
  by_cases hjson : lowercase text = Format.json.name
  · rw [if_pos hjson, hjson]
    cases format <;> simp [hne]
  · rw [if_neg hjson]
    by_cases hssz : lowercase text = Format.ssz.name
    · rw [if_pos hssz, hssz]
      cases format <;> simp [hne.symm]
    · rw [if_neg hssz]
      cases format <;> simp [hjson, hssz]

theorem ofText_eq_ok {text : String} {format : Format} :
    ofText text = .ok format ↔ sameIgnoringCase text.toList format.name.toList = true := by
  rw [ofText_eq_ok_iff, lowercase_eq_iff format.plain_name, sameIgnoringCase_iff,
    format.foldAscii_name]

theorem ofText_eq_error {text : String} {unknown : Unknown} :
    ofText text = .error unknown ↔ unknown = ⟨lowercase text⟩ ∧
      ∀ format : Format, sameIgnoringCase text.toList format.name.toList = false := by
  simp only [← Bool.not_eq_true, ← ofText_eq_ok]
  constructor
  · intro h
    refine ⟨?_, fun format hformat => by rw [h] at hformat; contradiction⟩
    unfold ofText at h
    split at h
    · contradiction
    · split at h
      · contradiction
      · exact (Except.error.inj h).symm
  · rintro ⟨rfl, hnot⟩
    have hname : ∀ format : Format, lowercase text ≠ format.name :=
      fun format h => hnot format (ofText_eq_ok_iff.mpr h)
    rw [ofText, if_neg (hname .json), if_neg (hname .ssz)]

/-- Nothing blank and nothing outside ASCII is part of a name. -/
theorem plain_of_ofText {text : String} {format : Format} (h : ofText text = .ok format) :
    ∀ c ∈ text.toList, c.toNat < 0x80 ∧ Blank c = false := by
  have hblank : format.name.toList.any Blank = false := by
    cases format <;> decide
  rw [ofText_eq_ok, sameIgnoringCase_iff, format.foldAscii_name] at h
  intro c hc
  have hmem : c.toLower ∈ format.name.toList := h ▸ List.mem_map_of_mem hc
  refine ⟨(toLower_lt_iff c).mp (format.plain_name _ hmem).1, ?_⟩
  rw [← blank_toLower, ← Bool.not_eq_true]
  exact List.any_eq_false.mp hblank _ hmem

theorem ofText_of_names {name : String} {format : Format} (h : Config.Names name format) :
    ofText name = .ok format := by
  rw [ofText_eq_ok]
  cases h <;> decide

/-- A text is the name of a format just if it is that name in some letter case of ASCII. Any other
text is reported in lower case. So no character outside ASCII and no blank is part of an accepted
text, and whatever a configuration accepts as the text of its format is accepted as the same. -/
theorem ofText_names (text : String) :
    (∀ format : Format, ofText text = .ok format ↔
      sameIgnoringCase text.toList format.name.toList = true) ∧
    (∀ unknown, ofText text = .error unknown ↔ unknown = ⟨lowercase text⟩ ∧
      ∀ format : Format, sameIgnoringCase text.toList format.name.toList = false) ∧
    (∀ format, ofText text = .ok format → ∀ c ∈ text.toList, c.toNat < 0x80 ∧ Blank c = false) ∧
    ∀ (document : String) (entries : Toml.Entries) (config : Config),
      Config.ofText document = .ok config → Toml.parse document.toList = some entries →
      entries.find? "format" = some (.text text.toList) → ofText text = .ok config.format := by
  refine ⟨fun _ => ofText_eq_ok, fun _ => ofText_eq_error, fun _ => plain_of_ofText, ?_⟩
  intro document entries config hconfig hparse hentry
  obtain ⟨others, hothers, hfits⟩ :=
    Config.ofDocument?_eq_some.mp (Config.ofText_eq_ok.mp hconfig)
  obtain rfl : entries = others := Option.some.inj (hparse.symm.trans hothers)
  have hformat := hfits.format
  generalize config.format = format at hformat ⊢
  rcases hformat with hmissing | ⟨hnode, hgives⟩
  · rw [hentry] at hmissing
    contradiction
  · rw [hentry] at hnode
    obtain rfl := Option.some.inj hnode
    rw [← Config.formatOf_eq_some, Config.formatOf, Config.exactFormat_eq_ok,
      String.ofList_toList] at hgives
    exact ofText_of_names hgives

/-- The name of a format in capitals, and in a configuration. -/
theorem ofText_names_ssz :
    ofText "SSZ" = .ok .ssz ∧ (∀ c ∈ "SSZ".toList, c.toNat < 0x80 ∧ Blank c = false) ∧
      Config.ofText "format = \"ssz\"" = .ok { format := .ssz } ∧ ofText "ssz" = .ok .ssz := by
  have hcapitals : ofText "SSZ" = .ok .ssz := ((ofText_names "SSZ").1 .ssz).mpr (by decide)
  have hconfig : Config.ofText "format = \"ssz\"" = .ok { format := .ssz } := by decide +kernel
  obtain ⟨entries, hparse, -⟩ :=
    Config.ofDocument?_eq_some.mp (Config.ofText_eq_ok.mp hconfig)
  have hvalue : ((Toml.parse "format = \"ssz\"".toList).bind (Toml.Entries.find? · "format")).bind
      Config.textOf = some "ssz" := by decide +kernel
  rw [hparse, Option.bind_some] at hvalue
  obtain ⟨node, hnode, htext⟩ := Option.bind_eq_some_iff.mp hvalue
  cases Config.textOf_eq_some.mp htext
  exact ⟨hcapitals, (ofText_names "SSZ").2.2.1 .ssz hcapitals, hconfig,
    (ofText_names "ssz").2.2.2 _ entries _ hconfig hparse hnode⟩

end BlobRetrieval.Format
