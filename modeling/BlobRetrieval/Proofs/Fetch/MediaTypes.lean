import BlobRetrieval.Proofs.Fetch.ContentType

/-!
# What a content type does not depend on

Whether a content type agrees with a format is told by its letters in front of the first
semicolon, in either case and without the blanks around them. No content type agrees with two
formats.
-/

set_option autoImplicit false

namespace BlobRetrieval

/-- Cutting at the first semicolon does not depend on letter case. -/
theorem takeWhile_foldAscii (text : List Char) :
    (foldAscii text).takeWhile (· ≠ ';') = foldAscii (text.takeWhile (· ≠ ';')) := by
  have hsame : (fun c => decide (c ≠ ';')) ∘ Char.toLower = fun c => decide (c ≠ ';') :=
    funext (apply_toLower (fun c => decide (c ≠ ';')) (by decide))
  rw [foldAscii, List.takeWhile_map, hsame, foldAscii]

theorem not_mem_of_blank {text : List Char} (h : ∀ c ∈ text, Blank c = true) : ';' ∉ text :=
  fun hmem => absurd (h ';' hmem) (by decide)

namespace Format

theorem foldAscii_mediaType (format : Format) :
    foldAscii format.mediaType.toList = format.mediaType.toList := by
  cases format <;> decide

theorem mediaType_inj {format other : Format} (h : format.mediaType = other.mediaType) :
    format = other := by
  have hne : Format.json.mediaType ≠ Format.ssz.mediaType := by decide
  cases format with
  | json => cases other with
    | json => rfl
    | ssz => exact absurd h hne
  | ssz => cases other with
    | json => exact absurd h.symm hne
    | ssz => rfl

/-- A content type agrees with a format just if its small letters in front of the first semicolon,
without the blanks around them, are the media type. -/
theorem accepts_iff_folded {format : Format} {text : String} :
    format.accepts (some text) = true ↔
      trimBlank ((foldAscii text.toList).takeWhile (· ≠ ';')) = format.mediaType.toList := by
  rw [accepts, sameIgnoringCase_iff, foldAscii_mediaType, essence, takeWhile_foldAscii,
    trimBlank_foldAscii]

theorem accepts_congr {text other : String}
    (h : sameIgnoringCase text.toList other.toList = true) (format : Format) :
    format.accepts (some text) = format.accepts (some other) := by
  rw [Bool.eq_iff_iff, accepts_iff_folded, accepts_iff_folded,
    (sameIgnoringCase_iff _ _).mp h]

/-- Without a semicolon, what counts is the whole text. -/
theorem essence_eq {text : String} (h : ';' ∉ text.toList) :
    essence text = trimBlank text.toList := by
  have hfront : (text.toList ++ []).takeWhile (· ≠ ';') = text.toList :=
    takeWhile_front h (.inl rfl)
  rw [List.append_nil] at hfront
  rw [essence, hfront]

/-- Blanks around a text and parameters behind it do not count. -/
theorem essence_padded {s front back : String} (hs : ';' ∉ s.toList)
    (hfront : ∀ c ∈ front.toList, Blank c = true) (hback : ∀ c ∈ back.toList, Blank c = true)
    (parameters : String) :
    essence (front ++ s ++ back ++ ";" ++ parameters) = essence s := by
  have hnot : ';' ∉ front.toList ++ s.toList ++ back.toList := by
    simp only [List.mem_append, not_or]
    exact ⟨⟨not_mem_of_blank hfront, hs⟩, not_mem_of_blank hback⟩
  have htext : (front ++ s ++ back ++ ";" ++ parameters).toList =
      front.toList ++ s.toList ++ back.toList ++ ';' :: parameters.toList := by
    simp
  rw [essence_eq hs, essence, htext, takeWhile_front hnot (.inr ⟨_, rfl⟩),
    trimBlank_padded hfront hback]

theorem accepts_exclusive {format other : Format} {text : String}
    (h : format.accepts (some text) = true) (ho : other.accepts (some text) = true) :
    format = other := by
  rw [accepts_iff_folded] at h ho
  exact mediaType_inj (String.toList_injective (h.symm.trans ho))

/-- Neither blanks around a media type nor parameters behind it nor letter case make a difference
to the agreement of a content type, which is that of the media type alone. A content type agrees
with one format at most, so a response agrees with both only if it tells none. -/
theorem accepts_settled (s parameters front back : String) (hs : ';' ∉ s.toList)
    (hfront : ∀ c ∈ front.toList, Blank c = true) (hback : ∀ c ∈ back.toList, Blank c = true) :
    (∀ (format : Format) (text : String),
      sameIgnoringCase text.toList (front ++ s ++ back ++ ";" ++ parameters).toList = true →
        format.accepts (some text) = format.accepts (some s)) ∧
    (∀ format : Format, format.accepts (some s) = true ↔
      sameIgnoringCase (trimBlank s.toList) format.mediaType.toList = true) ∧
    (∀ (format other : Format) (text : String), format.accepts (some text) = true →
      other.accepts (some text) = true → format = other) ∧
    ∀ r : Response, (∀ format : Format, format.accepts r.contentTypeText? = true) ↔
      r.contentTypeText? = none := by
  refine ⟨fun format text htext => ?_, fun format => ?_, fun _ _ _ => accepts_exclusive,
    fun r => ?_⟩
  · rw [accepts_congr htext, accepts, accepts, essence_padded hs hfront hback]
  · rw [accepts, essence_eq hs]
  · cases r.contentTypeText? with
    | none => exact ⟨fun _ => rfl, fun _ _ => rfl⟩
    | some text =>
      refine ⟨fun h => ?_, fun hnone => absurd hnone (Option.some_ne_none text)⟩
      exact absurd (accepts_exclusive (h .json) (h .ssz)) (by decide)

/-- Unusual blanks, capitals, and parameters with semicolons of their own. -/
theorem accepts_settled_padded :
    let s := "Application/JSON"
    let text := "\u3000APPLICATION/json\t;A=b; ;c"
    ';' ∉ s.toList ∧ Format.json.accepts (some text) = Format.json.accepts (some s) ∧
      Format.json.accepts (some s) = true ∧ Format.ssz.accepts (some text) = false := by
  intro s text
  have hs : ';' ∉ s.toList := by decide
  obtain ⟨hstable, htrimmed, hexclusive, -⟩ := accepts_settled s "a=B; ;c" "\u3000" "\t" hs
    (List.all_eq_true.mp (by decide)) (List.all_eq_true.mp (by decide))
  have htext := hstable .json text (by decide)
  have haccepts := (htrimmed .json).mpr (by decide)
  refine ⟨hs, htext, haccepts, Bool.eq_false_iff.mpr fun h => ?_⟩
  exact absurd (hexclusive .json .ssz text (htext.trans haccepts) h) (by decide)

end Format

end BlobRetrieval
