import Mathlib.Data.List.TakeWhile
import BlobRetrieval.Fetch.Client
import BlobRetrieval.Proofs.Text.Lowercase
import BlobRetrieval.Proofs.Text.Splitting

/-!
# Content types that agree with a format

A content type agrees with a format if it is the media type of the format, in any letter case
and with blanks around it, perhaps with parameters behind a semicolon. This is so of the header
as it is sent, with the blanks that do not belong to its value.
-/

set_option autoImplicit false

namespace BlobRetrieval

section Blanks

variable {front back : List Char}

theorem dropWhile_blank_append (h : ∀ c ∈ front, Blank c = true) (text : List Char) :
    (front ++ text).dropWhile Blank = text.dropWhile Blank := by
  induction front with
  | nil => rfl
  | cons c front ih =>
    rw [List.cons_append, List.dropWhile_cons_of_pos (h c List.mem_cons_self)]
    exact ih fun d hd => h d (List.mem_cons_of_mem c hd)

theorem dropWhile_eq_nil_or (text : List Char) (h : ∀ c ∈ back, Blank c = true) :
    (text ++ back).dropWhile Blank = text.dropWhile Blank ++ back ∨
      (text.dropWhile Blank = [] ∧ (text ++ back).dropWhile Blank = []) := by
  induction text with
  | nil => exact .inr ⟨rfl, List.dropWhile_eq_nil_iff.mpr h⟩
  | cons c text ih =>
    by_cases hc : Blank c = true
    · simpa only [List.cons_append, List.dropWhile_cons_of_pos hc] using ih
    · exact .inl (by rw [List.cons_append, List.dropWhile_cons_of_neg hc,
        List.dropWhile_cons_of_neg hc, List.cons_append])

theorem trimBlank_append (text : List Char) (h : ∀ c ∈ back, Blank c = true) :
    trimBlank (text ++ back) = trimBlank text := by
  rw [trimBlank, trimBlank]
  rcases dropWhile_eq_nil_or text h with heq | ⟨hnil, heq⟩
  · rw [heq, List.reverse_append, dropWhile_blank_append]
    intro c hc
    exact h c (List.mem_reverse.mp hc)
  · rw [heq, hnil]

/-- Blanks at the ends do not count. -/
theorem trimBlank_padded (hfront : ∀ c ∈ front, Blank c = true)
    (hback : ∀ c ∈ back, Blank c = true) (text : List Char) :
    trimBlank (front ++ text ++ back) = trimBlank text := by
  rw [trimBlank_append _ hback, trimBlank, trimBlank, dropWhile_blank_append hfront]

/-- A text is what is left of it between blanks. -/
theorem exists_padding (text : List Char) :
    ∃ front back, (∀ c ∈ front, Blank c = true) ∧ (∀ c ∈ back, Blank c = true) ∧
      text = front ++ trimBlank text ++ back := by
  let rest := text.dropWhile Blank
  refine ⟨text.takeWhile Blank, (rest.reverse.takeWhile Blank).reverse, ?_, ?_, ?_⟩
  · intro c hc
    exact List.mem_takeWhile_imp hc
  · intro c hc
    exact List.mem_takeWhile_imp (List.mem_reverse.mp hc)
  · have hrest : trimBlank text ++ (rest.reverse.takeWhile Blank).reverse = rest := by
      rw [trimBlank, ← List.reverse_append, List.takeWhile_append_dropWhile, List.reverse_reverse]
    rw [List.append_assoc, hrest, List.takeWhile_append_dropWhile]

/-- No letter is blank, so that lower case makes no difference. -/
theorem blank_toLower (c : Char) : Blank c.toLower = Blank c :=
  apply_toLower Blank (by decide) c

theorem trimBlank_foldAscii (text : List Char) :
    trimBlank (foldAscii text) = foldAscii (trimBlank text) := by
  have hblank : Blank ∘ Char.toLower = Blank := funext blank_toLower
  simp only [trimBlank, foldAscii, List.dropWhile_map, ← List.map_reverse, hblank]

end Blanks

def Format.AgreesWith (format : Format) (contentType : List Char) : Prop :=
  ∃ front name back parameters, contentType = front ++ name ++ back ++ parameters ∧
    (∀ c ∈ front, Blank c = true) ∧ (∀ c ∈ back, Blank c = true) ∧
    name.map Char.toLower = format.mediaType.toList ∧
    (parameters = [] ∨ ∃ text, parameters = ';' :: text)

/-- The part in front of the first semicolon. -/
theorem takeWhile_front {front parameters : List Char} (h : ';' ∉ front)
    (hp : parameters = [] ∨ ∃ text, parameters = ';' :: text) :
    (front ++ parameters).takeWhile (· ≠ ';') = front := by
  apply takeWhile_front_eq
  · intro c hc
    exact decide_eq_true fun heq => h (heq ▸ hc)
  · intro c hc
    rcases hp with rfl | ⟨text, rfl⟩
    · cases hc
    · cases hc
      rfl

theorem agreesWith_iff (format : Format) (contentType : List Char) :
    format.AgreesWith contentType ↔
      foldAscii (trimBlank (contentType.takeWhile (· ≠ ';'))) = format.mediaType.toList := by
  have hmedia : trimBlank format.mediaType.toList = format.mediaType.toList := by
    cases format <;> decide
  have hplain : ';' ∉ format.mediaType.toList := by
    cases format <;> decide
  constructor
  · rintro ⟨front, name, back, parameters, rfl, hfront, hback, hname, hparameters⟩
    have hblank : Blank ';' = false := by decide
    have hnot : ';' ∉ front ++ name ++ back := by
      simp only [List.mem_append, not_or]
      refine ⟨⟨?_, ?_⟩, ?_⟩
      · intro h
        exact Bool.eq_false_iff.mp hblank (hfront _ h)
      · intro h
        exact hplain (hname ▸ List.mem_map.mpr ⟨';', h, by decide⟩)
      · intro h
        exact Bool.eq_false_iff.mp hblank (hback _ h)
    rw [takeWhile_front hnot hparameters, trimBlank_padded hfront hback, ← trimBlank_foldAscii,
      foldAscii, hname, hmedia]
  · intro h
    obtain ⟨front, back, hfront, hback, hpart⟩ :=
      exists_padding (contentType.takeWhile (· ≠ ';'))
    refine ⟨front, _, back, contentType.dropWhile (· ≠ ';'), ?_, hfront, hback, h, ?_⟩
    · rw [← hpart, List.takeWhile_append_dropWhile]
    · cases hd : contentType.dropWhile (· ≠ ';') with
      | nil => exact .inl rfl
      | cons c text =>
        have hc := List.head?_dropWhile_not (· ≠ ';') contentType
        rw [hd] at hc
        exact .inr ⟨text, by simpa using hc⟩

theorem accepts_iff (format : Format) (contentType : String) :
    format.accepts (some contentType) = true ↔ format.AgreesWith contentType.toList := by
  have hlower : foldAscii format.mediaType.toList = format.mediaType.toList := by
    cases format <;> decide
  rw [agreesWith_iff, Format.accepts, sameIgnoringCase_iff, hlower, Format.essence]

/-- Blanks around a content type do not count, be it with parameters or without. -/
theorem agreesWith_padded {front back : List Char} (hfront : ∀ c ∈ front, Blank c = true)
    (hback : ∀ c ∈ back, Blank c = true) (format : Format) (contentType : List Char) :
    format.AgreesWith (front ++ contentType ++ back) ↔ format.AgreesWith contentType := by
  have hplain : ∀ {text : List Char}, (∀ c ∈ text, Blank c = true) →
      ∀ c ∈ text, decide (c ≠ ';') = true := by
    intro text htext c hc
    refine decide_eq_true fun heq => ?_
    have hblank := htext c hc
    rw [heq] at hblank
    exact absurd hblank (by decide)
  have hall : back.takeWhile (· ≠ ';') = back :=
    List.takeWhile_eq_self_iff.mpr (hplain hback)
  rw [agreesWith_iff, agreesWith_iff, List.append_assoc, List.takeWhile_append_of_pos
    (hplain hfront), List.takeWhile_append]
  split
  next hlength =>
    have hself := (List.takeWhile_prefix (l := contentType) (· ≠ ';')).eq_of_length hlength
    rw [hall, hself, ← List.append_assoc, trimBlank_padded hfront hback]
  next =>
    have hnone : ∀ c ∈ ([] : List Char), Blank c = true := fun c hc => nomatch hc
    have hpadded := trimBlank_padded hfront hnone (contentType.takeWhile (· ≠ ';'))
    rw [List.append_nil] at hpadded
    rw [hpadded]

namespace Response

def Printable (value : Bytes) : Prop :=
  ∀ b ∈ value, b = 9 ∨ (32 ≤ b ∧ b ≤ 126)

def charactersOf (value : Bytes) : List Char :=
  value.map fun b => Char.ofNat b.toNat

def Disagrees (r : Response) (format : Format) : Prop :=
  ∃ value, r.contentType = some value ∧ Printable value ∧
    ¬format.AgreesWith (charactersOf value)

theorem isHeaderText_iff (b : UInt8) : isHeaderText b = true ↔ b = 9 ∨ (32 ≤ b ∧ b ≤ 126) := by
  simp [isHeaderText, or_comm]

theorem blank_of_isHeaderBlank {b : UInt8} (h : isHeaderBlank b = true) :
    Blank (Char.ofNat b.toNat) = true := by
  simp only [isHeaderBlank, Bool.or_eq_true, beq_iff_eq] at h
  rcases h with rfl | rfl <;> decide

theorem isHeaderText_of_isHeaderBlank {b : UInt8} (h : isHeaderBlank b = true) :
    isHeaderText b = true := by
  simp only [isHeaderBlank, Bool.or_eq_true, beq_iff_eq] at h
  rcases h with rfl | rfl <;> decide

/-- The value of a header is what is left between blanks, if it can be printed. -/
theorem headerText?_eq (value : Bytes) :
    ∃ front middle back, value = front ++ middle ++ back ∧
      (∀ b ∈ front, isHeaderBlank b = true) ∧ (∀ b ∈ back, isHeaderBlank b = true) ∧
      headerText? value = if middle.all isHeaderText then some (String.ofList (charactersOf middle))
        else none := by
  let rest := value.dropWhile isHeaderBlank
  refine ⟨value.takeWhile isHeaderBlank, (rest.reverse.dropWhile isHeaderBlank).reverse,
    (rest.reverse.takeWhile isHeaderBlank).reverse, ?_, ?_, ?_, rfl⟩
  · rw [List.append_assoc, ← List.reverse_append, List.takeWhile_append_dropWhile,
      List.reverse_reverse, List.takeWhile_append_dropWhile]
  · intro b hb
    exact List.mem_takeWhile_imp hb
  · intro b hb
    exact List.mem_takeWhile_imp (List.mem_reverse.mp hb)

theorem blank_charactersOf {bytes : Bytes} (h : ∀ b ∈ bytes, isHeaderBlank b = true) :
    ∀ c ∈ charactersOf bytes, Blank c = true := by
  intro c hc
  obtain ⟨b, hb, rfl⟩ := List.mem_map.mp hc
  exact blank_of_isHeaderBlank (h b hb)

theorem printable_padded {front middle back : Bytes}
    (hfront : ∀ b ∈ front, isHeaderBlank b = true) (hback : ∀ b ∈ back, isHeaderBlank b = true) :
    Printable (front ++ middle ++ back) ↔ middle.all isHeaderText = true := by
  simp only [Printable, ← isHeaderText_iff, List.all_eq_true]
  constructor
  · intro h b hb
    exact h b (by simp [hb])
  · intro h b hb
    rcases List.mem_append.mp hb with hb | hb
    · rcases List.mem_append.mp hb with hb | hb
      · exact isHeaderText_of_isHeaderBlank (hfront b hb)
      · exact h b hb
    · exact isHeaderText_of_isHeaderBlank (hback b hb)

/-- The check of the content type fails just where there is one that disagrees. -/
theorem disagrees_iff (r : Response) (format : Format) :
    r.Disagrees format ↔ format.accepts r.contentTypeText? = false := by
  cases hvalue : r.contentType with
  | none => simp [Disagrees, contentTypeText?, hvalue, Format.accepts]
  | some value =>
    obtain ⟨front, middle, back, rfl, hfront, hback, htext⟩ := headerText?_eq value
    have hagrees : format.AgreesWith (charactersOf (front ++ middle ++ back)) ↔
        format.accepts (some (String.ofList (charactersOf middle))) = true := by
      rw [accepts_iff, String.toList_ofList, charactersOf, List.map_append, List.map_append]
      exact agreesWith_padded (blank_charactersOf hfront) (blank_charactersOf hback) format _
    rw [contentTypeText?, hvalue, Option.bind_some, htext]
    constructor
    · rintro ⟨value, hsome, hprint, hnot⟩
      rw [hvalue] at hsome
      rw [← Option.some.inj hsome] at hprint hnot
      rw [if_pos ((printable_padded hfront hback).mp hprint), ← Bool.not_eq_true, ← hagrees]
      exact hnot
    · intro h
      by_cases hall : middle.all isHeaderText = true
      · rw [if_pos hall] at h
        refine ⟨_, hvalue, (printable_padded hfront hback).mpr hall, fun hagree => ?_⟩
        rw [hagrees.mp hagree] at h
        contradiction
      · rw [if_neg hall] at h
        contradiction

end Response

end BlobRetrieval
