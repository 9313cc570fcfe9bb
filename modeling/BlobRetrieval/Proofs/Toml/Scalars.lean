import BlobRetrieval.Toml.Document
import BlobRetrieval.Proofs.Toml.Strings

/-!
# Numbers, times and keys in a line

Every part of a statement but a text, an array or a table in braces stays within its line.
-/

set_option autoImplicit false

namespace BlobRetrieval.Toml

open Scan

theorem spaces_inLine : InLine spaces :=
  (InLine.many (by decide)).bind fun _ => .pure ()

section Digits

variable {digit : Char → Bool} (h : digit '\n' = false)

include h

theorem moreDigits_inLine (done : List Char) : InLine (moreDigits digit done) := by
  intro text
  induction done, text using moreDigits.induct digit with
  | case1 done =>
    refine .inl fun x hx => ?_
    cases hx with
    | nothing => rfl
    | newline rest => simp [moreDigits, h]
  | case2 done c rest hc ih =>
    have hnext : ∀ x, moreDigits digit done ('_' :: c :: rest ++ x) =
        moreDigits digit (c :: done) (rest ++ x) := fun x => by simp [moreDigits, hc]
    rcases ih with hnone | ⟨a, left, hleft, hsome⟩
    · exact .inl fun x hx => (hnext x).trans (hnone x hx)
    · exact .inr ⟨a, left, hleft.trans ((List.suffix_cons c rest).trans (List.suffix_cons '_' _)),
        fun x hx => (hnext x).trans (hsome x hx)⟩
  | case3 done c rest hc => exact .inl fun x _ => by simp [moreDigits, hc]
  | case4 done c rest hone hmore hc ih =>
    have hne : c ≠ '_' := by
      rintro rfl
      cases rest with
      | nil => exact hone rfl rfl
      | cons d rest => exact hmore d rest rfl rfl
    have hnext : ∀ x, moreDigits digit done (c :: rest ++ x) =
        moreDigits digit (c :: done) (rest ++ x) := fun x => by simp [moreDigits, hne, hc]
    rcases ih with hnone | ⟨a, left, hleft, hsome⟩
    · exact .inl fun x hx => (hnext x).trans (hnone x hx)
    · exact .inr ⟨a, left, hleft.trans (List.suffix_cons c rest),
        fun x hx => (hnext x).trans (hsome x hx)⟩
  | case5 done c rest hone hmore hc =>
    have hne : c ≠ '_' := by
      rintro rfl
      cases rest with
      | nil => exact hone rfl rfl
      | cons d rest => exact hmore d rest rfl rfl
    exact .inr ⟨done.reverse, c :: rest, List.suffix_rfl, fun x _ => by
      simp [moreDigits, hne, hc]⟩
  | case6 done =>
    refine .inr ⟨done.reverse, [], List.suffix_rfl, fun x hx => ?_⟩
    cases hx with
    | nothing => rfl
    | newline rest => simp [moreDigits, h]

theorem digitRun_inLine : InLine (digitRun digit) :=
  (InLine.one h).bind fun _ => moreDigits_inLine h _

theorem digitRun_advances : Advances (digitRun digit) :=
  (Advances.one _).bind fun _ => (moreDigits_inLine h _).leaves

end Digits

theorem digitOf_newline (base : Nat) : digitOf base '\n' = false := rfl

theorem isDecimal_newline : isDecimal '\n' = false := by decide

theorem sign_inLine : InLine sign :=
  .orElse ((InLine.char (by decide)).bind fun _ => .pure true)
    (.orElse ((InLine.char (by decide)).bind fun _ => .pure false) (.pure false))

theorem wholeDigits_inLine : InLine wholeDigits :=
  .orElse ((InLine.char (by decide)).bind fun _ => .pure _) (digitRun_inLine isDecimal_newline)

theorem wholeDigits_advances : Advances wholeDigits :=
  .orElse ((Advances.char _).bind fun _ => .pure _) (digitRun_advances isDecimal_newline)

theorem basedInteger_inLine {mark : Char} (h : mark ≠ '\n') (base : Nat) :
    InLine (basedInteger mark base) :=
  (InLine.word (by simpa using Ne.symm h)).bind fun _ =>
    (digitRun_inLine (digitOf_newline base)).bind fun _ => .pure _

theorem basedInteger_advances (mark : Char) (base : Nat) : Advances (basedInteger mark base) :=
  (Advances.word (List.cons_ne_nil '0' [mark])).bind fun _ =>
    ((digitRun_inLine (digitOf_newline base)).bind fun _ => .pure _).leaves

theorem integer_inLine : InLine integer := by
  refine .bind (.orElse (basedInteger_inLine (by decide) 16) (.orElse
    (basedInteger_inLine (by decide) 8) (.orElse (basedInteger_inLine (by decide) 2) ?_))) ?_
  · exact sign_inLine.bind fun _ => wholeDigits_inLine.bind fun _ => .pure _
  · exact fun _ => (InLine.of_guard _).bind fun _ => .pure _

theorem integer_advances : Advances integer := by
  refine .bind (.orElse (basedInteger_advances 'x' 16) (.orElse (basedInteger_advances 'o' 8)
    (.orElse (basedInteger_advances 'b' 2) ?_))) ?_
  · exact .after sign_inLine.leaves fun _ => wholeDigits_advances.bind fun _ => .pure _
  · exact fun _ => ((InLine.of_guard _).bind fun _ => .pure _).leaves

theorem exponent_inLine : InLine exponent :=
  (InLine.one (by decide)).bind fun _ => sign_inLine.bind fun _ =>
    (digitRun_inLine isDecimal_newline).bind fun _ => .pure _

theorem fraction_inLine : InLine fraction :=
  (InLine.char (by decide)).bind fun _ => digitRun_inLine isDecimal_newline

theorem fractionAndExponent_inLine : InLine fractionAndExponent :=
  .orElse (exponent_inLine.bind fun _ => .pure _)
    (fraction_inLine.bind fun _ => (exponent_inLine.orElse (.pure 0)).bind fun _ => .pure _)

theorem float_inLine : InLine float := by
  refine .orElse ?_ ?_
  · exact sign_inLine.bind fun _ => wholeDigits_inLine.bind fun _ =>
      fractionAndExponent_inLine.bind fun _ => .of_guard _
  · exact sign_inLine.bind fun _ =>
      .orElse (InLine.word (by decide)) (InLine.word (by decide))

theorem float_advances : Advances float := by
  refine .orElse ?_ ?_
  · exact .after sign_inLine.leaves fun _ => wholeDigits_advances.bind fun _ =>
      (fractionAndExponent_inLine.bind fun _ => .of_guard _).leaves
  · exact .after sign_inLine.leaves fun _ =>
      .orElse (Advances.word (by decide)) (Advances.word (by decide))

theorem fixedNumber_inLine (n : Nat) : InLine (fixedNumber n) := by
  induction n with
  | zero => exact .pure 0
  | succ n ih => exact (InLine.one isDecimal_newline).bind fun _ => ih.bind fun _ => .pure _

theorem fixedNumber_advances (n : Nat) : Advances (fixedNumber (n + 1)) :=
  (Advances.one isDecimal).bind fun _ => ((fixedNumber_inLine n).bind fun _ => .pure _).leaves

theorem twoDigits_inLine (low high : Nat) : InLine (twoDigits low high) :=
  (fixedNumber_inLine 2).bind fun _ => (InLine.of_guard _).bind fun _ => .pure _

theorem hourMinute_inLine : InLine hourMinute :=
  (twoDigits_inLine 0 23).bind fun _ => (InLine.char (by decide)).bind fun _ =>
    (twoDigits_inLine 0 59).bind fun _ => .pure ()

theorem timeOfDay_inLine : InLine timeOfDay :=
  hourMinute_inLine.bind fun _ => (InLine.char (by decide)).bind fun _ =>
    (twoDigits_inLine 0 60).bind fun _ => .orElse
      ((InLine.char (by decide)).bind fun _ =>
        (InLine.many1 isDecimal_newline).bind fun _ => .pure ())
      (.pure ())

theorem offset_inLine : InLine offset :=
  .orElse ((InLine.one (by decide)).bind fun _ => .pure ())
    ((InLine.one (by decide)).bind fun _ => hourMinute_inLine)

theorem dateTail_inLine : InLine dateTail :=
  (InLine.one (by decide)).bind fun _ => timeOfDay_inLine.bind fun _ =>
    offset_inLine.orElse (.pure ())

theorem date_inLine : InLine date :=
  (fixedNumber_inLine 4).bind fun _ => (InLine.char (by decide)).bind fun _ =>
    (twoDigits_inLine 1 12).bind fun _ => (InLine.char (by decide)).bind fun _ =>
      (twoDigits_inLine 1 _).bind fun _ => .pure ()

theorem moment_inLine : InLine moment :=
  .orElse (date_inLine.bind fun _ => dateTail_inLine.orElse (.pure ())) timeOfDay_inLine

theorem moment_advances : Advances moment := by
  refine .orElse (.bind ?_ fun _ => (dateTail_inLine.orElse (.pure ())).leaves) ?_
  · exact (fixedNumber_advances 3).bind fun _ => ((InLine.char (by decide)).bind fun _ =>
      (twoDigits_inLine 1 12).bind fun _ => (InLine.char (by decide)).bind fun _ =>
        (twoDigits_inLine 1 _).bind fun _ => .pure ()).leaves
  · have htwo : Advances (twoDigits 0 23) := (fixedNumber_advances 1).bind fun _ =>
      ((InLine.of_guard _).bind fun _ => .pure _).leaves
    exact .bind (htwo.bind fun _ => ((InLine.char (by decide)).bind fun _ =>
        (twoDigits_inLine 0 59).bind fun _ => .pure ()).leaves) fun _ =>
      ((InLine.char (by decide)).bind fun _ => (twoDigits_inLine 0 60).bind fun _ => .orElse
        ((InLine.char (by decide)).bind fun _ =>
          (InLine.many1 isDecimal_newline).bind fun _ => .pure ()) (.pure ())).leaves

theorem simpleKey_inLine : InLine simpleKey :=
  (lineText_inLine.orElse (InLine.many1 (by decide))).map _

theorem spacedKey_inLine : InLine spacedKey :=
  spaces_inLine.bind fun _ => simpleKey_inLine.bind fun _ => spaces_inLine.bind fun _ => .pure _

theorem moreKeys_inLine (n : Nat) : InLine (moreKeys n) := by
  induction n with
  | zero => exact .pure []
  | succ n ih =>
    refine (InLine.flag (by decide)).bind fun point => ?_
    cases point with
    | true => exact spacedKey_inLine.bind fun _ => ih.bind fun _ => .pure _
    | false => exact .pure []

theorem keyPath_inLine : InLine keyPath :=
  spacedKey_inLine.bind fun _ => (moreKeys_inLine depthLimit).bind fun _ =>
    (InLine.of_guard _).bind fun _ => .pure _

def plainScalar : Scan Node :=
  (do word "true".toList; return .boolean true)
  <|> (do word "false".toList; return .boolean false)
  <|> (do moment; return .time)
  <|> (do float; return .float)
  <|> (do return .integer (← integer))

theorem plainScalar_inLine : InLine plainScalar :=
  .orElse ((InLine.word (by decide)).bind fun _ => .pure _) (.orElse
    ((InLine.word (by decide)).bind fun _ => .pure _) (.orElse
      (moment_inLine.bind fun _ => .pure _) (.orElse
        (float_inLine.bind fun _ => .pure _) (integer_inLine.bind fun _ => .pure _))))

theorem plainScalar_advances : Advances plainScalar :=
  .orElse ((Advances.word (by decide)).bind fun _ => .pure _) (.orElse
    ((Advances.word (by decide)).bind fun _ => .pure _) (.orElse
      (moment_advances.bind fun _ => .pure _) (.orElse
        (float_advances.bind fun _ => .pure _) (integer_advances.bind fun _ => .pure _))))

theorem scalar_advances : Advances scalar :=
  .orElse (text_advances.bind fun _ => .pure _) plainScalar_advances

/-- No text begins like another value of one piece. -/
theorem text_apart : Apart (do return .text (← text)) plainScalar := by
  intro input node rest h
  obtain ⟨c, tail, rfl, -⟩ := plainScalar_advances input node rest h
  have hne : ∀ d, plainScalar (d :: tail) = none → c ≠ d := by
    rintro d hnone rfl
    rw [hnone] at h
    cases h
  have hbasic : c ≠ '"' := hne _ rfl
  have hliteral : c ≠ '\'' := hne _ rfl
  refine ⟨c, tail, rfl, hne _ rfl, fun other => bind_of_none ?_⟩
  rw [text_eq_lineText]
  · exact lineText.eq_3 _ (by simp [hbasic]) (by simp [hliteral])
  · exact fun hp => hbasic (List.cons_prefix_cons.mp hp).1.symm
  · exact fun hp => hliteral (List.cons_prefix_cons.mp hp).1.symm

theorem scalar_isLocal : Local scalar := by
  have htext : Local (do return .text (← text) : Scan Node) :=
    text_isLocal.bind fun _ => (InLine.pure _).isLocal
  exact htext.orElse_apart plainScalar_inLine.isLocal text_apart

end BlobRetrieval.Toml
