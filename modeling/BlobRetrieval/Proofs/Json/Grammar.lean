import BlobRetrieval.Json.Text
import BlobRetrieval.Json.Value

/-!
# The grammar of JSON texts

Which byte strings spell a value. A value has many spellings: they differ in the
blanks between tokens and in the escapes inside strings. The grammar mentions no
reader and no printer; both are compared with it.
-/

set_option autoImplicit false

namespace BlobRetrieval.Json

def Blanks (bytes : Bytes) : Prop :=
  ∀ b ∈ bytes, isBlank b = true

theorem blanks_nil : Blanks [] := by
  intro b hb
  cases hb

def Digits (bytes : Bytes) : Prop :=
  ∀ b ∈ bytes, isDigit b = true

inductive IntegerText : Bytes → Prop
  | zero : IntegerText [48]
  | digits (b : UInt8) (rest : Bytes) : isDigit b = true → b ≠ 48 → Digits rest →
      IntegerText (b :: rest)

inductive FractionText : Bytes → Prop
  | none : FractionText []
  | some (digits : Bytes) : digits ≠ [] → Digits digits → FractionText (46 :: digits)

inductive ExponentText : Bytes → Prop
  | none : ExponentText []
  | some (letter : UInt8) (sign digits : Bytes) : letter = 101 ∨ letter = 69 →
      sign = [] ∨ sign = [43] ∨ sign = [45] → digits ≠ [] → Digits digits →
      ExponentText (letter :: (sign ++ digits))

inductive NumberText : Bytes → Prop
  | mk (sign integer fraction exponent : Bytes) : sign = [] ∨ sign = [45] →
      IntegerText integer → FractionText fraction → ExponentText exponent →
      NumberText (sign ++ (integer ++ (fraction ++ exponent)))

inductive CodeUnit : Bytes → Nat → Prop
  | digits (a b c d : UInt8) (p q r s : Nat) :
      Hex.digit? a = some p → Hex.digit? b = some q → Hex.digit? c = some r →
      Hex.digit? d = some s → CodeUnit [a, b, c, d] (16 * (16 * (16 * p + q) + r) + s)

inductive CharText : Char → Bytes → Prop
  | plain (c : Char) : 0x20 ≤ c.toNat → c ≠ '"' → c ≠ '\\' → CharText c (String.utf8EncodeChar c)
  | short (letter b : UInt8) : shortUnescape? letter = some b →
      CharText (Char.ofNat b.toNat) [92, letter]
  | unit (digits : Bytes) (n : Nat) : CodeUnit digits n → n < 0xD800 ∨ 0xDFFF < n →
      CharText (Char.ofNat n) (92 :: 117 :: digits)
  | pair (first second : Bytes) (high low : Nat) : CodeUnit first high → CodeUnit second low →
      0xD800 ≤ high → high ≤ 0xDBFF → 0xDC00 ≤ low → low ≤ 0xDFFF →
      CharText (Char.ofNat (0x10000 + (high - 0xD800) * 0x400 + (low - 0xDC00)))
        (92 :: 117 :: (first ++ 92 :: 117 :: second))

inductive StringText : List Char → Bytes → Prop
  | nil : StringText [] []
  | cons (c : Char) (text : List Char) (bytes rest : Bytes) : CharText c bytes →
      StringText text rest → StringText (c :: text) (bytes ++ rest)

structure Line where
  beforeComma : Bytes
  before : Bytes
  text : Bytes

def Line.Spaced (l : Line) : Prop :=
  Blanks l.beforeComma ∧ Blanks l.before

def Line.more (closing : UInt8) (last : Bytes) : List Line → Bytes
  | [] => last ++ [closing]
  | l :: rest => l.beforeComma ++ 44 :: (l.before ++ (l.text ++ more closing last rest))

def Line.enclosed (closing : UInt8) (last : Bytes) : List Line → Bytes
  | [] => last ++ [closing]
  | l :: rest => l.before ++ (l.text ++ more closing last rest)

structure Item where
  value : Json
  line : Line

structure Member where
  name : List Char
  value : Json
  beforeComma : Bytes
  before : Bytes
  key : Bytes
  beforeColon : Bytes
  afterColon : Bytes
  text : Bytes

def Member.line (m : Member) : Line where
  beforeComma := m.beforeComma
  before := m.before
  text := 34 :: (m.key ++ 34 :: (m.beforeColon ++ 58 :: (m.afterColon ++ m.text)))

def Member.Spaced (m : Member) : Prop :=
  m.line.Spaced ∧ Blanks m.beforeColon ∧ Blanks m.afterColon

inductive Spells : Json → Bytes → Prop
  | null : Spells .null [110, 117, 108, 108]
  | true : Spells (.bool true) [116, 114, 117, 101]
  | false : Spells (.bool false) [102, 97, 108, 115, 101]
  | number (literal : List Char) : NumberText (Utf8.encode literal) →
      Spells (.number literal) (Utf8.encode literal)
  | string (text : List Char) (body : Bytes) : StringText text body →
      Spells (.string text) (34 :: (body ++ [34]))
  | array (items : List Item) (last : Bytes) : Blanks last → (∀ i ∈ items, i.line.Spaced) →
      (∀ i ∈ items, Spells i.value i.line.text) →
      Spells (.array (items.map (·.value))) (91 :: Line.enclosed 93 last (items.map (·.line)))
  | object (members : List Member) (last : Bytes) : Blanks last → (∀ m ∈ members, m.Spaced) →
      (∀ m ∈ members, StringText m.name m.key) → (∀ m ∈ members, Spells m.value m.text) →
      Spells (.object (members.map fun m => (m.name, m.value)))
        (123 :: Line.enclosed 125 last (members.map Member.line))

inductive Document : Json → Bytes → Prop
  | mk (value : Json) (before text after : Bytes) : Blanks before → Spells value text →
      Blanks after → Document value (before ++ (text ++ after))

theorem document_spelled {value : Json} {text : Bytes} (h : Spells value text) :
    Document value text := by
  have hd := Document.mk value [] text [] blanks_nil h blanks_nil
  rw [List.nil_append, List.append_nil] at hd
  exact hd

def Opens (b : UInt8) : Prop :=
  isBlank b = false ∧ b ≠ 93 ∧ b ≠ 125

theorem opens_digit {b : UInt8} (h : isDigit b = true) : Opens b := by
  refine ⟨?_, ?_, ?_⟩
  · rw [Bool.eq_false_iff]
    intro hb
    simp only [isBlank, Bool.or_eq_true, beq_iff_eq] at hb
    rcases hb with ((rfl | rfl) | rfl) | rfl <;> exact absurd h (by decide)
  · rintro rfl
    exact absurd h (by decide)
  · rintro rfl
    exact absurd h (by decide)

theorem number_front {text : Bytes} (h : NumberText text) :
    ∃ b rest, text = b :: rest ∧ Opens b := by
  obtain ⟨sign, integer, fraction, exponent, hs, hi, -, -⟩ := h
  rcases hs with rfl | rfl
  · cases hi with
    | zero => exact ⟨_, _, rfl, by decide, by decide, by decide⟩
    | digits b rest hb _ _ => exact ⟨_, _, rfl, opens_digit hb⟩
  · exact ⟨_, _, rfl, by decide, by decide, by decide⟩

theorem spells_front {value : Json} {text : Bytes} (h : Spells value text) :
    ∃ b rest, text = b :: rest ∧ Opens b := by
  cases h with
  | number literal hn => exact number_front hn
  | _ => exact ⟨_, _, rfl, by decide, by decide, by decide⟩

end BlobRetrieval.Json
