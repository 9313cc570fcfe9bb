import BlobRetrieval.Proofs.Json.Grammar
import BlobRetrieval.Proofs.Text.Hex

/-!
# Both written forms spell their value

The compact and the indented form of a value are spellings of it. The only thing
asked of the value is that the literals of its numbers are numbers. Both forms put
the same blanks before every item of a list, so one lemma on separated items
serves them.
-/

set_option autoImplicit false

namespace BlobRetrieval.Json

inductive Printable : Json → Prop
  | null : Printable .null
  | bool (b : Bool) : Printable (.bool b)
  | number (literal : List Char) : NumberText (Utf8.encode literal) → Printable (.number literal)
  | string (text : List Char) : Printable (.string text)
  | array (items : List Json) : (∀ v ∈ items, Printable v) → Printable (.array items)
  | object (members : List (List Char × Json)) : (∀ m ∈ members, Printable m.2) →
      Printable (.object members)

theorem printable_nil : Printable (.object []) := by
  apply Printable.object
  intro m hm
  cases hm

theorem printable_cons {name : List Char} {value : Json} {members : List (List Char × Json)}
    (hv : Printable value) (hm : Printable (.object members)) :
    Printable (.object ((name, value) :: members)) := by
  cases hm with
  | object _ h => exact .object _ (List.forall_mem_cons.mpr ⟨hv, h⟩)

theorem printable_of_perm {members others : List (List Char × Json)} (hp : members.Perm others)
    (h : Printable (.object others)) : Printable (.object members) := by
  cases h with
  | object _ h => exact .object _ fun m hm => h m (hp.mem_iff.mp hm)

/-- A control character without a letter of its own. -/
theorem charText_control (c : Char) (h : c.toNat < 0x20) :
    CharText c (Utf8.encode ('\\' :: 'u' :: '0' :: '0' :: Hex.pair (UInt8.ofNat c.toNat))) := by
  have hb : (UInt8.ofNat c.toNat).toNat = c.toNat := by rw [UInt8.toNat_ofNat']; omega
  have hhigh := Hex.digit?_digitChar (c.toNat / 16) (by omega)
  have hlow := Hex.digit?_digitChar (c.toNat % 16) (by omega)
  have hunit := CodeUnit.digits 48 48 _ _ 0 0 _ _ rfl rfl hhigh hlow
  have hn : 16 * (16 * (16 * 0 + 0) + c.toNat / 16) + c.toNat % 16 = c.toNat := by omega
  have ht := CharText.unit _ _ hunit (by omega)
  rw [hn, Char.ofNat_toNat] at ht
  show CharText c (92 :: 117 :: 48 :: 48 :: Utf8.encode (Hex.pair (UInt8.ofNat c.toNat)))
  rw [Hex.encode_pair, hb]
  exact ht

theorem charText_short (c letter : Char) (h : shortEscape? c = some letter) :
    CharText c (Utf8.encode ['\\', letter]) := by
  unfold shortEscape? at h
  split at h
  · subst c
    cases h
    exact .short 34 34 rfl
  split at h
  · subst c
    cases h
    exact .short 92 92 rfl
  split at h
  · subst c
    cases h
    exact .short 98 8 rfl
  split at h
  · subst c
    cases h
    exact .short 102 12 rfl
  split at h
  · subst c
    cases h
    exact .short 110 10 rfl
  split at h
  · subst c
    cases h
    exact .short 114 13 rfl
  split at h
  · subst c
    cases h
    exact .short 116 9 rfl
  · cases h

theorem charText_escaped (c : Char) : CharText c (Utf8.encode (escaped c)) := by
  unfold escaped
  split
  · rename_i letter h
    exact charText_short c letter h
  rename_i h
  split
  · rename_i hc
    exact charText_control c hc
  · rename_i hc
    have hquote : c ≠ '"' := by
      rintro rfl
      exact absurd h (by decide)
    have hbackslash : c ≠ '\\' := by
      rintro rfl
      exact absurd h (by decide)
    rw [Utf8.encode, List.flatMap_singleton]
    exact .plain c (by omega) hquote hbackslash

theorem stringText_escaped (text : List Char) :
    StringText text (Utf8.encode (text.flatMap escaped)) := by
  induction text with
  | nil => exact .nil
  | cons c text ih =>
    rw [List.flatMap_cons, Utf8.encode_append]
    exact .cons c text _ _ (charText_escaped c) ih

theorem quoted_plain {text : List Char} (h : ∀ c ∈ text, escaped c = [c]) :
    quoted text = '"' :: (text ++ ['"']) := by
  rw [quoted, List.flatMap_def, List.map_congr_left h, ← List.flatMap_def, List.flatMap_singleton']

theorem encode_quoted (text : List Char) :
    Utf8.encode (quoted text) = 34 :: (Utf8.encode (text.flatMap escaped) ++ [34]) := by
  rw [quoted, ← List.singleton_append, Utf8.encode_append, Utf8.encode_append]
  rfl

theorem spells_quoted (text : List Char) : Spells (.string text) (Utf8.encode (quoted text)) := by
  rw [encode_quoted]
  exact .string text _ (stringText_escaped text)

def evenLine (gap text : List Char) : Line :=
  ⟨[], Utf8.encode gap, Utf8.encode text⟩

theorem encode_separated (gap last item : List Char) (rest : List (List Char)) (bracket : Char)
    (closing : UInt8) (hb : Utf8.encode [bracket] = [closing]) :
    Utf8.encode (separated (',' :: gap) (item :: rest) ++ (last ++ [bracket])) =
      Utf8.encode item ++ Line.more closing (Utf8.encode last) (rest.map (evenLine gap)) := by
  induction rest generalizing item with
  | nil =>
    rw [separated, Utf8.encode_append, Utf8.encode_append, hb]
    rfl
  | cons next rest ih =>
    have hs : separated (',' :: gap) (item :: next :: rest) =
        item ++ (',' :: gap ++ separated (',' :: gap) (next :: rest)) := rfl
    have hcomma : Utf8.encode (',' :: gap) = 44 :: Utf8.encode gap := rfl
    rw [hs, List.append_assoc, List.append_assoc, Utf8.encode_append, Utf8.encode_append, ih,
      hcomma]
    rfl

theorem blanks_space : Blanks (Utf8.encode [' ']) := by
  intro b hb
  cases List.mem_singleton.mp hb
  rfl

theorem blanks_newline (depth : Nat) : Blanks (Utf8.encode (newline depth)) := by
  intro b hb
  simp only [Utf8.encode, newline, List.mem_flatMap, List.mem_cons, List.mem_replicate] at hb
  obtain ⟨c, rfl | ⟨-, rfl⟩, hb⟩ := hb
  · cases List.mem_singleton.mp hb
    rfl
  · cases List.mem_singleton.mp hb
    rfl

section Brackets

variable (opening closing : Char) {first last : UInt8}

theorem encode_flat (lines : List (List Char)) (ho : Utf8.encode [opening] = [first])
    (hc : Utf8.encode [closing] = [last]) :
    Utf8.encode (opening :: (separated [','] lines ++ [closing])) =
      first :: Line.enclosed last [] (lines.map (evenLine [])) := by
  rw [← List.singleton_append, Utf8.encode_append, ho]
  cases lines with
  | nil => exact congrArg (first :: ·) hc
  | cons line rest => exact congrArg (first :: ·) (encode_separated [] [] line rest closing last hc)

/-- The bracket that ends a block stands on a line of its own unless the block is empty. -/
theorem encode_block (depth : Nat) (lines : List (List Char)) (ho : Utf8.encode [opening] = [first])
    (hc : Utf8.encode [closing] = [last]) :
    ∃ gap, Blanks gap ∧ Utf8.encode (block depth opening closing lines) =
      first :: Line.enclosed last gap (lines.map (evenLine (newline (depth + 1)))) := by
  cases lines with
  | nil =>
    refine ⟨[], blanks_nil, ?_⟩
    rw [block, ← List.singleton_append, Utf8.encode_append, ho, hc]
    rfl
  | cons line rest =>
    refine ⟨Utf8.encode (newline depth), blanks_newline depth, ?_⟩
    have hb : block depth opening closing (line :: rest) = [opening] ++ (newline (depth + 1) ++
        (separated (',' :: newline (depth + 1)) (line :: rest) ++
          (newline depth ++ [closing]))) := rfl
    rw [hb, Utf8.encode_append, Utf8.encode_append, ho,
      encode_separated _ _ _ _ closing last hc]
    rfl

end Brackets

theorem spells_array (print : Json → List Char) (items : List Json) (gap : List Char)
    (last : Bytes) (hg : Blanks (Utf8.encode gap)) (hl : Blanks last)
    (h : ∀ v ∈ items, Spells v (Utf8.encode (print v))) :
    Spells (.array items) (91 :: Line.enclosed 93 last ((items.map print).map (evenLine gap))) := by
  have hs := Spells.array (items.map fun v => ⟨v, evenLine gap (print v)⟩) last hl
    (by
      intro i hi
      obtain ⟨v, -, rfl⟩ := List.mem_map.mp hi
      exact ⟨blanks_nil, hg⟩)
    (by
      intro i hi
      obtain ⟨v, hv, rfl⟩ := List.mem_map.mp hi
      exact h v hv)
  simpa only [List.map_map, Function.comp_def, List.map_id'] using hs

theorem spells_object (print : Json → List Char) (members : List (List Char × Json))
    (gap colonGap : List Char) (last : Bytes) (hg : Blanks (Utf8.encode gap))
    (hc : Blanks (Utf8.encode colonGap)) (hl : Blanks last)
    (h : ∀ m ∈ members, Spells m.2 (Utf8.encode (print m.2))) :
    Spells (.object members) (123 :: Line.enclosed 125 last
      ((members.map fun m => quoted m.1 ++ ':' :: (colonGap ++ print m.2)).map
        (evenLine gap))) := by
  have hs := Spells.object
    (members.map fun m => ⟨m.1, m.2, [], Utf8.encode gap, Utf8.encode (m.1.flatMap escaped), [],
      Utf8.encode colonGap, Utf8.encode (print m.2)⟩) last hl
    (by
      intro i hi
      obtain ⟨m, -, rfl⟩ := List.mem_map.mp hi
      exact ⟨⟨blanks_nil, hg⟩, blanks_nil, hc⟩)
    (by
      intro i hi
      obtain ⟨m, -, rfl⟩ := List.mem_map.mp hi
      exact stringText_escaped m.1)
    (by
      intro i hi
      obtain ⟨m, hm, rfl⟩ := List.mem_map.mp hi
      exact h m hm)
  have hline (m : List Char × Json) : evenLine gap (quoted m.1 ++ ':' :: (colonGap ++ print m.2)) =
      Member.line ⟨m.1, m.2, [], Utf8.encode gap, Utf8.encode (m.1.flatMap escaped), [],
        Utf8.encode colonGap, Utf8.encode (print m.2)⟩ := by
    have hcolon : Utf8.encode (':' :: (colonGap ++ print m.2)) =
        58 :: (Utf8.encode colonGap ++ Utf8.encode (print m.2)) := by
      rw [← Utf8.encode_append]
      rfl
    simp only [evenLine, Member.line, Utf8.encode_append, encode_quoted, hcolon,
      List.cons_append, List.append_assoc, List.nil_append]
  simpa only [List.map_map, Function.comp_def, List.map_id', hline] using hs

theorem compactItems_eq (items : List Json) : compactItems items = items.map compact := by
  induction items with
  | nil => rfl
  | cons v items ih => rw [compactItems, ih, List.map_cons]

theorem compactMembers_eq (members : List (List Char × Json)) :
    compactMembers members = members.map fun m => quoted m.1 ++ ':' :: compact m.2 := by
  induction members with
  | nil => rfl
  | cons m members ih => rw [compactMembers, ih, List.map_cons]

theorem indentedItems_eq (depth : Nat) (items : List Json) :
    indentedItems depth items = items.map (indented depth) := by
  induction items with
  | nil => rfl
  | cons v items ih => rw [indentedItems, ih, List.map_cons]

theorem indentedMembers_eq (depth : Nat) (members : List (List Char × Json)) :
    indentedMembers depth members =
      members.map fun m => quoted m.1 ++ ':' :: ' ' :: indented depth m.2 := by
  induction members with
  | nil => rfl
  | cons m members ih => rw [indentedMembers, ih, List.map_cons]

theorem spells_compact {value : Json} (h : Printable value) :
    Spells value (Utf8.encode value.compact) := by
  induction h with
  | null => exact .null
  | bool b =>
    cases b with
    | false => exact .false
    | true => exact .true
  | number literal hn => exact .number literal hn
  | string text => exact spells_quoted text
  | array items _ ih =>
    rw [compact, encode_flat '[' ']' _ rfl rfl, compactItems_eq]
    exact spells_array compact items [] [] blanks_nil blanks_nil ih
  | object members _ ih =>
    rw [compact, encode_flat '{' '}' _ rfl rfl, compactMembers_eq]
    exact spells_object compact members [] [] [] blanks_nil blanks_nil blanks_nil ih

theorem spells_indented {value : Json} (h : Printable value) (depth : Nat) :
    Spells value (Utf8.encode (value.indented depth)) := by
  induction h generalizing depth with
  | null => exact .null
  | bool b =>
    cases b with
    | false => exact .false
    | true => exact .true
  | number literal hn => exact .number literal hn
  | string text => exact spells_quoted text
  | array items _ ih =>
    obtain ⟨gap, hgap, he⟩ := encode_block '[' ']' depth (items.map (indented (depth + 1))) rfl rfl
    rw [indented, indentedItems_eq, he]
    exact spells_array _ items _ gap (blanks_newline _) hgap fun v hv => ih v hv (depth + 1)
  | object members _ ih =>
    obtain ⟨gap, hgap, he⟩ := encode_block '{' '}' depth
      (members.map fun m => quoted m.1 ++ ':' :: ' ' :: indented (depth + 1) m.2) rfl rfl
    rw [indented, indentedMembers_eq, he]
    exact spells_object _ members _ [' '] gap (blanks_newline _) blanks_space hgap
      fun m hm => ih m hm (depth + 1)

end BlobRetrieval.Json
