import Mathlib.Logic.Relation
import BlobRetrieval.Proofs.Json.Members
import BlobRetrieval.Proofs.Text.HexEdits

/-!
# Edits that change no meaning

What may be done to a value without changing what it is: an integer is put into quotes or out
of them, digits of a byte value change their letter case, members of an object trade places,
and members that belong to no field come and go. The values of the fields of a record may be
edited in their turn, wherever they stand.
-/

set_option autoImplicit false

namespace BlobRetrieval.Json

variable {α : Type}

def Keeps (edit : Json → Json → Prop) (sem : Json → Option α) : Prop :=
  ∀ value other, edit value other → sem value = sem other

inductive IntegerEdit : Json → Json → Prop
  | quote (n : Nat) (text : List Char) : Decimal.Form n text →
      IntegerEdit (.number (Decimal.digits n)) (.string text)
  | bare (n : Nat) (text : List Char) : Decimal.Form n text →
      IntegerEdit (.string text) (.number (Decimal.digits n))

inductive BytesEdit : Json → Json → Prop
  | digits (text other : List Char) : Hex.Edit text other → BytesEdit (.string text) (.string other)

theorem keeps_quoted : Keeps IntegerEdit quoted? := by
  intro value other h
  cases h with
  | quote n text hf => exact Decimal.readUInt64?_congr (Decimal.form_digits n) hf
  | bare n text hf => exact Decimal.readUInt64?_congr hf (Decimal.form_digits n)

theorem keeps_vector (n : Nat) : Keeps BytesEdit (vector? n) := by
  rintro _ _ ⟨text, other, h⟩
  rw [vector?, vector?, h.decodeVector_eq]

theorem keeps_blob : Keeps BytesEdit blob? := by
  rintro _ _ ⟨text, other, h⟩
  rw [blob?, blob?, bytes?, bytes?, h.decode_eq]

inductive ItemEdit (edit : Json → Json → Prop) : Json → Json → Prop
  | item (front back : List Json) (value other : Json) : edit value other →
      ItemEdit edit (.array (front ++ value :: back)) (.array (front ++ other :: back))

theorem keeps_items {edit : Json → Json → Prop} {sem : Json → Option α} (h : Keeps edit sem) :
    Keeps (ItemEdit edit) fun value => value.items?.bind (·.mapM sem) := by
  rintro _ _ ⟨front, back, value, other, hedit⟩
  simp [items?, List.mapM_append, List.mapM_cons, h value other hedit]

inductive RecordEdit (edits : List (List Char × (Json → Json → Prop))) : Json → Json → Prop
  | permute (members others : List (List Char × Json)) : members.Perm others →
      RecordEdit edits (.object members) (.object others)
  | add (front back : List (List Char × Json)) (name : List Char) (value : Json) :
      name ∉ edits.map Prod.fst →
      RecordEdit edits (.object (front ++ back)) (.object (front ++ (name, value) :: back))
  | remove (front back : List (List Char × Json)) (name : List Char) (value : Json) :
      name ∉ edits.map Prod.fst →
      RecordEdit edits (.object (front ++ (name, value) :: back)) (.object (front ++ back))
  | member (front back : List (List Char × Json)) (name : List Char) (value other : Json)
      (edit : Json → Json → Prop) : (name, edit) ∈ edits → edit value other →
      RecordEdit edits (.object (front ++ (name, value) :: back))
        (.object (front ++ (name, other) :: back))
  | element (front back : List Json) (name : List Char) (value other : Json)
      (edit : Json → Json → Prop) : edits[front.length]? = some (name, edit) → edit value other →
      RecordEdit edits (.array (front ++ value :: back)) (.array (front ++ other :: back))

def Edited (edit : Json → Json → Prop) : Option Json → Option Json → Prop :=
  Option.Rel (Relation.ReflGen edit)

theorem edited_refl (edit : Json → Json → Prop) (value : Option Json) :
    Edited edit value value := by
  cases value with
  | none => exact .none
  | some value => exact .some .refl

theorem Edited.bind {edit : Json → Json → Prop} {value other : Option Json}
    (h : Edited edit value other) {sem : Json → Option α} (hk : Keeps edit sem) :
    value.bind sem = other.bind sem := by
  cases h with
  | none => rfl
  | some h =>
    cases h with
    | refl => rfl
    | single h => exact hk _ _ h

theorem sole_unknown {name other : List Char} (h : name ≠ other) (value : Json)
    (front back : List (List Char × Json)) :
    sole (front ++ (name, value) :: back) other = sole (front ++ back) other := by
  rw [sole, sole, named_append, named_append, named_cons_ne h]

theorem sole_edited {edit : Json → Json → Prop} {value other : Json} (h : edit value other)
    (name : List Char) (front back : List (List Char × Json)) :
    Edited edit (sole (front ++ (name, value) :: back) name)
      (sole (front ++ (name, other) :: back) name) := by
  rw [sole, sole, named_append, named_append, named_cons_self, named_cons_self]
  cases named name front with
  | nil =>
    cases named name back with
    | nil => exact .some (.single h)
    | cons next rest => exact .none
  | cons first rest => cases rest <;> exact .none

/-- The names of fields and of the edits that belong to them, place by place. -/
theorem lookup_zip_edited {edits : List (List Char × (Json → Json → Prop))}
    {name : List Char} {edit : Json → Json → Prop} {front : List Json}
    (hn : edits[front.length]? = some (name, edit)) {value other : Json} (h : edit value other)
    (hnodup : (edits.map Prod.fst).Nodup) (back : List Json) :
    ∀ p ∈ edits, Edited p.2
      (((edits.map Prod.fst).zip (front ++ value :: back)).lookup p.1)
      (((edits.map Prod.fst).zip (front ++ other :: back)).lookup p.1) := by
  -- Names differ, so the element is the one that its name is looked up as, and no other.
  induction front generalizing edits with
  | nil =>
    cases edits with
    | nil => contradiction
    | cons first edits =>
      intro p hp
      obtain rfl : first = (name, edit) := Option.some.inj hn
      simp only [List.map_cons, List.nil_append, List.zip_cons_cons, List.lookup_cons]
      by_cases hname : p.1 = name
      · have hp : p = (name, edit) :=
          List.inj_on_of_nodup_map hnodup hp List.mem_cons_self hname
        rw [hp, beq_self_eq_true]
        exact .some (.single h)
      · rw [beq_eq_false_iff_ne.mpr hname]
        exact edited_refl p.2 _
  | cons v front ih =>
    cases edits with
    | nil => contradiction
    | cons first edits =>
      intro p hp
      simp only [List.map_cons, List.cons_append, List.zip_cons_cons, List.lookup_cons]
      by_cases hname : p.1 = first.1
      · rw [hname, beq_self_eq_true]
        exact edited_refl p.2 _
      · rw [beq_eq_false_iff_ne.mpr hname]
        refine ih hn (List.nodup_cons.mp hnodup).2 p ?_
        exact (List.mem_cons.mp hp).resolve_left fun h => hname (by rw [h])

/-- What a record is stays the same if it depends on no more than what the fields are. -/
theorem keeps_record {edits : List (List Char × (Json → Json → Prop))}
    (hnodup : (edits.map Prod.fst).Nodup) {f : (List Char → Option Json) → Option α}
    (hf : ∀ given other : List Char → Option Json,
      (∀ p ∈ edits, Edited p.2 (given p.1) (other p.1)) → f given = f other) :
    Keeps (RecordEdit edits) fun value => (value.fields? (edits.map Prod.fst)).bind f := by
  intro value other h
  have hrefl : ∀ {given other : List Char → Option Json},
      (∀ p ∈ edits, given p.1 = other p.1) → f given = f other := by
    intro given other hsame
    refine hf given other fun p hp => ?_
    rw [hsame p hp]
    exact edited_refl p.2 (other p.1)
  cases h with
  | permute members others hperm => exact hrefl fun p _ => sole_perm hperm p.1
  | add front back name value hname =>
    refine hrefl fun p hp => (sole_unknown ?_ value front back).symm
    rintro rfl
    exact hname (List.mem_map_of_mem hp)
  | remove front back name value hname =>
    refine hrefl fun p hp => sole_unknown ?_ value front back
    rintro rfl
    exact hname (List.mem_map_of_mem hp)
  | member front back name value other edit hmem hedit =>
    refine hf _ _ fun p hp => ?_
    by_cases hname : p.1 = name
    · have hp : p = (name, edit) := List.inj_on_of_nodup_map hnodup hp hmem hname
      rw [hp]
      exact sole_edited hedit name front back
    · rw [sole_unknown (Ne.symm hname), sole_unknown (Ne.symm hname)]
      exact edited_refl p.2 _
  | element front back name value other edit hget hedit =>
    simp only [fields?, List.length_append, List.length_cons]
    split
    · exact hf _ _ (lookup_zip_edited hget hedit hnodup back)
    · rfl

end BlobRetrieval.Json
