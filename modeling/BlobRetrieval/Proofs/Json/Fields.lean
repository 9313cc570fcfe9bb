import BlobRetrieval.Proofs.Json.Members

/-!
# The fields of a value

Which values the fields of a record have in an object or in an array, told from the members and
the elements alone. The parts of a value that has a text have texts of their own, so each of
them can be read by itself.
-/

set_option autoImplicit false

namespace BlobRetrieval.Json

variable {α : Type} {r : Reader α} {value : Json} {a : α}

def Spelled (value : Json) : Prop :=
  ∃ text, Spells value text

theorem Document.spelled {body : Bytes} (h : Document value body) : Spelled value := by
  obtain ⟨before, text, after, -, ht, -⟩ := h
  exact ⟨text, ht⟩

theorem spelled_items {items : List Json} (h : Spelled (.array items)) :
    ∀ v ∈ items, Spelled v := by
  obtain ⟨text, h⟩ := h
  cases h with
  | array items last _ _ ht => exact List.forall_mem_map.mpr fun i hi => ⟨_, ht i hi⟩

theorem spelled_members {members : List (List Char × Json)} (h : Spelled (.object members)) :
    ∀ m ∈ members, Spelled m.2 := by
  obtain ⟨text, h⟩ := h
  cases h with
  | object members last _ _ _ ht => exact List.forall_mem_map.mpr fun m hm => ⟨_, ht m hm⟩

structure Decodes (r : Reader α) (value : Json) (a : α) : Prop where
  spelled : Spelled value
  decode_eq : ∀ body, Document value body → decode r body = .ok a

theorem decodes_iff {result : Option α} (hm : Means r value result) (hs : Spelled value) :
    Decodes r value a ↔ result = some a := by
  constructor
  · intro h
    obtain ⟨text, ht⟩ := hs
    have hd := document_spelled ht
    rw [← decode_means hm hd, h.decode_eq text hd]
    rfl
  · intro h
    refine ⟨hs, fun body hd => eq_ok_of_toOption ?_⟩
    rw [decode_means hm hd, h]

/-- One text of a value tells what is made of all of them. -/
theorem decode_eq_ok_iff {result : Option α} (hm : Means r value result) {body : Bytes}
    (hd : Document value body) : decode r body = .ok a ↔ Decodes r value a := by
  rw [decodes_iff hm hd.spelled]
  constructor
  · intro h
    rw [← decode_means hm hd, h]
    rfl
  · intro h
    exact eq_ok_of_toOption (by rw [decode_means hm hd, h])

theorem items?_eq_some {items : List Json} :
    value.items? = some items ↔ value = .array items := by
  cases value <;> simp [items?]

/-- Two relations hold alike of two lists if they hold alike of every element of the first. -/
theorem forall₂_congr_left {R S : Json → α → Prop} {values : List Json} {as : List α}
    (h : ∀ v ∈ values, ∀ a, R v a ↔ S v a) :
    List.Forall₂ R values as ↔ List.Forall₂ S values as := by
  induction values generalizing as with
  | nil => rw [List.forall₂_nil_left_iff, List.forall₂_nil_left_iff]
  | cons v values ih =>
    rw [List.forall₂_cons_left_iff, List.forall₂_cons_left_iff]
    simp only [h v List.mem_cons_self, ih fun w hw => h w (List.mem_cons_of_mem v hw)]

/-- The elements of an array are read one by one. -/
theorem forall₂_decodes_iff {sem : Json → Option α} (hm : ∀ v, Means r v (sem v))
    {items : List Json} (hs : ∀ v ∈ items, Spelled v) {as : List α} :
    List.Forall₂ (Decodes r) items as ↔ items.mapM sem = some as := by
  rw [mapM_eq_some]
  exact forall₂_congr_left fun v hv _ => decodes_iff (hm v) (hs v hv)

inductive FieldIs (names : List (List Char)) (name : List Char) (v : Json) : Json → Prop
  | member (members : List (List Char × Json)) : named name members = [v] →
      FieldIs names name v (.object members)
  | element (items : List Json) : items.length = names.length → (name, v) ∈ names.zip items →
      FieldIs names name v (.array items)

def FieldDecodes (names : List (List Char)) (value : Json) (name : String) (r : Reader α)
    (a : α) : Prop :=
  ∃ v, FieldIs names name.toList v value ∧ Decodes r v a

def field? (names : List (List Char)) (value : Json) (name : List Char) : Option Json :=
  (fields? names value).bind fun given => given name

theorem sole_eq_some_iff {members : List (List Char × Json)} {name : List Char} {v : Json} :
    sole members name = some v ↔ named name members = [v] := by
  rw [sole]
  constructor
  · exact only?_mem
  · intro h
    rw [h]
    rfl

section Field

variable {names : List (List Char)} {v : Json}

theorem FieldIs.spelled {name : List Char} (h : FieldIs names name v value)
    (hs : Spelled value) : Spelled v := by
  cases h with
  | member members h =>
    have hmem : v ∈ named name members := by
      rw [h]
      exact List.mem_singleton_self v
    obtain ⟨m, hm, rfl⟩ := List.mem_map.mp hmem
    exact spelled_members hs m (List.mem_of_mem_filter hm)
  | element items _ h => exact spelled_items hs v (List.of_mem_zip h).2

/-- A place of an array belongs to one name. -/
theorem lookup_zip_iff (hn : names.Nodup) {items : List Json} {name : List Char} :
    (names.zip items).lookup name = some v ↔ (name, v) ∈ names.zip items := by
  constructor
  · intro h
    obtain ⟨front, back, hzip, -⟩ := List.lookup_eq_some_iff.mp h
    rw [hzip]
    exact List.mem_append_right front List.mem_cons_self
  · exact lookup_zip hn

theorem field?_eq_some (hn : names.Nodup) {name : List Char} :
    field? names value name = some v ↔ FieldIs names name v value := by
  constructor
  · intro h
    obtain ⟨given, hgiven, hname⟩ := Option.bind_eq_some_iff.mp h
    cases value with
    | object members =>
      cases hgiven
      exact .member members (sole_eq_some_iff.mp hname)
    | array items =>
      rw [fields?, Option.ite_none_right_eq_some] at hgiven
      obtain ⟨hlength, hgiven⟩ := hgiven
      rw [← Option.some.inj hgiven] at hname
      exact .element items hlength ((lookup_zip_iff hn).mp hname)
    | _ => contradiction
  · intro h
    cases h with
    | member members h => exact sole_eq_some_iff.mpr h
    | element items hlength h =>
      rw [field?, fields?, if_pos hlength]
      exact (lookup_zip_iff hn).mpr h

theorem FieldIs.unique (hn : names.Nodup) {name : List Char} {w : Json}
    (hv : FieldIs names name v value) (hw : FieldIs names name w value) : v = w := by
  rw [← field?_eq_some hn] at hv hw
  exact Option.some.inj (hv.symm.trans hw)

theorem fieldDecodes_iff (hn : names.Nodup) {sem : Json → Option α}
    (hm : ∀ v, Means r v (sem v)) (hs : Spelled value) (name : String) :
    FieldDecodes names value name r a ↔ (field? names value name.toList).bind sem = some a := by
  simp only [FieldDecodes, Option.bind_eq_some_iff, field?_eq_some hn]
  constructor
  · rintro ⟨v, hfield, h⟩
    exact ⟨v, hfield, (decodes_iff (hm v) h.spelled).mp h⟩
  · rintro ⟨v, hfield, h⟩
    exact ⟨v, hfield, (decodes_iff (hm v) (hfield.spelled hs)).mpr h⟩

end Field

end BlobRetrieval.Json
