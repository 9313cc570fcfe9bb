import BlobRetrieval.Toml.Table

/-!
# One key at a time

Every change that a statement makes to a table is a change of the value of one key, decided by
the value that the key has before. Which key that is can be told from the path of the statement.
-/

set_option autoImplicit false

namespace BlobRetrieval.Toml

namespace Entries

def set (entries : Entries) (key : Key) (node : Node) : Entries :=
  if (entries.find? key).isSome then entries.put key node else (key, node) :: entries

theorem find?_cons (k key : Key) (node : Node) (entries : Entries) :
    find? ((k, node) :: entries) key = if k = key then some node else find? entries key :=
  rfl

theorem find?_put_ne {k key : Key} (h : k ≠ key) (entries : Entries) (node : Node) :
    (entries.put k node).find? key = entries.find? key := by
  induction entries with
  | nil => rfl
  | cons entry entries ih =>
    obtain ⟨l, old⟩ := entry
    by_cases hl : l = k
    · simp [put, find?_cons, hl, h]
    · simp [put, find?_cons, hl, ih]

theorem find?_put {key : Key} {entries : Entries} (h : (entries.find? key).isSome = true)
    (node : Node) : (entries.put key node).find? key = some node := by
  induction entries with
  | nil => cases h
  | cons entry entries ih =>
    obtain ⟨l, old⟩ := entry
    by_cases hl : l = key
    · simp [put, find?_cons, hl]
    · rw [find?_cons, if_neg hl] at h
      simp [put, find?_cons, hl, ih h]

/-- A key that is set has the value, and no other key has changed. -/
theorem find?_set (entries : Entries) (k key : Key) (node : Node) :
    (entries.set k node).find? key = if k = key then some node else entries.find? key := by
  by_cases hk : k = key
  · subst hk
    rw [if_pos rfl, set]
    by_cases hs : (entries.find? k).isSome = true
    · rw [if_pos hs, find?_put hs]
    · rw [if_neg hs, find?_cons, if_pos rfl]
  · rw [if_neg hk, set]
    split
    · rw [find?_put_ne hk]
    · rw [find?_cons, if_neg hk]

theorem put_put (entries : Entries) (key : Key) (m n : Node) :
    (entries.put key m).put key n = entries.put key n := by
  induction entries with
  | nil => rfl
  | cons entry entries ih =>
    obtain ⟨l, old⟩ := entry
    by_cases hl : l = key
    · simp [put, hl]
    · simp [put, hl, ih]

theorem set_set (entries : Entries) (key : Key) (m n : Node) :
    (entries.set key m).set key n = entries.set key n := by
  rw [set, find?_set, if_pos rfl, Option.isSome_some, if_pos rfl, set, set]
  split
  · exact put_put entries key m n
  · rw [put, if_pos rfl]

end Entries

def changeAt (key : Key) (act : Option Node → Option Node) (entries : Entries) : Option Entries :=
  (act (entries.find? key)).map (entries.set key)

theorem changeAt_eq_some {key : Key} {act : Option Node → Option Node} {entries after : Entries} :
    changeAt key act entries = some after ↔
      ∃ node, act (entries.find? key) = some node ∧ entries.set key node = after :=
  Option.map_eq_some_iff

def assignBelow (path : List Key) (key : Key) (value : Node) : Option Node → Option Node
  | none => (Entries.insertDotted path key value []).map (.table .dotted)
  | some (.table .dotted inner) => (Entries.insertDotted path key value inner).map (.table .dotted)
  | some (.table .implied inner) =>
    if path.isEmpty then none
    else (Entries.insertDotted path key value inner).map (.table .implied)
  | some (.tables before last) =>
    if path.isEmpty then none
    else (Entries.insertDotted path key value last).map (.tables before)
  | some _ => none

def assignHere (value : Node) : Option Node → Option Node
  | none => some value
  | some _ => none

def modifyBelow (change : Entries → Option Entries) (path : List Key) :
    Option Node → Option Node
  | none => (Entries.modifyAt change path []).map (.table .implied)
  | some (.table .inline _) => none
  | some (.table origin inner) => (Entries.modifyAt change path inner).map (.table origin)
  | some (.tables before last) => (Entries.modifyAt change path last).map (.tables before)
  | some _ => none

def openTableHere : Option Node → Option Node
  | none => some (.table .header [])
  | some (.table .implied inner) => some (.table .header inner)
  | some _ => none

def openElementHere : Option Node → Option Node
  | none => some (.tables [] [])
  | some (.tables before last) => some (.tables (last :: before) [])
  | some _ => none

section Cases

variable {entries : Entries} {key : Key} {act : Option Node → Option Node}

theorem changeAt_of_none (h : entries.find? key = none) :
    changeAt key act entries = (act none).map fun node => (key, node) :: entries := by
  rw [changeAt, h]
  congr 1
  funext node
  rw [Entries.set, h]
  rfl

theorem changeAt_of_some {old : Node} (h : entries.find? key = some old) :
    changeAt key act entries = (act (some old)).map (entries.put key) := by
  rw [changeAt, h]
  congr 1
  funext node
  rw [Entries.set, h]
  rfl

end Cases

theorem insertDotted_nil (key : Key) (value : Node) :
    Entries.insertDotted [] key value = changeAt key (assignHere value) := by
  funext entries
  cases h : entries.find? key with
  | none => simp [Entries.insertDotted, changeAt_of_none h, h, assignHere]
  | some old => simp [Entries.insertDotted, changeAt_of_some h, h, assignHere]

theorem insertDotted_cons (step : Key) (path : List Key) (key : Key) (value : Node) :
    Entries.insertDotted (step :: path) key value =
      changeAt step (assignBelow path key value) := by
  funext entries
  cases h : entries.find? step with
  | none =>
    rw [changeAt_of_none h, Entries.insertDotted, h, assignBelow]
    cases Entries.insertDotted path key value [] <;> rfl
  | some old =>
    rw [changeAt_of_some h, Entries.insertDotted, h]
    cases old with
    | table origin inner =>
      cases origin with
      | dotted =>
        simp only [assignBelow]
        cases Entries.insertDotted path key value inner <;> rfl
      | implied =>
        simp only [assignBelow]
        cases hp : path.isEmpty
        · cases Entries.insertDotted path key value inner <;> rfl
        · rfl
      | header => rfl
      | inline => rfl
    | tables before last =>
      simp only [assignBelow]
      cases hp : path.isEmpty
      · cases Entries.insertDotted path key value last <;> rfl
      · rfl
    | _ => rfl

theorem modifyAt_cons (change : Entries → Option Entries) (step : Key) (path : List Key) :
    Entries.modifyAt change (step :: path) = changeAt step (modifyBelow change path) := by
  funext entries
  cases h : entries.find? step with
  | none =>
    rw [changeAt_of_none h, Entries.modifyAt, h, modifyBelow]
    cases Entries.modifyAt change path [] <;> rfl
  | some old =>
    rw [changeAt_of_some h, Entries.modifyAt, h]
    cases old with
    | table origin inner =>
      cases origin with
      | inline => rfl
      | _ =>
        simp only [modifyBelow]
        cases Entries.modifyAt change path inner <;> rfl
    | tables before last =>
      simp only [modifyBelow]
      cases Entries.modifyAt change path last <;> rfl
    | _ => rfl

theorem openTable_eq (key : Key) : Entries.openTable key = changeAt key openTableHere := by
  funext entries
  cases h : entries.find? key with
  | none => simp [Entries.openTable, changeAt_of_none h, h, openTableHere]
  | some old =>
    rw [changeAt_of_some h, Entries.openTable, h]
    cases old with
    | table origin inner => cases origin <;> rfl
    | _ => rfl

theorem openElement_eq (key : Key) : Entries.openElement key = changeAt key openElementHere := by
  funext entries
  cases h : entries.find? key with
  | none => simp [Entries.openElement, changeAt_of_none h, h, openElementHere]
  | some old =>
    rw [changeAt_of_some h, Entries.openElement, h]
    cases old <;> rfl

end BlobRetrieval.Toml
