import Mathlib.Data.List.Forall2
import BlobRetrieval.Proofs.Json.Surplus

/-!
# What arrays mean

An array means what its elements mean, one by one: every element counts, wherever it stands,
and where the number of elements is known, so does their number.
-/

set_option autoImplicit false

namespace BlobRetrieval.Json

open Reader

variable {α β : Type}

theorem mapM_cons_append {f : Json → Option α} (value : Json) (values : List Json)
    (done : List α) :
    ((value :: values).mapM f).map (done.reverse ++ ·) =
      (f value).bind fun a => (values.mapM f).map ((a :: done).reverse ++ ·) := by
  rw [List.mapM_cons]
  cases f value with
  | none => rfl
  | some a => cases values.mapM f <;> simp

theorem mapM_eq_some {f : Json → Option α} {values : List Json} {as : List α} :
    values.mapM f = some as ↔ List.Forall₂ (fun value a => f value = some a) values as := by
  induction values generalizing as with
  | nil => simp [eq_comm]
  | cons value values ih =>
    rw [List.mapM_cons, List.forall₂_cons_left_iff]
    cases f value with
    | none => simp
    | some a =>
      cases hrest : values.mapM f with
      | none => simp [← ih, hrest]
      | some rest => simp [← ih, hrest, eq_comm]

section Elements

variable {item : Reader α} {sem : Json → Option α} (hi : ∀ value, Means item value (sem value))
  {last : Bytes} (hl : Blanks last) (rest : Bytes)

include hi hl

/-- The next element is there, and is read as what it means. -/
theorem gives_element {i : Item} {items : List Item} (first : Bool)
    (hs : ∀ j ∈ i :: items, j.line.Spaced) (ht : Spells i.value i.line.text) :
    on (moreElements first) (Line.ahead first 93 last ((i :: items).map (·.line)) ++ rest) =
        (.ok true, i.line.text ++ (Line.more 93 last (items.map (·.line)) ++ rest)) ∧
      Gives item (i.line.text ++ (Line.more 93 last (items.map (·.line)) ++ rest)) (sem i.value)
        (Line.more 93 last (items.map (·.line)) ++ rest) := by
  obtain ⟨b, bs, hbs, hopens⟩ := spells_front ht
  have hspaced : ∀ l ∈ items.map (·.line), l.Spaced :=
    List.forall_mem_map.mpr (List.forall_mem_of_forall_mem_cons hs)
  exact ⟨on_moreElements_next first rest (hs i List.mem_cons_self) _ hbs hopens,
    hi i.value [] _ _ blanks_nil ht (apart_more (.inl rfl) hl hspaced rest)⟩

theorem gives_elements {items : List Item} (hs : ∀ i ∈ items, i.line.Spaced)
    (ht : ∀ i ∈ items, Spells i.value i.line.text) (rounds : Nat) (hn : items.length < rounds)
    (done : List α) :
    Gives (elements item rounds done)
      (Line.ahead done.isEmpty 93 last (items.map (·.line)) ++ rest)
      (((items.map (·.value)).mapM sem).map (done.reverse ++ ·)) (93 :: rest) := by
  -- There is a round for each item and one to notice the end, so the loop never runs out.
  induction items generalizing rounds done with
  | nil =>
    obtain ⟨rounds, rfl⟩ : ∃ k, rounds = k + 1 := ⟨rounds - 1, by omega⟩
    rw [elements, List.map_nil]
    refine gives_after (on_moreElements_end done.isEmpty rest hl) ?_
    simpa using gives_pure done.reverse (93 :: rest)
  | cons i items ih =>
    obtain ⟨rounds, rfl⟩ : ∃ k, rounds = k + 1 := ⟨rounds - 1, by omega⟩
    obtain ⟨hmore, hitem⟩ := gives_element hi hl rest done.isEmpty hs (ht i List.mem_cons_self)
    have hvalues : (i :: items).map (·.value) = i.value :: items.map (·.value) := rfl
    rw [elements, hvalues, mapM_cons_append]
    refine gives_after hmore (gives_bind hitem fun a _ => ?_)
    exact ih (fun j hj => hs j (List.mem_cons_of_mem i hj))
      (fun j hj => ht j (List.mem_cons_of_mem i hj)) rounds (Nat.lt_of_succ_lt_succ hn) (a :: done)

/-- Of an array with enough elements as many are read as are wanted. -/
theorem gives_exactly {items : List Item} (hs : ∀ i ∈ items, i.line.Spaced)
    (ht : ∀ i ∈ items, Spells i.value i.line.text) (wanted : Wanted) (count : Nat)
    (hn : count ≤ items.length) (done : List α) :
    Gives (exactly item wanted count done)
      (Line.ahead done.isEmpty 93 last (items.map (·.line)) ++ rest)
      ((((items.map (·.value)).take count).mapM sem).map (done.reverse ++ ·))
      (Line.ahead (done.isEmpty && count == 0) 93 last ((items.drop count).map (·.line)) ++
        rest) := by
  induction count generalizing items done with
  | zero => simpa [exactly] using gives_pure done.reverse _
  | succ count ih =>
    cases items with
    | nil => simp at hn
    | cons i items =>
      obtain ⟨hmore, hitem⟩ := gives_element hi hl rest done.isEmpty hs (ht i List.mem_cons_self)
      have hvalues : (i :: items).map (·.value) = i.value :: items.map (·.value) := rfl
      rw [exactly, hvalues, List.take_succ_cons, mapM_cons_append]
      refine gives_after hmore (gives_bind hitem fun a _ => ?_)
      have hrest := ih (fun j hj => hs j (List.mem_cons_of_mem i hj))
        (fun j hj => ht j (List.mem_cons_of_mem i hj)) (Nat.le_of_succ_le_succ hn) (a :: done)
      simpa [Line.ahead] using hrest

theorem gives_exactly_short {items : List Item} (hs : ∀ i ∈ items, i.line.Spaced)
    (ht : ∀ i ∈ items, Spells i.value i.line.text) (wanted : Wanted) (count : Nat)
    (hn : items.length < count) (done : List α) :
    Gives (exactly item wanted count done)
      (Line.ahead done.isEmpty 93 last (items.map (·.line)) ++ rest) none rest := by
  induction items generalizing count done with
  | nil =>
    obtain ⟨count, rfl⟩ : ∃ k, count = k + 1 := ⟨count - 1, by omega⟩
    rw [exactly, List.map_nil]
    refine gives_after (on_moreElements_end done.isEmpty rest hl) ?_
    exact (refuses_failUnplaced _).gives _ _
  | cons i items ih =>
    obtain ⟨count, rfl⟩ : ∃ k, count = k + 1 := ⟨count - 1, by omega⟩
    obtain ⟨hmore, hitem⟩ := gives_element hi hl rest done.isEmpty hs (ht i List.mem_cons_self)
    rw [exactly]
    refine gives_after hmore ?_
    have hnone : (sem i.value).bind (fun _ => none) = (none : Option (List α)) := by simp
    rw [← hnone]
    refine gives_bind hitem fun a _ => ?_
    exact ih (fun j hj => hs j (List.mem_cons_of_mem i hj))
      (fun j hj => ht j (List.mem_cons_of_mem i hj)) count (Nat.lt_of_succ_lt_succ hn) (a :: done)

end Elements

theorem closeArray_ne_ok {before : Bytes} (hb : Blanks before) {b : UInt8}
    (hblank : isBlank b = false) (h : b ≠ 93) (bs : Bytes) (u : Unit) (left : Bytes) :
    on closeArray (before ++ b :: bs) ≠ (.ok u, left) := by
  rw [closeArray, on_bind_ok (on_peekToken hb hblank bs)]
  split
  · rename_i hsome
    exact absurd (Option.some.inj hsome) h
  · refine refuses_bind (fun _ => refuses_bind fun next => ?_) _ u left
    split
    · exact refuses_failNext _
    · exact refuses_failNext _
  · exact refuses_failNext _ _ u left
  · exact refuses_failNext _ _ u left

/-- An array is closed where no element is left. -/
theorem gives_closeArray {last : Bytes} (hl : Blanks last) {lines : List Line}
    (hs : ∀ l ∈ lines, l.Spaced) (rest : Bytes) :
    Gives closeArray (Line.more 93 last lines ++ rest) (if lines = [] then some () else none)
      rest := by
  cases lines with
  | nil =>
    rw [if_pos rfl, Line.more, List.append_assoc]
    exact gives_some.mpr (on_closeArray hl rest)
  | cons l lines =>
    rw [if_neg (List.cons_ne_nil l lines), Line.more, List.append_assoc]
    exact gives_none.mpr (closeArray_ne_ok (hs l List.mem_cons_self).1 rfl (by decide) _)

def items? : Json → Option (List Json)
  | .array items => some items
  | _ => none

def Encloses (inside : Reader α) (sem : List Json → Option α) : Prop :=
  ∀ (items : List Item) (last rest : Bytes), Blanks last → (∀ i ∈ items, i.line.Spaced) →
    (∀ i ∈ items, Spells i.value i.line.text) →
    Gives (within closeArray inside) (Line.enclosed 93 last (items.map (·.line)) ++ rest)
      (sem (items.map (·.value))) rest

theorem means_arrayOf {wanted : Wanted} {inside : Reader α} {sem : List Json → Option α}
    (h : Encloses inside sem) (value : Json) :
    Means (arrayOf wanted inside) value (value.items?.bind sem) := by
  intro before text rest hb ht hr
  have hother {b : UInt8} {bs : Bytes} (hfront : text = b :: bs) (hblank : isBlank b = false)
      (hne : b ≠ 91) : Gives (arrayOf wanted inside) (before ++ (text ++ rest)) none rest := by
    rw [hfront, List.cons_append]
    refine gives_after (on_peekToken hb hblank _) ?_
    simp only [if_neg hne]
    exact (refuses_refuse wanted b).gives _ _
  cases ht with
  | array items last hl hs ht =>
    rw [List.cons_append]
    refine gives_after (on_peekToken hb rfl _) (gives_after (on_advance _) ?_)
    exact h items last rest hl hs ht
  | number literal hn =>
    obtain ⟨b, bs, hfront, hblank, harray, -⟩ := numberText_scalar hn
    exact hother hfront hblank harray
  | _ => exact hother rfl rfl (by decide)

theorem encloses_elements {item : Reader α} {sem : Json → Option α}
    (hi : ∀ value, Means item value (sem value)) :
    Encloses (do elements item (← budget) []) fun values => values.mapM sem := by
  intro items last rest hl hs ht
  have hn := Line.length_le_enclosed 93 last (items.map (·.line))
  rw [List.length_map] at hn
  have helements := gives_elements hi hl rest hs ht
    ((Line.enclosed 93 last (items.map (·.line)) ++ rest).length + 1)
    (by rw [List.length_append]; omega) []
  have hinside : Gives (do elements item (← budget) [])
      (Line.enclosed 93 last (items.map (·.line)) ++ rest)
      (((items.map (·.value)).mapM sem).map ([] ++ ·)) (93 :: rest) :=
    gives_after (on_budget _) helements
  simpa using gives_within hinside (gives_some.mpr (on_closeArray blanks_nil rest))

section Counted

variable {item : Reader α} {sem : Json → Option α} (hi : ∀ value, Means item value (sem value))
  {wanted : Wanted} {n : Nat} (hn : 0 < n)

include hi hn

/-- An array of which a known number of elements is read goes by these and by what is left. -/
theorem encloses_counted {f : List α → Reader β} (g : List Json → List α → Option β)
    (hf : ∀ (as : List α) (items : List Item) (last rest : Bytes), Blanks last →
      (∀ i ∈ items, i.line.Spaced) → (∀ i ∈ items, Spells i.value i.line.text) →
      Gives (within closeArray (f as)) (Line.more 93 last (items.map (·.line)) ++ rest)
        (g (items.map (·.value)) as) rest) :
    Encloses (exactly item wanted n [] >>= f) fun values =>
      if n ≤ values.length then ((values.take n).mapM sem).bind (g (values.drop n)) else none := by
  intro items last rest hl hs ht
  simp only [List.length_map]
  by_cases hle : n ≤ items.length
  · have hread := gives_exactly hi hl rest hs ht wanted n hle []
    have hfirst : (([] : List α).isEmpty && n == 0) = false := by
      simp
      omega
    rw [hfirst] at hread
    have hgives := gives_within_bind hread fun as _ =>
      hf as (items.drop n) last rest hl (fun i hm => hs i (List.mem_of_mem_drop hm))
        fun i hm => ht i (List.mem_of_mem_drop hm)
    rw [if_pos hle]
    simpa [Line.ahead] using hgives
  · have hshort := gives_exactly_short hi hl rest hs ht wanted n (by omega) []
    have hinside : Gives (exactly item wanted n [] >>= f)
        (Line.enclosed 93 last (items.map (·.line)) ++ rest) (none.bind fun _ => none) rest :=
      gives_bind hshort fun as has => absurd has (by simp)
    rw [if_neg hle]
    exact gives_within_none hinside rest

/-- An array of a known length is one of exactly that many elements. -/
theorem encloses_exactly {finish : List α → Reader β} {g : List α → Option β}
    (hf : ∀ as text, Gives (finish as) text (g as) text) :
    Encloses (exactly item wanted n [] >>= finish) fun values =>
      if values.length = n then (values.mapM sem).bind g else none := by
  have hcounted : Encloses (exactly item wanted n [] >>= finish) fun values =>
      if n ≤ values.length then
        ((values.take n).mapM sem).bind fun as => if values.drop n = [] then g as else none
      else none := by
    refine encloses_counted hi hn (fun values as => if values = [] then g as else none)
      fun as items last rest hl hs _ => ?_
    have hgives := gives_within (hf as _) (gives_closeArray hl (List.forall_mem_map.mpr hs) rest)
    by_cases hnil : items = []
    · simpa [hnil] using hgives
    · simpa [hnil] using hgives
  intro items last rest hl hs ht
  have hgives := hcounted items last rest hl hs ht
  generalize items.map (·.value) = values at hgives ⊢
  beta_reduce at hgives ⊢
  by_cases heq : values.length = n
  · have hdrop : values.drop n = [] := List.drop_eq_nil_of_le (by omega)
    have htake : values.take n = values := List.take_of_length_le (by omega)
    rw [if_pos heq]
    simpa [heq, hdrop, htake] using hgives
  · rw [if_neg heq]
    by_cases hle : n ≤ values.length
    · have hdrop : values.drop n ≠ [] := by
        intro hnil
        have hlength := congrArg List.length hnil
        simp only [List.length_drop, List.length_nil] at hlength
        omega
      simpa [hle, hdrop] using hgives
    · rwa [if_neg hle] at hgives

end Counted

end BlobRetrieval.Json
