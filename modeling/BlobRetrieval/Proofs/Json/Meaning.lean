import BlobRetrieval.Proofs.Json.CutShort

/-!
# What a reader makes of a value

A reader means something by a value if all spellings of the value are taken alike: each gives
the same result and leaves what follows, or none of them gives a result. What a reader means
by a value follows from the parts of the reader, for values that are read and for values
that are not.
-/

set_option autoImplicit false

namespace BlobRetrieval.Json

open Reader

variable {α β : Type}

structure Gives (r : Reader α) (text : Bytes) (result : Option α) (rest : Bytes) : Prop where
  ok : ∀ a, result = some a → on r text = (.ok a, rest)
  fails : result = none → ∀ a left, on r text ≠ (.ok a, left)

def Means (r : Reader α) (value : Json) (result : Option α) : Prop :=
  ∀ before text rest, Blanks before → Spells value text → Apart rest →
    Gives r (before ++ (text ++ rest)) result rest

section Gives

variable {r : Reader α} {f : α → Reader β} {g : α → Option β} {text middle rest : Bytes} {a : α}
  {result : Option α}

theorem gives_some : Gives r text (some a) rest ↔ on r text = (.ok a, rest) := by
  constructor
  · intro h
    exact h.ok a rfl
  · intro h
    refine ⟨fun b hb => ?_, fun hn => by simp at hn⟩
    rw [← Option.some.inj hb]
    exact h

theorem gives_none : Gives r text none rest ↔ ∀ a left, on r text ≠ (.ok a, left) :=
  ⟨fun h => h.fails rfl, fun h => ⟨fun _ ha => by simp at ha, fun _ => h⟩⟩

theorem Refuses.gives (h : Refuses r) (text rest : Bytes) : Gives r text none rest :=
  gives_none.mpr (h text)

theorem gives_bind (hr : Gives r text result middle)
    (hf : ∀ a, result = some a → Gives (f a) middle (g a) rest) :
    Gives (r >>= f) text (result.bind g) rest := by
  cases result with
  | none =>
    refine gives_none.mpr fun b left h => ?_
    obtain ⟨a, between, ha, -⟩ := on_bind_eq_ok h
    exact gives_none.mp hr a between ha
  | some a =>
    have hfirst := gives_some.mp hr
    have hsecond := hf a rfl
    refine ⟨fun b hb => ?_, fun hn b left h => ?_⟩
    · rw [on_bind_ok hfirst]
      exact hsecond.ok b hb
    · rw [on_bind_ok hfirst] at h
      exact hsecond.fails hn b left h

/-- Nothing makes up for a fault in a first step. -/
theorem gives_bind_none (hr : Gives r text none middle) (f : α → Reader β) (left : Bytes) :
    Gives (r >>= f) text none left := by
  refine gives_none.mpr fun b behind h => ?_
  obtain ⟨a, between, ha, -⟩ := on_bind_eq_ok h
  exact gives_none.mp hr a between ha

/-- A first step that is sure to be taken. -/
theorem gives_after {step : Option β} (hr : on r text = (.ok a, middle))
    (hf : Gives (f a) middle step rest) : Gives (r >>= f) text step rest := by
  have h := gives_bind (g := fun _ => step) (gives_some.mpr hr) fun b hb => by
    rw [← Option.some.inj hb]
    exact hf
  exact h

theorem gives_congr {s : Reader α} {other : Bytes} (h : on r text = on s other) :
    Gives r text result rest ↔ Gives s other result rest := by
  constructor
  · intro hg
    exact ⟨by rw [← h]; exact hg.ok, by rw [← h]; exact hg.fails⟩
  · intro hg
    exact ⟨by rw [h]; exact hg.ok, by rw [h]; exact hg.fails⟩

theorem gives_bind_congr {s : Reader α} {other : Bytes} {step : Option β}
    (h : on r text = on s other) :
    Gives (r >>= f) text step rest ↔ Gives (s >>= f) other step rest :=
  gives_congr (by rw [on_bind, on_bind, h])

theorem gives_pure (a : α) (text : Bytes) : Gives (pure a) text (some a) text :=
  gives_some.mpr (on_pure a text)

theorem gives_map (hr : Gives r text result rest) (g : α → β) :
    Gives (g <$> r) text (result.map g) rest := by
  rw [map_eq_pure_bind, Option.map_eq_bind]
  exact gives_bind hr fun a _ => gives_pure (g a) rest

theorem gives_placed (hr : Gives r text result rest) : Gives (placed r) text result rest where
  ok a ha := on_placed_ok (hr.ok a ha)
  fails hn a left h := hr.fails hn a left (on_placed_eq_ok h)

/-- Between brackets, the closing one has to follow what is read. -/
theorem gives_within {close : Reader Unit} {closed : Option Unit}
    (hr : Gives r text result middle) (hc : Gives close middle closed rest) :
    Gives (within close r) text (result.bind fun a => closed.map fun _ => a) rest := by
  refine ⟨fun b hb => ?_, fun hn b left h => ?_⟩
  · obtain ⟨a, ha, hclosed⟩ := Option.bind_eq_some_iff.mp hb
    obtain ⟨_, hdone, hab⟩ := Option.map_eq_some_iff.mp hclosed
    rw [← hab]
    exact on_within_ok (hr.ok a ha) (hc.ok _ hdone)
  · obtain ⟨between, hinside, hclose⟩ := on_within_eq_ok h
    cases result with
    | none => exact hr.fails rfl b between hinside
    | some a =>
      rw [hr.ok a rfl] at hinside
      have hsame : middle = between := congrArg Prod.snd hinside
      rw [← hsame] at hclose
      cases closed with
      | none => exact hc.fails rfl () left hclose
      | some _ => simp at hn

/-- Between brackets a first step is followed by the others and the closing one. -/
theorem gives_within_bind {close : Reader Unit} (hr : Gives r text result middle)
    (hf : ∀ a, result = some a → Gives (within close (f a)) middle (g a) rest) :
    Gives (within close (r >>= f)) text (result.bind g) rest := by
  refine ⟨fun b hb => ?_, fun hn b left h => ?_⟩
  · obtain ⟨a, ha, hga⟩ := Option.bind_eq_some_iff.mp hb
    obtain ⟨between, hinside, hclose⟩ := on_within_eq_ok ((hf a ha).ok b hga)
    exact on_within_ok ((on_bind_ok (hr.ok a ha)).trans hinside) hclose
  · obtain ⟨between, hinside, hclose⟩ := on_within_eq_ok h
    obtain ⟨a, between', hfirst, hsecond⟩ := on_bind_eq_ok hinside
    cases result with
    | none => exact hr.fails rfl a between' hfirst
    | some c =>
      have hread := hr.ok c rfl
      rw [hfirst] at hread
      have ha : a = c := Except.ok.inj (congrArg Prod.fst hread)
      have hleft : between' = middle := congrArg Prod.snd hread
      rw [ha, hleft] at hsecond
      exact (hf c rfl).fails hn b left (on_within_ok hsecond hclose)

theorem gives_within_after {close : Reader Unit} {step : Option β}
    (hr : on r text = (.ok a, middle)) (hf : Gives (within close (f a)) middle step rest) :
    Gives (within close (r >>= f)) text step rest := by
  have h := gives_within_bind (g := fun _ => step) (gives_some.mpr hr) fun b hb => by
    rw [← Option.some.inj hb]
    exact hf
  exact h

theorem gives_within_none {close : Reader Unit} (hr : Gives r text none middle) (left : Bytes) :
    Gives (within close r) text none left := by
  refine gives_none.mpr fun a behind h => ?_
  obtain ⟨between, hinside, -⟩ := on_within_eq_ok h
  exact gives_none.mp hr a between hinside

end Gives

section Means

variable {r : Reader α} {value : Json} {result : Option α} {a : α}

theorem means_some : Means r value (some a) ↔ Reads r value a :=
  ⟨fun h before text rest hb ht hr => gives_some.mp (h before text rest hb ht hr),
    fun h before text rest hb ht hr => gives_some.mpr (h before text rest hb ht hr)⟩

theorem means_map (h : Means r value result) (g : α → β) : Means (g <$> r) value (result.map g) :=
  fun before text rest hb ht hr => gives_map (h before text rest hb ht hr) g

/-- What is read from a whole text, by what is read from its front. -/
theorem Gives.decode_eq_ok {input rest : Bytes} (h : Gives r input result rest) :
    decode r input = .ok a ↔ result = some a ∧ Blanks rest := by
  rw [Json.decode_eq_ok]
  constructor
  · rintro ⟨left, hread, hblanks⟩
    cases result with
    | none => exact absurd hread (h.fails rfl a left)
    | some b =>
      rw [h.ok b rfl] at hread
      cases hread
      exact ⟨rfl, hblanks⟩
  · rintro ⟨hresult, hblanks⟩
    exact ⟨rest, h.ok a hresult, hblanks⟩

/-- What a reader means by a value decides what becomes of every text of the value. -/
theorem decode_means (h : Means r value result) {input : Bytes} (hd : Document value input) :
    (decode r input).toOption = result := by
  obtain ⟨before, text, after, hb, ht, ha⟩ := hd
  have hdecode := fun a => (h before text after hb ht (apart_of_blanks ha)).decode_eq_ok (a := a)
  cases hdecoded : decode r (before ++ (text ++ after)) with
  | ok a => exact ((hdecode a).mp hdecoded).1.symm
  | error error =>
    cases result with
    | none => rfl
    | some a =>
      rw [(hdecode a).mpr ⟨rfl, ha⟩] at hdecoded
      contradiction

end Means

end BlobRetrieval.Json
