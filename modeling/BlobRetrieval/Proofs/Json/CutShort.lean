import BlobRetrieval.Json.ByteValue
import BlobRetrieval.Proofs.Json.Steady

/-!
# Texts that are cut short

What a reader takes from a text with something left over, it takes from every longer text.
Loops over elements and members get more rounds for a longer text, so a reader is compared
with the reader that runs there. A record ends with a bracket of its own. So if both a text
and a part cut from its end are read, nothing but blanks was cut off.
-/

set_option autoImplicit false

namespace BlobRetrieval.Json

open Reader

variable {α β δ : Type}

structure Prolongs (r s : Reader α) : Prop where
  nothing : (on r []).2 = []
  extend : ∀ text more rest a, on r text = (.ok a, rest) → rest ≠ [] →
    on s (text ++ more) = (.ok a, rest ++ more)

structure Delimited (r s : Reader α) : Prop where
  fails : ∀ a rest, on r [] ≠ (.ok a, rest)
  extend : ∀ text more rest a, on r text = (.ok a, rest) →
    on s (text ++ more) = (.ok a, rest ++ more)

def Refuses (r : Reader α) : Prop :=
  ∀ text a rest, on r text ≠ (.ok a, rest)

theorem on_bind_eq_ok {r : Reader α} {f : α → Reader β} {text rest : Bytes} {b : β}
    (h : on (r >>= f) text = (.ok b, rest)) :
    ∃ a middle, on r text = (.ok a, middle) ∧ on (f a) middle = (.ok b, rest) := by
  rw [on_bind] at h
  generalize on r text = p at h
  obtain ⟨result, middle⟩ := p
  cases result with
  | ok a => exact ⟨a, middle, rfl, h⟩
  | error fault => cases h

theorem on_placed_eq_ok {r : Reader α} {text rest : Bytes} {a : α}
    (h : on (placed r) text = (.ok a, rest)) : on r text = (.ok a, rest) := by
  obtain ⟨hrest, hvalue⟩ := on_placed r text
  rw [h] at hrest hvalue
  exact Prod.ext (eq_ok_of_toOption hvalue.symm) hrest.symm

theorem on_within_eq_ok {close : Reader Unit} {inside : Reader α} {text rest : Bytes} {a : α}
    (h : on (within close inside) text = (.ok a, rest)) :
    ∃ middle, on inside text = (.ok a, middle) ∧ on close middle = (.ok (), rest) := by
  have h := on_placed_eq_ok h
  rw [on_bind, on_attempt] at h
  generalize on inside text = p at h ⊢
  obtain ⟨result, middle⟩ := p
  refine ⟨middle, ?_⟩
  simp only [on_bind, on_attempt] at h
  generalize on close middle = q at h ⊢
  obtain ⟨closed, left⟩ := q
  cases result with
  | error fault => cases h
  | ok b =>
    cases closed with
    | error fault => cases h
    | ok done =>
      cases h
      exact ⟨rfl, rfl⟩

theorem rest_bind_nil {r : Reader α} {f : α → Reader β} (hr : (on r []).2 = [])
    (hf : ∀ a, (on (f a) []).2 = []) : (on (r >>= f) []).2 = [] := by
  rw [on_bind]
  generalize on r [] = p at hr
  obtain ⟨result, rest⟩ := p
  cases hr
  cases result with
  | ok a => exact hf a
  | error fault => rfl

theorem rest_within_nil {close : Reader Unit} {inside : Reader α} (hc : (on close []).2 = [])
    (hi : (on inside []).2 = []) : (on (within close inside) []).2 = [] := by
  refine (on_placed _ []).1.trans ?_
  refine rest_bind_nil hi fun result => rest_bind_nil hc fun closed => ?_
  cases result <;> cases closed <;> rfl

theorem refuses_failHere (cause : Cause) : Refuses (failHere cause : Reader α) := by
  intro text a rest h
  cases h

theorem refuses_failNext (cause : Cause) : Refuses (failNext cause : Reader α) := by
  intro text a rest h
  cases h

theorem refuses_failUnplaced (cause : Cause) : Refuses (failUnplaced cause : Reader α) := by
  intro text a rest h
  cases h

theorem refuses_bind {r : Reader α} {f : α → Reader β} (hf : ∀ a, Refuses (f a)) :
    Refuses (r >>= f) := by
  intro text b rest h
  obtain ⟨a, middle, -, hb⟩ := on_bind_eq_ok h
  exact hf a middle b rest hb

theorem refuses_placed {r : Reader α} (hr : Refuses r) : Refuses (placed r) := by
  intro text a rest h
  exact hr text a rest (on_placed_eq_ok h)

theorem refuses_within {close : Reader Unit} {inside : Reader α} (hi : Refuses inside) :
    Refuses (within close inside) := by
  intro text a rest h
  obtain ⟨middle, hinside, -⟩ := on_within_eq_ok h
  exact hi text a middle hinside

theorem refuses_refuse (wanted : Wanted) (front : UInt8) :
    Refuses (refuse wanted front : Reader α) := by
  apply refuses_placed
  split
  · exact refuses_failUnplaced _
  split
  · exact refuses_failUnplaced _
  · exact refuses_bind fun _ => refuses_failUnplaced _

theorem refuses_refuseStarted (wanted : Wanted) (found : Found) :
    Refuses (refuseStarted wanted found : Reader α) := by
  unfold refuseStarted
  split
  · exact refuses_within (refuses_failUnplaced _)
  · exact refuses_within (refuses_failUnplaced _)
  · exact refuses_failUnplaced _

theorem Steady.prolongs {r : Reader α} (h : Steady r) : Prolongs r r where
  nothing := h.nothing
  extend text more rest a hr hne := by
    obtain ⟨hrest, hvalue⟩ := h.extend text more (by rwa [hr])
    rw [hr] at hrest hvalue
    exact Prod.ext (eq_ok_of_toOption hvalue) hrest

theorem Refuses.prolongs {r s : Reader α} (h : Refuses r) (hn : (on r []).2 = []) :
    Prolongs r s where
  nothing := hn
  extend text _ rest a hr _ := absurd hr (h text a rest)

theorem prolongs_bind {r s : Reader α} {f g : α → Reader β} (hr : Prolongs r s)
    (hf : ∀ a, Prolongs (f a) (g a)) : Prolongs (r >>= f) (s >>= g) where
  nothing := rest_bind_nil hr.nothing fun a => (hf a).nothing
  extend text more rest b h hne := by
    obtain ⟨a, middle, ha, hb⟩ := on_bind_eq_ok h
    -- What `f a` leaves cannot be left of nothing, so `r` stopped in front of the end.
    have hm : middle ≠ [] := by
      rintro rfl
      have hn := (hf a).nothing
      rw [hb] at hn
      exact hne hn
    rw [on_bind_ok (hr.extend text more middle a ha hm)]
    exact (hf a).extend middle more rest b hb hne

theorem prolongs_map {g : α → β} {r s : Reader α} (hr : Prolongs r s) :
    Prolongs (g <$> r) (g <$> s) := by
  rw [map_eq_pure_bind, map_eq_pure_bind]
  exact prolongs_bind hr fun a => (steady_pure (g a)).prolongs

theorem prolongs_placed {r s : Reader α} (hr : Prolongs r s) : Prolongs (placed r) (placed s) where
  nothing := (on_placed r []).1.trans hr.nothing
  extend text more rest a h hne :=
    on_placed_ok (hr.extend text more rest a (on_placed_eq_ok h) hne)

theorem prolongs_within {close : Reader Unit} {r s : Reader α} (hc : Steady close)
    (hr : Prolongs r s) : Prolongs (within close r) (within close s) where
  nothing := rest_within_nil hc.nothing hr.nothing
  extend text more rest a h hne := by
    obtain ⟨middle, hinside, hclose⟩ := on_within_eq_ok h
    have hm : middle ≠ [] := by
      rintro rfl
      have hn := hc.nothing
      rw [hclose] at hn
      exact hne hn
    exact on_within_ok (hr.extend text more middle a hinside hm)
      (hc.prolongs.extend middle more rest () hclose hne)

/-- A longer text gives a loop a larger budget. -/
theorem prolongs_budget {f : Nat → Reader α} (hf : ∀ n m, n ≤ m → Prolongs (f n) (f m)) :
    Prolongs (budget >>= f) (budget >>= f) where
  nothing := (hf 1 1 (Nat.le_refl 1)).nothing
  extend text more rest a h hne := by
    have hle : text.length + 1 ≤ (text ++ more).length + 1 := by
      simp only [List.length_append]
      omega
    rw [on_bind_ok (on_budget text)] at h
    rw [on_bind_ok (on_budget (text ++ more))]
    exact (hf _ _ hle).extend text more rest a h hne

/-- Of what is tried without being reported, only the value may decide how to go on. -/
theorem prolongs_attempt {r : Reader α} {f : Except Fault α → Reader β} (hr : Steady r)
    (hf : ∀ x y, x.toOption = y.toOption → Prolongs (f x) (f y)) :
    Prolongs (attempt r >>= f) (attempt r >>= f) where
  nothing := rest_bind_nil hr.nothing fun x => (hf x x rfl).nothing
  extend text more rest b h hne := by
    rw [on_bind_ok (on_attempt r text)] at h
    rw [on_bind_ok (on_attempt r (text ++ more))]
    have hm : (on r text).2 ≠ [] := by
      intro hm
      have hn := (hf (on r text).1 (on r text).1 rfl).nothing
      rw [hm] at h
      rw [h] at hn
      exact hne hn
    obtain ⟨hrest, hvalue⟩ := hr.extend text more hm
    rw [hrest]
    exact (hf _ _ hvalue.symm).extend _ more rest b h hne

theorem prolongs_elements {item : Reader α} (hi : Prolongs item item) (n m : Nat) (hnm : n ≤ m)
    (done : List α) : Prolongs (elements item n done) (elements item m done) := by
  induction n generalizing m done with
  | zero => exact (refuses_failHere _).prolongs rfl
  | succ n ih =>
    obtain ⟨m, rfl⟩ : ∃ k, m = k + 1 := ⟨m - 1, by omega⟩
    refine prolongs_bind (steady_moreElements _).prolongs fun another => ?_
    split
    · exact prolongs_bind hi fun a => ih m (Nat.le_of_succ_le_succ hnm) (a :: done)
    · exact (steady_pure _).prolongs

theorem prolongs_exactly {item : Reader α} (hi : Prolongs item item) (wanted : Wanted)
    (count : Nat) (done : List α) :
    Prolongs (exactly item wanted count done) (exactly item wanted count done) := by
  induction count generalizing done with
  | zero => exact (steady_pure _).prolongs
  | succ count ih =>
    refine prolongs_bind (steady_moreElements _).prolongs fun another => ?_
    split
    · exact prolongs_bind hi fun a => ih (a :: done)
    · exact (steady_failUnplaced _).prolongs

theorem prolongs_arrayOf {wanted : Wanted} {inside : Reader α} (hi : Prolongs inside inside) :
    Prolongs (arrayOf wanted inside) (arrayOf wanted inside) := by
  refine prolongs_bind steady_peekToken.prolongs fun next => ?_
  split
  · exact (steady_failNext _).prolongs
  · split
    · exact prolongs_bind steady_advance.prolongs fun _ => prolongs_within steady_closeArray hi
    · exact (steady_refuse _ _).prolongs

theorem prolongs_listOf {item : Reader α} (hi : Prolongs item item) :
    Prolongs (listOf item) (listOf item) :=
  prolongs_arrayOf (prolongs_budget fun n m hnm => prolongs_elements hi n m hnm [])

theorem steady_readOctet : Steady readOctet :=
  steady_map (steady_boundedNumber _ _)

theorem prolongs_refuseStarted (wanted : Wanted) (found : Found) :
    Prolongs (refuseStarted wanted found : Reader α) (refuseStarted wanted found) := by
  refine (refuses_refuseStarted wanted found).prolongs ?_
  unfold refuseStarted
  split
  · exact rest_within_nil steady_closeArray.nothing rfl
  · exact rest_within_nil steady_closeObject.nothing rfl
  · rfl

theorem prolongs_readQuoted : Prolongs readQuoted readQuoted := by
  refine prolongs_placed (prolongs_bind steady_startValue.prolongs fun found => ?_)
  split
  · exact (steady_pure _).prolongs
  · split
    · exact (steady_pure _).prolongs
    · exact (steady_failUnplaced _).prolongs
  · exact prolongs_refuseStarted _ _

theorem prolongs_octets (n : Nat) : Prolongs (octets n) (octets n) := by
  refine prolongs_bind (prolongs_exactly steady_readOctet.prolongs _ _ _) fun bytes => ?_
  have hsurplus : Steady (do
      if ← moreElements false then
        let b ← readOctet
        return some b
      else return none) := by
    refine steady_bind (steady_moreElements _) fun another => ?_
    split
    · exact steady_bind steady_readOctet fun b => steady_pure _
    · exact steady_pure _
  refine prolongs_attempt hsurplus fun x y hxy => ?_
  -- A fault of the surplus element and the end of the array have the same effect.
  cases x with
  | ok found =>
    cases eq_ok_of_toOption hxy.symm
    cases found with
    | some b => exact (steady_failUnplaced _).prolongs
    | none =>
      cases ByteVector.ofBytes? bytes with
      | some v => exact (steady_pure v).prolongs
      | none => exact (steady_failUnplaced _).prolongs
  | error fault =>
    cases y with
    | ok found => cases hxy
    | error other =>
      cases ByteVector.ofBytes? bytes with
      | some v => exact (steady_pure v).prolongs
      | none => exact (steady_failUnplaced _).prolongs

theorem prolongs_readVector (n : Nat) : Prolongs (readVector n) (readVector n) := by
  refine prolongs_placed (prolongs_bind steady_startValue.prolongs fun found => ?_)
  split
  · split
    · exact (steady_pure _).prolongs
    · exact (steady_failUnplaced _).prolongs
  · exact prolongs_within steady_closeArray (prolongs_octets n)
  · exact prolongs_refuseStarted _ _

theorem prolongs_readBytes : Prolongs readBytes readBytes := by
  refine prolongs_placed (prolongs_bind steady_startValue.prolongs fun found => ?_)
  split
  · split
    · exact (steady_pure _).prolongs
    · exact (steady_failUnplaced _).prolongs
  · exact prolongs_within steady_closeArray
      (prolongs_budget fun n m hnm => prolongs_elements steady_readOctet.prolongs n m hnm [])
  · exact prolongs_refuseStarted _ _

theorem prolongs_readBlob : Prolongs readBlob readBlob := by
  refine prolongs_bind prolongs_readBytes fun bytes => ?_
  split
  · exact (steady_pure _).prolongs
  · exact (steady_failUnplaced _).prolongs

theorem steady_afterItem (opened : List Bracket) : Steady (afterItem opened) := by
  induction opened with
  | nil => exact steady_pure _
  | cons bracket outer ih =>
    refine steady_bind steady_peekToken fun next => ?_
    split
    · exact steady_failNext _
    · split
      · exact steady_bind steady_advance fun _ => steady_pure _
      · split
        · exact steady_bind steady_advance fun _ => ih
        · exact steady_failNext _

theorem steady_afterOpening (bracket : Bracket) (outer : List Bracket) :
    Steady (afterOpening bracket outer) := by
  refine steady_bind steady_peekToken fun next => ?_
  split
  · exact steady_failNext _
  · split
    · exact steady_bind steady_advance fun _ => steady_afterItem outer
    · exact steady_pure _

theorem steady_skipStart (opened : List Bracket) : Steady (skipStart opened) := by
  have hafter (r : Reader Unit) (hr : Steady r) : Steady (do advance; r; afterItem opened) :=
    steady_bind steady_advance fun _ => steady_bind hr fun _ => steady_afterItem opened
  refine steady_bind steady_peekToken fun next => ?_
  split
  · exact steady_failNext _
  · exact hafter _ (steady_word _)
  · exact hafter _ (steady_word _)
  · exact hafter _ (steady_word _)
  · exact hafter _ steady_skipString
  · exact steady_bind steady_advance fun _ => steady_afterOpening _ _
  · exact steady_bind steady_advance fun _ => steady_afterOpening _ _
  · exact hafter _ steady_skipNumber
  · split
    · exact steady_bind steady_skipNumber fun _ => steady_afterItem _
    · exact steady_failNext _

theorem steady_skipKey : Steady skipKey := by
  have hbehind : Steady (do skipString; colon) :=
    steady_bind steady_skipString fun _ => steady_colon
  refine steady_bind steady_peekToken fun next => ?_
  dsimp only
  split
  · exact steady_bind steady_advance fun _ => hbehind
  · exact steady_bind (steady_failNext _) fun _ => hbehind
  · exact steady_bind (steady_failNext _) fun _ => hbehind

theorem prolongs_skipItems (n m : Nat) (hnm : n ≤ m) (opened : List Bracket) :
    Prolongs (skipItems n opened) (skipItems m opened) := by
  induction n generalizing m opened with
  | zero =>
    cases opened with
    | nil =>
      rw [skipItems, skipItems]
      exact (steady_pure _).prolongs
    | cons bracket outer => exact (refuses_failHere _).prolongs rfl
  | succ n ih =>
    obtain ⟨m, rfl⟩ : ∃ k, m = k + 1 := ⟨m - 1, by omega⟩
    cases opened with
    | nil => exact (steady_pure _).prolongs
    | cons bracket outer =>
      have hgo : Prolongs (do skipItems n (← skipStart (bracket :: outer)))
          (do skipItems m (← skipStart (bracket :: outer))) :=
        prolongs_bind (steady_skipStart _).prolongs fun still =>
          ih m (Nat.le_of_succ_le_succ hnm) still
      rw [skipItems, skipItems]
      dsimp only
      split
      · exact prolongs_bind steady_skipKey.prolongs fun _ => hgo
      · exact hgo

theorem prolongs_skipValue (n m : Nat) (hnm : n ≤ m) :
    Prolongs (skipValue n) (skipValue m) :=
  prolongs_bind (steady_skipStart []).prolongs fun opened => prolongs_skipItems n m hnm opened

def Record.FieldsProlong (r : Record δ α) : Prop :=
  ∀ f ∈ r.fields, ∀ draft, Prolongs (f.read draft) (f.read draft)

theorem prolongs_positional (r : Record δ α) (fields : List (Field δ))
    (hf : ∀ f ∈ fields, ∀ draft, Prolongs (f.read draft) (f.read draft)) (position : Nat)
    (draft : δ) : Prolongs (r.positional fields position draft)
      (r.positional fields position draft) := by
  induction fields generalizing position draft with
  | nil => exact (steady_pure _).prolongs
  | cons field fields ih =>
    have hrest := ih fun f hmem => hf f (List.mem_cons_of_mem field hmem)
    refine prolongs_bind (steady_moreElements _).prolongs fun another => ?_
    split
    · exact prolongs_bind (hf field List.mem_cons_self draft) fun next => hrest _ next
    · split
      · exact hrest _ _
      · exact (steady_failUnplaced _).prolongs

theorem steady_key : Steady Record.key :=
  steady_bind steady_advance fun _ => steady_stringText

theorem prolongs_members {r : Record δ α} (hr : r.FieldsProlong) (n m : Nat) (hnm : n ≤ m)
    (first : Bool) (draft : δ) :
    Prolongs (r.members n first draft) (r.members m first draft) := by
  induction n generalizing m first draft with
  | zero => exact (refuses_failHere _).prolongs rfl
  | succ n ih =>
    obtain ⟨m, rfl⟩ : ∃ k, m = k + 1 := ⟨m - 1, by omega⟩
    have hle : n ≤ m := Nat.le_of_succ_le_succ hnm
    refine prolongs_bind (steady_moreMembers _).prolongs fun another => ?_
    split
    · refine prolongs_bind steady_key.prolongs fun name => ?_
      split
      · rename_i field hfind
        split
        · exact (steady_failUnplaced _).prolongs
        · exact prolongs_bind steady_colon.prolongs fun _ =>
            prolongs_bind (hr field (List.mem_of_find?_eq_some hfind) draft) fun next =>
              ih m hle false next
      · exact prolongs_bind steady_colon.prolongs fun _ =>
          prolongs_bind (prolongs_skipValue n m hle) fun _ => ih m hle false draft
    · exact (steady_pure _).prolongs

theorem steady_finished (r : Record δ α) (draft : δ) : Steady (r.finished draft) := by
  unfold Record.finished
  split
  · exact steady_pure _
  · exact steady_failUnplaced _

theorem Refuses.delimited {r s : Reader α} (h : Refuses r) : Delimited r s where
  fails := h []
  extend text _ rest a hr := absurd hr (h text a rest)

theorem delimited_bind {r s : Reader α} {f g : α → Reader β} (hr : Prolongs r s)
    (hf : ∀ a, Delimited (f a) (g a)) : Delimited (r >>= f) (s >>= g) where
  fails b rest h := by
    obtain ⟨a, middle, ha, hb⟩ := on_bind_eq_ok h
    have hn := hr.nothing
    rw [ha] at hn
    cases hn
    exact (hf a).fails b rest hb
  extend text more rest b h := by
    obtain ⟨a, middle, ha, hb⟩ := on_bind_eq_ok h
    have hm : middle ≠ [] := by
      rintro rfl
      exact (hf a).fails b rest hb
    rw [on_bind_ok (hr.extend text more middle a ha hm)]
    exact (hf a).extend middle more rest b hb

theorem delimited_within {close : Reader Unit} {r s : Reader α} (hc : Delimited close close)
    (hr : Prolongs r s) : Delimited (within close r) (within close s) where
  fails a rest h := by
    obtain ⟨middle, hinside, hclose⟩ := on_within_eq_ok h
    have hn := hr.nothing
    rw [hinside] at hn
    cases hn
    exact hc.fails () rest hclose
  extend text more rest a h := by
    obtain ⟨middle, hinside, hclose⟩ := on_within_eq_ok h
    have hm : middle ≠ [] := by
      rintro rfl
      exact hc.fails () rest hclose
    exact on_within_ok (hr.extend text more middle a hinside hm)
      (hc.extend middle more rest () hclose)

theorem delimited_closing {f : Option UInt8 → Reader Unit} (closing : UInt8)
    (hclosing : f (some closing) = advance)
    (hother : ∀ next, next ≠ some closing → Refuses (f next)) :
    Delimited (peekToken >>= f) (peekToken >>= f) where
  fails a rest h := hother none (by simp) [] a rest h
  extend text more rest a h := by
    obtain ⟨next, middle, hnext, htaken⟩ := on_bind_eq_ok h
    by_cases hn : next = some closing
    · subst hn
      -- The bracket is in front of what is left, so the blanks in front of it have ended.
      have hm : middle ≠ [] := by
        rintro rfl
        have hhead := congrArg Prod.snd hnext
        have hvalue := congrArg Prod.fst hnext
        change text.dropWhile isBlank = [] at hhead
        change Except.ok (text.dropWhile isBlank).head? = _ at hvalue
        rw [hhead] at hvalue
        cases hvalue
      obtain ⟨b, behind, rfl⟩ := List.exists_cons_of_ne_nil hm
      rw [hclosing, on_advance] at htaken
      cases htaken
      rw [on_bind_ok (steady_peekToken.prolongs.extend text more _ _ hnext hm), hclosing]
      rfl
    · exact absurd htaken (hother next hn middle a rest)

theorem delimited_closeArray : Delimited closeArray closeArray := by
  refine delimited_closing 93 rfl fun next hn => ?_
  split
  · exact absurd rfl hn
  · exact refuses_bind fun _ => refuses_bind fun next => by
      split
      · exact refuses_failNext _
      · exact refuses_failNext _
  · exact refuses_failNext _
  · exact refuses_failNext _

theorem delimited_closeObject : Delimited closeObject closeObject := by
  refine delimited_closing 125 rfl fun next hn => ?_
  split
  · exact absurd rfl hn
  · exact refuses_failNext _
  · exact refuses_failNext _
  · exact refuses_failNext _

theorem delimited_read {r : Record δ α} (hr : r.FieldsProlong) : Delimited r.read r.read := by
  refine delimited_bind steady_peekToken.prolongs fun next => ?_
  split
  · exact (refuses_failNext _).delimited
  split
  · refine delimited_bind steady_advance.prolongs fun _ => ?_
    refine delimited_within delimited_closeArray ?_
    exact prolongs_bind (prolongs_positional r r.fields hr 0 r.empty) fun draft =>
      (steady_finished r draft).prolongs
  split
  · refine delimited_bind steady_advance.prolongs fun _ => ?_
    refine delimited_within delimited_closeObject ?_
    refine prolongs_budget fun n m hnm => ?_
    exact prolongs_bind (prolongs_members hr n m hnm true r.empty) fun draft =>
      (steady_finished r draft).prolongs
  · exact (refuses_refuse _ _).delimited

theorem prolongs_read {r : Record δ α} (hr : r.FieldsProlong) : Prolongs r.read r.read where
  nothing := rfl
  extend text more rest a h _ := (delimited_read hr).extend text more rest a h

theorem prolongs_required {name : String} {get : δ → Option β} {put : δ → β → δ}
    {read : Reader β} (hread : Prolongs read read) (draft : δ) :
    Prolongs ((Field.required name get put read).read draft)
      ((Field.required name get put read).read draft) :=
  prolongs_map hread

theorem decode_eq_ok {r : Reader α} {input : Bytes} {a : α} :
    decode r input = .ok a ↔ ∃ rest, on r input = (.ok a, rest) ∧ Blanks rest := by
  have hend (rest : Bytes) : on peekToken rest =
      (.ok (rest.dropWhile isBlank).head?, rest.dropWhile isBlank) := rfl
  constructor
  · intro h
    simp only [decode, on_bind] at h
    generalize on r input = p at h ⊢
    obtain ⟨result, rest⟩ := p
    cases result with
    | error fault => cases h
    | ok b =>
      simp only [hend] at h
      cases hd : rest.dropWhile isBlank with
      | nil =>
        rw [hd] at h
        cases h
        exact ⟨rest, rfl, List.dropWhile_eq_nil_iff.mp hd⟩
      | cons c behind =>
        rw [hd] at h
        cases h
  · rintro ⟨rest, hread, hblanks⟩
    simp only [decode]
    rw [on_bind_ok hread, on_bind_ok (on_peekToken_end hblanks)]
    rfl

/-- Of a text that is read, no part is read from which more than blanks were cut off. -/
theorem decode_front {r : Reader α} (hr : Delimited r r) {front dropped : Bytes} {a : α}
    (h : decode r (front ++ dropped) = .ok a) (hd : ∃ b ∈ dropped, isBlank b = false) :
    ∃ error, decode r front = .error error := by
  obtain ⟨rest, hwhole, hblanks⟩ := decode_eq_ok.mp h
  cases hfront : decode r front with
  | error error => exact ⟨error, rfl⟩
  | ok c =>
    obtain ⟨left, hread, -⟩ := decode_eq_ok.mp hfront
    have hlonger := hr.extend front dropped left c hread
    rw [hwhole] at hlonger
    cases hlonger
    obtain ⟨b, hb, hblank⟩ := hd
    rw [hblanks b (List.mem_append_right left hb)] at hblank
    cases hblank

end BlobRetrieval.Json
