import BlobRetrieval.Compare.Check

/-!
# A check as interleaved exchanges

The two questions on an identifier are asked independently and answered in any order.
One state holds how far each side has come and what is in flight, and a step asks,
answers or collects. The invariant fixes everything but the order of the steps, so
every interleaving ends with the same report.
-/

set_option autoImplicit false

namespace BlobRetrieval.Interleaving

inductive Slot where
  | ready
  | asked
  | answered (outcome : Outcome)

def Slot.progress : Slot → Nat
  | .ready => 0
  | .asked => 1
  | .answered _ => 2

inductive Act where
  | asked (query : Query)
  | answered (query : Query)
  | collected (position : Nat)

structure State where
  pending : List String
  slots : Side → Slot
  inFlight : List Query
  results : List (String × Verdict)

namespace State

def start (ids : List String) : State :=
  ⟨ids, fun _ => .ready, [], []⟩

def slotsWith (s : State) (side : Side) (slot : Slot) : Side → Slot :=
  fun other => if other = side then slot else s.slots other

def ask (s : State) (query : Query) : State :=
  { s with slots := s.slotsWith query.side .asked, inFlight := s.inFlight ++ [query] }

def receive (s : State) (query : Query) (outcome : Outcome) : State :=
  { s with
    slots := s.slotsWith query.side (.answered outcome)
    inFlight := s.inFlight.erase query }

def collect (s : State) (id : String) (rest : List String) (beacon archiver : Outcome) : State :=
  { s with
    pending := rest
    slots := fun _ => .ready
    results := s.results ++ [(id, verdict beacon archiver)] }

end State

section Steps

variable (answer : Query → Outcome) (format : Format)

inductive Step : State → Act → State → Prop
  | ask (s : State) (id : String) (rest : List String) (side : Side) :
      s.pending = id :: rest → s.slots side = .ready →
      Step s (.asked ⟨s.results.length, side, id, format⟩)
        (s.ask ⟨s.results.length, side, id, format⟩)
  | receive (s : State) (query : Query) : query ∈ s.inFlight →
      Step s (.answered query) (s.receive query (answer query))
  | collect (s : State) (id : String) (rest : List String) (beacon archiver : Outcome) :
      s.pending = id :: rest → s.slots .beacon = .answered beacon →
      s.slots .archiver = .answered archiver →
      Step s (.collected s.results.length) (s.collect id rest beacon archiver)

inductive Run (ids : List String) : List Act → State → Prop
  | start : Run ids [] (.start ids)
  | step (trace : List Act) (s : State) (act : Act) (t : State) : Run ids trace s →
      Step answer format s act t → Run ids (trace ++ [act]) t

end Steps

section Positions

variable (answer : Query → Outcome) (ids : List String) (format : Format)

theorem length_check : (check answer ids format).length = ids.length := by
  rw [check, List.length_map, List.length_zipIdx]

theorem getElem?_check (i : Nat) :
    (check answer ids format)[i]? = ids[i]?.map fun id =>
      (id, verdict (answer ⟨i, .beacon, id, format⟩) (answer ⟨i, .archiver, id, format⟩)) := by
  rw [check, List.getElem?_map, List.getElem?_zipIdx, Option.map_map, Nat.zero_add]
  rfl

def asksOf (side : Side) : List Query :=
  (queries ids format).filter (·.side = side)

theorem asksOf_eq (side : Side) :
    asksOf ids format side = ids.zipIdx.map fun p => ⟨p.2, side, p.1, format⟩ := by
  rw [asksOf, queries]
  induction ids.zipIdx with
  | nil => rfl
  | cons p rest ih =>
    rw [List.flatMap_cons, List.filter_append, ih]
    cases side <;> rfl

theorem length_asksOf (side : Side) : (asksOf ids format side).length = ids.length := by
  rw [asksOf_eq, List.length_map, List.length_zipIdx]

theorem getElem?_asksOf (side : Side) (i : Nat) :
    (asksOf ids format side)[i]? = ids[i]?.map fun id => ⟨i, side, id, format⟩ := by
  rw [asksOf_eq, List.getElem?_map, List.getElem?_zipIdx, Option.map_map, Nat.zero_add]
  rfl

end Positions

theorem side_ne_of_mem_erase {l : List Query} (hn : (l.map (·.side)).Nodup) {q r : Query}
    (hq : q ∈ l) (hr : r ∈ l.erase q) : r.side ≠ q.side := by
  have hp := ((List.perm_cons_erase hq).map (·.side)).nodup_iff.mp hn
  rw [List.map_cons, List.nodup_cons] at hp
  intro h
  exact hp.1 (h ▸ List.mem_map_of_mem hr)

theorem slotsWith_same (s : State) (side : Side) (slot : Slot) :
    s.slotsWith side slot side = slot :=
  if_pos rfl

theorem slotsWith_other (s : State) {side other : Side} (slot : Slot) (h : other ≠ side) :
    s.slotsWith side slot other = s.slots other :=
  if_neg h

section Invariants

variable (answer : Query → Outcome) (ids : List String) (format : Format)

structure Invariant (s : State) : Prop where
  pending : s.pending = ids.drop s.results.length
  results : s.results = (check answer ids format).take s.results.length
  flying : ∀ q ∈ s.inFlight,
    (asksOf ids format q.side)[s.results.length]? = some q ∧ s.slots q.side = .asked
  waiting : ∀ side, s.slots side = .asked → ∃ q ∈ s.inFlight, q.side = side
  sides : (s.inFlight.map (·.side)).Nodup
  answered : ∀ side outcome, s.slots side = .answered outcome →
    ∃ q, (asksOf ids format side)[s.results.length]? = some q ∧ outcome = answer q

variable {answer ids format} {s : State}

theorem Invariant.atHand (hi : Invariant answer ids format s) {id : String} {rest : List String}
    (hp : s.pending = id :: rest) :
    ids[s.results.length]? = some id ∧ rest = ids.drop (s.results.length + 1) := by
  have hdrop := hi.pending.symm.trans hp
  constructor
  · rw [← Nat.add_zero s.results.length, ← List.getElem?_drop, hdrop]
    rfl
  · rw [← List.tail_drop, hdrop]
    rfl

theorem invariant_start : Invariant answer ids format (.start ids) where
  pending := rfl
  results := rfl
  flying := by
    intro q hq
    cases hq
  waiting := by
    intro side h
    cases h
  sides := .nil
  answered := by
    intro side outcome h
    cases h

theorem Invariant.ask (hi : Invariant answer ids format s) {id : String} {rest : List String}
    {side : Side} (hp : s.pending = id :: rest) (hr : s.slots side = .ready) :
    Invariant answer ids format (s.ask ⟨s.results.length, side, id, format⟩) := by
  have hother : ∀ q ∈ s.inFlight, q.side ≠ side := by
    intro q hq h
    have hasked := (hi.flying q hq).2
    rw [h, hr] at hasked
    cases hasked
  refine ⟨hi.pending, hi.results, ?_, ?_, ?_, ?_⟩
  · intro q hq
    rcases List.mem_append.mp hq with hq | hq
    · exact ⟨(hi.flying q hq).1, (slotsWith_other s _ (hother q hq)).trans (hi.flying q hq).2⟩
    · cases List.mem_singleton.mp hq
      refine ⟨?_, slotsWith_same s side .asked⟩
      show (asksOf ids format side)[s.results.length]? = _
      rw [getElem?_asksOf, (hi.atHand hp).1]
      rfl
  · intro other h
    by_cases ho : other = side
    · exact ⟨_, List.mem_append_right _ List.mem_cons_self, ho.symm⟩
    · obtain ⟨q, hq, hside⟩ := hi.waiting other ((slotsWith_other s _ ho).symm.trans h)
      exact ⟨q, List.mem_append_left _ hq, hside⟩
  · show ((s.inFlight ++ [Query.mk s.results.length side id format]).map Query.side).Nodup
    rw [List.map_append, List.nodup_append]
    refine ⟨hi.sides, List.pairwise_singleton _ _, ?_⟩
    intro a ha b hb
    obtain ⟨q, hq, rfl⟩ := List.mem_map.mp ha
    cases List.mem_singleton.mp hb
    exact hother q hq
  · intro other outcome h
    by_cases ho : other = side
    · rw [ho] at h
      cases (slotsWith_same s side .asked).symm.trans h
    · exact hi.answered other outcome ((slotsWith_other s _ ho).symm.trans h)

theorem Invariant.receive (hi : Invariant answer ids format s) {q : Query} (hq : q ∈ s.inFlight) :
    Invariant answer ids format (s.receive q (answer q)) := by
  refine ⟨hi.pending, hi.results, ?_, ?_, ?_, ?_⟩
  -- The sides in flight are distinct, so nothing else in flight belongs to the side of `q`.
  · intro r hr
    have hne := side_ne_of_mem_erase hi.sides hq hr
    obtain ⟨hask, hslot⟩ := hi.flying r (List.mem_of_mem_erase hr)
    exact ⟨hask, (slotsWith_other s _ hne).trans hslot⟩
  · intro other h
    by_cases ho : other = q.side
    · rw [ho] at h
      cases (slotsWith_same s q.side _).symm.trans h
    · obtain ⟨r, hr, hside⟩ := hi.waiting other ((slotsWith_other s _ ho).symm.trans h)
      refine ⟨r, (List.mem_erase_of_ne ?_).mpr hr, hside⟩
      rintro rfl
      exact ho hside.symm
  · exact hi.sides.sublist (List.erase_sublist.map _)
  · intro other outcome h
    by_cases ho : other = q.side
    · rw [ho] at h ⊢
      cases (slotsWith_same s q.side _).symm.trans h
      exact ⟨q, (hi.flying q hq).1, rfl⟩
    · exact hi.answered other outcome ((slotsWith_other s _ ho).symm.trans h)

theorem Invariant.collect (hi : Invariant answer ids format s) {id : String} {rest : List String}
    {b a : Outcome} (hp : s.pending = id :: rest) (hb : s.slots .beacon = .answered b)
    (ha : s.slots .archiver = .answered a) :
    Invariant answer ids format (s.collect id rest b a) := by
  obtain ⟨hid, hrest⟩ := hi.atHand hp
  -- Both answers are to the identifier at hand, so the verdict is the one that `check` gives.
  obtain ⟨qb, hqb, rfl⟩ := hi.answered .beacon b hb
  obtain ⟨qa, hqa, rfl⟩ := hi.answered .archiver a ha
  rw [getElem?_asksOf, hid] at hqb hqa
  cases hqb
  cases hqa
  have hlength : (s.collect id rest (answer ⟨s.results.length, .beacon, id, format⟩)
      (answer ⟨s.results.length, .archiver, id, format⟩)).results.length =
        s.results.length + 1 := List.length_append
  refine ⟨?_, ?_, ?_, ?_, hi.sides, ?_⟩
  · rw [hlength]
    exact hrest
  · rw [hlength, List.take_add_one, ← hi.results, getElem?_check, hid]
    rfl
  · intro q hq
    have hasked := (hi.flying q hq).2
    cases hside : q.side with
    | beacon =>
      rw [hside, hb] at hasked
      cases hasked
    | archiver =>
      rw [hside, ha] at hasked
      cases hasked
  · intro side h
    cases h
  · intro side outcome h
    cases h

theorem Invariant.step (hi : Invariant answer ids format s) {act : Act} {t : State}
    (h : Step answer format s act t) : Invariant answer ids format t := by
  cases h with
  | ask id rest side hp hr => exact hi.ask hp hr
  | receive q hq => exact hi.receive hq
  | collect id rest b a hp hb ha => exact hi.collect hp hb ha

theorem Run.invariant {trace : List Act} (h : Run answer format ids trace s) :
    Invariant answer ids format s := by
  induction h with
  | start => exact invariant_start
  | step _ _ _ _ _ hs ih => exact ih.step hs

/-- Until the report is complete there is something to do. -/
theorem Invariant.progress (hi : Invariant answer ids format s) (hp : s.pending ≠ []) :
    ∃ act t, Step answer format s act t := by
  obtain ⟨id, rest, hp⟩ := List.exists_cons_of_ne_nil hp
  cases hb : s.slots .beacon with
  | ready => exact ⟨_, _, .ask s id rest .beacon hp hb⟩
  | asked =>
    obtain ⟨q, hq, -⟩ := hi.waiting .beacon hb
    exact ⟨_, _, .receive s q hq⟩
  | answered b =>
    cases ha : s.slots .archiver with
    | ready => exact ⟨_, _, .ask s id rest .archiver hp ha⟩
    | asked =>
      obtain ⟨q, hq, -⟩ := hi.waiting .archiver ha
      exact ⟨_, _, .receive s q hq⟩
    | answered a => exact ⟨_, _, .collect s id rest b a hp hb ha⟩

theorem length_le_two (l : List Side) (h : l.Nodup) : l.length ≤ 2 := by
  match l, h with
  | [], _ => exact Nat.zero_le _
  | [_], _ => exact Nat.le_succ 1
  | [_, _], _ => exact Nat.le_refl 2
  | a :: b :: c :: rest, h =>
    exfalso
    cases a <;> cases b <;> cases c <;> simp at h

theorem Invariant.length_results (hi : Invariant answer ids format s) :
    s.results.length ≤ ids.length := by
  have h := congrArg List.length hi.results
  rw [List.length_take, length_check] at h
  omega

end Invariants

def asks (side : Side) (trace : List Act) : List Query :=
  trace.filterMap fun act =>
    match act with
    | .asked q => if q.side = side then some q else none
    | _ => none

def Slot.asks : Slot → Nat
  | .ready => 0
  | .asked => 1
  | .answered _ => 1

theorem asks_append (side : Side) (trace more : List Act) :
    asks side (trace ++ more) = asks side trace ++ asks side more :=
  List.filterMap_append

/-- Where a longer trace is split, it is split in front of the last act or within the rest. -/
theorem split_last {trace pre post : List Act} {act b : Act}
    (h : trace ++ [act] = pre ++ b :: post) :
    (pre = trace ∧ b = act) ∨ ∃ post', trace = pre ++ b :: post' := by
  rcases List.eq_nil_or_concat post with rfl | ⟨post', last, rfl⟩
  · obtain ⟨rfl, hlast⟩ := List.append_inj' h rfl
    exact .inl ⟨rfl, (List.cons.inj hlast).1.symm⟩
  · rw [List.concat_eq_append, ← List.cons_append, ← List.append_assoc] at h
    exact .inr ⟨post', (List.append_inj' h rfl).1⟩

section Histories

variable (ids : List String) (format : Format)

structure History (trace : List Act) (s : State) : Prop where
  asked : ∀ side, asks side trace =
    (asksOf ids format side).take (s.results.length + (s.slots side).asks)
  length : trace.length =
    5 * s.results.length + ((s.slots .beacon).progress + (s.slots .archiver).progress)
  collected : ∀ i < s.results.length, .collected i ∈ trace
  answered : ∀ side outcome, s.slots side = .answered outcome →
    ∃ id, .answered ⟨s.results.length, side, id, format⟩ ∈ trace
  ordered : ∀ pre q post, trace = pre ++ .asked q :: post → ∀ i < q.position, .collected i ∈ pre
  consumed : ∀ pre i post, trace = pre ++ .collected i :: post →
    ∀ side, ∃ id, .answered ⟨i, side, id, format⟩ ∈ pre

variable {ids format} {answer : Query → Outcome} {trace : List Act} {s : State}

theorem history_start : History ids format [] (.start ids) where
  asked _ := rfl
  length := rfl
  collected := by
    intro i hi
    cases hi
  answered := by
    intro side outcome h
    cases h
  ordered := by
    intro pre q post h
    cases pre <;> cases h
  consumed := by
    intro pre q post h
    cases pre <;> cases h

theorem progress_slotsWith (s : State) (side : Side) (slot : Slot) :
    (s.slotsWith side slot .beacon).progress + (s.slotsWith side slot .archiver).progress +
        (s.slots side).progress =
      (s.slots .beacon).progress + (s.slots .archiver).progress + slot.progress := by
  cases side with
  | beacon =>
    rw [slotsWith_same, slotsWith_other s slot (by decide)]
    omega
  | archiver =>
    rw [slotsWith_same, slotsWith_other s slot (by decide)]
    omega

theorem History.ordered_append (hh : History ids format trace s) {act : Act}
    (ha : ∀ q, act = .asked q → q.position = s.results.length) :
    ∀ pre q post, trace ++ [act] = pre ++ .asked q :: post →
      ∀ i < q.position, .collected i ∈ pre := by
  intro pre q post h i hi
  rcases split_last h with ⟨rfl, he⟩ | ⟨post', hold⟩
  · rw [ha q he.symm] at hi
    exact hh.collected i hi
  · exact hh.ordered pre q post' hold i hi

theorem History.consumed_append (hh : History ids format trace s) {act : Act}
    (ha : ∀ i, act = .collected i → ∀ side, ∃ id, .answered ⟨i, side, id, format⟩ ∈ trace) :
    ∀ pre i post, trace ++ [act] = pre ++ .collected i :: post →
      ∀ side, ∃ id, .answered ⟨i, side, id, format⟩ ∈ pre := by
  intro pre i post h
  rcases split_last h with ⟨rfl, he⟩ | ⟨post', hold⟩
  · exact ha i he.symm
  · exact hh.consumed pre i post' hold

/-- An act that takes one side one step further. -/
theorem History.length_append (hh : History ids format trace s) (act : Act) {side : Side}
    {slot : Slot} (hslot : slot.progress = (s.slots side).progress + 1) :
    (trace ++ [act]).length = 5 * s.results.length +
      ((s.slotsWith side slot .beacon).progress + (s.slotsWith side slot .archiver).progress) := by
  have hprogress := progress_slotsWith s side slot
  rw [List.length_append, hh.length, List.length_singleton]
  omega

theorem History.answered_other (hh : History ids format trace s) (act : Act) {side other : Side}
    {slot : Slot} (ho : other ≠ side) {outcome : Outcome}
    (h : s.slotsWith side slot other = .answered outcome) :
    ∃ id, .answered ⟨s.results.length, other, id, format⟩ ∈ trace ++ [act] := by
  obtain ⟨id, hm⟩ := hh.answered other outcome ((slotsWith_other s _ ho).symm.trans h)
  exact ⟨id, List.mem_append_left _ hm⟩

theorem History.asked_ask (hh : History ids format trace s) {id : String} {side : Side}
    (hid : ids[s.results.length]? = some id) (hr : s.slots side = .ready) (other : Side) :
    asks other (trace ++ [.asked ⟨s.results.length, side, id, format⟩]) =
      (asksOf ids format other).take
        (s.results.length + (s.slotsWith side .asked other).asks) := by
  by_cases ho : other = side
  · subst ho
    have hnew : asks other [.asked ⟨s.results.length, other, id, format⟩] =
        [⟨s.results.length, other, id, format⟩] := by
      simp [asks]
    have hask : (asksOf ids format other)[s.results.length]? =
        some ⟨s.results.length, other, id, format⟩ := by
      rw [getElem?_asksOf, hid]
      rfl
    rw [asks_append, hh.asked, hr, hnew, slotsWith_same]
    simp only [Slot.asks, Nat.add_zero, List.take_add_one, hask]
    rfl
  · have hnew : asks other [.asked ⟨s.results.length, side, id, format⟩] = [] := by
      simp [asks, Ne.symm ho]
    rw [asks_append, hh.asked, hnew, slotsWith_other s _ ho, List.append_nil]

theorem History.ask (hh : History ids format trace s) (hi : Invariant answer ids format s)
    {id : String} {rest : List String} {side : Side} (hp : s.pending = id :: rest)
    (hr : s.slots side = .ready) :
    History ids format (trace ++ [.asked ⟨s.results.length, side, id, format⟩])
      (s.ask ⟨s.results.length, side, id, format⟩) := by
  refine ⟨hh.asked_ask (hi.atHand hp).1 hr, hh.length_append _ (by rw [hr]; rfl), ?_, ?_, ?_, ?_⟩
  · intro i h
    exact List.mem_append_left _ (hh.collected i h)
  · intro other outcome h
    by_cases ho : other = side
    · rw [ho] at h
      cases (slotsWith_same s side .asked).symm.trans h
    · exact hh.answered_other _ ho h
  · apply hh.ordered_append
    intro q hq
    cases hq
    rfl
  · apply hh.consumed_append
    intro i h
    cases h

theorem History.receive (hh : History ids format trace s) (hi : Invariant answer ids format s)
    {q : Query} (hq : q ∈ s.inFlight) :
    History ids format (trace ++ [.answered q]) (s.receive q (answer q)) := by
  obtain ⟨hask, hslot⟩ := hi.flying q hq
  refine ⟨?_, hh.length_append _ (by rw [hslot]; rfl), ?_, ?_, ?_, ?_⟩
  · intro other
    have hsame : ((s.receive q (answer q)).slots other).asks = (s.slots other).asks := by
      by_cases ho : other = q.side
      · rw [ho, hslot]
        exact (congrArg Slot.asks (slotsWith_same s q.side (.answered (answer q)))).trans rfl
      · exact congrArg Slot.asks (slotsWith_other s _ ho)
    rw [asks_append, hh.asked other, hsame]
    exact List.append_nil _
  · intro i h
    exact List.mem_append_left _ (hh.collected i h)
  · intro other outcome h
    by_cases ho : other = q.side
    · rw [getElem?_asksOf] at hask
      obtain ⟨id, -, he⟩ := Option.map_eq_some_iff.mp hask
      rw [ho]
      exact ⟨id, List.mem_append_right _ (List.mem_singleton.mpr (congrArg Act.answered he))⟩
    · exact hh.answered_other _ ho h
  · apply hh.ordered_append
    intro r hr
    cases hr
  · apply hh.consumed_append
    intro i h
    cases h

theorem History.collect (hh : History ids format trace s) {id : String} {rest : List String}
    {b a : Outcome} (hb : s.slots .beacon = .answered b) (ha : s.slots .archiver = .answered a) :
    History ids format (trace ++ [.collected s.results.length]) (s.collect id rest b a) := by
  have hlength : (s.collect id rest b a).results.length = s.results.length + 1 :=
    List.length_append
  have hslot : ∀ side, ∃ outcome, s.slots side = .answered outcome := by
    intro side
    cases side with
    | beacon => exact ⟨b, hb⟩
    | archiver => exact ⟨a, ha⟩
  refine ⟨?_, ?_, ?_, ?_, ?_, ?_⟩
  · intro side
    obtain ⟨outcome, ho⟩ := hslot side
    rw [asks_append, hh.asked side, ho, hlength]
    exact List.append_nil _
  · rw [List.length_append, hh.length, hb, ha, hlength]
    rfl
  · intro i h
    rw [hlength] at h
    rcases Nat.lt_succ_iff_lt_or_eq.mp h with h | rfl
    · exact List.mem_append_left _ (hh.collected i h)
    · exact List.mem_append_right _ List.mem_cons_self
  · intro side outcome h
    cases h
  · apply hh.ordered_append
    intro q hq
    cases hq
  · apply hh.consumed_append
    intro i h side
    cases h
    obtain ⟨outcome, ho⟩ := hslot side
    exact hh.answered side outcome ho

theorem Run.history (h : Run answer format ids trace s) : History ids format trace s := by
  induction h with
  | start => exact history_start
  | step trace s act t hr hs ih =>
    cases hs with
    | ask id rest side hp hslot => exact ih.ask hr.invariant hp hslot
    | receive q hq => exact ih.receive hr.invariant hq
    | collect id rest b a hp hb ha => exact ih.collect hb ha

end Histories

section Soundness

variable (answer : Query → Outcome) (ids : List String) (format : Format)

structure Sound (trace : List Act) (s : State) : Prop where
  inFlight_le : s.inFlight.length ≤ 2
  position : ∀ q ∈ s.inFlight, q.position = s.results.length
  sides : (s.inFlight.map (·.side)).Nodup
  ordered : ∀ pre q post, trace = pre ++ .asked q :: post → ∀ i < q.position, .collected i ∈ pre
  consumed : ∀ pre i post, trace = pre ++ .collected i :: post →
    ∀ side, ∃ id, .answered ⟨i, side, id, format⟩ ∈ pre
  asked : ∀ side, asks side trace <+: asksOf ids format side
  progress : s.pending ≠ [] → ∃ act t, Step answer format s act t
  bounded : trace.length ≤ 5 * ids.length
  finished : s.pending = [] →
    s.results = check answer ids format ∧ s.results.length = ids.length ∧
    (∀ i, s.results[i]? = ids[i]?.map fun id =>
      (id, verdict (answer ⟨i, .beacon, id, format⟩) (answer ⟨i, .archiver, id, format⟩))) ∧
    (∀ side, asks side trace = asksOf ids format side) ∧ s.inFlight = []

variable {answer ids format} {trace : List Act} {s : State}

theorem Invariant.at_end (hi : Invariant answer ids format s) (hp : s.pending = []) :
    s.results.length = ids.length := by
  have hdrop := congrArg List.length (hi.pending.symm.trans hp)
  rw [List.length_drop, List.length_nil] at hdrop
  have hle := hi.length_results
  omega

/-- Whatever is in flight or answered belongs to an identifier still to be checked. -/
theorem Invariant.slot_ready (hi : Invariant answer ids format s) (hp : s.pending = [])
    (side : Side) : s.slots side = .ready := by
  have hend : ∀ other q, (asksOf ids format other)[s.results.length]? ≠ some q := by
    intro other q h
    rw [getElem?_asksOf, hi.at_end hp, List.getElem?_eq_none (Nat.le_refl _)] at h
    cases h
  cases h : s.slots side with
  | ready => rfl
  | asked =>
    obtain ⟨q, hq, -⟩ := hi.waiting side h
    exact absurd (hi.flying q hq).1 (hend _ q)
  | answered outcome =>
    obtain ⟨q, hq, -⟩ := hi.answered side outcome h
    exact absurd hq (hend _ q)

theorem Slot.progress_le (slot : Slot) : slot.progress ≤ 2 := by
  cases slot <;> simp [progress]

theorem Run.length_le (h : Run answer format ids trace s) : trace.length ≤ 5 * ids.length := by
  have hlength := h.history.length
  have hle := h.invariant.length_results
  have hb := (s.slots .beacon).progress_le
  have ha := (s.slots .archiver).progress_le
  cases hp : s.pending with
  | nil =>
    rw [h.invariant.slot_ready hp, h.invariant.slot_ready hp] at hlength
    simp only [Slot.progress] at hlength
    omega
  | cons id rest =>
    obtain ⟨hid, -⟩ := h.invariant.atHand hp
    obtain ⟨hlt, -⟩ := List.getElem?_eq_some_iff.mp hid
    omega

theorem run_sound (h : Run answer format ids trace s) : Sound answer ids format trace s := by
  have hi := h.invariant
  have hh := h.history
  have hmap := length_le_two _ hi.sides
  rw [List.length_map] at hmap
  refine ⟨hmap, ?_, hi.sides, hh.ordered, hh.consumed, ?_, hi.progress, h.length_le, ?_⟩
  · intro q hq
    have hask := (hi.flying q hq).1
    rw [getElem?_asksOf] at hask
    obtain ⟨id, -, he⟩ := Option.map_eq_some_iff.mp hask
    rw [← he]
  · intro side
    rw [hh.asked]
    exact List.take_prefix _ _
  · intro hp
    have hend := hi.at_end hp
    have hresults : s.results = check answer ids format := by
      rw [hi.results, hend, ← length_check answer ids format, List.take_length]
    refine ⟨hresults, hend, ?_, ?_, ?_⟩
    · intro i
      rw [hresults, getElem?_check]
    · intro side
      rw [hh.asked, hi.slot_ready hp, hend, ← length_asksOf ids format side]
      exact List.take_length
    · cases hf : s.inFlight with
      | nil => rfl
      | cons q rest =>
        have hasked := (hi.flying q (hf ▸ List.mem_cons_self)).2
        rw [hi.slot_ready hp] at hasked
        cases hasked

def archiverFirst (format : Format) (position : Nat) (id : String) : List Act :=
  [.asked ⟨position, .beacon, id, format⟩, .asked ⟨position, .archiver, id, format⟩,
    .answered ⟨position, .archiver, id, format⟩, .answered ⟨position, .beacon, id, format⟩,
    .collected position]

theorem Run.archiverFirst {id : String} {rest : List String} {results : List (String × Verdict)}
    (h : Run answer format ids trace ⟨id :: rest, fun _ => .ready, [], results⟩) :
    Run answer format ids (trace ++ Interleaving.archiverFirst format results.length id)
      ⟨rest, fun _ => .ready, [], results ++ [(id, verdict
        (answer ⟨results.length, .beacon, id, format⟩)
        (answer ⟨results.length, .archiver, id, format⟩))]⟩ := by
  have h₁ := Run.step _ _ _ _ h (.ask _ id rest .beacon rfl rfl)
  have h₂ := Run.step _ _ _ _ h₁ (.ask _ id rest .archiver rfl rfl)
  have h₃ := Run.step _ _ _ _ h₂
    (.receive _ ⟨results.length, .archiver, id, format⟩ List.mem_concat_self)
  have hbeacon : Query.mk results.length .beacon id format ∈
      [Query.mk results.length .beacon id format, ⟨results.length, .archiver, id, format⟩].erase
        ⟨results.length, .archiver, id, format⟩ := by
    simp
  have h₄ := Run.step _ _ _ _ h₃ (.receive _ _ hbeacon)
  have h₅ := Run.step _ _ _ _ h₄ (.collect _ id rest _ _ rfl rfl rfl)
  simpa [Interleaving.archiverFirst, State.collect, State.receive, State.ask] using h₅

/-- One identifier is given again behind another one, and the archiver answers first each time.
The sides agree on the other one, and on the first one only when it is asked for again. -/
theorem run_sound_archiver_first :
    let answer : Query → Outcome := fun q => match q.side with
      | .beacon => if q.id = "7" then .found [] else .notFound
      | .archiver => if q.position = 2 then .found [] else .notFound
    Sound answer ["7", "8", "7"] .json
      (archiverFirst .json 0 "7" ++ archiverFirst .json 1 "8" ++ archiverFirst .json 2 "7")
      ⟨[], fun _ => .ready, [], [("7", .statusMismatch 200 404), ("8", .same 404 0),
        ("7", .same 200 0)]⟩ := by
  intro answer
  have hstart : Run answer .json ["7", "8", "7"] [] (.start ["7", "8", "7"]) := .start
  exact run_sound hstart.archiverFirst.archiverFirst.archiverFirst

end Soundness

end BlobRetrieval.Interleaving
