import BlobRetrieval.Proofs.Json.Arrays

/-!
# What numbers and bytes mean

A number stands bare or in quotes, and both are read as the same digits. A byte value is a
string of hexadecimal digits or an array of bytes. Nothing else is read as either.
-/

set_option autoImplicit false

namespace BlobRetrieval.Json

open Reader

variable {α β : Type}

def closes : List Json → Bool
  | [] => true
  | [surplus] => surplus.swallowed
  | _ => false

def octets? (n : Nat) (values : List Json) : Option (ByteVector n) :=
  if n ≤ values.length then
    ((values.take n).mapM octet?).bind fun bytes =>
      if closes (values.drop n) then ByteVector.ofBytes? bytes else none
  else none

def surplusOctet : Reader (Option UInt8) := do
  if ← moreElements false then
    let b ← readOctet
    return some b
  else return none

def finishOctets (n : Nat) (bytes : Bytes) :
    Except Fault (Option UInt8) → Reader (ByteVector n)
  | .ok (some _) => failUnplaced (.wrongLength (n + 1) (.exactlyBytes n))
  | _ =>
    match ByteVector.ofBytes? bytes with
    | some v => pure v
    | none => failUnplaced (.wrongLength bytes.length (.exactlyBytes n))

theorem octets_eq (n : Nat) : octets n =
    exactly readOctet (.exactlyBytes n) n [] >>= fun bytes =>
      attempt surplusOctet >>= finishOctets n bytes :=
  rfl

theorem gives_finishOctets (n : Nat) (bytes : Bytes) {surplus : Except Fault (Option UInt8)}
    (h : ∀ b, surplus ≠ .ok (some b)) (text : Bytes) :
    Gives (finishOctets n bytes surplus) text (ByteVector.ofBytes? bytes) text := by
  unfold finishOctets
  split
  · exact absurd rfl (h _)
  · cases ByteVector.ofBytes? bytes with
    | none => exact (refuses_failUnplaced _).gives _ _
    | some v => exact gives_pure v text

theorem octet?_of_swallowed {value : Json} (h : swallowed value = true) : octet? value = none := by
  cases value with
  | number literal =>
    rw [swallowed, Bool.and_eq_true, Option.isNone_iff_eq_none] at h
    exact h.1
  | _ => rfl

theorem closes_cons {value : Json} {values : List Json} :
    closes (value :: values) = (values.isEmpty && value.swallowed) := by
  cases values with
  | nil => simp [closes]
  | cons next values => rfl

theorem on_surplusOctet {text behind : Bytes}
    (h : on (moreElements false) text = (.ok true, behind)) :
    on surplusOctet text = on (some <$> readOctet) behind := by
  rw [surplusOctet, on_bind_ok h, map_eq_pure_bind]
  rfl

section Surplus

variable {last : Bytes} (hl : Blanks last) (n : Nat) (bytes rest : Bytes)

include hl

/-- A surplus element goes unnoticed where the array can be closed behind it. -/
theorem gives_surplus_element {value : Json} {text spelling : Bytes} {lines : List Line}
    (hmore : on (moreElements false) text =
      (.ok true, spelling ++ (Line.more 93 last lines ++ rest)))
    (ht : Spells value spelling) (hs : ∀ l ∈ lines, l.Spaced) :
    Gives (within closeArray (attempt surplusOctet >>= finishOctets n bytes)) text
      (if lines = [] ∧ value.swallowed = true then ByteVector.ofBytes? bytes else none) rest := by
  have happart := apart_more (.inl rfl) hl hs rest
  have hread := means_octet value [] spelling _ blanks_nil ht happart
  rw [List.nil_append] at hread
  refine gives_within_after (on_attempt _ _) ?_
  rw [on_surplusOctet hmore, left_map]
  cases hoctet : octet? value with
  | some b =>
    have hswallowed : value.swallowed ≠ true := by
      intro h
      rw [octet?_of_swallowed h] at hoctet
      contradiction
    rw [hoctet] at hread
    rw [if_neg (fun h => hswallowed h.2), on_map_ok (gives_some.mp hread)]
    exact gives_within_none ((refuses_failUnplaced _).gives _ rest) rest
  | none =>
    rw [hoctet] at hread
    have hfault : ∀ b, (on (some <$> readOctet)
        (spelling ++ (Line.more 93 last lines ++ rest))).1 ≠ .ok (some b) := by
      intro b hb
      exact gives_none.mp (gives_map hread some) (some b) _ (Prod.ext hb rfl)
    have hfinish := gives_finishOctets n bytes hfault
      (on readOctet (spelling ++ (Line.more 93 last lines ++ rest))).2
    -- The fault is forgotten, but not where it has left the reader.
    have hleft := left_readOctet ht happart hoctet
    by_cases hswallowed : value.swallowed = true
    · rw [if_pos hswallowed] at hleft
      rw [hleft] at hfinish ⊢
      have hgives := gives_within hfinish (gives_closeArray hl hs rest)
      by_cases hlines : lines = []
      · simpa [hlines, hswallowed] using hgives
      · simpa [hlines] using hgives
    · rw [if_neg hswallowed] at hleft
      obtain ⟨b, left, hb, hblank, hclosing⟩ := hleft
      rw [hb] at hfinish ⊢
      have hclose : Gives closeArray (b :: left) none rest :=
        gives_none.mpr (closeArray_ne_ok blanks_nil hblank hclosing left)
      simpa [hswallowed] using gives_within hfinish hclose

/-- Behind its bytes an array is closed, or holds one element more that goes unnoticed. -/
theorem gives_surplus {items : List Item} (hs : ∀ i ∈ items, i.line.Spaced)
    (ht : ∀ i ∈ items, Spells i.value i.line.text) :
    Gives (within closeArray (attempt surplusOctet >>= finishOctets n bytes))
      (Line.more 93 last (items.map (·.line)) ++ rest)
      (if closes (items.map (·.value)) then ByteVector.ofBytes? bytes else none) rest := by
  cases items with
  | nil =>
    have hsurplus : on surplusOctet (Line.more 93 last [] ++ rest) = (.ok none, 93 :: rest) :=
      on_bind_ok (on_moreElements_end false rest hl)
    have hnone : ∀ b, (.ok none : Except Fault (Option UInt8)) ≠ .ok (some b) := by simp
    have hfinish := gives_finishOctets n bytes hnone (93 :: rest)
    refine gives_within_after (on_attempt _ _) ?_
    rw [List.map_nil, hsurplus]
    simpa [closes] using gives_within hfinish (gives_some.mpr (on_closeArray blanks_nil rest))
  | cons i items =>
    obtain ⟨hmore, -⟩ := gives_element means_octet hl rest false hs (ht i List.mem_cons_self)
    have hgives := gives_surplus_element hl n bytes rest hmore (ht i List.mem_cons_self)
      (List.forall_mem_map.mpr (List.forall_mem_of_forall_mem_cons hs))
    have hvalues : (i :: items).map (·.value) = i.value :: items.map (·.value) := rfl
    rw [hvalues, closes_cons]
    simpa [Line.ahead] using hgives

end Surplus

theorem encloses_octets {n : Nat} (hn : 0 < n) : Encloses (octets n) (octets? n) := by
  rw [octets_eq]
  exact encloses_counted means_octet hn
    (fun values bytes => if closes values then ByteVector.ofBytes? bytes else none)
    fun bytes items last rest hl hs ht => gives_surplus hl n bytes rest hs ht

theorem on_startValue_string {text : List Char} {spelling : Bytes}
    (hs : Spells (.string text) spelling) {before : Bytes} (hb : Blanks before) (rest : Bytes) :
    on startValue (before ++ (spelling ++ rest)) = (.ok (.string text), rest) := by
  cases hs with
  | string _ body hbody =>
    rw [List.cons_append, List.append_assoc, startValue, on_bind_ok (on_peekToken hb rfl _)]
    apply (on_bind_ok (on_advance _)).trans
    rw [List.tail_cons]
    exact (on_bind_ok (on_stringText hbody rest)).trans rfl

section Started

variable {finish : Found → Reader α} {before text rest : Bytes}

theorem means_null (h : Refuses (finish .null)) :
    Means (placed (startValue >>= finish)) .null none := by
  intro before text rest hb ht _
  cases ht with
  | null =>
    have hstart : on startValue (before ++ ([110, 117, 108, 108] ++ rest)) = (.ok .null, rest) := by
      rw [startValue]
      exact on_bind_ok (on_peekToken hb rfl _)
    exact gives_placed (gives_after hstart (h.gives _ _))

theorem means_bool {b : Bool} (h : Refuses (finish (.bool b))) :
    Means (placed (startValue >>= finish)) (.bool b) none := by
  intro before text rest hb ht _
  have hstart : on startValue (before ++ (text ++ rest)) = (.ok (.bool b), rest) := by
    cases ht with
    | true => exact on_bind_ok (on_peekToken hb rfl _)
    | false => exact on_bind_ok (on_peekToken hb rfl _)
  exact gives_placed (gives_after hstart (h.gives _ _))

theorem means_object {members : List (List Char × Json)} (h : Refuses (finish .object)) :
    Means (placed (startValue >>= finish)) (.object members) none := by
  intro before text rest hb ht _
  cases ht with
  | object members last _ _ _ _ =>
    have hstart : on startValue (before ++
        (123 :: Line.enclosed 125 last (members.map Member.line) ++ rest)) =
          (.ok .object, Line.enclosed 125 last (members.map Member.line) ++ rest) :=
      on_bind_ok (on_peekToken hb rfl _)
    exact gives_placed (gives_after hstart (h.gives _ _))

theorem means_string {spelt : List Char} {result : Option α}
    (h : ∀ rest, Gives (finish (.string spelt)) rest result rest) :
    Means (placed (startValue >>= finish)) (.string spelt) result := by
  intro before text rest hb ht _
  exact gives_placed (gives_after (on_startValue_string ht hb rest) (h rest))

theorem means_array {values : List Json} {sem : List Json → Option α}
    (h : ∀ (items : List Item) (last rest : Bytes), Blanks last → (∀ i ∈ items, i.line.Spaced) →
      (∀ i ∈ items, Spells i.value i.line.text) →
      Gives (finish .array) (Line.enclosed 93 last (items.map (·.line)) ++ rest)
        (sem (items.map (·.value))) rest) :
    Means (placed (startValue >>= finish)) (.array values) (sem values) := by
  intro before text rest hb ht _
  cases ht with
  | array items last hl hs ht =>
    have hstart : on startValue (before ++
        (91 :: Line.enclosed 93 last (items.map (·.line)) ++ rest)) =
          (.ok .array, Line.enclosed 93 last (items.map (·.line)) ++ rest) :=
      on_bind_ok (on_peekToken hb rfl _)
    exact gives_placed (gives_after hstart (h items last rest hl hs ht))

end Started

def quoted? : Json → Option UInt64
  | .string text => Decimal.readUInt64? text
  | .number literal => Decimal.readUInt64? literal
  | _ => none

theorem means_quoted (value : Json) : Means readQuoted value (quoted? value) := by
  cases value with
  | null => exact means_null (refuses_refuseStarted _ _)
  | bool b => exact means_bool (refuses_refuseStarted _ _)
  | object members => exact means_object (refuses_refuseStarted _ _)
  | array items =>
    apply means_array
    exact fun _ _ _ _ _ _ => (refuses_refuseStarted _ _).gives _ _
  | string text =>
    refine means_string fun rest => ?_
    simp only [quoted?]
    cases Decimal.readUInt64? text with
    | none => exact (refuses_failUnplaced _).gives _ _
    | some n => exact gives_pure n rest
  | number literal =>
    have hvalue : quoted? (.number literal) = (Decimal.readUInt64? literal).bind some := by
      rw [quoted?, Option.bind_fun_some]
    rw [hvalue]
    refine means_number (fun n rest => gives_pure n rest) fun m hm => ?_
    cases m with
    | unsigned n => exact absurd rfl (hm n)
    | negative n => exact refuses_refuseStarted _ _
    | float bits => exact refuses_refuseStarted _ _

def vector? (n : Nat) : Json → Option (ByteVector n)
  | .string text => (Hex.decodeVector n (Utf8.encode text)).toOption
  | .array items => octets? n items
  | _ => none

def bytes? : Json → Option Bytes
  | .string text => (Hex.decode (Utf8.encode text)).toOption
  | .array items => items.mapM octet?
  | _ => none

def blob? (value : Json) : Option Blob :=
  (bytes? value).bind fun bytes => (Blob.ofBytes bytes).toOption

theorem means_no_number {literal : List Char} {finish : Found → Reader α}
    (h : ∀ m, Refuses (finish (.number m))) :
    Means (placed (startValue >>= finish)) (.number literal) none := by
  have hnone : (Decimal.readUInt64? literal).bind (fun _ => (none : Option α)) = none := by simp
  rw [← hnone]
  exact means_number (fun n rest => (h _).gives _ _) fun m _ => h m

theorem means_vector {n : Nat} (hn : 0 < n) (value : Json) :
    Means (readVector n) value (vector? n value) := by
  cases value with
  | null => exact means_null (refuses_refuseStarted _ _)
  | bool b => exact means_bool (refuses_refuseStarted _ _)
  | object members => exact means_object (refuses_refuseStarted _ _)
  | number literal => exact means_no_number fun m => refuses_refuseStarted _ _
  | array items =>
    apply means_array
    exact encloses_octets hn
  | string text =>
    refine means_string fun rest => ?_
    simp only [vector?]
    cases Hex.decodeVector n (Utf8.encode text) with
    | error error => exact (refuses_failUnplaced _).gives _ _
    | ok v => exact gives_pure v rest

theorem means_bytes (value : Json) : Means readBytes value (bytes? value) := by
  cases value with
  | null => exact means_null (refuses_refuseStarted _ _)
  | bool b => exact means_bool (refuses_refuseStarted _ _)
  | object members => exact means_object (refuses_refuseStarted _ _)
  | number literal => exact means_no_number fun m => refuses_refuseStarted _ _
  | array items =>
    apply means_array
    exact encloses_elements means_octet
  | string text =>
    refine means_string fun rest => ?_
    simp only [bytes?]
    cases Hex.decode (Utf8.encode text) with
    | error error => exact (refuses_failUnplaced _).gives _ _
    | ok bytes => exact gives_pure bytes rest

theorem means_blob (value : Json) : Means readBlob value (blob? value) := by
  intro before text rest hb ht hr
  refine gives_bind (means_bytes value before text rest hb ht hr) fun bytes _ => ?_
  cases Blob.ofBytes bytes with
  | error error => exact (refuses_failUnplaced _).gives _ _
  | ok blob => exact gives_pure blob rest

/-- The elements of an array, each of them read. -/
theorem means_listOf {item : Reader α} {sem : Json → Option α}
    (hi : ∀ value, Means item value (sem value)) (value : Json) :
    Means (listOf item) value (value.items?.bind (·.mapM sem)) :=
  means_arrayOf (encloses_elements hi) value

end BlobRetrieval.Json
