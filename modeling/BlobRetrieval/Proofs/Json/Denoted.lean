import BlobRetrieval.Proofs.Json.Fields
import BlobRetrieval.Proofs.Json.Printing
import BlobRetrieval.Proofs.Text.HexForms

/-!
# The bytes that a value denotes

A value denotes bytes if it is a text of their digits, or the array of them as numbers. Where any
length is allowed, these values alone are read. Where the length is known, one more element may
stand behind the bytes of an array, if it is no byte itself and is read to its end.
-/

set_option autoImplicit false

namespace BlobRetrieval.Json

variable {value : Json} {bytes : Bytes}

def ofOctet (b : UInt8) : Json :=
  .number (Decimal.digits b.toNat)

inductive Denotes (bytes : Bytes) : Json → Prop
  | hex (text : List Char) : Hex.Form bytes text → Denotes bytes (.string text)
  | octets : Denotes bytes (.array (bytes.map ofOctet))

inductive Overfull (bytes : Bytes) : Json → Prop
  | surplus (items : List Json) (surplus : Json) : Denotes bytes (.array items) →
      surplus.swallowed = true → Overfull bytes (.array (items ++ [surplus]))

/-- A number text has no plus sign and no needless zeros. -/
theorem eq_digits_of_form {literal : List Char} (h : NumberText (Utf8.encode literal)) {n : Nat}
    (hf : Decimal.Form n literal) : literal = Decimal.digits n := by
  obtain ⟨plus, zeros, hplus, hliteral⟩ := hf
  have hunsigned : literal = List.replicate zeros '0' ++ Decimal.digits n := by
    rcases hplus with rfl | rfl
    · exact hliteral
    · have hdrop := dropPlus_literal h
      rw [hliteral] at hdrop
      exact absurd hdrop.symm (List.cons_ne_self _ _)
  cases zeros with
  | zero => exact hunsigned
  | succ zeros =>
    -- A zero in front is the whole of a number text, so no digits can follow it.
    have hd : ∀ c ∈ literal, c.isDigit = true := by
      rw [hunsigned]
      exact Decimal.isDigit_zeros_digits (zeros + 1) n
    have hi := integerText_of_digits h (digits_encode hd)
    have hfront : Utf8.encode literal =
        48 :: Utf8.encode (List.replicate zeros '0' ++ Decimal.digits n) := by
      rw [hunsigned, List.replicate_succ, List.cons_append]
      rfl
    have hmore : Utf8.encode (List.replicate zeros '0' ++ Decimal.digits n) ≠ [] := by
      obtain ⟨b, bs, hdigits, -⟩ := integerText_front (integerText_digits n)
      rw [Utf8.encode_append, hdigits]
      simp
    rw [hfront] at hi
    generalize Utf8.encode (List.replicate zeros '0' ++ Decimal.digits n) = more at hi hmore
    cases hi with
    | zero => contradiction
    | digits _ _ _ hb _ => contradiction

theorem printable_ofOctet (b : UInt8) : Printable (ofOctet b) :=
  .number _ (numberText_of_integer (integerText_digits b.toNat))

theorem octet?_ofOctet (b : UInt8) : octet? (ofOctet b) = some b := by
  have hb : b.toNat < 256 := b.toNat_lt
  have hsize : b.toNat < UInt64.size := by
    have : UInt64.size = 18446744073709551616 := rfl
    omega
  have hread : Decimal.readUInt64? (Decimal.digits b.toNat) = some (UInt64.ofNat b.toNat) := by
    rw [Decimal.readUInt64?_eq_some, UInt64.toNat_ofNat_of_lt' hsize]
    exact Decimal.form_digits b.toNat
  rw [ofOctet, octet?, hread, Option.bind_some, UInt64.toNat_ofNat_of_lt' hsize, if_pos hb,
    UInt8.ofNat_toNat]

theorem octet?_eq_some (hs : Spelled value) {b : UInt8} :
    octet? value = some b ↔ value = ofOctet b := by
  constructor
  · intro h
    cases value with
    | number literal =>
      obtain ⟨n, hn, hb⟩ := Option.bind_eq_some_iff.mp h
      rw [Option.ite_none_right_eq_some] at hb
      obtain ⟨hlt, hb⟩ := hb
      have hvalue : b.toNat = n.toNat := by
        rw [← Option.some.inj hb, UInt8.toNat_ofNat_of_lt' hlt]
      obtain ⟨text, ht⟩ := hs
      cases ht with
      | number _ hnumber =>
        rw [ofOctet, hvalue, eq_digits_of_form hnumber (Decimal.readUInt64?_eq_some.mp hn)]
    | _ => contradiction
  · rintro rfl
    exact octet?_ofOctet b

theorem mapM_octet?_eq_some {items : List Json} (hs : ∀ v ∈ items, Spelled v) :
    items.mapM octet? = some bytes ↔ items = bytes.map ofOctet := by
  rw [mapM_eq_some, forall₂_congr_left fun v hv b => octet?_eq_some (hs v hv),
    ← List.forall₂_map_right_iff, List.forall₂_eq_eq_eq]

theorem denotes_array {items : List Json} :
    Denotes bytes (.array items) ↔ items = bytes.map ofOctet := by
  constructor
  · intro h
    cases h
    rfl
  · rintro rfl
    exact .octets

theorem denotes_string {text : List Char} : Denotes bytes (.string text) ↔ Hex.Form bytes text := by
  constructor
  · intro h
    cases h
    assumption
  · exact .hex text

theorem bytes?_eq_some (hs : Spelled value) : bytes? value = some bytes ↔ Denotes bytes value := by
  cases value with
  | string text => rw [bytes?, denotes_string, toOption_eq_some, Hex.decode_eq_ok]
  | array items => rw [bytes?, denotes_array, mapM_octet?_eq_some (spelled_items hs)]
  | _ =>
    constructor
    · intro h
      contradiction
    · intro h
      cases h

/-- A value denotes no two byte strings. -/
theorem Denotes.unique {other : Bytes} (hs : Spelled value) (h : Denotes bytes value)
    (ho : Denotes other value) : bytes = other := by
  rw [← bytes?_eq_some hs] at h ho
  exact Option.some.inj (h.symm.trans ho)

theorem blob?_eq_some (hs : Spelled value) {blob : Blob} :
    blob? value = some blob ↔ Denotes blob.bytes value := by
  have hblob {bytes : Bytes} : (Blob.ofBytes bytes).toOption = some blob ↔ bytes = blob.bytes := by
    rw [toOption_eq_some, ← ByteVector.ofBytes?_eq_some, Blob.ofBytes, ByteVector.ofBytes?]
    split <;> simp
  simp only [blob?, Option.bind_eq_some_iff, bytes?_eq_some hs, hblob, exists_eq_right]

theorem closes_eq_true {items : List Json} :
    closes items = true ↔ items = [] ∨ ∃ surplus, items = [surplus] ∧ surplus.swallowed = true := by
  cases items with
  | nil => simp [closes]
  | cons v items => rw [closes_cons]; cases items <;> simp

theorem vector?_eq_some (hs : Spelled value) {n : Nat} {v : ByteVector n} :
    vector? n value = some v ↔ Denotes v.bytes value ∨ Overfull v.bytes value := by
  cases value with
  | string text =>
    have hnot : ¬Overfull v.bytes (.string text) := by
      intro h
      cases h
    rw [vector?, denotes_string, toOption_eq_some, Hex.decodeVector_eq_ok, or_iff_left hnot]
  | array items =>
    have htake : ∀ v ∈ items.take n, Spelled v :=
      fun v hv => spelled_items hs v (List.mem_of_mem_take hv)
    rw [vector?, octets?, Option.ite_none_right_eq_some, Option.bind_eq_some_iff]
    simp only [mapM_octet?_eq_some htake, Option.ite_none_right_eq_some,
      ByteVector.ofBytes?_eq_some, closes_eq_true]
    constructor
    · rintro ⟨hlength, bytes, hbytes, hcloses, rfl⟩
      have hitems := List.take_append_drop n items
      rcases hcloses with hnil | ⟨surplus, hsurplus, hswallowed⟩
      · rw [hnil, List.append_nil, hbytes] at hitems
        exact .inl (denotes_array.mpr hitems.symm)
      · rw [hsurplus, hbytes] at hitems
        rw [← hitems]
        exact .inr (.surplus _ surplus .octets hswallowed)
    · have hlength : (v.bytes.map ofOctet).length = n := by rw [List.length_map, v.length_eq]
      rintro (h | h)
      · obtain rfl := denotes_array.mp h
        refine ⟨hlength.ge, v.bytes, List.take_of_length_le hlength.le, .inl ?_, rfl⟩
        exact List.drop_of_length_le hlength.le
      · cases h with
        | surplus front surplus hfront hswallowed =>
          obtain rfl := denotes_array.mp hfront
          refine ⟨?_, v.bytes, List.take_left' hlength, .inr ⟨surplus, ?_, hswallowed⟩, rfl⟩
          · rw [List.length_append, hlength]
            exact Nat.le_add_right n _
          · exact List.drop_left' hlength
  | _ =>
    constructor
    · intro h
      contradiction
    · rintro (h | h) <;> cases h

/-- An array with a surplus element denotes no bytes at all. -/
theorem Overfull.not_denotes (h : Overfull bytes value) (other : Bytes) :
    ¬Denotes other value := by
  obtain ⟨items, surplus, -, hswallowed⟩ := h
  intro hdenotes
  have hmem : surplus ∈ other.map ofOctet := by
    rw [← denotes_array.mp hdenotes]
    exact List.mem_concat_self
  obtain ⟨b, -, rfl⟩ := List.mem_map.mp hmem
  have hnone := octet?_of_swallowed hswallowed
  rw [octet?_ofOctet] at hnone
  contradiction

end BlobRetrieval.Json
