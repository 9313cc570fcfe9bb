import BlobRetrieval.Proofs.Json.ByteValues
import BlobRetrieval.Proofs.Json.Printing

/-!
# Ways to write numbers and bytes

An integer stands in quotes, perhaps behind a plus sign and zeros, or bare, and bytes are
written as digits in either letter case. Whichever way is taken, the value is the same.
-/

set_option autoImplicit false

namespace BlobRetrieval.Json

inductive IntegerForm (n : UInt64) : Json → Prop
  | quoted (text : List Char) : Decimal.Form n.toNat text → IntegerForm n (.string text)
  | bare : IntegerForm n (.ofNumber n)

theorem IntegerForm.quoted?_eq {n : UInt64} {value : Json} (h : IntegerForm n value) :
    quoted? value = some n := by
  cases h with
  | quoted text hf => exact Decimal.readUInt64?_form hf
  | bare => exact Decimal.readUInt64?_form (Decimal.form_digits n.toNat)

theorem IntegerForm.printable {n : UInt64} {value : Json} (h : IntegerForm n value) :
    Printable value := by
  cases h with
  | quoted text _ => exact .string text
  | bare => exact .number _ (numberText_of_integer (integerText_digits n.toNat))

inductive BytesForm (bytes : Bytes) : Json → Prop
  | hex (text : List Char) : Hex.Form bytes text → BytesForm bytes (.string text)

theorem BytesForm.vector?_eq {n : Nat} {v : ByteVector n} {value : Json}
    (h : BytesForm v.bytes value) : vector? n value = some v := by
  cases h with
  | hex text hf =>
    rw [Json.vector?, Hex.decodeVector_form hf]
    rfl

theorem BytesForm.blob?_eq {blob : Blob} {value : Json} (h : BytesForm blob.bytes value) :
    blob? value = some blob := by
  have hblob : Blob.ofBytes blob.bytes = .ok blob := dif_pos blob.length_eq
  cases h with
  | hex text hf =>
    rw [Json.blob?, bytes?, Hex.decode_form hf]
    show (Blob.ofBytes blob.bytes).toOption = some blob
    rw [hblob]
    rfl

theorem BytesForm.printable {bytes : Bytes} {value : Json} (h : BytesForm bytes value) :
    Printable value := by
  cases h with
  | hex text _ => exact .string text

theorem printable_of_forms {α : Type} {form : α → Json → Prop} {l : List α} {items : List Json}
    (hitems : List.Forall₂ form l items) (hform : ∀ a v, form a v → Printable v) :
    ∀ v ∈ items, Printable v := by
  have hboth : List.Forall₂ (fun v a => Printable v ∧ form a v) items l :=
    hitems.flip.imp fun v a h => ⟨hform a v h, h⟩
  exact (List.forall₂_and_left items l).mp hboth |>.1

end BlobRetrieval.Json
