import BlobRetrieval.Proofs.Fetch.Edits
import BlobRetrieval.Proofs.Sidecar.Fields

/-!
# Which bodies are read

A JSON body is read as a collection just if it is an envelope of an array all of whose elements are
read when they are taken by themselves. One element that is not, at any place, voids the others.
-/

set_option autoImplicit false

namespace BlobRetrieval

open Json

variable {value : Json} {body : Bytes}

namespace Sidecars

def fieldNames : List (List Char) :=
  ["data".toList]

def Envelops (elements : List Json) (value : Json) : Prop :=
  FieldIs fieldNames "data".toList (.array elements) value

def GivenBy (c : List Sidecar) (value : Json) : Prop :=
  ∃ elements, Envelops elements value ∧
    List.Forall₂ (Decodes Sidecar.record.read) elements c

theorem ofJson?_eq_some {c : List Sidecar} : ofJson? value = some c ↔
    ∃ elements, Envelops elements value ∧ elements.mapM Sidecar.ofJson? = some c := by
  have hnodup : fieldNames.Nodup := by decide
  have hdata : ofJson? value = (field? fieldNames value "data".toList).bind fun data =>
      data.items?.bind (·.mapM Sidecar.ofJson?) := by
    rw [ofJson?, field?, fieldNames]
    cases fields? ["data".toList] value <;> rfl
  simp only [hdata, Option.bind_eq_some_iff, field?_eq_some hnodup, items?_eq_some]
  constructor
  · rintro ⟨_, hfield, elements, rfl, h⟩
    exact ⟨elements, hfield, h⟩
  · rintro ⟨elements, hfield, h⟩
    exact ⟨.array elements, hfield, elements, rfl, h⟩

theorem givenBy_iff (hs : Spelled value) {c : List Sidecar} :
    GivenBy c value ↔ ofJson? value = some c := by
  rw [ofJson?_eq_some]
  apply exists_congr
  intro elements
  apply and_congr_right
  intro h
  exact forall₂_decodes_iff Sidecar.means_sidecar (spelled_items (h.spelled hs))

end Sidecars

namespace Format

/-- A body that is not read is a fault of the JSON. -/
theorem exists_error_of_ne_ok (h : ∀ c, Format.json.decode body ≠ .ok c) :
    ∃ error, Format.json.decode body = .error (.json error) := by
  cases hread : Json.decode envelope.read body with
  | ok c => exact absurd ((decode_json_eq_ok body c).mpr hread) (h c)
  | error error => exact ⟨error, by rw [decode, hread]; rfl⟩

/-- A body is read just as the elements of its envelope are. -/
theorem decode_json_iff_givenBy (h : Document value body) (c : List Sidecar) :
    Format.json.decode body = .ok c ↔ Sidecars.GivenBy c value := by
  rw [decode_json_eq_ok, decode_eq_ok_iff (Sidecars.means_envelope value) h,
    decodes_iff (Sidecars.means_envelope value) h.spelled, Sidecars.givenBy_iff h.spelled]

/-- Nothing but blanks may follow the value, whether the value itself would be read or not. -/
theorem decode_json_surplus (h : Document value body) {more : Bytes} (hmore : ¬Blanks more)
    (c : List Sidecar) : Format.json.decode (body ++ more) ≠ .ok c := by
  obtain ⟨before, text, after, hbefore, ht, -⟩ := h
  have hfields : envelope.fields ≠ [] := by simp [envelope]
  have hgives := gives_record Sidecars.staged hfields hbefore ht (after ++ more)
  rw [List.append_assoc, List.append_assoc, Ne, decode_json_eq_ok, hgives.decode_eq_ok]
  rintro ⟨-, hblanks⟩
  exact hmore fun b hb => hblanks b (List.mem_append_right after hb)

end Format

/-- A bad element voids the elements before it as much as those behind it. -/
theorem Sidecars.not_givenBy {front back : List Json} {bad : Json}
    (h : Envelops (front ++ bad :: back) value)
    (hbad : ∀ s, ¬Decodes Sidecar.record.read bad s) (c : List Sidecar) : ¬GivenBy c value := by
  rintro ⟨elements, helements, hall⟩
  have hnodup : fieldNames.Nodup := by decide
  obtain rfl := Json.array.inj (helements.unique hnodup h)
  have hread : (∀ v ∈ front ++ bad :: back, ∃ s, Decodes Sidecar.record.read v s) ∧
      List.Forall₂ (Decodes Sidecar.record.read) (front ++ bad :: back) c :=
    (List.forall₂_and_left _ c).mp (hall.imp fun _ s hs => ⟨⟨s, hs⟩, hs⟩)
  obtain ⟨s, hs⟩ := hread.1 bad List.mem_append_cons_self
  exact hbad s hs

/-- What a whole body is read as is what its parts are read as when each is taken by itself: all
elements of the envelope, in order, or else nothing. An element is read just if each of its
fields is there once or in its place and is read, and so are the two headers in it. -/
theorem decode_json_whole (h : Document value body) :
    (∀ c, Format.json.decode body = .ok c ↔ Sidecars.GivenBy c value) ∧
    ((¬∃ c, Sidecars.GivenBy c value) →
      ∃ error, Format.json.decode body = .error (.json error)) ∧
    (∀ front bad back, Sidecars.Envelops (front ++ bad :: back) value →
      (¬∃ s, Decodes Sidecar.record.read bad s) →
        ∃ error, Format.json.decode body = .error (.json error)) ∧
    (∀ more, ¬Blanks more → ∃ error, Format.json.decode (body ++ more) = .error (.json error)) ∧
    (∀ part, Spelled part →
      (∀ s, Decodes Sidecar.record.read part s ↔ s.GivenBy part) ∧
      (∀ s, Decodes SignedBlockHeader.record.read part s ↔ s.GivenBy part) ∧
      ∀ s, Decodes BlockHeader.record.read part s ↔ s.GivenBy part) := by
  have hread := Format.decode_json_iff_givenBy h
  refine ⟨hread, ?_, ?_, ?_, ?_⟩
  · intro hnone
    apply Format.exists_error_of_ne_ok
    intro c hc
    exact hnone ⟨c, (hread c).mp hc⟩
  · intro front bad back helements hbad
    apply Format.exists_error_of_ne_ok
    intro c hc
    exact Sidecars.not_givenBy helements (not_exists.mp hbad) c ((hread c).mp hc)
  · intro more hmore
    exact Format.exists_error_of_ne_ok (Format.decode_json_surplus h hmore)
  · intro part hs
    exact ⟨fun _ => Sidecar.decodes_iff_givenBy hs, fun _ => SignedBlockHeader.decodes_iff_givenBy hs,
      fun _ => BlockHeader.decodes_iff_givenBy hs⟩

/-- A good element in front of a bad one, in an envelope with one more member. -/
theorem decode_json_whole_good_then_bad :
    let s := Sample.sidecar 3 7
    let envelope : Json := .object [
      ("finalized".toList, .bool true),
      ("data".toList, .array [s.toJson, .null])]
    Document envelope (Utf8.encode envelope.compact) ∧
      Decodes Sidecar.record.read s.toJson s ∧
      ∃ error, Format.json.decode (Utf8.encode envelope.compact) = .error (.json error) := by
  intro s envelope
  have hs : Printable s.toJson := s.form_toJson.printable
  have hitems : ∀ item ∈ [s.toJson, Json.null], Printable item := by
    simp only [List.forall_mem_cons]
    exact ⟨hs, .null, by simp⟩
  have hprintable : Printable envelope :=
    printable_cons (.bool true) (printable_cons (.array _ hitems) printable_nil)
  have hdocument : Document envelope (Utf8.encode envelope.compact) :=
    document_spelled (spells_compact hprintable)
  have hwhole := decode_json_whole hdocument
  have hgood : Decodes Sidecar.record.read s.toJson s :=
    (decodes_iff (Sidecar.means_sidecar _) ⟨_, spells_compact hs⟩).mpr s.form_toJson.ofJson?_eq
  have hbad : ¬∃ other, Decodes Sidecar.record.read .null other := by
    rintro ⟨other, hother⟩
    have hparts := hwhole.2.2.2.2 .null ⟨_, .null⟩
    obtain ⟨v, hfield, -⟩ := ((hparts.1 other).mp hother).index
    cases hfield
  exact ⟨hdocument, hgood,
    hwhole.2.2.1 [s.toJson] .null [] (.member _ rfl) hbad⟩

end BlobRetrieval
