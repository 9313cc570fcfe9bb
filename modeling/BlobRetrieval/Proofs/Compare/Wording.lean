import BlobRetrieval.Compare.Check
import BlobRetrieval.Proofs.Text.Decimal

/-!
# A verdict is told by its wording

Every kind of verdict has an opening, and no opening begins another one. Behind the opening stand
numbers, each of which ends where no digit follows, or a message that goes on to the end. So two
verdicts are never worded alike, whatever a message says.
-/

set_option autoImplicit false

namespace BlobRetrieval.Verdict

open Decimal

inductive Kind where
  | same
  | statuses
  | counts
  | contents
  | failed (side : Side) (badPayload : Bool)
  deriving DecidableEq

def kind : Verdict → Kind
  | .same _ _ => .same
  | .statusMismatch _ _ => .statuses
  | .countMismatch _ _ => .counts
  | .dataMismatch _ => .contents
  | .failed side badPayload _ => .failed side badPayload

def Kind.opening : Kind → List Char
  | .same => "ok (HTTP ".toList
  | .statuses => "status mismatch: beacon ".toList
  | .counts => "count mismatch: beacon ".toList
  | .contents => "sidecar at position ".toList
  | .failed side true => side.name.toList ++ " returned an unusable payload: ".toList
  | .failed side false => side.name.toList ++ " fetch failed: ".toList

def details : Verdict → List Char
  | .same status count => digits status.toNat ++ (", ".toList ++ (digits count ++ " sidecars)".toList))
  | .statusMismatch beacon archiver =>
    digits beacon.toNat ++ (", archiver ".toList ++ digits archiver.toNat)
  | .countMismatch beacon archiver => digits beacon ++ (", archiver ".toList ++ digits archiver)
  | .dataMismatch position => digits position ++ " differs".toList
  | .failed _ _ message => message.toList

theorem toList_message (v : Verdict) : v.message.toList = v.kind.opening ++ v.details := by
  cases v with
  | same status count =>
    change ("ok (HTTP " ++ toString status.toNat ++ ", " ++ toString count ++ " sidecars)").toList
      = "ok (HTTP ".toList ++ _
    simp only [details, String.toList_append, toList_toString, List.append_assoc]
  | statusMismatch beacon archiver =>
    change ("status mismatch: beacon " ++ toString beacon.toNat ++ ", archiver "
      ++ toString archiver.toNat).toList = "status mismatch: beacon ".toList ++ _
    simp only [details, String.toList_append, toList_toString, List.append_assoc]
  | countMismatch beacon archiver =>
    change ("count mismatch: beacon " ++ toString beacon ++ ", archiver "
      ++ toString archiver).toList = "count mismatch: beacon ".toList ++ _
    simp only [details, String.toList_append, toList_toString, List.append_assoc]
  | dataMismatch position =>
    change ("sidecar at position " ++ toString position ++ " differs").toList
      = "sidecar at position ".toList ++ _
    simp only [details, String.toList_append, toList_toString, List.append_assoc]
  | failed side badPayload text =>
    cases badPayload with
    | true =>
      change (side.name ++ " returned an unusable payload: " ++ text).toList
        = side.name.toList ++ " returned an unusable payload: ".toList ++ text.toList
      simp only [String.toList_append]
    | false =>
      change (side.name ++ " fetch failed: " ++ text).toList
        = side.name.toList ++ " fetch failed: ".toList ++ text.toList
      simp only [String.toList_append]

def kinds : List Kind :=
  [.same, .statuses, .counts, .contents, .failed .beacon true, .failed .beacon false,
    .failed .archiver true, .failed .archiver false]

theorem mem_kinds (a : Kind) : a ∈ kinds := by
  cases a with
  | failed side badPayload => cases side <;> cases badPayload <;> decide
  | _ => decide

theorem opening_apart {a b : Kind} (h : a.opening <+: b.opening) : a = b := by
  have hall : ∀ a ∈ kinds, ∀ b ∈ kinds, a.opening <+: b.opening → a = b := by decide
  exact hall a (mem_kinds a) b (mem_kinds b) h

theorem opening_append_inj {a b : Kind} {rest left : List Char}
    (h : a.opening ++ rest = b.opening ++ left) : a = b ∧ rest = left := by
  have ha : a.opening <+: b.opening ++ left := h ▸ List.prefix_append a.opening rest
  have hb : b.opening <+: b.opening ++ left := List.prefix_append b.opening left
  have hkind : a = b := by
    rcases List.prefix_or_prefix_of_prefix ha hb with hle | hle
    · exact opening_apart hle
    · exact (opening_apart hle).symm
  subst hkind
  exact ⟨rfl, List.append_cancel_left h⟩

theorem details_inj {v w : Verdict} (hkind : v.kind = w.kind) (h : v.details = w.details) :
    v = w := by
  cases v with
  | same status count =>
    cases w with
    | same status' count' =>
      obtain ⟨hstatus, hrest⟩ := digits_separated_inj (by decide) h
      have hcount := digits_inj.mp (List.append_cancel_right hrest)
      rw [UInt16.toNat_inj.mp hstatus, hcount]
    | _ => contradiction
  | statusMismatch beacon archiver =>
    cases w with
    | statusMismatch beacon' archiver' =>
      obtain ⟨hbeacon, harchiver⟩ := digits_separated_inj (by decide) h
      rw [UInt16.toNat_inj.mp hbeacon, UInt16.toNat_inj.mp (digits_inj.mp harchiver)]
    | _ => contradiction
  | countMismatch beacon archiver =>
    cases w with
    | countMismatch beacon' archiver' =>
      obtain ⟨hbeacon, harchiver⟩ := digits_separated_inj (by decide) h
      rw [hbeacon, digits_inj.mp harchiver]
    | _ => contradiction
  | dataMismatch position =>
    cases w with
    | dataMismatch position' =>
      rw [digits_inj.mp (List.append_cancel_right h)]
    | _ => contradiction
  | failed side badPayload text =>
    cases w with
    | failed side' badPayload' text' =>
      have htext : text = text' := String.toList_injective h
      obtain ⟨rfl, rfl⟩ := Kind.failed.inj hkind
      rw [htext]
    | _ => contradiction

theorem message_inj {v w : Verdict} : v.message = w.message ↔ v = w := by
  constructor
  · intro h
    have hlist := congrArg String.toList h
    rw [toList_message, toList_message] at hlist
    obtain ⟨hkind, hdetails⟩ := opening_append_inj hlist
    exact details_inj hkind hdetails
  · exact congrArg message

theorem isMatch_iff_kind (v : Verdict) : v.isMatch = true ↔ v.kind = .same := by
  cases v <;> simp [isMatch, kind]

/-- Every opening is long enough to tell whether it is that of a match. -/
theorem ok_prefix_iff (a : Kind) (rest : List Char) :
    "ok (".toList <+: a.opening ++ rest ↔ a = .same := by
  have hlong : ∀ a ∈ kinds, "ok (".toList.length ≤ a.opening.length := by decide
  have hall : ∀ a ∈ kinds, "ok (".toList = a.opening.take "ok (".toList.length ↔ a = .same := by
    decide
  rw [List.prefix_iff_eq_take, List.take_append_of_le_length (hlong a (mem_kinds a))]
  exact hall a (mem_kinds a)

/-- Verdicts that are worded alike are the same, and so are those on one identifier that are
printed alike. The wording of a match, and no other one, starts with `ok (`. -/
theorem message_tells (v w : Verdict) :
    (v.message = w.message ↔ v = w) ∧
    (∀ id, verdictLine (id, v) = verdictLine (id, w) ↔ v = w) ∧
    ("ok (".toList <+: v.message.toList ↔ v.isMatch = true) := by
  refine ⟨message_inj, fun id => ?_, ?_⟩
  · rw [verdictLine, verdictLine, ← message_inj]
    constructor
    · intro h
      have hlist := congrArg String.toList h
      simp only [String.toList_append] at hlist
      exact String.toList_injective (List.append_cancel_left (List.append_cancel_right hlist))
    · intro h
      rw [h]
  · rw [toList_message, ok_prefix_iff, isMatch_iff_kind]

end BlobRetrieval.Verdict
