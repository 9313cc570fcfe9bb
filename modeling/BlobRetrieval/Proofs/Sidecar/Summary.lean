import Mathlib.Data.List.Forall2
import BlobRetrieval.Proofs.Text.Decimal
import BlobRetrieval.Proofs.Text.Hex
import BlobRetrieval.Sidecar.Summary

/-!
# What a summary tells

Behind its heading a summary has one line for each sidecar, and the line tells the index, the slot
and the commitment. A number that outgrows its column still ends in front of the space that
follows. So two summaries for one identifier are the same only if they report the same.
-/

set_option autoImplicit false

namespace BlobRetrieval

namespace Summary

open Decimal

def Fills (width n : Nat) (text : List Char) : Prop :=
  ∃ spaces, text = digits n ++ List.replicate spaces ' ' ∧
    text.length = max width (digits n).length

def Describes (s : Sidecar) (text : List Char) : Prop :=
  ∃ index slot, Fills 4 s.index.toNat index ∧ Fills 10 s.slot.toNat slot ∧
    text = "  index=".toList ++ (index ++ (" slot=".toList ++ (slot ++
      (" commitment=0x".toList ++ Hex.encode s.commitment.bytes))))

structure Alike (s t : Sidecar) : Prop where
  index : s.index = t.index
  slot : s.slot = t.slot
  commitment : s.commitment = t.commitment

theorem fills_padTo (width n : Nat) : Fills width n (padTo width (digits n)) := by
  refine ⟨width - (digits n).length, rfl, ?_⟩
  rw [padTo, List.length_append, List.length_replicate]
  omega

theorem Fills.unique {width n : Nat} {text other : List Char} (h : Fills width n text)
    (ho : Fills width n other) : text = other := by
  obtain ⟨spaces, rfl, hlength⟩ := h
  obtain ⟨spaces', rfl, hlength'⟩ := ho
  rw [List.length_append, List.length_replicate] at hlength hlength'
  have hspaces : spaces = spaces' := by omega
  rw [hspaces]

/-- The spaces of a column and the space behind it end the number, and the width of the column
tells where the spaces end. -/
theorem Fills.inj {width m n : Nat} {text other separator rest left : List Char}
    (hseparator : separator.head? = some ' ') (ht : Fills width m text)
    (ho : Fills width n other) (h : text ++ (separator ++ rest) = other ++ (separator ++ left)) :
    m = n ∧ rest = left := by
  have hhead (spaces : Nat) (behind : List Char) :
      ∀ c ∈ (List.replicate spaces ' ' ++ (separator ++ behind)).head?, c.isDigit = false := by
    intro c hc
    have hc : some ' ' = some c := by
      cases spaces with
      | zero => rwa [List.replicate_zero, List.nil_append, List.head?_append, hseparator] at hc
      | succ spaces => exact hc
    cases hc
    rfl
  have hnumber : m = n := by
    obtain ⟨spaces, rfl, -⟩ := ht
    obtain ⟨spaces', rfl, -⟩ := ho
    rw [List.append_assoc, List.append_assoc] at h
    exact (digits_append_inj (hhead spaces rest) (hhead spaces' left) h).1
  subst hnumber
  rw [ht.unique ho] at h
  exact ⟨rfl, List.append_cancel_left (List.append_cancel_left h)⟩

/-- The widest index outgrows its column, so no space is added behind it. -/
example : padTo 4 (digits 18446744073709551615) = "18446744073709551615".toList := by
  decide

theorem Describes.alike {s t : Sidecar} {text : List Char} (hs : Describes s text)
    (ht : Describes t text) : Alike s t := by
  obtain ⟨index, slot, hindex, hslot, htext⟩ := hs
  obtain ⟨index', slot', hindex', hslot', htext'⟩ := ht
  rw [htext] at htext'
  have hline := List.append_cancel_left htext'
  obtain ⟨hi, hbehind⟩ := hindex.inj (by decide) hindex' hline
  obtain ⟨hn, hhex⟩ := hslot.inj (by decide) hslot' hbehind
  exact ⟨UInt64.toNat_inj.mp hi, UInt64.toNat_inj.mp hn, ByteVector.ext (Hex.encode_inj.mp hhex)⟩

def content (s : Sidecar) : List Char :=
  "  index=".toList ++ (padTo 4 (digits s.index.toNat) ++ (" slot=".toList ++
    (padTo 10 (digits s.slot.toNat) ++
      (" commitment=0x".toList ++ Hex.encode s.commitment.bytes))))

theorem line_eq (s : Sidecar) : line s = content s ++ ['\n'] := by
  have hmark : " commitment=".toList ++ Hex.marked s.commitment.bytes =
      " commitment=0x".toList ++ Hex.encode s.commitment.bytes := rfl
  unfold line content
  simp only [← hmark, List.append_assoc]

theorem describes_content (s : Sidecar) : Describes s (content s) :=
  ⟨_, _, fills_padTo 4 _, fills_padTo 10 _, rfl⟩

theorem content_eq_iff {s t : Sidecar} : content s = content t ↔ Alike s t := by
  constructor
  · intro h
    exact (h ▸ describes_content s).alike (describes_content t)
  · intro h
    unfold content
    rw [h.index, h.slot, h.commitment]

theorem newline_notMem_padTo (width n : Nat) : '\n' ∉ padTo width (digits n) := by
  intro h
  rcases List.mem_append.mp h with hdigit | hspace
  · exact absurd (isDigit_digits n _ hdigit) (by decide)
  · exact absurd (List.eq_of_mem_replicate hspace) (by decide)

theorem newline_notMem_content (s : Sidecar) : '\n' ∉ content s := by
  have hhex : '\n' ∉ Hex.encode s.commitment.bytes :=
    fun h => Hex.of_mem_encode (P := (· ≠ '\n')) (by decide) h rfl
  unfold content
  simp only [List.mem_append, not_or]
  exact ⟨by decide, newline_notMem_padTo 4 _, by decide, newline_notMem_padTo 10 _, by decide, hhex⟩

theorem toList_summarize (id : String) (c : List Sidecar) :
    (summarize id c).toList = heading id c.length ++ ofLines (c.map content) := by
  have hlines : c.flatMap line = ofLines (c.map content) := by
    rw [ofLines, List.flatMap_map]
    exact List.flatMap_congr fun s _ => line_eq s
  rw [← hlines]
  exact String.toList_ofList

theorem heading_append (id : String) (count : Nat) (rest : List Char) :
    heading id count ++ rest = "Sidecars for ".toList ++ (id.toList ++ (": ".toList ++
      (digits count ++ (['\n'] ++ rest)))) := by
  unfold heading
  simp only [List.append_assoc]

theorem map_content_eq_iff {c d : List Sidecar} :
    c.map content = d.map content ↔ List.Forall₂ Alike c d := by
  have hsame : c.map content = d.map content ↔
      List.Forall₂ (fun s t => content s = content t) c d := by
    rw [← List.forall₂_map_right_iff, ← List.forall₂_map_left_iff, List.forall₂_eq_eq_eq]
  rw [hsame]
  constructor
  · exact List.Forall₂.imp fun _ _ h => content_eq_iff.mp h
  · exact List.Forall₂.imp fun _ _ h => content_eq_iff.mpr h

theorem summarize_eq_iff {id : String} {c d : List Sidecar} :
    summarize id c = summarize id d ↔ c.map content = d.map content := by
  have hplain (l : List Sidecar) : ∀ line ∈ l.map content, '\n' ∉ line :=
    List.forall_mem_map.mpr fun s _ => newline_notMem_content s
  constructor
  · intro h
    have hlist := congrArg String.toList h
    rw [toList_summarize, toList_summarize, heading_append, heading_append] at hlist
    have hnumber := List.append_cancel_left (List.append_cancel_left (List.append_cancel_left hlist))
    obtain ⟨-, hlines⟩ := digits_separated_inj (by decide) hnumber
    exact ofLines_inj (hplain c) (hplain d) hlines
  · intro h
    have hlength : c.length = d.length := by
      rw [← List.length_map (f := content), h, List.length_map]
    apply String.toList_injective
    rw [toList_summarize, toList_summarize, h, hlength]

end Summary

open Summary

/-- Behind a heading that ends in the number of sidecars there is one line for each of them, in
order, and it tells the index, the slot and the commitment in full. Two collections have the same
summary just if they are of one length and alike in these three at every position. -/
theorem summarize_lossless (id : String) (c : List Sidecar) :
    (∃ lines, (summarize id c).toList = "Sidecars for ".toList ++ (id.toList ++ (": ".toList ++
        (Decimal.digits c.length ++ (['\n'] ++ ofLines lines)))) ∧
      List.Forall₂ Describes c lines ∧ ∀ line ∈ lines, '\n' ∉ line) ∧
    ∀ d, summarize id c = summarize id d ↔ List.Forall₂ Alike c d := by
  constructor
  · refine ⟨c.map content, ?_, ?_, ?_⟩
    · rw [toList_summarize, heading_append]
    · rw [List.forall₂_map_right_iff, List.forall₂_same]
      exact fun s _ => describes_content s
    · exact List.forall_mem_map.mpr fun s _ => newline_notMem_content s
  · intro d
    rw [summarize_eq_iff, map_content_eq_iff]

end BlobRetrieval
