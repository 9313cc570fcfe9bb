import Mathlib.Data.List.DropRight
import BlobRetrieval.Fetch.Client

/-!
# Addresses of a client

A client keeps its base address without the slashes at the end. What it keeps is told by
two facts: it does not end in a slash, and with some slashes behind it, it is what was given.
-/

set_option autoImplicit false

namespace BlobRetrieval

def slashes (n : Nat) : String :=
  String.ofList (List.replicate n '/')

def Unslashed (text : String) : Prop :=
  text.toList.getLast? ≠ some '/'

structure LongestUnslashed (text front : String) : Prop where
  begins : front.toList <+: text.toList
  unslashed : Unslashed front
  longest : ∀ other : String, other.toList <+: text.toList → Unslashed other →
    other.toList <+: front.toList

section Slashes

variable {text front : String} {n : Nat}

theorem toList_slashes (n : Nat) : (slashes n).toList = List.replicate n '/' :=
  String.toList_ofList

theorem toList_trimSlashes (text : String) :
    (trimSlashes text).toList = text.toList.rdropWhile (· = '/') :=
  String.toList_ofList

theorem unslashed_trimSlashes (text : String) : Unslashed (trimSlashes text) := by
  intro hlast
  rw [toList_trimSlashes] at hlast
  have hne : text.toList.rdropWhile (· = '/') ≠ [] := by
    intro hnil
    rw [hnil] at hlast
    contradiction
  rw [List.getLast?_eq_some_getLast hne] at hlast
  exact List.rdropWhile_last_not _ text.toList hne (decide_eq_true (Option.some.inj hlast))

/-- Nothing but slashes is cut off. -/
theorem exists_slashes (text : String) : ∃ n, text = trimSlashes text ++ slashes n := by
  have hback : ∀ c ∈ text.toList.rtakeWhile (· = '/'), c = '/' :=
    fun c hc => of_decide_eq_true (List.mem_rtakeWhile_imp (p := fun c => decide (c = '/')) hc)
  refine ⟨(text.toList.rtakeWhile (· = '/')).length, String.toList_injective ?_⟩
  rw [String.toList_append, toList_trimSlashes, toList_slashes, ← List.eq_replicate_of_mem hback,
    List.rdropWhile_append_rtakeWhile]

/-- A front without a slash at its end is a front of what stands before the slashes. -/
theorem front_of_unslashed {other : String} (h : other.toList <+: (front ++ slashes n).toList)
    (ho : Unslashed other) : other.toList <+: front.toList := by
  rw [String.toList_append, toList_slashes] at h
  induction n with
  | zero => rwa [List.replicate_zero, List.append_nil] at h
  | succ n ih =>
    rw [List.replicate_succ', ← List.append_assoc, List.prefix_concat_iff] at h
    refine h.elim (fun heq => absurd ?_ ho) ih
    rw [heq, List.getLast?_concat]

/-- What is kept is the one front that does not end in a slash and lacks only slashes. -/
theorem trimSlashes_eq_iff :
    trimSlashes text = front ↔ Unslashed front ∧ ∃ n, text = front ++ slashes n := by
  constructor
  · rintro rfl
    exact ⟨unslashed_trimSlashes text, exists_slashes text⟩
  · rintro ⟨hfront, n, rfl⟩
    obtain ⟨m, hm⟩ := exists_slashes (front ++ slashes n)
    -- Each of the two is a front of the other.
    have hle : (trimSlashes (front ++ slashes n)).toList <+: front.toList := by
      refine front_of_unslashed (n := n) ?_ (unslashed_trimSlashes _)
      rw [toList_trimSlashes]
      exact List.rdropWhile_prefix _ _
    have hge : front.toList <+: (trimSlashes (front ++ slashes n)).toList := by
      refine front_of_unslashed (n := m) ?_ hfront
      rw [← hm, String.toList_append]
      exact List.prefix_append _ _
    exact String.toList_injective (hle.eq_of_length_le hge.length_le)

theorem longestUnslashed_trimSlashes (text : String) :
    LongestUnslashed text (trimSlashes text) := by
  obtain ⟨n, hn⟩ := exists_slashes text
  refine ⟨?_, unslashed_trimSlashes text, fun other hother ho => ?_⟩
  · rw [toList_trimSlashes]
    exact List.rdropWhile_prefix _ _
  · rw [hn] at hother
    exact front_of_unslashed hother ho

theorem trimSlashes_append (text : String) (n : Nat) :
    trimSlashes (text ++ slashes n) = trimSlashes text := by
  obtain ⟨m, hm⟩ := exists_slashes text
  refine trimSlashes_eq_iff.mpr ⟨unslashed_trimSlashes text, m + n, ?_⟩
  apply String.toList_injective
  conv_lhs => rw [hm]
  simp only [String.toList_append, toList_slashes, List.append_assoc, List.replicate_append_replicate]

theorem trimSlashes_trimSlashes (text : String) :
    trimSlashes (trimSlashes text) = trimSlashes text := by
  refine trimSlashes_eq_iff.mpr ⟨unslashed_trimSlashes text, 0, ?_⟩
  exact String.toList_injective (by rw [String.toList_append, toList_slashes]; simp)

theorem trimSlashes_eq_empty_iff : trimSlashes text = "" ↔ ∀ c ∈ text.toList, c = '/' := by
  rw [← String.toList_eq_nil_iff, toList_trimSlashes, List.rdropWhile_eq_nil_iff]
  simp only [decide_eq_true_eq]

end Slashes

namespace Client

theorem url_eq (client : Client) (id : String) :
    client.url id = client.base ++ "/eth/v1/beacon/blob_sidecars/" ++ id := by
  have hpath : "/eth/v1/beacon/blob_sidecars/" = sidecarsPath ++ "/" := rfl
  rw [url, hpath]
  simp only [String.append_assoc]

theorem url_injective (client : Client) : Function.Injective client.url := by
  intro id other h
  rw [url_eq, url_eq] at h
  exact (String.append_right_inj _).mp h

/-- Between a base that is not empty and the path there is one slash. -/
theorem url_joined {client : Client} (hbase : Unslashed client.base) (hne : client.base ≠ "")
    (id : String) : ∃ front last, last ≠ '/' ∧ client.base.toList = front ++ [last] ∧
      (client.url id).toList =
        front ++ last :: '/' :: ("eth/v1/beacon/blob_sidecars/" ++ id).toList := by
  have hnil : client.base.toList ≠ [] := fun h => hne (String.toList_eq_nil_iff.mp h)
  have hsplit := List.dropLast_append_getLast hnil
  refine ⟨_, client.base.toList.getLast hnil, fun h => hbase ?_, hsplit.symm, ?_⟩
  · rw [List.getLast?_eq_some_getLast hnil, h]
  · have hpath : "/eth/v1/beacon/blob_sidecars/".toList =
        '/' :: "eth/v1/beacon/blob_sidecars/".toList := rfl
    rw [url_eq, String.toList_append, String.toList_append, String.toList_append, hpath]
    conv_lhs => rw [← hsplit]
    simp only [List.append_assoc, List.cons_append, List.nil_append]

/-- Slashes at the end of a base make no difference to the client, which keeps the longest front
that does not end in one. Its addresses are this front, the path and the identifier, as they are:
one slash joins them, and no two identifiers share an address. -/
theorem url_of_base (base : String) (agent : Option String) (transport : Transport) (n : Nat) :
    let client := Client.new base agent transport
    Client.new (base ++ slashes n) agent transport = client ∧
    LongestUnslashed base client.base ∧
    (client.base = "" ↔ ∀ c ∈ base.toList, c = '/') ∧
    Client.new client.base agent transport = client ∧
    (∀ id, client.url id = client.base ++ "/eth/v1/beacon/blob_sidecars/" ++ id) ∧
    (client.base ≠ "" → ∀ id, ∃ front last, last ≠ '/' ∧ client.base.toList = front ++ [last] ∧
      (client.url id).toList =
        front ++ last :: '/' :: ("eth/v1/beacon/blob_sidecars/" ++ id).toList) ∧
    Function.Injective client.url := by
  intro client
  have hbase : client.base = trimSlashes base := rfl
  refine ⟨?_, ?_, ?_, ?_, client.url_eq, ?_, client.url_injective⟩
  · rw [Client.new, trimSlashes_append]
    rfl
  · rw [hbase]
    exact longestUnslashed_trimSlashes base
  · rw [hbase]
    exact trimSlashes_eq_empty_iff
  · rw [Client.new, hbase, trimSlashes_trimSlashes]
    rfl
  · exact url_joined (hbase ▸ unslashed_trimSlashes base)

/-- Slashes inside a base stay. -/
theorem url_of_base_inner_slashes :
    let client := Client.new "http://beacon.example//eth//"
    client.base = "http://beacon.example//eth" ∧ client.base ≠ "" ∧
      ∃ front last, last ≠ '/' ∧ client.base.toList = front ++ [last] ∧
        (client.url "head").toList =
          front ++ last :: '/' :: ("eth/v1/beacon/blob_sidecars/" ++ "head").toList := by
  intro client
  have hbase : client.base = "http://beacon.example//eth" := by decide
  have hne : client.base ≠ "" := by rw [hbase]; decide
  have hurl := url_of_base "http://beacon.example//eth//" none .standard 0
  exact ⟨hbase, hne, hurl.2.2.2.2.2.1 hne "head"⟩

end Client

end BlobRetrieval
