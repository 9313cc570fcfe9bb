import BlobRetrieval.Proofs.Fetch.Format
import BlobRetrieval.Proofs.Fetch.Session
import BlobRetrieval.Proofs.Json.CutShort
import BlobRetrieval.Sidecar.Sample

/-!
# Collections that are cut short

A collection in JSON is not read any more when a byte of it is missing. A binary one is
read as a shorter collection if it was cut between two sidecars, and otherwise not. The
length that a server announces makes up for that: a body that ends before it is refused
in both formats, wherever it ends.
-/

set_option autoImplicit false

namespace BlobRetrieval

open Json

theorem BlockHeader.fieldsProlong : BlockHeader.record.FieldsProlong := by
  simp only [Record.FieldsProlong, BlockHeader.record, List.forall_mem_cons]
  exact ⟨prolongs_required prolongs_readQuoted, prolongs_required prolongs_readQuoted,
    prolongs_required (prolongs_readVector _), prolongs_required (prolongs_readVector _),
    prolongs_required (prolongs_readVector _), by simp⟩

theorem SignedBlockHeader.fieldsProlong : SignedBlockHeader.record.FieldsProlong := by
  simp only [Record.FieldsProlong, SignedBlockHeader.record, List.forall_mem_cons]
  exact ⟨prolongs_required (prolongs_read BlockHeader.fieldsProlong),
    prolongs_required (prolongs_readVector _), by simp⟩

theorem InclusionProof.prolongs_read : Prolongs InclusionProof.read InclusionProof.read := by
  refine prolongs_arrayOf (prolongs_bind (prolongs_exactly (prolongs_readVector _) _ _ _) ?_)
  intro branches
  split
  · exact (steady_pure _).prolongs
  · exact (steady_failUnplaced _).prolongs

theorem Sidecar.fieldsProlong : Sidecar.record.FieldsProlong := by
  simp only [Record.FieldsProlong, Sidecar.record, List.forall_mem_cons]
  exact ⟨prolongs_required prolongs_readQuoted, prolongs_required prolongs_readBlob,
    prolongs_required (prolongs_readVector _), prolongs_required (prolongs_readVector _),
    prolongs_required (Json.prolongs_read SignedBlockHeader.fieldsProlong),
    prolongs_required InclusionProof.prolongs_read, by simp⟩

theorem fieldsProlong_envelope : envelope.FieldsProlong := by
  simp only [Record.FieldsProlong, envelope, List.forall_mem_cons]
  exact ⟨prolongs_required (prolongs_listOf (prolongs_read Sidecar.fieldsProlong)), by simp⟩

namespace Format

theorem decode_json_take {body : Bytes} {c : List Sidecar} (h : Format.json.decode body = .ok c)
    (n : Nat) (hd : ∃ b ∈ body.drop n, isBlank b = false) :
    ∃ error, Format.json.decode (body.take n) = .error (.json error) := by
  have hwhole : Json.decode envelope.read (body.take n ++ body.drop n) = .ok c := by
    rw [List.take_append_drop]
    exact (decode_json_eq_ok body c).mp h
  obtain ⟨error, he⟩ := decode_front (delimited_read fieldsProlong_envelope) hwhole hd
  exact ⟨error, by rw [decode, he]; rfl⟩

end Format

namespace Ssz

theorem take_flatMap_write (l : List Sidecar) (j : Nat) :
    (l.flatMap sidecar.write).take (j * sidecarSize) = (l.take j).flatMap sidecar.write := by
  induction l generalizing j with
  | nil => simp
  | cons s l ih =>
    cases j with
    | zero => simp
    | succ j =>
      have hs : (sidecar.write s).length = sidecarSize := sidecar.length_write s
      rw [List.take_succ_cons, List.flatMap_cons, List.flatMap_cons, Nat.succ_mul,
        Nat.add_comm, List.take_append, hs, Nat.add_sub_cancel_left, ih,
        List.take_of_length_le (by omega)]

/-- The bytes of a list up to the edge between two sidecars are the bytes of a shorter list. -/
theorem take_encodeList (l : List Sidecar) (j : Nat) :
    (encodeList l).take (offsetSize + j * sidecarSize) = encodeList (l.take j) := by
  have ho : (LittleEndian.encode offsetSize offsetSize).length = offsetSize :=
    LittleEndian.length_encode _ _
  rw [encodeList, encodeList, ← take_flatMap_write, List.take_append, ho,
    Nat.add_sub_cancel_left, List.take_of_length_le (by omega)]

end Ssz

namespace Format

variable {body : Bytes} {c : List Sidecar}

theorem decode_ssz_take (h : Format.ssz.decode body = .ok c) (j : Nat) :
    Format.ssz.decode (body.take (4 + j * 131928)) = .ok (c.take j) := by
  obtain ⟨hmax, rfl⟩ := (decode_ssz_eq_ok body c).mp h
  rw [decode_ssz_eq_ok]
  refine ⟨?_, Ssz.take_encodeList c j⟩
  rw [List.length_take]
  omega

theorem exists_decode_ssz_take (h : Format.ssz.decode body = .ok c) (n : Nat)
    (hn : n < body.length) :
    (∃ d, Format.ssz.decode (body.take n) = .ok d) ↔ ∃ j < c.length, n = 4 + j * 131928 := by
  constructor
  · rintro ⟨d, hd⟩
    -- The length of what is read tells how many sidecars it holds.
    obtain ⟨-, rfl⟩ := (decode_ssz_eq_ok body c).mp h
    obtain ⟨-, hfront⟩ := (decode_ssz_eq_ok _ d).mp hd
    have hlength := congrArg List.length hfront
    rw [List.length_take_of_le hn.le, Ssz.length_encodeList] at hlength
    rw [hlength, Ssz.length_encodeList] at hn
    simp only [Ssz.offsetSize, Ssz.sidecarSize_eq] at hn hlength
    exact ⟨d.length, by omega, hlength⟩
  · rintro ⟨j, -, rfl⟩
    exact ⟨c.take j, decode_ssz_take h j⟩

end Format

theorem Response.payload?_cut {response : Response} {length : Nat}
    (hl : response.declaredLength = some length) (hb : response.body.length < length) :
    response.payload? = none := by
  rw [payload?, hl]
  exact if_neg (Nat.not_le.mpr hb)

theorem Turn.outcome_of_unreadable {client : Client} {turn : Turn} {response : Response}
    (ha : turn.Answered client response) (hs : response.status = 200)
    (hb : response.payload? = none) :
    ∃ error, (turn.call client).outcome = .failed (.body error) := by
  obtain ⟨place, ho⟩ := Turn.outcome_of_answered ha
  rw [Client.receive_unreadable _ _ hs hb] at ho
  exact ⟨_, ho⟩

/-- Only at the edge between two sidecars does a part of a body pass for a body, and only in
binary. A body that ends before its announced length is refused also there. -/
theorem cut_short (body : Bytes) (c : List Sidecar) :
    (Format.json.decode body = .ok c → ∀ n, (∃ b ∈ body.drop n, isBlank b = false) →
      ∃ error, Format.json.decode (body.take n) = .error (.json error)) ∧
    (Format.ssz.decode body = .ok c → ∀ n < body.length,
      ((∃ d, Format.ssz.decode (body.take n) = .ok d) ↔ ∃ j < c.length, n = 4 + j * 131928) ∧
      ∀ j < c.length, n = 4 + j * 131928 →
        Format.ssz.decode (body.take n) = .ok (c.take j)) ∧
    ∀ (client : Client) (turn : Turn) (response : Response) (length : Nat),
      turn.Answered client response → response.status = 200 →
      response.declaredLength = some length → response.body.length < length →
      (turn.call client).outcome.status = 200 ∧ (turn.call client).outcome.sidecars = [] ∧
        ∃ error, (turn.call client).outcome.error? = some (.body error) := by
  refine ⟨Format.decode_json_take, ?_, ?_⟩
  · intro h n hn
    refine ⟨Format.exists_decode_ssz_take h n hn, ?_⟩
    rintro j - rfl
    exact Format.decode_ssz_take h j
  · intro client turn response length ha hs hl hb
    obtain ⟨error, ho⟩ := Turn.outcome_of_unreadable ha hs (Response.payload?_cut hl hb)
    rw [ho]
    exact ⟨rfl, rfl, error, rfl⟩

/-- An envelope without its closing bracket, the first of two binary sidecars, and a response
that ends between them. -/
theorem cut_short_first_of_two :
    let spaced := Utf8.encode " \x7b\"data\" :[ ] \x7d ".toList
    let body := Ssz.encodeList [Sample.sidecar 0 10, Sample.sidecar 1 10]
    let client := Client.new "http://beacon"
    let response : Response :=
      { status := 200, body := body.take 131932, declaredLength := some body.length }
    let turn : Turn := ⟨"7", .ssz, fun _ => .answered response⟩
    Format.json.decode spaced = .ok [] ∧
      (∃ error, Format.json.decode (spaced.take 13) = .error (.json error)) ∧
      Format.ssz.decode body = .ok [Sample.sidecar 0 10, Sample.sidecar 1 10] ∧
      Format.ssz.decode (body.take 131932) = .ok [Sample.sidecar 0 10] ∧
      turn.Answered client response ∧ response.body.length < body.length ∧
      ∃ error, (turn.call client).outcome.error? = some (.body error) := by
  intro spaced body client response turn
  have hjson : Format.json.decode spaced = .ok [] := by decide +kernel
  have hssz : Format.ssz.decode body = .ok [Sample.sidecar 0 10, Sample.sidecar 1 10] :=
    Format.decode_ssz_encode _
  have hlength : body.length = 263860 := Ssz.length_encodeList _
  have ha : turn.Answered client response := Turn.answered_of_isOk (by decide +kernel) rfl
  have hshort : response.body.length < body.length := by
    show (body.take 131932).length < body.length
    rw [List.length_take, hlength]
    decide
  have hfront := ((cut_short body _).2.1 hssz 131932 (by rw [hlength]; decide)).2 1 (by decide) rfl
  have hfailed := (cut_short body []).2.2 client turn response body.length ha rfl rfl hshort
  exact ⟨hjson, (cut_short spaced []).1 hjson 13 ⟨125, by decide, by decide⟩, hssz, hfront, ha,
    hshort, hfailed.2.2⟩

end BlobRetrieval
