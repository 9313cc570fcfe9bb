import BlobRetrieval.Proofs.Fetch.Format
import BlobRetrieval.Proofs.Fetch.Session

/-!
# No body is read in both formats

The offset at the front of a binary collection is no beginning of a JSON value. So a body
that is read in one format is refused in the other one, for its first byte in JSON and for
its framing in binary, and a server that answers in the wrong format is found out.
-/

set_option autoImplicit false

namespace BlobRetrieval

namespace Json

variable {δ α : Type}

/-- The offset's first byte is looked at and left. -/
theorem on_read_offset (r : Record δ α) (rest : Bytes) :
    Reader.on r.read (4 :: rest) = (.error ⟨.noValue, some ⟨rest.length, 0⟩⟩, 4 :: rest) :=
  rfl

theorem decode_offset (r : Record δ α) (rest : Bytes) :
    decode r.read (4 :: rest) = .error ⟨.noValue, some (1, 1)⟩ := by
  have htake : (4 :: rest).take ((4 :: rest).length - rest.length) = [4] := by
    simp
  simp only [decode, Reader.on_bind, on_read_offset, Fault.report, Option.map_some, htake]
  rfl

end Json

namespace Format

def other : Format → Format
  | .json => .ssz
  | .ssz => .json

theorem decode_json_framed {count : Nat} {body : Bytes} (h : Ssz.Framed count body) :
    Format.json.decode body = .error (.json ⟨.noValue, some (1, 1)⟩) := by
  obtain ⟨content, rfl, -⟩ := h
  rw [decode, List.cons_append, Json.decode_offset]
  rfl

theorem decode_json_of_ssz {body : Bytes} {c : List Sidecar}
    (h : Format.ssz.decode body = .ok c) :
    Format.json.decode body = .error (.json ⟨.noValue, some (1, 1)⟩) := by
  obtain ⟨-, hbody⟩ := (decode_ssz_eq_ok body c).mp h
  exact decode_json_framed ((Ssz.framed_iff c.length body).mpr ⟨c, rfl, hbody⟩)

theorem decode_ssz_of_json {body : Bytes} {c : List Sidecar}
    (h : Format.json.decode body = .ok c) :
    ∃ error, Format.ssz.decode body = .error (.ssz (.decode error)) := by
  have hframed : ∀ count, ¬Ssz.Framed count body := by
    intro count hf
    rw [decode_json_framed hf] at h
    cases h
  obtain ⟨error, he⟩ := (Ssz.decodeList_eq_decode body).mpr hframed
  exact ⟨error, by rw [decode, he]; rfl⟩

end Format

def PayloadError.format : PayloadError → Format
  | .json _ => .json
  | .ssz _ => .ssz

theorem Format.decode_of_other {format : Format} {body : Bytes} {c : List Sidecar}
    (h : format.other.decode body = .ok c) :
    ∃ error, error.format = format ∧ format.decode body = .error error := by
  cases format with
  | json => exact ⟨_, rfl, decode_json_of_ssz h⟩
  | ssz =>
    obtain ⟨error, he⟩ := decode_ssz_of_json h
    exact ⟨_, rfl, he⟩

/-- At most one format accepts a body. A response that carries a collection in the format that
was not asked for makes the call fail, with the error of the format that was, whatever content
type it names. -/
theorem formats_exclusive (body : Bytes) :
    (∀ c, Format.json.decode body = .ok c →
      ∃ error, Format.ssz.decode body = .error (.ssz (.decode error))) ∧
    (∀ c, Format.ssz.decode body = .ok c →
      Format.json.decode body = .error (.json ⟨.noValue, some (1, 1)⟩)) ∧
    ∀ (client : Client) (turn : Turn) (response : Response) (c : List Sidecar),
      turn.Answered client response → response.status = 200 → response.payload? = some body →
      turn.format.other.decode body = .ok c →
      ∃ error, error.format = turn.format ∧ turn.format.decode body = .error error ∧
        (turn.call client).outcome.status = 200 ∧ (turn.call client).outcome.sidecars = [] ∧
        (turn.call client).outcome.error? = some (.payload error) := by
  refine ⟨fun _ => Format.decode_ssz_of_json, fun _ => Format.decode_json_of_ssz, ?_⟩
  intro client turn response c ha hs hb hc
  obtain ⟨error, hformat, herror⟩ := Format.decode_of_other hc
  have hr : turn.Receives client body := ⟨response, ha, hs, hb⟩
  refine ⟨error, hformat, herror, ?_⟩
  rw [hr.outcome_failed herror]
  exact ⟨rfl, rfl, rfl⟩

/-- The empty collection in binary, where JSON was asked for and is what the server names. -/
theorem formats_exclusive_empty :
    let client := Client.new "http://beacon"
    let response : Response :=
      { status := 200, contentType := some "application/json".toUTF8.toList, body := [4, 0, 0, 0] }
    let turn : Turn := ⟨"head", .json, fun _ => .answered response⟩
    turn.Answered client response ∧ response.status = 200 ∧
      response.payload? = some [4, 0, 0, 0] ∧ Format.ssz.decode [4, 0, 0, 0] = .ok [] ∧
      ∃ error, error.format = .json ∧ Format.json.decode [4, 0, 0, 0] = .error error ∧
        (turn.call client).outcome.status = 200 ∧ (turn.call client).outcome.sidecars = [] ∧
        (turn.call client).outcome.error? = some (.payload error) := by
  intro client response turn
  have ha : turn.Answered client response := Turn.answered_of_isOk (by decide +kernel) rfl
  have hc : Format.ssz.decode [4, 0, 0, 0] = .ok [] := rfl
  exact ⟨ha, rfl, rfl, hc, (formats_exclusive _).2.2 client turn response [] ha rfl rfl hc⟩

end BlobRetrieval
