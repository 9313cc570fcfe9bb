import BlobRetrieval.Proofs.Fetch.ContentType
import BlobRetrieval.Proofs.Fetch.Session
import BlobRetrieval.Proofs.Text.Decimal

/-!
# What a call logs

A call logs that it begins, perhaps that the content type is not the one asked for, and one
last event. The last event tells the outcome: which of the five kinds it is, with the status,
the count or the text of the error. The content type decides nothing but the warning.
-/

set_option autoImplicit false

namespace BlobRetrieval

namespace Event

def lastMessages : List String :=
  ["blob sidecar request failed", "blob sidecar request returned non-200",
    "failed to read blob sidecar response", "decoded blob sidecars",
    "failed to decode blob sidecar response"]

structure Tells (e : Event) (outcome : Outcome) : Prop where
  ends : e.message ∈ lastMessages
  requestFailed : e.message = "blob sidecar request failed" ↔
    ∃ error, outcome.error? = some (.transport error)
  otherStatus : ∀ status : UInt16, (e.message = "blob sidecar request returned non-200" ∧
      ⟨"status", toString status.toNat, false⟩ ∈ e.fields) ↔
    ∃ not_ok, outcome = .passthrough status not_ok
  unreadable : e.message = "failed to read blob sidecar response" ↔
    ∃ error, outcome.error? = some (.body error)
  decoded : ∀ count : Nat, (e.message = "decoded blob sidecars" ∧
      ⟨"count", toString count, false⟩ ∈ e.fields) ↔
    ∃ sidecars, outcome = .found sidecars ∧ sidecars.length = count
  undecodable : ∀ text, (e.message = "failed to decode blob sidecar response" ∧
      ⟨"error", text, false⟩ ∈ e.fields) ↔
    ∃ error, outcome.error? = some (.payload error) ∧ text = (FetchError.payload error).message

variable (url : String)

theorem requestFailed_tells (error : HttpError) :
    (requestFailed url error).Tells (.failed (.transport error)) := by
  constructor <;> simp [message, fields, lastMessages, Outcome.error?]

theorem otherStatus_tells (status : UInt16) (h : status ≠ okStatus) :
    (otherStatus url status).Tells (.passthrough status h) where
  ends := by simp [message, lastMessages]
  requestFailed := by simp [message, Outcome.error?]
  otherStatus other := by
    simp only [message, fields, List.mem_cons, LogField.mk.injEq, Decimal.toString_inj,
      UInt16.toNat_inj, Outcome.passthrough.injEq]
    constructor
    · rintro ⟨-, hmem⟩
      obtain rfl : other = status := by simpa using hmem
      exact ⟨h, rfl⟩
    · rintro ⟨-, rfl⟩
      simp
  unreadable := by simp [message, Outcome.error?]
  decoded := by simp [message]
  undecodable := by simp [message, Outcome.error?]

theorem bodyUnreadable_tells (error : HttpError) :
    (bodyUnreadable url error).Tells (.failed (.body error)) := by
  constructor <;> simp [message, fields, lastMessages, Outcome.error?]

theorem decoded_tells (sidecars : List Sidecar) :
    (decoded url sidecars.length).Tells (.found sidecars) where
  ends := by simp [message, lastMessages]
  requestFailed := by simp [message, Outcome.error?]
  otherStatus := by simp [message]
  unreadable := by simp [message, Outcome.error?]
  decoded count := by
    have hnumber : toString count = toString sidecars.length ↔ sidecars.length = count := by
      rw [Decimal.toString_inj, eq_comm]
    simpa [message, fields] using hnumber
  undecodable := by simp [message, Outcome.error?]

theorem undecodable_tells (format : Format) (error : PayloadError) :
    (undecodable url format (.payload error)).Tells (.failed (.payload error)) := by
  constructor <;> simp [message, fields, lastMessages, Outcome.error?]

theorem bodyEvent_tells (format : Format) (body : Bytes) :
    (Client.bodyEvent url format body).Tells (.ofBody format body) := by
  rw [Client.bodyEvent, Outcome.ofBody]
  cases format.decode body with
  | ok sidecars => exact decoded_tells url sidecars
  | error error => exact undecodable_tells url format error

def IsAbout (e : Event) : Prop :=
  e.fields.head? = some ⟨"url", url, false⟩

theorem isAbout_bodyEvent (format : Format) (body : Bytes) :
    (Client.bodyEvent url format body).IsAbout url := by
  rw [Client.bodyEvent]
  cases format.decode body <;> rfl

end Event

-- The same with another content type on every response.
def Delivery.relabelled (contentType : Option Bytes) : Delivery → Delivery
  | .unreachable => .unreachable
  | .unanswered => .unanswered
  | .answered response => .answered { response with contentType }
  | .redirected response location next =>
    .redirected { response with contentType } location fun request =>
      (next request).relabelled contentType

theorem Delivery.alike_relabelled (contentType : Option Bytes) (d : Delivery) :
    d.Alike (d.relabelled contentType) := by
  induction d with
  | unreachable => exact .lost _ _ rfl rfl
  | unanswered => exact .lost _ _ rfl rfl
  | answered response => exact .answered _ _ ⟨rfl, fun _ => rfl⟩
  | redirected response location next ih =>
    exact .redirected _ _ location _ _ ⟨rfl, fun _ => rfl⟩ ih

namespace Turn

variable {client : Client} {turn : Turn}

def Mislabelled (client : Client) (turn : Turn) : Prop :=
  ∃ response, turn.Answered client response ∧ response.status = 200 ∧
    response.Disagrees turn.format

theorem Answered.eq {response other : Response} (h : turn.Answered client response)
    (ho : turn.Answered client other) : other = response := by
  obtain ⟨place, hr⟩ := h
  obtain ⟨there, ho⟩ := ho
  rw [hr] at ho
  exact (congrArg Reply.response (Except.ok.inj ho)).symm

theorem mislabelled_iff {response : Response} (h : turn.Answered client response) :
    turn.Mislabelled client ↔ response.status = 200 ∧ response.Disagrees turn.format := by
  constructor
  · rintro ⟨other, ho, hs⟩
    rw [h.eq ho] at hs
    exact hs
  · intro hs
    exact ⟨response, h, hs⟩

structure Logs (client : Client) (turn : Turn) (first : Event) (warnings : List Event)
    (last : Event) : Prop where
  log : (turn.call client).log = first :: (warnings ++ [last])
  begins : first.level = .debug ∧ first.message = "fetching blob sidecars"
  warning : ∀ e ∈ warnings, e.level = .warn ∧
    e.message = "content type differs from requested format, decoding as requested"
  once : warnings.length ≤ 1
  warned : warnings ≠ [] ↔ turn.Mislabelled client
  about : ∀ e ∈ first :: (warnings ++ [last]), e.IsAbout (client.url turn.id)
  tells : last.Tells (turn.call client).outcome

section Logs

variable (last : Event) (habout : last.IsAbout (client.url turn.id))
  (hlast : last.Tells (turn.call client).outcome)

include habout hlast

theorem logs_unwarned (hm : ¬turn.Mislabelled client)
    (hlog : (turn.call client).log = [.fetching (client.url turn.id) turn.format, last]) :
    turn.Logs client (.fetching (client.url turn.id) turn.format) [] last where
  log := hlog
  begins := ⟨rfl, rfl⟩
  warning _ he := absurd he List.not_mem_nil
  once := Nat.zero_le 1
  warned := iff_of_false (fun h => h rfl) hm
  about e he := by
    simp only [List.nil_append, List.mem_cons, List.not_mem_nil, or_false] at he
    rcases he with rfl | rfl
    · rfl
    · exact habout
  tells := hlast

theorem logs_warned (hm : turn.Mislabelled client) {received : String}
    (hlog : (turn.call client).log = [.fetching (client.url turn.id) turn.format,
      .otherContentType (client.url turn.id) turn.format.mediaType received, last]) :
    turn.Logs client (.fetching (client.url turn.id) turn.format)
      [.otherContentType (client.url turn.id) turn.format.mediaType received] last where
  log := hlog
  begins := ⟨rfl, rfl⟩
  warning e he := by
    rw [List.mem_singleton.mp he]
    exact ⟨rfl, rfl⟩
  once := Nat.le_refl 1
  warned := iff_of_true nofun hm
  about e he := by
    simp only [List.cons_append, List.nil_append, List.mem_cons, List.not_mem_nil, or_false] at he
    rcases he with rfl | rfl | rfl
    · rfl
    · rfl
    · exact habout
  tells := hlast

/-- A response that is read is warned of just if its content type disagrees. -/
theorem logs_read {response : Response} (ha : turn.Answered client response)
    (hs : response.status = 200)
    (hlog : (turn.call client).log = .fetching (client.url turn.id) turn.format ::
      (Client.contentTypeWarning (client.url turn.id) turn.format response ++ [last])) :
    ∃ first warnings last, turn.Logs client first warnings last := by
  have hm := (mislabelled_iff ha).trans (and_iff_right hs)
  rw [Response.disagrees_iff] at hm
  rw [Client.contentTypeWarning] at hlog
  cases haccepts : turn.format.accepts response.contentTypeText? with
  | true =>
    rw [haccepts] at hm hlog
    exact ⟨_, _, _, logs_unwarned last habout hlast (fun h => nomatch hm.mp h) hlog⟩
  | false =>
    rw [haccepts] at hm hlog
    exact ⟨_, _, _, logs_warned last habout hlast (hm.mpr rfl) hlog⟩

end Logs

theorem not_mislabelled (h : ∀ response, turn.Answered client response → response.status ≠ 200) :
    ¬turn.Mislabelled client := by
  rintro ⟨response, ha, hs, -⟩
  exact h response ha hs

theorem call_of_reply {reply : Reply} (hr : turn.reply client = .ok reply) :
    let received := Client.receive (client.url turn.id) turn.format reply
    (turn.call client).outcome = received.1 ∧
      (turn.call client).log = .fetching (client.url turn.id) turn.format :: received.2 := by
  rw [call_eq, hr]
  exact ⟨rfl, rfl⟩

theorem call_of_error {error : HttpError} (hr : turn.reply client = .error error) :
    (turn.call client).outcome = .failed (.transport error) ∧
      (turn.call client).log = [.fetching (client.url turn.id) turn.format,
        .requestFailed (client.url turn.id) error] := by
  rw [call_eq, hr]
  exact ⟨rfl, rfl⟩

theorem exists_logs (client : Client) (turn : Turn) :
    ∃ first warnings last, turn.Logs client first warnings last := by
  cases hr : turn.reply client with
  | error error =>
    obtain ⟨houtcome, hlog⟩ := call_of_error hr
    have hnot : ¬turn.Mislabelled client := by
      rintro ⟨response, ⟨place, ha⟩, -⟩
      rw [hr] at ha
      contradiction
    exact ⟨_, _, _, logs_unwarned (.requestFailed (client.url turn.id) error) rfl
      (houtcome ▸ Event.requestFailed_tells _ error) hnot hlog⟩
  | ok reply =>
    have ha : turn.Answered client reply.response := ⟨reply.place, hr⟩
    obtain ⟨houtcome, hlog⟩ := call_of_reply hr
    by_cases hs : reply.response.status = okStatus
    · cases hb : reply.response.payload? with
      | none =>
        rw [Client.receive_unreadable _ _ hs hb] at houtcome hlog
        exact logs_read (.bodyUnreadable (client.url turn.id) _) rfl
          (houtcome ▸ Event.bodyUnreadable_tells _ _) ha hs hlog
      | some body =>
        rw [Client.receive_body _ _ hs hb] at houtcome hlog
        exact logs_read _ (Event.isAbout_bodyEvent _ _ _)
          (houtcome ▸ Event.bodyEvent_tells _ _ _) ha hs hlog
    · rw [Client.receive_otherStatus _ _ hs] at houtcome hlog
      have hnot : ¬turn.Mislabelled client := not_mislabelled fun other ho => ha.eq ho ▸ hs
      exact ⟨_, _, _, logs_unwarned (.otherStatus (client.url turn.id) reply.response.status)
        rfl (houtcome ▸ Event.otherStatus_tells _ _ hs) hnot hlog⟩

-- The turn with another content type on what comes back.
def relabelled (turn : Turn) (contentType : Option Bytes) : Turn :=
  { turn with network := fun request => (turn.network request).relabelled contentType }

theorem outcome_relabelled (client : Client) (turn : Turn) (contentType : Option Bytes) :
    ((turn.relabelled contentType).call client).outcome = (turn.call client).outcome :=
  have halike : turn.Alike client (turn.relabelled contentType) :=
    ⟨rfl, rfl, Delivery.alike_relabelled contentType _⟩
  halike.outcome

/-- The log of any call tells its outcome. It has a warning just where the call is answered with
200 and a content type that disagrees, and no content type makes the outcome another. -/
theorem call_logged (base : String) (userAgent : Option String) (transport : Transport)
    (turn : Turn) :
    (∃ first warnings last, turn.Logs (Client.new base userAgent transport) first warnings last) ∧
      ∀ contentType,
        ((turn.relabelled contentType).call (Client.new base userAgent transport)).outcome =
          (turn.call (Client.new base userAgent transport)).outcome :=
  ⟨exists_logs _ turn, outcome_relabelled _ turn⟩

end Turn

end BlobRetrieval
