import Mathlib.Data.List.Forall2
import BlobRetrieval.Fetch.Client
import BlobRetrieval.Proofs.Fetch.Transports

/-!
# Calls on one client

Any number of calls is made on one client, each of which meets with a network of its own.
What every call shows follows from the reply that the transport comes back with, by a
relation that covers each reply once. It is closed under changes to the parts of a response
that no call looks at. What is promised is more: one request for each call, and the first
response as it is. That much holds just where the first response is no redirect that the
transport acts on.
-/

set_option autoImplicit false

namespace BlobRetrieval

structure Turn where
  id : String
  format : Format
  network : Network

namespace Turn

def call (client : Client) (turn : Turn) : Client.Call :=
  client.fetch turn.network turn.id turn.format

def request (client : Client) (turn : Turn) : Request :=
  client.request turn.id turn.format

def delivery (client : Client) (turn : Turn) : Delivery :=
  turn.network (turn.request client)

def place (client : Client) (turn : Turn) : Except HttpError String :=
  client.transport.address (client.url turn.id)

def reply (client : Client) (turn : Turn) : Except HttpError Reply :=
  (client.transport.send turn.network (turn.request client)).reply

-- That a response comes back in the end, behind whatever redirects were followed.
def Answered (client : Client) (turn : Turn) (response : Response) : Prop :=
  ∃ place, turn.reply client = .ok ⟨place, response⟩

-- The only request that a turn may send.
def requests (client : Client) (turn : Turn) : List Request :=
  match turn.place client with
  | .ok _ => [⟨"GET", client.url turn.id, turn.format.mediaType, client.userAgent⟩]
  | .error _ => []

def firstReply (client : Client) (turn : Turn) : Except HttpError Reply :=
  match turn.place client with
  | .error error => .error error
  | .ok place =>
    match (turn.delivery client).response? with
    | some response => .ok ⟨place, response⟩
    | none => .error (.noResponse place)

def Redirected (client : Client) (turn : Turn) : Prop :=
  ∃ place response location next, turn.place client = .ok place ∧
    turn.delivery client = .redirected response location next ∧
    client.transport.onward place response.status location ≠ .stay

end Turn

-- The status, the sidecars and the error that are to be shown for a reply.
inductive Shows (format : Format) :
    Except HttpError Reply → UInt16 → List Sidecar → Option FetchError → Prop
  | failed (error : HttpError) : Shows format (.error error) 500 [] (some (.transport error))
  | otherStatus (reply : Reply) : reply.response.status ≠ 200 →
      Shows format (.ok reply) reply.response.status [] none
  | unreadable (reply : Reply) : reply.response.status = 200 → reply.response.payload? = none →
      Shows format (.ok reply) 200 [] (some (.body (.bodyCutShort reply.place)))
  | found (reply : Reply) (body : Bytes) (sidecars : List Sidecar) :
      reply.response.status = 200 → reply.response.payload? = some body →
      format.decode body = .ok sidecars → Shows format (.ok reply) 200 sidecars none
  | undecodable (reply : Reply) (body : Bytes) (error : PayloadError) :
      reply.response.status = 200 → reply.response.payload? = some body →
      format.decode body = .error error → Shows format (.ok reply) 200 [] (some (.payload error))

namespace Client

variable (url : String) (format : Format) {reply : Reply}

theorem receive_otherStatus (h : reply.response.status ≠ okStatus) :
    receive url format reply =
      (.passthrough reply.response.status h, [.otherStatus url reply.response.status]) := by
  rw [receive, dif_pos h]

theorem receive_unreadable (h : reply.response.status = okStatus)
    (hb : reply.response.payload? = none) :
    receive url format reply =
      (.failed (.body (.bodyCutShort reply.place)),
        contentTypeWarning url format reply.response ++
          [.bodyUnreadable url (.bodyCutShort reply.place)]) := by
  rw [receive, dif_neg (not_not_intro h)]
  simp only [hb]

theorem receive_body (h : reply.response.status = okStatus) {body : Bytes}
    (hb : reply.response.payload? = some body) :
    receive url format reply =
      (.ofBody format body,
        contentTypeWarning url format reply.response ++ [bodyEvent url format body]) := by
  rw [receive, dif_neg (not_not_intro h)]
  simp only [hb]

/-- What is made of a reply shows what is to be shown for it. -/
theorem shows_conclude (reply : Except HttpError Reply) :
    Shows format reply (conclude url format reply).1.status (conclude url format reply).1.sidecars
      (conclude url format reply).1.error? := by
  cases reply with
  | error error => exact .failed error
  | ok reply =>
    rw [conclude]
    by_cases hs : reply.response.status = okStatus
    · cases hb : reply.response.payload? with
      | none =>
        rw [receive_unreadable url format hs hb]
        exact .unreadable reply hs hb
      | some body =>
        rw [receive_body url format hs hb, Outcome.ofBody]
        cases h : format.decode body with
        | ok sidecars => exact .found reply body sidecars hs hb h
        | error error => exact .undecodable reply body error hs hb h
    · rw [receive_otherStatus url format hs]
      exact .otherStatus reply hs

end Client

section Shows

variable {format : Format} {reply other : Except HttpError Reply} {status : UInt16}
  {sidecars : List Sidecar} {error : Option FetchError}

theorem shows_iff (url : String) : Shows format reply status sidecars error ↔
    status = (Client.conclude url format reply).1.status ∧
      sidecars = (Client.conclude url format reply).1.sidecars ∧
      error = (Client.conclude url format reply).1.error? := by
  constructor
  · intro h
    cases h with
    | failed error => exact ⟨rfl, rfl, rfl⟩
    | otherStatus reply hs =>
      rw [Client.conclude, Client.receive_otherStatus url format hs]
      exact ⟨rfl, rfl, rfl⟩
    | unreadable reply hs hb =>
      rw [Client.conclude, Client.receive_unreadable url format hs hb]
      exact ⟨rfl, rfl, rfl⟩
    | found reply body _ hs hb hd =>
      rw [Client.conclude, Client.receive_body url format hs hb, Outcome.ofBody, hd]
      exact ⟨rfl, rfl, rfl⟩
    | undecodable reply body error hs hb hd =>
      rw [Client.conclude, Client.receive_body url format hs hb, Outcome.ofBody, hd]
      exact ⟨rfl, rfl, rfl⟩
  · rintro ⟨rfl, rfl, rfl⟩
    exact Client.shows_conclude url format reply

theorem Shows.of_alike (h : Reply.Alike reply other)
    (hs : Shows format reply status sidecars error) :
    Shows format other status sidecars error := by
  cases h with
  | failed error => exact hs
  | answered place r s hrs =>
    obtain ⟨hstatus, hpayload⟩ := hrs
    cases hs with
    | otherStatus _ hne =>
      rw [hstatus] at hne ⊢
      exact .otherStatus ⟨place, s⟩ hne
    | unreadable _ hok hb =>
      exact .unreadable ⟨place, s⟩ (hstatus ▸ hok) (hpayload hok ▸ hb)
    | found _ body _ hok hb hd =>
      exact .found ⟨place, s⟩ body sidecars (hstatus ▸ hok) (hpayload hok ▸ hb) hd
    | undecodable _ body error hok hb hd =>
      exact .undecodable ⟨place, s⟩ body error (hstatus ▸ hok) (hpayload hok ▸ hb) hd

end Shows

-- That of three things one holds and the other two do not.
def OneOf (p q r : Prop) : Prop :=
  (p ∧ ¬q ∧ ¬r) ∨ (¬p ∧ q ∧ ¬r) ∨ (¬p ∧ ¬q ∧ r)

-- That the sidecars are the payload of a complete 200 response.
def Served (format : Format) (reply : Except HttpError Reply) (sidecars : List Sidecar) : Prop :=
  ∃ r body, reply = .ok r ∧ r.response.status = 200 ∧ r.response.payload? = some body ∧
    format.decode body = .ok sidecars

section Shows

variable {format : Format} {reply : Except HttpError Reply} {status : UInt16}
  {sidecars : List Sidecar}

/-- What is shown is a failure, or a payload, or a status of another kind. -/
theorem Shows.oneOf {error : Option FetchError} (h : Shows format reply status sidecars error) :
    OneOf (error.isSome = true ∧ sidecars = [])
      (status = 200 ∧ error = none ∧ Served format reply sidecars)
      (status ≠ 200 ∧ error = none ∧ sidecars = []) := by
  cases h with
  | otherStatus r hs =>
    exact .inr (.inr ⟨fun h => (by cases h.1), fun h => hs h.1, hs, rfl, rfl⟩)
  | found r body sidecars hs hb h =>
    exact .inr (.inl ⟨fun h => (by cases h.1), ⟨rfl, rfl, r, body, rfl, hs, hb, h⟩,
      fun h => h.1 rfl⟩)
  | _ => exact .inl ⟨⟨rfl, rfl⟩, fun h => (by cases h.2.1), fun h => (by cases h.2.1)⟩

/-- An error is about a payload just where the server answered 200. -/
theorem Shows.isDecode_iff {error : FetchError}
    (h : Shows format reply status sidecars (some error)) :
    error.isDecode = true ↔ ∃ r, reply = .ok r ∧ r.response.status = 200 := by
  cases h with
  | failed error =>
    refine ⟨fun h => (by cases h), ?_⟩
    rintro ⟨r, hr, -⟩
    cases hr
  | unreadable r hs _ => exact ⟨fun _ => ⟨r, rfl, hs⟩, fun _ => rfl⟩
  | undecodable r body error hs _ _ => exact ⟨fun _ => ⟨r, rfl, hs⟩, fun _ => rfl⟩

end Shows

theorem Outcome.ext_shown {o p : Outcome} (hs : o.status = p.status)
    (hv : o.sidecars = p.sidecars) (he : o.error? = p.error?) : o = p := by
  cases o with
  | found v =>
    cases p with
    | found w => rw [show v = w from hv]
    | passthrough status h => exact absurd hs.symm h
    | failed error => cases he
  | passthrough status h =>
    cases p with
    | found w => exact absurd hs h
    | passthrough other _ =>
      cases (show status = other from hs)
      rfl
    | failed error => cases he
  | failed error =>
    cases p with
    | found w => cases he
    | passthrough status h => cases he
    | failed other => rw [Option.some.inj he]

theorem Outcome.isFound_iff (o : Outcome) :
    o.isFound = true ↔ ∃ sidecars, o.toExcept = .ok (200, sidecars) := by
  cases o with
  | found v => exact ⟨fun _ => ⟨v, rfl⟩, fun _ => rfl⟩
  | passthrough status h =>
    constructor
    · intro hf
      simp only [isFound, error?, Option.isNone_none, Bool.true_and, beq_iff_eq] at hf
      exact absurd hf h
    · rintro ⟨v, hv⟩
      exact absurd (congrArg Prod.fst (Except.ok.inj hv)) h
  | failed error =>
    constructor
    · intro hf
      cases hf
    · rintro ⟨v, hv⟩
      cases hv

namespace Turn

variable {client : Client} {turn : Turn}

theorem call_eq (client : Client) (turn : Turn) : turn.call client =
    ⟨(Client.conclude (client.url turn.id) turn.format (turn.reply client)).1,
      (client.transport.send turn.network (turn.request client)).sent,
      .fetching (client.url turn.id) turn.format ::
        (Client.conclude (client.url turn.id) turn.format (turn.reply client)).2⟩ :=
  rfl

theorem outcome_call (client : Client) (turn : Turn) : (turn.call client).outcome =
    (Client.conclude (client.url turn.id) turn.format (turn.reply client)).1 :=
  rfl

theorem outcome_of_answered {response : Response} (h : turn.Answered client response) :
    ∃ place, (turn.call client).outcome =
      (Client.receive (client.url turn.id) turn.format ⟨place, response⟩).1 := by
  obtain ⟨place, hr⟩ := h
  exact ⟨place, by rw [outcome_call, hr, Client.conclude]⟩

theorem reply_unsendable {error : HttpError} (h : turn.place client = .error error) :
    turn.reply client = .error error := by
  rw [reply, Transport.send_unsendable _ h]

theorem reply_sendable {place : String} (h : turn.place client = .ok place) :
    turn.reply client = (client.transport.follow client.transport.hops place
      (turn.request client) (turn.delivery client)).reply := by
  rw [reply, Transport.send_sendable _ h]
  rfl

theorem sent_sendable {place : String} (h : turn.place client = .ok place) :
    (turn.call client).sent = (client.transport.follow client.transport.hops place
      (turn.request client) (turn.delivery client)).sent := by
  rw [call_eq, Transport.send_sendable _ h]
  rfl

theorem sent_unsendable {error : HttpError} (h : turn.place client = .error error) :
    (turn.call client).sent = [] := by
  rw [call_eq, Transport.send_unsendable _ h]

theorem answered_of_isOk {response : Response} (hp : (turn.place client).isOk = true)
    (hd : turn.delivery client = .answered response) : turn.Answered client response := by
  cases h : turn.place client with
  | error error =>
    rw [h] at hp
    cases hp
  | ok place => exact ⟨place, by rw [reply_sendable h, hd]; rfl⟩

-- What a call has to show for a reply.
structure Settled (turn : Turn) (reply : Except HttpError Reply) (call : Client.Call) :
    Prop where
  shown : ∀ status sidecars error, Shows turn.format reply status sidecars error ↔
    status = call.outcome.status ∧ sidecars = call.outcome.sidecars ∧ error = call.outcome.error?
  oneOf : OneOf (call.outcome.error?.isSome = true ∧ call.outcome.sidecars = [])
    (call.outcome.status = 200 ∧ call.outcome.error? = none ∧
      Served turn.format reply call.outcome.sidecars)
    (call.outcome.status ≠ 200 ∧ call.outcome.error? = none ∧ call.outcome.sidecars = [])
  isDecode : ∀ error, call.outcome.error? = some error →
    (error.isDecode = true ↔ ∃ r, reply = .ok r ∧ r.response.status = 200)
  isFound : call.outcome.isFound = true ↔
    ∃ sidecars, call.outcome.toExcept = .ok (200, sidecars)

theorem settled_call (client : Client) (turn : Turn) :
    turn.Settled (turn.reply client) (turn.call client) where
  shown _ _ _ := shows_iff (client.url turn.id)
  oneOf := (Client.shows_conclude (client.url turn.id) turn.format (turn.reply client)).oneOf
  isDecode error h := by
    have hs := Client.shows_conclude (client.url turn.id) turn.format (turn.reply client)
    rw [← outcome_call, h] at hs
    exact hs.isDecode_iff
  isFound := Outcome.isFound_iff _

-- What a call may send: the one request and, behind it, the same again for each redirect.
structure Sends (client : Client) (turn : Turn) (sent : List Request) : Prop where
  unsendable : ∀ error, turn.place client = .error error → sent = []
  first : ∀ place, turn.place client = .ok place → ∃ more, sent = turn.requests client ++ more
  asksSame : ∀ r ∈ sent, r.method = "GET" ∧ r.accept = turn.format.mediaType ∧
    r.userAgent = client.userAgent
  bounded : sent.length ≤ client.transport.hops + 1

theorem requests_of_ok {place : String} (h : turn.place client = .ok place) :
    turn.requests client = [turn.request client] := by
  rw [requests, h]
  rfl

theorem sends_call (client : Client) (turn : Turn) :
    turn.Sends client (turn.call client).sent := by
  cases hp : turn.place client with
  | error error =>
    rw [sent_unsendable hp]
    refine ⟨fun _ _ => rfl, fun place h => ?_, nofun, Nat.zero_le _⟩
    rw [hp] at h
    cases h
  | ok place =>
    obtain ⟨more, hsent, hasks, hlength⟩ := client.transport.chain_follow (turn.delivery client)
      client.transport.hops place (turn.request client)
    rw [sent_sendable hp, hsent]
    refine ⟨fun error h => ?_, fun _ _ => ⟨more, by rw [requests_of_ok hp]; rfl⟩, ?_, ?_⟩
    · rw [hp] at h
      cases h
    · intro r hr
      rcases List.mem_cons.mp hr with rfl | hr
      · exact ⟨rfl, rfl, rfl⟩
      · obtain ⟨hmethod, haccept, hagent⟩ := hasks r hr
        exact ⟨hmethod, haccept, hagent⟩
    · rw [List.length_cons]
      omega

-- What is promised of a call: it is settled by the first response, for one request.
structure Promised (client : Client) (turn : Turn) (call : Client.Call) : Prop where
  settled : turn.Settled (turn.firstReply client) call
  sent : call.sent = turn.requests client

theorem firstReply_ok {place : String} (hp : turn.place client = .ok place) {response : Response}
    (hr : (turn.delivery client).response? = some response) :
    turn.firstReply client = .ok ⟨place, response⟩ := by
  simp only [firstReply, hp, hr]

/-- A call that no redirect leads on shows the first response, and sends one request. -/
theorem unredirected (h : ¬turn.Redirected client) :
    turn.reply client = turn.firstReply client ∧
      (turn.call client).sent = turn.requests client := by
  cases hp : turn.place client with
  | error error =>
    rw [sent_unsendable hp, reply_unsendable hp, firstReply, requests, hp]
    exact ⟨rfl, rfl⟩
  | ok place =>
    rw [reply_sendable hp, sent_sendable hp, requests_of_ok hp, firstReply, hp]
    cases hd : turn.delivery client with
    | unreachable => exact ⟨rfl, rfl⟩
    | unanswered => exact ⟨rfl, rfl⟩
    | answered response => exact ⟨rfl, rfl⟩
    | redirected response location next =>
      have hstay : client.transport.onward place response.status location = .stay := by
        by_contra hgo
        exact h ⟨place, response, location, next, hp, hd, hgo⟩
      rw [Transport.follow_stay _ hstay]
      exact ⟨rfl, rfl⟩

/-- A redirect that is acted on ends in a failure, or takes more than one request. -/
theorem redirected_cases (h : turn.Redirected client) :
    (∃ error, turn.reply client = .error error) ∨
      (turn.call client).sent ≠ turn.requests client := by
  obtain ⟨place, response, location, next, hp, hd, hstay⟩ := h
  rw [reply_sendable hp, sent_sendable hp, requests_of_ok hp, hd]
  cases hgo : client.transport.onward place response.status location with
  | stay => exact absurd hgo hstay
  | refused error => exact .inl ⟨error, by rw [Transport.follow_refused _ hgo]⟩
  | go url =>
    cases client.transport.hops with
    | zero => exact .inl ⟨_, by rw [Transport.follow_exhausted _ hgo]⟩
    | succ hops =>
      refine .inr ?_
      rw [Transport.follow_go _ hgo]
      obtain ⟨more, hsent, -⟩ := client.transport.chain_follow
        (next { turn.request client with url }) hops url { turn.request client with url }
      rw [hsent]
      simp

theorem promised_iff (client : Client) (turn : Turn) :
    turn.Promised client (turn.call client) ↔ ¬turn.Redirected client := by
  constructor
  · intro hpromised hr
    rcases redirected_cases hr with ⟨error, hreply⟩ | hsent
    · -- A transport error is no error of a 200 response, and another response shows none.
      obtain ⟨place, response, location, next, hp, hd, -⟩ := hr
      have hresponse : (turn.delivery client).response? = some response := by
        rw [hd]
        rfl
      have hsettled := hpromised.settled
      rw [firstReply_ok hp hresponse] at hsettled
      have herror : (turn.call client).outcome.error? = some (.transport error) := by
        rw [outcome_call, hreply]
        rfl
      have hne : response.status ≠ 200 := by
        intro hok
        have hdecode := (hsettled.isDecode _ herror).mpr ⟨_, rfl, hok⟩
        cases hdecode
      have hshown := ((hsettled.shown _ [] none).mp (.otherStatus _ hne)).2.2
      rw [herror] at hshown
      cases hshown
    · exact hsent hpromised.sent
  · intro h
    obtain ⟨hreply, hsent⟩ := unredirected h
    exact ⟨hreply ▸ settled_call client turn, hsent⟩

-- Turns that ask for the same, and meet with deliveries that are alike.
structure Alike (client : Client) (t u : Turn) : Prop where
  id : t.id = u.id
  format : t.format = u.format
  delivery : (t.delivery client).Alike (u.delivery client)

theorem Alike.send {t u : Turn} (h : t.Alike client u) :
    (t.call client).sent = (u.call client).sent ∧
      Reply.Alike (t.reply client) (u.reply client) := by
  have hrequest : u.request client = t.request client := by
    rw [Turn.request, Turn.request, h.id, h.format]
  have hdelivery := h.delivery
  rw [Turn.delivery, Turn.delivery, hrequest] at hdelivery
  rw [call_eq, call_eq, Turn.reply, Turn.reply, hrequest]
  exact client.transport.send_alike hdelivery

theorem Alike.outcome {t u : Turn} (h : t.Alike client u) :
    (u.call client).outcome = (t.call client).outcome := by
  have hs := Client.shows_conclude (client.url t.id) t.format (t.reply client)
  obtain ⟨hstatus, hsidecars, herror⟩ :=
    (shows_iff (client.url u.id)).mp (hs.of_alike h.send.2)
  rw [h.format] at hstatus hsidecars herror
  rw [outcome_call, outcome_call, h.format]
  exact Outcome.ext_shown hstatus.symm hsidecars.symm herror.symm

end Turn

namespace Turn

variable {client : Client} {turn : Turn} {body : Bytes} {sidecars : List Sidecar}

-- That a turn is answered with 200 and a complete body in the end.
def Receives (client : Client) (turn : Turn) (body : Bytes) : Prop :=
  ∃ response, turn.Answered client response ∧ response.status = 200 ∧
    response.payload? = some body

theorem Receives.outcome (h : turn.Receives client body) :
    (turn.call client).outcome = .ofBody turn.format body := by
  obtain ⟨response, ha, hs, hb⟩ := h
  obtain ⟨place, ho⟩ := outcome_of_answered ha
  have hreceive : Client.receive (client.url turn.id) turn.format ⟨place, response⟩ = _ :=
    Client.receive_body _ _ hs hb
  rw [ho, hreceive]

theorem Receives.outcome_found (h : turn.Receives client body)
    (hd : turn.format.decode body = .ok sidecars) :
    (turn.call client).outcome = .found sidecars := by
  rw [h.outcome, Outcome.ofBody, hd]

theorem Receives.outcome_failed {error : PayloadError} (h : turn.Receives client body)
    (hd : turn.format.decode body = .error error) :
    (turn.call client).outcome = .failed (.payload error) := by
  rw [h.outcome, Outcome.ofBody, hd]

theorem receives_of_isFound (h : (turn.call client).outcome.isFound = true) :
    ∃ body sidecars, turn.Receives client body ∧ turn.format.decode body = .ok sidecars := by
  simp only [Outcome.isFound, Bool.and_eq_true, Option.isNone_iff_eq_none, beq_iff_eq] at h
  obtain ⟨he, hok⟩ := h
  rcases (settled_call client turn).oneOf with
    ⟨⟨hsome, -⟩, -⟩ | ⟨-, ⟨-, -, r, body, hr, hs, hb, hd⟩, -⟩ | ⟨-, -, ⟨hother, -⟩⟩
  · rw [he] at hsome
    cases hsome
  · exact ⟨body, _, ⟨r.response, ⟨r.place, hr⟩, hs, hb⟩, hd⟩
  · exact absurd hok hother

end Turn

namespace Client

-- What comes of calls that are made one after another.
def session (client : Client) : List Turn → List Call
  | [] => []
  | turn :: turns => turn.call client :: client.session turns

/-- However many calls are made on one client, each one is settled by the reply that its
transport comes back with, and sends one chain of requests. It is as promised just if the first
response is no redirect that the transport acts on. What no call looks at makes no difference. -/
theorem session_settled (base : String) (agent : Option String) (transport : Transport)
    (turns : List Turn) :
    let client := Client.new base agent transport
    List.Forall₂ (fun turn call => turn.Settled (turn.reply client) call ∧
        turn.Sends client call.sent ∧
        (turn.Promised client call ↔ ¬turn.Redirected client)) turns (client.session turns) ∧
      ∀ others, List.Forall₂ (Turn.Alike client) turns others →
        (client.session others).map (fun call => (call.outcome, call.sent)) =
          (client.session turns).map fun call => (call.outcome, call.sent) := by
  intro client
  constructor
  · induction turns with
    | nil => exact .nil
    | cons turn turns ih =>
      exact .cons ⟨turn.settled_call client, turn.sends_call client, turn.promised_iff client⟩ ih
  · intro others h
    induction h with
    | nil => rfl
    | cons h _ ih =>
      rw [session, session, List.map_cons, List.map_cons, ih]
      exact congrArg (· :: _) (Prod.ext h.outcome h.send.1.symm)

/-- A server moves on to another one, which has the sidecars. The call finds them, for two
requests, where the status 302 was promised for one. -/
theorem session_moved :
    let client := Client.new "http://beacon.example"
    let moved : Response := { status := 302 }
    let found : Response := { status := 200, body := [4, 0, 0, 0] }
    let turn : Turn := ⟨"7", .ssz, fun _ => .redirected moved
      "http://elsewhere.example/".toUTF8.toList fun _ => .answered found⟩
    (turn.call client).sent.map (·.url) =
        ["http://beacon.example/eth/v1/beacon/blob_sidecars/7", "http://elsewhere.example/"] ∧
      (turn.call client).outcome = .found [] ∧ ¬turn.Promised client (turn.call client) := by
  intro client moved found turn
  have hsent : (turn.call client).sent.map (·.url) =
      ["http://beacon.example/eth/v1/beacon/blob_sidecars/7", "http://elsewhere.example/"] := by
    decide +kernel
  refine ⟨hsent, by decide +kernel, fun hpromised => ?_⟩
  have hone : (turn.requests client).length ≤ 1 := by
    rw [Turn.requests]
    cases turn.place client <;> simp
  rw [← hpromised.sent, ← List.length_map (f := (·.url)), hsent] at hone
  exact absurd hone (by decide)

end Client

end BlobRetrieval
