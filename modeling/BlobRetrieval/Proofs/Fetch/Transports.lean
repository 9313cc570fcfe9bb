import BlobRetrieval.Fetch.Transport

/-!
# What a transport sends

The requests of one sending form a chain: the first one is the one that was to be sent, and
each one after it asks the same of the address that a redirect led to. Without a redirect
there is only the first one. The parts of a response that decide nothing stay without effect
however many redirects stand in front of it.
-/

set_option autoImplicit false

namespace BlobRetrieval

-- The payload counts only where the status is 200.
def Response.Alike (r s : Response) : Prop :=
  r.status = s.status ∧ (r.status = 200 → r.payload? = s.payload?)

inductive Delivery.Alike : Delivery → Delivery → Prop
  | lost (d e : Delivery) : d.response? = none → e.response? = none → Alike d e
  | answered (r s : Response) : r.Alike s → Alike (.answered r) (.answered s)
  | redirected (r s : Response) (location : Bytes) (next other : Request → Delivery) :
      r.Alike s → (∀ request, Alike (next request) (other request)) →
      Alike (.redirected r location next) (.redirected s location other)

inductive Reply.Alike : Except HttpError Reply → Except HttpError Reply → Prop
  | failed (error : HttpError) : Alike (.error error) (.error error)
  | answered (place : String) (r s : Response) : r.Alike s → Alike (.ok ⟨place, r⟩) (.ok ⟨place, s⟩)

-- That a request asks the same as another one, be it at another address.
structure Request.AsksSame (r s : Request) : Prop where
  method : r.method = s.method
  accept : r.accept = s.accept
  userAgent : r.userAgent = s.userAgent

namespace Transport

variable (t : Transport)

theorem follow_lost {d : Delivery} (h : d.response? = none) (hops : Nat) (place : String)
    (request : Request) :
    t.follow hops place request d = ⟨[request], .error (.noResponse place)⟩ := by
  cases d with
  | unreachable => rfl
  | unanswered => rfl
  | answered response => cases h
  | redirected response location next => cases h

theorem follow_stay {place : String} {response : Response} {location : Bytes}
    (h : t.onward place response.status location = .stay) (hops : Nat) (request : Request)
    (next : Request → Delivery) :
    t.follow hops place request (.redirected response location next) =
      ⟨[request], .ok ⟨place, response⟩⟩ := by
  rw [follow, h]

theorem follow_refused {place : String} {response : Response} {location : Bytes}
    {error : HttpError} (h : t.onward place response.status location = .refused error) (hops : Nat)
    (request : Request) (next : Request → Delivery) :
    t.follow hops place request (.redirected response location next) =
      ⟨[request], .error error⟩ := by
  rw [follow, h]

theorem follow_exhausted {place url : String} {response : Response} {location : Bytes}
    (h : t.onward place response.status location = .go url) (request : Request)
    (next : Request → Delivery) :
    t.follow 0 place request (.redirected response location next) =
      ⟨[request], .error (.tooManyRedirects place)⟩ := by
  rw [follow, h]

theorem follow_go {place url : String} {response : Response} {location : Bytes}
    (h : t.onward place response.status location = .go url) (hops : Nat) (request : Request)
    (next : Request → Delivery) :
    t.follow (hops + 1) place request (.redirected response location next) =
      ⟨request :: (t.follow hops url { request with url } (next { request with url })).sent,
        (t.follow hops url { request with url } (next { request with url })).reply⟩ := by
  rw [follow, h]

/-- What is sent is a chain that begins with the given request and does not ask for anything
else, with at most one request for each hop behind it. -/
theorem chain_follow (d : Delivery) (hops : Nat) (place : String) (request : Request) :
    ∃ more, (t.follow hops place request d).sent = request :: more ∧
      (∀ r ∈ more, r.AsksSame request) ∧ more.length ≤ hops := by
  induction d generalizing hops place request with
  | unreachable => exact ⟨[], rfl, nofun, Nat.zero_le hops⟩
  | unanswered => exact ⟨[], rfl, nofun, Nat.zero_le hops⟩
  | answered response => exact ⟨[], rfl, nofun, Nat.zero_le hops⟩
  | redirected response location next ih =>
    cases h : t.onward place response.status location with
    | stay => exact ⟨[], by rw [follow_stay t h], nofun, Nat.zero_le hops⟩
    | refused error => exact ⟨[], by rw [follow_refused t h], nofun, Nat.zero_le hops⟩
    | go url =>
      cases hops with
      | zero => exact ⟨[], by rw [follow_exhausted t h], nofun, Nat.le_refl 0⟩
      | succ hops =>
        obtain ⟨more, hsent, hasks, hlength⟩ :=
          ih { request with url } hops url { request with url }
        refine ⟨{ request with url } :: more, by rw [follow_go t h, hsent], ?_, ?_⟩
        · intro r hr
          rcases List.mem_cons.mp hr with rfl | hr
          · exact ⟨rfl, rfl, rfl⟩
          · obtain ⟨hmethod, haccept, hagent⟩ := hasks r hr
            exact ⟨hmethod, haccept, hagent⟩
        · simp only [List.length_cons]
          omega

theorem follow_alike {d e : Delivery} (h : d.Alike e) (hops : Nat) (place : String)
    (request : Request) :
    (t.follow hops place request d).sent = (t.follow hops place request e).sent ∧
      Reply.Alike (t.follow hops place request d).reply (t.follow hops place request e).reply := by
  induction h generalizing hops place request with
  | lost d e hd he =>
    rw [follow_lost t hd, follow_lost t he]
    exact ⟨rfl, .failed _⟩
  | answered r s hrs => exact ⟨rfl, .answered place r s hrs⟩
  | redirected r s location next other hrs _ ih =>
    cases h : t.onward place r.status location with
    | stay =>
      rw [follow_stay t h, follow_stay t (hrs.1 ▸ h)]
      exact ⟨rfl, .answered place r s hrs⟩
    | refused error =>
      rw [follow_refused t h, follow_refused t (hrs.1 ▸ h)]
      exact ⟨rfl, .failed error⟩
    | go url =>
      cases hops with
      | zero =>
        rw [follow_exhausted t h, follow_exhausted t (hrs.1 ▸ h)]
        exact ⟨rfl, .failed _⟩
      | succ hops =>
        rw [follow_go t h, follow_go t (hrs.1 ▸ h)]
        obtain ⟨hsent, hreply⟩ := ih { request with url } hops url { request with url }
        exact ⟨congrArg (request :: ·) hsent, hreply⟩

theorem send_unsendable {request : Request} {error : HttpError}
    (h : t.address request.url = .error error) (network : Network) :
    t.send network request = ⟨[], .error error⟩ := by
  rw [send, h]

theorem send_sendable {request : Request} {place : String} (h : t.address request.url = .ok place)
    (network : Network) :
    t.send network request = t.follow t.hops place request (network request) := by
  rw [send, h]

theorem send_alike {network other : Network} {request : Request}
    (h : (network request).Alike (other request)) :
    (t.send network request).sent = (t.send other request).sent ∧
      Reply.Alike (t.send network request).reply (t.send other request).reply := by
  cases hp : t.address request.url with
  | error error =>
    rw [send_unsendable t hp, send_unsendable t hp]
    exact ⟨rfl, .failed error⟩
  | ok place =>
    rw [send_sendable t hp, send_sendable t hp]
    exact follow_alike t h t.hops place request

end Transport

end BlobRetrieval
