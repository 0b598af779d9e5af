import InFlight.Http.Body
import InFlight.Http.Head
import InFlight.Http.Pieces
import InFlight.Http.Route

/-!
# A request and its response

A request may declare the length of its body.  One that declares too much is refused without
being read.  What of the bytes behind a head belongs to the body depends on its framing: no
more than a declared length, the content of pieces, or everything.  A body that declares a small
length is waited for, and the connection is closed when it does not arrive.

## Main definitions

* `InFlight.Http.Request` — a request as it arrives.
* `InFlight.Http.handle` — the state after a request and the reply.
* `InFlight.Http.Response` — a reply as the client sees it.
* `InFlight.Http.receive` — the request of a head and a body, or how it is turned away.
* `InFlight.Http.exchange` — the state after a head and a body, and the response if any.
* `InFlight.Http.serve` — a sequence of requests.
-/

set_option relaxedAutoImplicit false
set_option autoImplicit false

namespace InFlight

namespace Http

/-- A request as it arrives: its body may have a declared length, or ends by itself. -/
structure Request where
  method : String
  target : String
  body : Source := { data := .empty }
  declared : Option Nat := none

namespace Request

/-- The declared length of the body is greater than a body may have. -/
def declaresTooMuch (r : Request) : Bool :=
  r.declared.any fun length => decide (maxBodyBytes < length)

end Request

/-- The state after a request and the reply. -/
def handle (s : Service) (r : Request) (now : Instant) : Service × Reply :=
  if r.declaresTooMuch then (s, tooLarge)
  else
    match readBody r.body with
    | .error reply => (s, reply)
    | .ok body => route s r.method r.target body now

/-- A reply as the client sees it; a status alone has no type of content. -/
structure Response where
  status : Nat
  contentType : Option String := none
  text : String := ""
deriving DecidableEq, Repr

/-- The response to a request: the text of the reply, except when only the head is asked for. -/
def Response.ofReply (r : Request) (reply : Reply) : Response where
  status := reply.status
  contentType := some "application/json"
  text := if r.method = "HEAD" then "" else reply.text

/-- The state after a request and the response. -/
def respond (s : Service) (r : Request) (now : Instant) : Service × Response :=
  let (s, reply) := handle s r now
  (s, .ofReply r reply)

/-! ## From a head and a body -/

/-- The greatest length of a body that is waited for before a request is looked at. -/
def awaitedBytes : Nat := 1024

/-- The request of a head and of the bytes that arrive behind it, or how it is turned away.  An
expectation other than to be told to go on is not met. -/
def receive (head : String) (body : ByteArray) : Except Refusal Request :=
  match Head.read head with
  | .error refusal => .error refusal
  | .ok h =>
    let r : Request := { method := h.method, target := h.target }
    let expected := (h.header "expect").map String.toLower
    if expected.any fun value => value != "100-continue" then .error (.status 417)
    else
      match h.framing with
      | .none => .ok r
      | .pieces => .ok { r with body := Pieces.source body }
      | .length n =>
        if n ≤ awaitedBytes ∧ body.size < n ∧ expected = none then .error .closed
        else .ok { r with body := { data := body.extract 0 n }, declared := some n }
      | .rest told => .ok { r with body := { data := body }, declared := told }

/-- The state after a head and the bytes that arrive behind it, and the response if there is
one. -/
def exchange (s : Service) (head : String) (body : ByteArray) (now : Instant) :
    Service × Option Response :=
  match receive head body with
  | .error .closed => (s, none)
  | .error (.status status) => (s, some { status })
  | .ok r =>
    let (s, response) := respond s r now
    (s, some response)

/-! ## Many requests -/

/-- The state after a sequence of requests and the responses. -/
def serve (s : Service) (now : Instant) : List Request → Service × List Response
  | [] => (s, [])
  | r :: rest =>
    let (s, response) := respond s r now
    let (s, responses) := serve s now rest
    (s, response :: responses)

end Http

end InFlight
