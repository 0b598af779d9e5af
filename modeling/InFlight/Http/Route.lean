import InFlight.Audit.Store
import InFlight.Http.Query
import InFlight.Http.Reply
import InFlight.Json.Fields
import InFlight.Json.Reader

/-!
# Answering a request

The answer to a request depends on its method, its target, its body, the state of the service
and the time.  Only an accepted record changes the state, and only the registry.

## Main definitions

* `InFlight.Instant` — a time with its nanoseconds.
* `InFlight.Service` — the state: the registry and the audit history.
* `InFlight.Http.Endpoint` — what can be asked for.
* `InFlight.Http.RecordBody` — the body of a record request.
* `InFlight.Http.route` — the state after a request and the reply.
-/

set_option relaxedAutoImplicit false
set_option autoImplicit false

namespace InFlight

/-- A time, in nanoseconds since 1970-01-01 00:00:00 UTC. -/
structure Instant where
  nanos : Int
deriving DecidableEq, Repr

/-- The whole seconds of a time. -/
def Instant.seconds (t : Instant) : Int := t.nanos / 1000000000

/-- The state of the service. -/
structure Service where
  registry : Registry
  history : Audit.Store

namespace Http

/-! ## Limits -/

/-- How many rows a ranking has: 50 when no positive number is asked for, at most 200. -/
def rankLimit (asked : Int) : Nat := if asked ≤ 0 then 50 else min asked.toNat 200

/-- How many records a history has: the default of the history when no positive number is
asked for, at most 500. -/
def historyLimit (asked : Int) : Int := if asked ≤ 0 then Audit.defaultLimit else min asked 500

/-! ## Endpoints -/

/-- What can be asked for. -/
inductive Endpoint where
  | rank
  | stats
  | history
  | record
deriving DecidableEq, Repr

namespace Endpoint

/-- The endpoint at a path without slashes at its end. -/
def ofPath? (path : String) : Option Endpoint :=
  match path with
  | "/api/active_task/rank" => some .rank
  | "/api/active_task/stats" => some .stats
  | "/api/active_task/history" => some .history
  | "/api/active_task/record" => some .record
  | _ => none

/-- The method of an endpoint. -/
def method : Endpoint → String
  | .record => "POST"
  | _ => "GET"

end Endpoint

/-- A path without the slashes at its end. -/
def trimSlashes (path : String) : String :=
  String.ofList (path.toList.reverse.dropWhile fun c => c == '/').reverse

/-- The path of a target without the slashes at its end, and the query. -/
def splitTarget (target : String) : String × Query :=
  let (path, query) := Text.cut '?' target
  (trimSlashes path, Query.parse (query.getD ""))

/-! ## Reading endpoints -/

/-- The ranking. -/
def answerRank (s : Service) (q : Query) (now : Instant) : Reply :=
  let window := Ranking.effectiveWindow (q.number "window")
  let rows := s.registry.rank window (some (rankLimit (q.number "limit"))) now.seconds
  .success (.record [
    ("rank", .array (rows.map Ranking.Row.toJson)),
    ("window_seconds", .int window)])

/-- The counts. -/
def answerStats (s : Service) (now : Instant) : Reply :=
  .success (s.registry.stats now.seconds).toJson

/-- What is asked of the history. -/
def historyQuery (q : Query) : Audit.Query where
  startTime := q.number "start_time"
  endTime := q.number "end_time"
  owner := q.number "user_id"
  limit := historyLimit (q.number "limit")

/-- The history. -/
def answerHistory (s : Service) (q : Query) : Reply :=
  match s.history.select (historyQuery q) with
  | .ok records =>
    .success (.record [
      ("records", .array (records.map recordData)),
      ("total", .nat records.length)])
  | .error e => .error 500 ("failed to load history: " ++ e.message)

/-! ## Recording -/

/-- The body of a record request. -/
structure RecordBody where
  owner : OwnerId
  name : String := ""
  model : Option String := none
  requestId : Option String := none
  payload : Option String := none
deriving DecidableEq, Repr

namespace RecordBody

/-- The body that a JSON value holds. -/
def ofJson? (v : Json) : Option RecordBody := do
  let fields ← v.fields? ["user_id", "username", "model", "request_id", "payload"]
  let owner ← fields.required? "user_id" Json.int64?
  let name ← fields.optional? "username" "" Json.text?
  let model ← fields.optional? "model" none (Json.nullable? Json.text?)
  let requestId ← fields.optional? "request_id" none (Json.nullable? Json.text?)
  let payload ← fields.optional? "payload" none (Json.nullable? Json.text?)
  return { owner, name, model, requestId, payload }

/-- The body that a text writes. -/
def parse? (text : String) : Option RecordBody := (Json.parse? text).bind ofJson?

/-- The observation that a body reports: of its payload, or else of its request. -/
def observation? (b : RecordBody) (now : Instant) : Option Observation :=
  match b.payload with
  | some payload => Observation.ofPayload? b.owner b.name payload.toUTF8
  | none => Observation.ofRequest? b.owner b.name (b.model.getD "") b.requestId now.nanos

end RecordBody

/-- A record request. -/
def answerRecord (s : Service) (body : String) (now : Instant) : Service × Reply :=
  match RecordBody.parse? body with
  | none => (s, .error 400 "invalid body")
  | some b =>
    match b.observation? now with
    | none => (s, .error 400 "invalid user id")
    | some o =>
      ({ s with registry := s.registry.observe o now.seconds }, .success .null)

/-! ## Any request -/

/-- The state after a request and the reply. -/
def route (s : Service) (method target body : String) (now : Instant) : Service × Reply :=
  let (path, query) := splitTarget target
  match Endpoint.ofPath? path with
  | none => (s, .error 404 "not found")
  | some endpoint =>
    if method ≠ endpoint.method then (s, .error 405 "method not allowed")
    else
      match endpoint with
      | .rank => (s, answerRank s query now)
      | .stats => (s, answerStats s now)
      | .history => (s, answerHistory s query)
      | .record => answerRecord s body now

end Http

end InFlight
