import InFlight.Text.Blank
import InFlight.Text.Decimal
import InFlight.Text.Split

/-!
# The head of a request

A request begins with lines, each of which ends with a carriage return and a line feed; an
empty line ends the head.  The first line holds the method, the target and the version, with
one space between them.  Every other line holds the name of a header, a colon and its value.

The lines are looked at in order, and the first one that cannot be read decides what happens:
a line that is not ASCII, or that does not end, closes the connection without an answer, and
any other is answered by a status alone.

## Main definitions

* `InFlight.Http.Refusal` — how a request is turned away before it is looked at.
* `InFlight.Http.Head`, `InFlight.Http.Head.read` — what the lines say.
* `InFlight.Http.Framing`, `InFlight.Http.Head.framing` — how the length of the body is known.
-/

set_option relaxedAutoImplicit false
set_option autoImplicit false

namespace InFlight

namespace Http

/-- How a request is turned away before it is looked at. -/
inductive Refusal where
  /-- The connection is closed without an answer. -/
  | closed
  /-- The answer is a status alone. -/
  | status (status : Nat)
deriving DecidableEq, Repr

/-- What the lines of a head say. -/
structure Head where
  method : String
  target : String
  headers : List (String × String) := []
deriving DecidableEq, Repr

namespace Head

/-! ## Lines -/

/-- The line at the start of a text, and what follows it; none if the line does not end. -/
def takeLine? : List Char → Option (List Char × List Char)
  | [] => none
  | '\r' :: '\n' :: rest => some ([], rest)
  | c :: rest => (takeLine? rest).map fun (line, rest) => (c :: line, rest)

/-- A line is shorter than the text it starts. -/
theorem length_lt_of_takeLine? {cs line rest : List Char} (h : takeLine? cs = some (line, rest)) :
    rest.length < cs.length := by
  fun_induction takeLine? cs generalizing line rest with
  | case1 => simp at h
  | case2 r =>
    simp only [Option.some.injEq, Prod.mk.injEq] at h
    simp only [← h.2, List.length_cons]
    omega
  | case3 c r _ ih =>
    simp only [Option.map_eq_some_iff, Prod.exists, Prod.mk.injEq] at h
    obtain ⟨line, rest, h, -, rfl⟩ := h
    have := ih h
    simp only [List.length_cons]
    omega

/-- All characters are ASCII. -/
def isAscii (cs : List Char) : Bool := cs.all fun c => decide (c.toNat < 128)

/-! ## The first line -/

/-- The versions that are understood, and those that are known but refused. -/
def versions : List (String × Bool) :=
  [("HTTP/0.9", true), ("HTTP/1.0", true), ("HTTP/1.1", true), ("HTTP/2.0", false),
    ("HTTP/3.0", false)]

/-- The method and the target of a first line; what follows the version does not matter. -/
def ofFirstLine (line : List Char) : Except Refusal Head :=
  match Text.splitList ' ' (Text.trimList line) with
  | method :: target :: version :: _ =>
    match versions.lookup (String.ofList version) with
    | some true => .ok { method := String.ofList method, target := String.ofList target }
    | some false => .error .closed
    | none => .error (.status 400)
  | _ => .error (.status 400)

/-! ## The other lines -/

/-- The name and the value of a header; blanks can stand around the value, but not in the
name. -/
def header? (line : List Char) : Option (String × String) :=
  match Text.cutList ':' (Text.trimList line) with
  | (name, some value) =>
    if name.any Text.isBlank then none
    else some (String.ofList name, String.ofList (Text.trimList value))
  | (_, none) => none

/-- The headers of a text up to the empty line. -/
def readHeaders (cs : List Char) : Except Refusal (List (String × String)) :=
  match h : takeLine? cs with
  | none => .error .closed
  | some ([], _) => .ok []
  | some (line, rest) =>
    have := length_lt_of_takeLine? h
    if isAscii line then
      match header? line with
      | none => .error (.status 400)
      | some header =>
        match readHeaders rest with
        | .ok headers => .ok (header :: headers)
        | .error refusal => .error refusal
    else .error .closed
termination_by cs.length

/-- What the lines of a text say. -/
def read (text : String) : Except Refusal Head :=
  match takeLine? text.toList with
  | none => .error .closed
  | some (line, rest) =>
    if isAscii line then
      match ofFirstLine line, readHeaders rest with
      | .error refusal, _ => .error refusal
      | _, .error refusal => .error refusal
      | .ok head, .ok headers => .ok { head with headers }
    else .error .closed

end Head

/-! ## The length of the body -/

/-- How the length of a body is known. -/
inductive Framing where
  /-- There is no body. -/
  | none
  /-- The body comes in pieces and ends by itself. -/
  | pieces
  | length (n : Nat)
  /-- Everything that arrives is the body, whatever length is told. -/
  | rest (told : Option Nat)
deriving DecidableEq, Repr

namespace Head

/-- The value of the first header of a name, without regard to the case of letters. -/
def header (h : Head) (name : String) : Option String :=
  (h.headers.find? fun header => header.1.toLower == name).map Prod.snd

/-- The body comes in pieces. -/
def isPieced (h : Head) : Bool := (h.header "transfer-encoding").isSome

/-- The length that is told of the body.  A length that is no number is none, and there is none
for a body in pieces. -/
def told (h : Head) : Option Nat :=
  if h.isPieced then none
  else (h.header "content-length").bind (Decimal.natural? Decimal.word64Max)

/-- The connection is asked to change its use, which leaves no end for a body. -/
def asksUpgrade (h : Head) : Bool :=
  (h.header "connection").any fun value =>
    (Text.cutAt "upgrade".toList value.toLower.toList).2.isSome

/-- How the length of the body is known. -/
def framing (h : Head) : Framing :=
  if h.asksUpgrade then .rest h.told
  else if h.isPieced then .pieces
  else
    match h.told with
    | some n => .length n
    | none => .none

end Head

end Http

end InFlight
