import InFlight.Http.Reply
import InFlight.Text.Utf8

/-!
# Reading the body of a request

A body is read from a source up to one byte more than it may have, so that a body that is too
long is noticed and never cut.  A source that breaks down behind that byte is not noticed.

## Main definitions

* `InFlight.Http.maxBodyBytes` — the greatest length of a body.
* `InFlight.Http.Source` — bytes that arrive, and the failure that ends them if any.
* `InFlight.Http.readBody` — the text of a body, or the reply that refuses it.
-/

set_option relaxedAutoImplicit false
set_option autoImplicit false

namespace InFlight

namespace Http

/-- The greatest length of a body: 4 MiB. -/
def maxBodyBytes : Nat := 4194304

/-- Bytes that arrive one after the other, and the failure behind the last of them, if any. -/
structure Source where
  data : ByteArray
  failure : Option String := none

/-- At most `limit` bytes of a source; its failure, if it comes before that. -/
def Source.take (s : Source) (limit : Nat) : Except String ByteArray :=
  if limit ≤ s.data.size then .ok (s.data.extract 0 limit)
  else
    match s.failure with
    | some failure => .error failure
    | none => .ok s.data

/-- The reply to a body that is too long. -/
def tooLarge : Reply :=
  .error 413 ("request body exceeds " ++ toString maxBodyBytes ++ " bytes")

/-- The text of a body, or the reply that refuses it. -/
def readBody (s : Source) : Except Reply String :=
  match s.take (maxBodyBytes + 1) with
  | .error failure => .error (.error 400 ("read body: " ++ failure))
  | .ok raw =>
    if maxBodyBytes < raw.size then .error tooLarge
    else
      match Utf8.decode? raw with
      | none => .error (.error 400 "body is not valid UTF-8")
      | some text => .ok text

end Http

end InFlight
