import Mathlib.Tactic.Lemma
import Mathlib.Tactic.SplitIfs
import InFlight.Http.Exchange

/-!
# The body of a request

A body is read in calls, each of which gives some of its bytes, and no call is made once one byte
more than a body may have is there.  So the length of a body decides first, then whether the reader
breaks down, and then whether the bytes write a text; and what is read of a body is all of it.  A
request that declares the length its body has gets the reply of one that declares none, since a
body that is refused unread would be refused for its length when it is read.

## Main definitions

* `InFlight.Http.Arrival` — what one call of a reader gives.
* `InFlight.Http.Source.arriving` — the source that calls of a reader make up.
* `InFlight.Http.readUpTo` — reading call by call, up to a limit.
* `InFlight.Http.Source.Received` — what becomes of a body.

## Main results

* `InFlight.Http.readUpTo_eq` — only the source counts, not the calls in which it arrives.
* `InFlight.Http.readBody_eq_iff` — nothing else becomes of a body.
* `InFlight.Http.handle_body` — the body of a request, and the reply.
-/

set_option relaxedAutoImplicit false
set_option autoImplicit false

namespace InFlight

namespace Http

/-! ## Reading in calls -/

/-- What one call of a reader gives: bytes, of which there are none at the end. -/
inductive Arrival where
  | bytes (bytes : ByteArray)
  | interrupted
  | failed (message : String)

/-- The source that calls of a reader make up.  An interrupted call is made again. -/
def Source.arriving : List Arrival → Source
  | [] => { data := .empty }
  | .failed message :: _ => { data := .empty, failure := some message }
  | .interrupted :: rest => arriving rest
  | .bytes bytes :: rest =>
    if bytes.size = 0 then { data := .empty }
    else { data := bytes ++ (arriving rest).data, failure := (arriving rest).failure }

/-- Reads call by call until `limit` bytes more are there. -/
def readUpTo : Nat → List Arrival → ByteArray → Except String ByteArray
  | 0, _, done => .ok done
  | _ + 1, [], done => .ok done
  | _ + 1, .failed message :: _, _ => .error message
  | limit + 1, .interrupted :: rest, done => readUpTo (limit + 1) rest done
  | limit + 1, .bytes bytes :: rest, done =>
    if bytes.size = 0 then .ok done
    else readUpTo (limit + 1 - bytes.size) rest (done ++ bytes.extract 0 (limit + 1))

namespace Source

variable {s : Source} {limit : Nat}

/-- Taking no more than there is, a source gives its front and never fails. -/
lemma take_of_le (h : limit ≤ s.data.size) : s.take limit = .ok (s.data.extract 0 limit) :=
  if_pos h

/-- Taking more than there is, a source gives everything, unless it fails at its end. -/
lemma take_of_lt (h : s.data.size < limit) :
    s.take limit = match s.failure with
      | some failure => .error failure
      | none => .ok s.data :=
  if_neg (Nat.not_le.2 h)

/-- Bytes in front of a source count towards the limit. -/
lemma take_append (bytes : ByteArray) (s : Source) (limit : Nat) :
    take { data := bytes ++ s.data, failure := s.failure } limit =
      (s.take (limit - bytes.size)).map (bytes.extract 0 limit ++ ·) := by
  have hsize : (bytes ++ s.data).size = bytes.size + s.data.size := ByteArray.size_append
  rcases Nat.lt_or_ge s.data.size (limit - bytes.size) with hlt | hle
  · have hall : bytes.extract 0 limit = bytes := by
      rw [← Nat.max_eq_left (show bytes.size ≤ limit by omega), ByteArray.extract_zero_max_size]
    rw [take_of_lt (by simp only [hsize]; omega), take_of_lt hlt, hall]
    cases s.failure <;> rfl
  · rw [take_of_le (by simp only [hsize]; omega), take_of_le hle, ByteArray.extract_append,
      Nat.zero_sub]
    rfl

end Source

/-- **Only the source counts**, not the calls in which it arrives: what is read is what the source
has up to the limit, behind what was there before.

**Proof sketch.** Induction on the calls.  Bytes that a call gives stand in front of the rest of the
source, and lower the limit for it (`Source.take_append`). -/
theorem readUpTo_eq (limit : Nat) (arrivals : List Arrival) (done : ByteArray) :
    readUpTo limit arrivals done = ((Source.arriving arrivals).take limit).map (done ++ ·) := by
  induction arrivals generalizing limit done with
  | nil => cases limit <;> simp [readUpTo, Source.arriving, Source.take, Except.map]
  | cons arrival rest ih =>
    cases limit with
    | zero => simp [readUpTo, Source.take, Except.map]
    | succ limit =>
      cases arrival with
      | failed message => simp [readUpTo, Source.arriving, Source.take, Except.map]
      | interrupted => exact ih (limit + 1) done
      | bytes bytes =>
        unfold readUpTo Source.arriving
        split_ifs with hsize
        · -- a call without bytes is the last one, whatever stands behind it
          simp [Source.take, Except.map]
        · rw [ih, Source.take_append]
          cases (Source.arriving rest).take (limit + 1 - bytes.size) with
          | error message => rfl
          | ok read => exact congrArg Except.ok ByteArray.append_assoc

/-! ## What becomes of a body -/

/-- What becomes of the body that a source gives. -/
inductive Source.Received (s : Source) : Except Reply String → Prop where
  | tooLong (hsize : 4 * 1024 * 1024 < s.data.size) :
    s.Received (.error (.error 413 "request body exceeds 4194304 bytes"))
  | broken (hsize : s.data.size ≤ 4 * 1024 * 1024) (failure : String)
    (hfailure : s.failure = some failure) : s.Received (.error (.error 400 ("read body: " ++ failure)))
  | unreadable (hsize : s.data.size ≤ 4 * 1024 * 1024) (hfailure : s.failure = none)
    (hnone : ∀ text : String, text.toUTF8 ≠ s.data) :
    s.Received (.error (.error 400 "body is not valid UTF-8"))
  | whole (hsize : s.data.size ≤ 4 * 1024 * 1024) (hfailure : s.failure = none) (text : String)
    (htext : text.toUTF8 = s.data) : s.Received (.ok text)

/-- The reply to a body that is too large. -/
lemma tooLarge_eq : tooLarge = .error 413 "request body exceeds 4194304 bytes" :=
  congrArg (Reply.error 413) (by decide)

section ReadBody

variable {s : Source}

/-- A body beyond the limit is too large, however it ends. -/
lemma readBody_of_lt (h : maxBodyBytes < s.data.size) : readBody s = .error tooLarge := by
  have hread : (s.data.extract 0 (maxBodyBytes + 1)).size = maxBodyBytes + 1 := by
    rw [ByteArray.size_extract]
    omega
  simp only [readBody, Source.take_of_le h, hread, if_pos (Nat.lt_succ_self _)]

/-- A body within the limit, by how it ends and whether it is UTF-8. -/
lemma readBody_of_le (h : s.data.size ≤ maxBodyBytes) : readBody s = match s.failure with
    | some failure => .error (.error 400 ("read body: " ++ failure))
    | none =>
      match Utf8.decode? s.data with
      | none => .error (.error 400 "body is not valid UTF-8")
      | some text => .ok text := by
  unfold readBody
  rw [Source.take_of_lt (Nat.lt_succ_of_le h)]
  cases s.failure with
  | some failure => rfl
  | none => exact if_neg (Nat.not_lt.2 h)

/-- One of these four things becomes of a body. -/
lemma received_readBody (s : Source) : s.Received (readBody s) := by
  rcases Nat.lt_or_ge maxBodyBytes s.data.size with hlt | hle
  · rw [readBody_of_lt hlt, tooLarge_eq]
    exact .tooLong hlt
  · rw [readBody_of_le hle]
    cases hfailure : s.failure with
    | some failure => exact .broken hle failure hfailure
    | none =>
      cases hdecode : Utf8.decode? s.data with
      | some text => exact .whole hle hfailure text (Utf8.decode?_eq_some_iff.1 hdecode)
      | none =>
        refine .unreadable hle hfailure fun text htext => ?_
        rw [Utf8.decode?_eq_some_iff.2 htext] at hdecode
        cases hdecode

/-- **Nothing else becomes of a body.** -/
theorem readBody_eq_iff {result : Except Reply String} :
    readBody s = result ↔ s.Received result := by
  constructor
  · rintro rfl
    exact received_readBody s
  · rintro (hsize | ⟨hsize, failure, hfailure⟩ | ⟨hsize, hfailure, hnone⟩ |
      ⟨hsize, hfailure, text, htext⟩)
    · rw [readBody_of_lt hsize, tooLarge_eq]
    · rw [readBody_of_le hsize, hfailure]
    · have hdecode : Utf8.decode? s.data = none :=
        Option.eq_none_iff_forall_ne_some.2 fun text h => hnone text (Utf8.decode?_eq_some_iff.1 h)
      rw [readBody_of_le hsize, hfailure, hdecode]
    · rw [readBody_of_le hsize, hfailure, Utf8.decode?_eq_some_iff.2 htext]

end ReadBody

/-! ## The reply -/

/-- A request that declares no length is answered by what becomes of its body. -/
lemma handle_undeclared (service : Service) (method target : String) (s : Source) (now : Instant) :
    handle service { method, target, body := s } now = match readBody s with
      | .error reply => (service, reply)
      | .ok text => route service method target text now := rfl

/-- **A request that declares the length its body has** is answered like one that declares none. -/
theorem handle_declared (service : Service) (method target : String) (s : Source) (now : Instant) :
    handle service { method, target, body := s, declared := some s.data.size } now =
      handle service { method, target, body := s } now := by
  rcases Nat.lt_or_ge maxBodyBytes s.data.size with hlt | hle
  · have hmuch : Request.declaresTooMuch
        { method, target, body := s, declared := some s.data.size } = true := decide_eq_true hlt
    rw [handle_undeclared, readBody_of_lt hlt, handle, if_pos hmuch]
  · have hmuch : ¬Request.declaresTooMuch
        { method, target, body := s, declared := some s.data.size } = true := by
      simpa [Request.declaresTooMuch] using hle
    exact (if_neg hmuch).trans (handle_undeclared service method target s now).symm

/-- **The body of a request**, and the reply, for every source.  A body that is too long is refused
with status 413, whatever it is; any other one is refused with status 400 if its source breaks down,
or if it is no text; and what is read of the rest is the text that all its bytes write.  It does not
count in which calls the bytes arrive.

A request gets the same reply and leaves the same state, whether it declares the length of its body
or none: those of its text if there is one, and otherwise the refusal and the state as it was.

**Proof sketch.** A body that is refused for the length it declares is longer than what is read of
one (`handle_declared`). -/
theorem handle_body (s : Source) :
    (∀ result, readBody s = result ↔ s.Received result) ∧
      ((∃ reply, readBody s = .error reply ∧ reply.status = 413) ↔
        4 * 1024 * 1024 < s.data.size) ∧
      (∀ arrivals, Source.arriving arrivals = s →
        readUpTo (maxBodyBytes + 1) arrivals .empty = s.take (maxBodyBytes + 1)) ∧
      ∀ (service : Service) (method target : String) (now : Instant),
        let declared : Request := { method, target, body := s, declared := some s.data.size }
        let undeclared : Request := { method, target, body := s }
        handle service declared now = handle service undeclared now ∧
          respond service declared now = respond service undeclared now ∧
          (∀ text, readBody s = .ok text →
            handle service undeclared now = route service method target text now) ∧
          ∀ reply, readBody s = .error reply →
            handle service undeclared now = (service, reply) := by
  refine ⟨fun result => readBody_eq_iff, ⟨?_, fun hsize => ?_⟩, ?_, ?_⟩
  · rintro ⟨reply, hreply, hstatus⟩
    -- no other refusal has this status
    cases readBody_eq_iff.1 hreply with
    | tooLong hsize => exact hsize
    | broken => simp [Reply.error] at hstatus
    | unreadable => simp [Reply.error] at hstatus
  · exact ⟨_, readBody_eq_iff.2 (.tooLong hsize), rfl⟩
  · rintro arrivals rfl
    rw [readUpTo_eq]
    cases (Source.arriving arrivals).take (maxBodyBytes + 1) with
    | error message => rfl
    | ok read => exact congrArg Except.ok ByteArray.empty_append
  · intro service method target now declared undeclared
    have hhandle : handle service declared now = handle service undeclared now :=
      handle_declared service method target s now
    refine ⟨hhandle, ?_, fun text htext => ?_, fun reply hreply => ?_⟩
    · simp only [respond, hhandle, Response.ofReply, declared, undeclared]
    · rw [handle_undeclared, htext]
    · rw [handle_undeclared, hreply]

/-- A body of 4 MiB and one byte is too long, whatever follows it; the same failure is noticed behind
one of 4 MiB.  A short body that arrives in two calls is the text of both, and is routed whether its
length is declared or not. -/
theorem handle_body_limit :
    let long (size : Nat) : Source :=
      { data := ⟨Array.replicate size 0xFF⟩, failure := some "reset" }
    let arrivals : List Arrival := [.bytes "[5".toUTF8, .interrupted, .bytes "]".toUTF8]
    let short : Source := { data := "[5]".toUTF8 }
    let service : Service := { registry := Registry.empty {}, history := {} }
    readBody (long (4 * 1024 * 1024 + 1)) = .error tooLarge ∧
      readBody (long (4 * 1024 * 1024)) = .error (.error 400 "read body: reset") ∧
      readUpTo (maxBodyBytes + 1) arrivals .empty = .ok short.data ∧
      readBody short = .ok "[5]" ∧
      handle service
          { method := "POST", target := "/api/active_task/record", body := short, declared := some 3 }
          ⟨0⟩ =
        route service "POST" "/api/active_task/record" "[5]" ⟨0⟩ := by
  intro long arrivals short service
  have hlong : ∀ size, (long size).data.size = size := fun size => Array.size_replicate
  obtain ⟨hbody, -, hcalls, hreply⟩ := handle_body short
  have hshort : readBody short = .ok "[5]" :=
    (hbody _).2 (.whole (by decide +kernel) rfl "[5]" rfl)
  have harrivals : Source.arriving arrivals = short := by
    have hdata : "[5".toByteArray ++ "]".toByteArray = "[5]".toByteArray := by decide +kernel
    simp [arrivals, short, Source.arriving, hdata]
  obtain ⟨hdeclared, -, hroute, -⟩ :=
    hreply service "POST" "/api/active_task/record" ⟨0⟩
  refine ⟨?_, ?_, ?_, hshort, ?_⟩
  · obtain ⟨htooLong, -⟩ := handle_body (long (4 * 1024 * 1024 + 1))
    rw [tooLarge_eq]
    exact (htooLong _).2 (.tooLong (by rw [hlong]; omega))
  · obtain ⟨hbroken, -⟩ := handle_body (long (4 * 1024 * 1024))
    exact (hbroken _).2 (.broken (Nat.le_of_eq (hlong _)) "reset" rfl)
  · rw [hcalls arrivals harrivals]
    rfl
  · rw [← hroute "[5]" hshort]
    exact hdeclared

end Http

end InFlight
