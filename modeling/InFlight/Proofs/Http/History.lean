import InFlight.Proofs.Audit.Exactness
import InFlight.Proofs.Http.Form
import InFlight.Proofs.Http.Query

/-!
# The reply with the history

A request for the history asks for a span of time, for an account and for a number of records.  The
number is brought into its range before the history is asked, so that the history never falls back
on a number of its own.  The reply lists the newest of the records that are asked for, in order, and
how many are listed.  Only a history that cannot be read at all is answered with an error, and then
whatever is asked.

## Main results

* `InFlight.Audit.Backend.exists_arranged_of_select` — what every kind of history lists.
* `InFlight.Audit.Store.select_eq_error_iff` — which histories cannot be read.
* `InFlight.Http.history_reply` — the reply to every request for the history.

## Design

Nothing is asked of the history.  Where the numbers of its records differ, as they do in histories
that were appended to from the start, the records listed stand in a strict order.
-/

set_option relaxedAutoImplicit false
set_option autoImplicit false

namespace InFlight

namespace Audit

/-- **What every kind of history lists**: the first of the records that are asked for, in order. -/
theorem Backend.exists_arranged_of_select {b : Backend} {q : Query} {listed : List Record}
    (h : b.select q = .ok listed) :
    ∃ all, Arranged b.records q all ∧ listed = all.take q.rowLimit := by
  rw [← q.toNat_effectiveLimit]
  have ofTable : ∀ t : Table, t.select q = listed → ∃ all,
      Arranged (t.rows.toList.map Row.toRecord) q all ∧
        listed = all.take q.effectiveLimit.toNat := by
    rintro t rfl
    exact ⟨_, .ordered t q, t.select_eq_take q⟩
  rcases b with j | (_ | t) | t
  · cases h
    exact ⟨_, .mergeSort j.records.toList q, rfl⟩
  · cases h
  · exact ofTable t (Except.ok.inj h)
  · exact ofTable t (Except.ok.inj h)

namespace Store

variable {s : Store} {q : Query}

/-- What a history lists that can be read. -/
lemma exists_arranged_of_select {listed : List Record} (h : s.select q = .ok listed) :
    ∃ all, Arranged s.backend.records q all ∧ listed = all.take q.rowLimit := by
  unfold select at h
  split at h
  · cases h
  · exact Backend.exists_arranged_of_select h

/-- A history cannot be read if the medium refuses to be read or the table is gone, whatever is
asked. -/
lemma select_eq_error_iff :
    (∃ e, s.select q = .error e) ↔ s.faults.reading = true ∨ s.backend = .table none := by
  unfold select
  cases s.faults.reading with
  | true => simp
  | false => rcases s.backend with j | (_ | t) | t <;> simp [Backend.select]

end Store

end Audit

namespace Http

/-- **The reply to a request for the history**, for every state, query, body and time.  The query is
read as the assignments that it writes.  The span of time, the account and the number of records are
what it gives these keys; 100 records are listed if that number is not positive, and never more than
500.  The history takes the number as it
comes, since it is positive.  The state stays as it is.

* A history that cannot be read is answered with status 500 and its error, whatever is asked.
* Any other one is answered with the first of the records that are asked for, in order, and with how
  many these are.  The order is strict if no number occurs twice in the history.

**Proof sketch.** The rows of a table and the records in memory are put in the same order
(`Audit.Backend.exists_arranged_of_select`). -/
theorem history_reply (s : Service) (query body : String) (now : Instant) :
    let q := Query.parse query
    let limit : Int := if q.number "limit" ≤ 0 then 100 else min (q.number "limit") 500
    let asked : Audit.Query :=
      { startTime := q.number "start_time"
        endTime := q.number "end_time"
        owner := q.number "user_id"
        limit }
    let held := s.history.backend.records
    let answer := route s "GET" ("/api/active_task/history?" ++ query) body now
    (∀ written, Query.Writes query written → q = written) ∧
      (∀ key i, q.number key = i ↔ q.Gives key i) ∧
      (0 < limit ∧ limit ≤ 500 ∧ asked.effectiveLimit = limit) ∧
      answer.1 = s ∧
      ((∃ e, s.history.select asked = .error e) ↔
        s.history.faults.reading = true ∨ s.history.backend = .table none) ∧
      (∀ e, s.history.select asked = .error e → answer.2 =
        { status := 500
          body := .record [
            ("message", .text ("failed to load history: " ++ e.message)),
            ("success", .bool false)] }) ∧
      ∀ listed, s.history.select asked = .ok listed →
        answer.2 =
            { status := 200
              body := .record [
                ("data", .record [
                  ("records", .array (listed.map fun r => .record [
                    ("active_slots", .nat r.activeSlots),
                    ("created_at", .int r.createdAt),
                    ("id", .int r.id),
                    ("user_id", .int r.owner),
                    ("username", .text r.name),
                    ("window_secs", .int r.windowSecs)])),
                  ("total", .nat listed.length)]),
                ("success", .bool true)] } ∧
          listed.length = min limit.toNat (held.countP fun r => asked.Asks r) ∧
          listed.length ≤ 500 ∧
          ∃ all, Audit.Arranged held asked all ∧ listed = all.take limit.toNat ∧
            ((held.map Audit.Record.id).Nodup → Audit.Complete held asked all) := by
  intro q limit asked held answer
  have hbounds : 0 < limit ∧ limit ≤ 500 := by
    simp only [limit]
    split_ifs <;> omega
  have heffective : asked.effectiveLimit = limit := if_neg (Int.not_le.2 hbounds.1)
  have hanswer : answer = (s, answerHistory s q) := route_path_append .history s query body now
  have hasked : historyQuery q = asked := rfl
  refine ⟨fun _ => Query.parse_of_writes, fun _ _ => Query.number_eq_iff,
    ⟨hbounds.1, hbounds.2, heffective⟩, ?_, Audit.Store.select_eq_error_iff, fun e he => ?_,
    fun listed hlisted => ?_⟩
  · rw [hanswer]
  · rw [hanswer]
    simp only [answerHistory, hasked, he, Reply.error]
  · obtain ⟨all, harranged, hall⟩ := Audit.Store.exists_arranged_of_select hlisted
    rw [← asked.toNat_effectiveLimit, heffective] at hall
    have hlength : listed.length = min limit.toNat (held.countP fun r => asked.Asks r) := by
      rw [hall, harranged.length_take]
    refine ⟨?_, hlength, by omega, all, harranged, hall, harranged.complete⟩
    rw [hanswer]
    simp only [answerHistory, hasked, hlisted, Reply.success]
    rfl

/-- A query has two limits, of which the last one counts, and its account is written with blanks, a
plus sign and a percent sign.  Of two records of the account with the same time the one with the
higher number is listed.  When the table is gone, the same request is an error. -/
theorem history_reply_newest :
    let rows : Array Audit.Row :=
      #[⟨1, 5, "a", 6, 60, 9⟩, ⟨2, 5, "b", 7, 60, 9⟩, ⟨3, 8, "c", 8, 60, 9⟩]
    let query := "limit=0&user_id=+%2B5+&limit=1"
    let s (table : Option Audit.Table) : Service :=
      { registry := Registry.empty {}, history := { backend := .table table } }
    let reply (table : Option Audit.Table) : Reply :=
      (route (s table) "GET" ("/api/active_task/history?" ++ query) "" ⟨0⟩).2
    (s (some { rows })).history.select (historyQuery (Query.parse query)) =
        .ok [⟨2, 5, "b", 7, 60, 9⟩] ∧
      ((s (some { rows })).history.backend.records.map Audit.Record.id).Nodup ∧
      reply (some { rows }) =
        { status := 200
          body := .record [
            ("data", .record [
              ("records", .array [.record [
                ("active_slots", .nat 7),
                ("created_at", .int 9),
                ("id", .int 2),
                ("user_id", .int 5),
                ("username", .text "b"),
                ("window_secs", .int 60)]]),
              ("total", .nat 1)]),
            ("success", .bool true)] } ∧
      (reply (some { rows })).text =
        "\x7b\"data\":\x7b\"records\":[\x7b\"active_slots\":7,\"created_at\":9,\"id\":2," ++
          "\"user_id\":5,\"username\":\"b\",\"window_secs\":60\x7d],\"total\":1\x7d," ++
          "\"success\":true\x7d" ∧
      (s none).history.select (historyQuery (Query.parse query)) = .error .database ∧
      (reply none).status = 500 := by
  intro rows query s reply
  have hasked : historyQuery (Query.parse query) = { owner := 5, limit := 1 } := by decide +kernel
  have hlisted : (s (some { rows })).history.select (historyQuery (Query.parse query)) =
      .ok [⟨2, 5, "b", 7, 60, 9⟩] := by
    rw [hasked]
    rfl
  have hgone : (s none).history.select (historyQuery (Query.parse query)) = .error .database := rfl
  obtain ⟨-, -, -, -, -, -, hsuccess⟩ := history_reply (s (some { rows })) query "" ⟨0⟩
  obtain ⟨-, -, -, -, -, herror, -⟩ := history_reply (s none) query "" ⟨0⟩
  obtain ⟨hanswered, -⟩ := hsuccess _ hlisted
  refine ⟨hlisted, by decide, hanswered, ?_, hgone, congrArg Reply.status (herror _ hgone)⟩
  simp only [reply, hanswered]
  decide +kernel

end Http

end InFlight
