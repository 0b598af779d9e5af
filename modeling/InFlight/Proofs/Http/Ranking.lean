import InFlight.Proofs.Http.Form
import InFlight.Proofs.Http.Query
import InFlight.Proofs.Registry.Stats

/-!
# The reply with the ranking

A request for the ranking asks for a window and for a number of rows.  Both are brought into their
ranges before the registry is asked, and the registry brings the window into its range once more.
Since a window that is in range stays as it is, the reply names the window in which the slots were
counted, whatever the query was.

## Main results

* `InFlight.Registry.ranked_rank_effectiveWindow` — a ranking for a window that is in range.
* `InFlight.Http.rank_reply` — the reply to every request for the ranking.
-/

set_option relaxedAutoImplicit false
set_option autoImplicit false

namespace InFlight

namespace Registry

/-- With a limit, the first rows of the ranking are listed. -/
lemma rank_some (r : Registry) (window : Int) (limit : Nat) (now : Int) :
    r.rank window (some limit) now = (r.rank window none now).take limit := rfl

/-- **Slots are counted in the window that a request got**, when that window is asked for. -/
theorem ranked_rank_effectiveWindow (r : Registry) (window now : Int) :
    r.Ranked (now - Ranking.effectiveWindow window)
      (r.rank (Ranking.effectiveWindow window) none now) := by
  have hranked := r.ranked_rank (Ranking.effectiveWindow window) now
  rwa [Ranking.effectiveWindow_effectiveWindow] at hranked

end Registry

namespace Http

/-- The number of rows, in the range of integers. -/
lemma rankLimit_eq (asked : Int) :
    rankLimit asked = (if asked ≤ 0 then 50 else min asked 200 : Int).toNat := by
  unfold rankLimit
  split_ifs <;> omega

/-- **The reply to a request for the ranking**, for every state, query, body and time.  The query is
read as the assignments that it writes.  The window and the number of rows are what it gives these
keys: 30 seconds and 50 rows if that is not positive, and at most 3600 seconds and 200 rows.  There
is one ranking of the slots that were touched in this window.  The reply lists its first rows, each
with the number of active slots, the account and its name, and names the window; the state stays as
it is.

**Proof sketch.** The window is in range when the registry is asked
(`Registry.ranked_rank_effectiveWindow`), and there is only one ranking
(`Registry.Ranked.eq`). -/
theorem rank_reply (s : Service) (query body : String) (now : Instant) :
    let q := Query.parse query
    let window : Int := if q.number "window" ≤ 0 then 30 else min (q.number "window") 3600
    let limit : Int := if q.number "limit" ≤ 0 then 50 else min (q.number "limit") 200
    (∀ written, Query.Writes query written → q = written) ∧
      (∀ key i, q.number key = i ↔ q.Gives key i) ∧
      ∃ rows, (∀ rows', s.registry.Ranked (now.seconds - window) rows' ↔ rows' = rows) ∧
        route s "GET" ("/api/active_task/rank?" ++ query) body now = (s,
          { status := 200
            body := .record [
              ("data", .record [
                ("rank", .array ((rows.take limit.toNat).map fun row => .record [
                  ("active_slots", .nat row.activeSlots),
                  ("user_id", .int row.owner),
                  ("username", .text row.name)])),
                ("window_seconds", .int window)]),
              ("success", .bool true)] }) := by
  intro q window limit
  have hranked : s.registry.Ranked (now.seconds - window) (s.registry.rank window none now.seconds) :=
    s.registry.ranked_rank_effectiveWindow (q.number "window") now.seconds
  refine ⟨fun _ => Query.parse_of_writes, fun _ _ => Query.number_eq_iff,
    s.registry.rank window none now.seconds,
    fun rows' => ⟨fun h => h.eq hranked, ?_⟩, ?_⟩
  · rintro rfl
    exact hranked
  · have hlimit : rankLimit (q.number "limit") = limit.toNat := rankLimit_eq _
    rw [← hlimit, ← Registry.rank_some]
    exact route_path_append .rank s query body now

/-- Two accounts have a slot each.  A query asks for too long a window, and has two limits, of which
the last one counts; its plus sign is coded.  The slots are counted in the longest window, in which
both were touched, and the first row of the ranking is listed. -/
theorem rank_reply_two_accounts :
    let s : Service :=
      { registry := ((Registry.empty ⟨2, 1⟩).run [⟨1, "a", .empty, 1⟩, ⟨2, "b", .empty, 2⟩]).1
        history := {} }
    let query := "window=7200&limit=0&limit=%2B1"
    Query.Writes query [("window", "7200"), ("limit", "0"), ("limit", "+1")] ∧
      route s "GET" ("/api/active_task/rank?" ++ query) "" ⟨3601000000000⟩ = (s,
        { status := 200
          body := .record [
            ("data", .record [
              ("rank", .array [.record [
                ("active_slots", .nat 1),
                ("user_id", .int 1),
                ("username", .text "a")]]),
              ("window_seconds", .int 3600)]),
            ("success", .bool true)] }) ∧
      (route s "GET" ("/api/active_task/rank?" ++ query) "" ⟨3601000000000⟩).2.text =
        "\x7b\"data\":\x7b\"rank\":[\x7b\"active_slots\":1,\"user_id\":1,\"username\":\"a\"\x7d]," ++
          "\"window_seconds\":3600\x7d,\"success\":true\x7d" := by
  intro s query
  have hwrites : Query.Writes query [("window", "7200"), ("limit", "0"), ("limit", "+1")] := by
    let parts := [Utf8.encode "window" ++ 0x3D :: Utf8.encode "7200",
      Utf8.encode "limit" ++ 0x3D :: Utf8.encode "0",
      Utf8.encode "limit" ++ 0x3D :: Utf8.encode "%2B1"]
    have hfilter : (parts.filter fun part => !part.isEmpty) = parts := by decide +kernel
    refine ⟨parts, Text.parted_iff.2 (by decide +kernel), ?_⟩
    rw [hfilter]
    refine .cons (.of_percentDecode ?_ ?_ ?_) (.cons (.of_percentDecode ?_ ?_ ?_)
      (.cons (.of_percentDecode ?_ ?_ ?_) .nil))
    all_goals decide +kernel
  obtain ⟨hparse, -, rows, hrows, hreply⟩ := rank_reply s query "" ⟨3601000000000⟩
  have hread : Query.parse query = [("window", "7200"), ("limit", "0"), ("limit", "+1")] :=
    hparse _ hwrites
  have hwindow : (Query.parse query).number "window" = 7200 := by
    rw [hread]
    decide +kernel
  have hlimit : (Query.parse query).number "limit" = 1 := by
    rw [hread]
    decide +kernel
  have hrank : s.registry.rank 3600 none 3601 = [⟨1, "a", 1⟩, ⟨2, "b", 1⟩] :=
    Registry.rank_run_two_accounts .empty (by decide)
  have hlisted : rows = [⟨1, "a", 1⟩, ⟨2, "b", 1⟩] := by
    rw [← hrank]
    refine ((hrows _).1 ?_).symm
    rw [hwindow]
    exact s.registry.ranked_rank 3600 3601
  simp only [hwindow, hlimit, hlisted] at hreply
  refine ⟨hwrites, hreply, ?_⟩
  rw [hreply]
  decide +kernel

end Http

end InFlight
