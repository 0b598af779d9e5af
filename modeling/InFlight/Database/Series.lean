/-!
# Series

A series hands out its items one after the other.  It may break off before its end, when what
the next item stands in turns out to be damaged; the items before that can be used all the same
by those who need no more of them.

## Main definitions

* `InFlight.Database.Series` — a series.
* `InFlight.Database.Series.run` — going through a series as far as needed.
* `InFlight.Database.Series.toList?`, `InFlight.Database.Series.length?` — a whole series.
-/

set_option relaxedAutoImplicit false
set_option autoImplicit false

namespace InFlight

namespace Database

/-- Items that are met one after the other, up to an end or to damage. -/
inductive Series (α : Type) where
  | done
  | broken
  | item (a : α) (rest : Unit → Series α)

namespace Series

variable {α β σ : Type}

/-- The items of a list ahead of a series. -/
def ahead (items : List α) (rest : Unit → Series α) : Series α :=
  match items with
  | [] => rest ()
  | a :: items => .item a fun _ => ahead items rest

/-- The series of a list. -/
def ofList (items : List α) : Series α := ahead items fun _ => .done

/-- A series with something else in place of every item; where that fails it breaks off. -/
def mapM (f : α → Option β) : Series α → Series β
  | done => done
  | broken => broken
  | item a rest =>
    match f a with
    | some b => .item b fun _ => mapM f (rest ())
    | none => broken

/-- What a step makes of an item. -/
inductive Step (σ : Type) where
  /-- Go on with the next item. -/
  | next (state : σ)
  /-- No more items are needed. -/
  | enough (state : σ)
  /-- The item is damaged. -/
  | broken

/-- The state after steps through a series, as far as items are needed; none for damage. -/
def run (step : σ → α → Step σ) : σ → Series α → Option σ
  | s, done => some s
  | _, broken => none
  | s, item a rest =>
    match step s a with
    | .next s => run step s (rest ())
    | .enough s => some s
    | .broken => none

/-- All items of a series; none if it breaks off. -/
def toList? (s : Series α) : Option (List α) :=
  (run (fun done a => .next (a :: done)) [] s).map List.reverse

/-- How many items a series has; none if it breaks off. -/
def length? (s : Series α) : Option Nat := run (fun n _ => .next (n + 1)) 0 s

/-- A run through items ahead of a series is one through the items and then the series. -/
theorem run_ahead (step : σ → α → Step σ) (s : σ) (a : α) (items : List α)
    (rest : Unit → Series α) :
    run step s (ahead (a :: items) rest) =
      match step s a with
      | .next s => run step s (ahead items rest)
      | .enough s => some s
      | .broken => none := rfl

/-- The series of a list has the length of the list. -/
theorem length?_ofList (items : List α) : (ofList items).length? = some items.length := by
  have key : ∀ (items : List α) (n : Nat),
      run (fun n (_ : α) => Step.next (n + 1)) n (ofList items) = some (n + items.length) := by
    intro items
    induction items with
    | nil => intro n; rfl
    | cons a items ih =>
      intro n
      have := ih (n + 1)
      simp only [ofList] at this
      simp only [ofList, run_ahead, this, List.length_cons]
      congr 1
      omega
  simpa [length?] using key items 0

end Series

end Database

end InFlight
