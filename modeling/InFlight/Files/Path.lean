import InFlight.Text.Split

/-!
# Paths as texts

A path is a text whose parts are separated by slashes.  The parts that are not empty are its
*steps*.  A step of one dot stays where it is, a step of two dots leads back, and any other
step is a name.

The last step that is not a dot alone decides what a path is called: when it is a name, it is
the *name* of the path.  A dot that begins a path counts as a step here, so `./a` stands in
`.` and not in the empty path.

## Main definitions

* `InFlight.Path.steps` — the parts that are not empty.
* `InFlight.Path.isAbsolute`, `InFlight.Path.endsInSlash`, `InFlight.Path.endsInName` — how a
  path begins and ends.
* `InFlight.Path.parent?` — the path without its last step.
* `InFlight.Path.withExtension` — the path with another extension of its name.
* `InFlight.Path.join`, `InFlight.Path.within` — a path below a directory, and back.
-/

set_option relaxedAutoImplicit false
set_option autoImplicit false

namespace InFlight

namespace Path

/-- The parts that are not empty. -/
def steps (path : String) : List String :=
  (Text.split '/' path).filter fun s => !s.isEmpty

/-- A step that is no name. -/
def isDots (step : String) : Bool := step == "." || step == ".."

/-- A path that begins with a slash. -/
def isAbsolute (path : String) : Bool := path.toList.head? == some '/'

/-- A path that ends with a slash. -/
def endsInSlash (path : String) : Bool := path.toList.getLast? == some '/'

/-- A path whose very last step is a name. -/
def endsInName (path : String) : Bool := (steps path).getLast?.any fun s => !isDots s

/-! ## The last step -/

/-- Drops slashes, and dots that are a step of their own, from the end of a path given in
reverse; a dot that begins the path is kept. -/
def dropIdle : List Char → List Char
  | '/' :: rest => dropIdle rest
  | '.' :: '/' :: rest => dropIdle rest
  | cs => cs

/-- A path up to its last step, and that step. -/
def splitLast (path : String) : String × String :=
  let cs := dropIdle path.toList.reverse
  let last := cs.takeWhile fun c => c != '/'
  let base := cs.dropWhile fun c => c != '/'
  (String.ofList base.reverse, String.ofList last.reverse)

/-- The name of a path. -/
def name? (path : String) : Option String :=
  let last := (splitLast path).2
  if last.isEmpty || isDots last then none else some last

/-- The path without its last step; none when it has no step. -/
def parent? (path : String) : Option String :=
  let (base, last) := splitLast path
  if last.isEmpty then none
  else
    let kept := String.ofList (dropIdle base.toList.reverse).reverse
    some (if kept.isEmpty && isAbsolute base then "/" else kept)

/-! ## Extensions -/

/-- A name without its extension, which begins at the last dot; a name that has no dot but at
its start has no extension. -/
def stem (name : String) : String :=
  let cs := name.toList
  let before := (cs.reverse.dropWhile fun c => c != '.').drop 1
  if before.isEmpty then name else String.ofList before.reverse

/-- The path with another extension of its name; a path without a name stays as it is.

A name of two dots and more letters at the very end of the path is lost: the letters are its
extension, and the two dots that are left without them are no name. -/
def withExtension (path extension : String) : String :=
  match name? path with
  | none => path
  | some name =>
    let base := (splitLast path).1
    if stem name = "." ∧ path = base ++ name then base ++ ".."
    else base ++ stem name ++ "." ++ extension

/-! ## Below a directory -/

/-- A path that starts from a directory; an absolute one stays as it is. -/
def join (directory path : String) : String :=
  if isAbsolute path then path else directory ++ "/" ++ path

/-- Drops slashes, and dots that are a step of their own, from the start of the rest of a
path. -/
def dropIdleStart : List Char → List Char
  | '/' :: rest => dropIdleStart rest
  | '.' :: '/' :: rest => dropIdleStart rest
  | ['.'] => []
  | cs => cs

/-- The rest of a path behind a directory that it begins with; a path that begins otherwise
stays as it is. -/
def within (directory path : String) : String :=
  let rest := path.toList.drop directory.length
  if path = directory ++ String.ofList rest ∧ (rest.isEmpty ∨ rest.head? = some '/') then
    String.ofList (dropIdle (dropIdleStart rest).reverse).reverse
  else path

end Path

end InFlight
