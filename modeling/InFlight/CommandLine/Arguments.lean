import InFlight.Text.Decimal

/-!
# Options and operands

A command line is a list of words, read from the left.  A word that begins with a dash, and is
not a dash alone, gives an option; the word of two dashes ends the options; every other word
is an operand.

An option has a long name, written behind two dashes, and perhaps a letter, written behind one.
An option that takes a value has it in the same word, behind an equals sign or directly behind
the letter, or else in the next word, which must not look like an option.  An option that takes
none is given by its name alone.  No option may be given twice, every value must be of the kind
that its option takes, and there are no more operands than the command names.

The first word that breaks a rule settles that the command line is refused, and the first
option that asks for help or the version settles that this is all that is done; the words
behind it are not looked at.

## Main definitions

* `InFlight.CommandLine.Kind` — what a value must be.
* `InFlight.CommandLine.Choice`, `InFlight.CommandLine.Grammar` — what a command understands.
* `InFlight.CommandLine.Arguments` — what was given: options and operands.
* `InFlight.CommandLine.Reading` — what a command line comes to.
* `InFlight.CommandLine.Grammar.read` — what a list of words comes to.
-/

set_option relaxedAutoImplicit false
set_option autoImplicit false

namespace InFlight

namespace CommandLine

/-! ## Values -/

/-- A path: any text but the empty one. -/
def path? (s : String) : Option String := if s.isEmpty then none else some s

/-- A port: a number between 0 and 65535. -/
def port? (s : String) : Option Nat :=
  (Decimal.int64? s).bind fun i => if 0 ≤ i ∧ i ≤ 65535 then some i.toNat else none

/-- What the value of an option, or an operand, must be. -/
inductive Kind where
  | text
  | path
  | port
  | number
deriving DecidableEq, Repr

/-- A text is of a kind. -/
def Kind.accepts : Kind → String → Bool
  | .text, _ => true
  | .path, s => (path? s).isSome
  | .port, s => (port? s).isSome
  | .number, s => (Decimal.int64? s).isSome

/-! ## What a command understands -/

/-- What an option does. -/
inductive Role where
  | flag
  | value (kind : Kind)
  | help
  | version
deriving DecidableEq, Repr

/-- An option that a command has. -/
structure Choice where
  name : String
  letter : Option Char := none
  role : Role
deriving DecidableEq, Repr

/-- The options of a command and the kinds of its operands. -/
structure Grammar where
  choices : List Choice
  operands : List Kind := []
deriving DecidableEq, Repr

/-- What was given: options with their values, and operands, each in order. -/
structure Arguments where
  options : List (String × Option String) := []
  operands : List String := []
deriving DecidableEq, Repr

/-! ## One word -/

/-- What one word gives. -/
inductive Word where
  | operand
  /-- The end of the options. -/
  | endOfOptions
  | help
  | version
  /-- An option that is complete without a value. -/
  | flag (name : String)
  /-- An option with its value. -/
  | option (name : String) (kind : Kind) (value : String)
  /-- An option whose value is the next word. -/
  | wanting (name : String) (kind : Kind)
  /-- An option that the command does not have, or not with a value. -/
  | unknown
deriving DecidableEq, Repr

namespace Word

/-- A word given by its characters looks like an option. -/
def looksLikeOption : List Char → Bool
  | '-' :: _ :: _ => true
  | _ => false

/-- An option given by its long name, with a value if an equals sign follows the name. -/
def ofLong (choices : List Choice) (name : String) (value : Option String) : Word :=
  match choices.find? fun c => c.name == name with
  | none => .unknown
  | some c =>
    match c.role, value with
    | .value kind, some value => .option name kind value
    | .value kind, none => .wanting name kind
    | .flag, none => .flag name
    | .help, none => .help
    | .version, none => .version
    | _, some _ => .unknown

/-- An option given by its letter, with the characters that follow the letter.  Nothing may
follow the letter of a flag; what follows a letter that asks for help or the version does not
matter. -/
def ofLetter (choices : List Choice) (letter : Char) (rest : List Char) : Word :=
  match choices.find? fun c => c.letter == some letter with
  | none => .unknown
  | some c =>
    match c.role, rest with
    | .value kind, [] => .wanting c.name kind
    | .value kind, '=' :: value => .option c.name kind (String.ofList value)
    | .value kind, value => .option c.name kind (String.ofList value)
    | .flag, [] => .flag c.name
    | .flag, _ => .unknown
    | .help, _ => .help
    | .version, _ => .version

/-- What one word gives. -/
def ofString (choices : List Choice) (word : String) : Word :=
  match word.toList with
  | ['-', '-'] => .endOfOptions
  | '-' :: '-' :: cs =>
    let name := String.ofList (cs.takeWhile fun c => c != '=')
    match cs.dropWhile fun c => c != '=' with
    | _ :: value => ofLong choices name (some (String.ofList value))
    | [] => ofLong choices name none
  | '-' :: letter :: rest => ofLetter choices letter rest
  | _ => .operand

end Word

/-! ## What was given -/

namespace Arguments

/-- An option is given. -/
def given (a : Arguments) (name : String) : Bool := (a.options.lookup name).isSome

/-- The value of an option. -/
def value? (a : Arguments) (name : String) : Option String := (a.options.lookup name).join

/-- What was given with one more option, which must be a new one. -/
def withOption? (a : Arguments) (name : String) (value : Option String) : Option Arguments :=
  if a.given name then none else some { a with options := a.options ++ [(name, value)] }

/-- What was given with the value of one more option, which must be of its kind. -/
def withValue? (a : Arguments) (name : String) (kind : Kind) (value : String) :
    Option Arguments :=
  if kind.accepts value then a.withOption? name (some value) else none

/-- What was given with one more operand, if there may be one more and it is of its kind. -/
def withOperand? (a : Arguments) (kinds : List Kind) (word : String) : Option Arguments :=
  match kinds[a.operands.length]? with
  | none => none
  | some kind =>
    if kind.accepts word then some { a with operands := a.operands ++ [word] } else none

end Arguments

/-! ## All words -/

/-- What a command line comes to. -/
inductive Reading where
  | given (a : Arguments)
  | help
  | version
  | refused
deriving DecidableEq, Repr

namespace Grammar

/-- What words behind the end of the options come to: all of them are operands. -/
def readOperands (g : Grammar) (a : Arguments) : List String → Reading
  | [] => .given a
  | word :: rest =>
    match a.withOperand? g.operands word with
    | some a => g.readOperands a rest
    | none => .refused

/-- What words come to behind those that gave `a`. -/
def readOnto (g : Grammar) (a : Arguments) : List String → Reading
  | [] => .given a
  | word :: rest =>
    match Word.ofString g.choices word with
    | .endOfOptions => g.readOperands a rest
    | .help => .help
    | .version => .version
    | .unknown => .refused
    | .operand =>
      match a.withOperand? g.operands word with
      | some a => g.readOnto a rest
      | none => .refused
    | .flag name =>
      match a.withOption? name none with
      | some a => g.readOnto a rest
      | none => .refused
    | .option name kind value =>
      match a.withValue? name kind value with
      | some a => g.readOnto a rest
      | none => .refused
    | .wanting name kind =>
      match rest with
      | [] => .refused
      | value :: rest =>
        if Word.looksLikeOption value.toList then .refused
        else
          match a.withValue? name kind value with
          | some a => g.readOnto a rest
          | none => .refused

/-- What a list of words comes to. -/
def read (g : Grammar) (words : List String) : Reading := g.readOnto {} words

end Grammar

end CommandLine

end InFlight
