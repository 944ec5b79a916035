/-! Arguments as a command line gives them: positional ones, options with a value,
and flags, in any order. -/
namespace Baseboard.CommandLine

/-- An option that a command knows. -/
structure OptionSpec where
  name : String
  /-- The letter that may stand for the name. Only options with a value have one. -/
  letter : Option Char := none
  takesValue : Bool := true
  repeatable : Bool := false
  deriving DecidableEq, Repr

/-- What one argument is. -/
inductive Shape where
  | positional
  | flag (name : String)
  /-- An option with its value in the same argument. -/
  | attached (name value : String)
  /-- An option whose value is the next argument. -/
  | detached (name : String)
  | unknown
  deriving DecidableEq, Repr

/-- One thing said by the arguments. -/
inductive Item where
  | positional (text : String)
  | flag (name : String)
  | option (name value : String)
  deriving DecidableEq, Repr

/-- Whether an argument is an option or the end of the options. A lone hyphen is
neither. -/
def looksLikeOption (arg : String) : Bool :=
  match arg.toList with
  | '-' :: _ :: _ => true
  | _ => false

/-- A long option, perhaps with a value after an equals sign. -/
def longShape (specs : List OptionSpec) (body : List Char) : Shape :=
  let name := String.ofList (body.takeWhile (· ≠ '='))
  match specs.find? (·.name = name), body.dropWhile (· ≠ '=') with
  | some spec, [] => if spec.takesValue then .detached name else .flag name
  | some spec, _ :: value =>
    if spec.takesValue then .attached name (String.ofList value) else .unknown
  | none, _ => .unknown

/-- A short option, perhaps with a value behind it. An equals sign in between is
skipped. -/
def shortShape (specs : List OptionSpec) (letter : Char) (body : List Char) : Shape :=
  match specs.find? (·.letter = some letter), body with
  | some spec, [] => .detached spec.name
  | some spec, '=' :: value => .attached spec.name (String.ofList value)
  | some spec, value => .attached spec.name (String.ofList value)
  | none, _ => .unknown

/-- What an argument is before the end of the options. -/
def shape (specs : List OptionSpec) (arg : String) : Shape :=
  match arg.toList with
  | '-' :: '-' :: body => longShape specs body
  | '-' :: letter :: body => shortShape specs letter body
  | _ => .positional

/-- What the arguments say, unless one is unknown or lacks its value. All that
follows two hyphens is positional. -/
def scan (specs : List OptionSpec) : List String → Option (List Item)
  | [] => some []
  | arg :: rest =>
    if arg = "--" then some (rest.map .positional)
    else
      match shape specs arg with
      | .positional => (scan specs rest).map (.positional arg :: ·)
      | .flag name => (scan specs rest).map (.flag name :: ·)
      | .attached name value => (scan specs rest).map (.option name value :: ·)
      | .detached name =>
        match rest with
        | [] => none
        | value :: rest =>
          if looksLikeOption value then none
          else (scan specs rest).map (.option name value :: ·)
      | .unknown => none

namespace Item

def name? : Item → Option String
  | positional _ => none
  | flag name => some name
  | option name _ => some name

end Item

/-- What the arguments say, sorted. -/
structure Arguments where
  items : List Item

namespace Arguments

/-- The arguments of a command with given options. An option that is not
repeatable may be given only once. -/
def parse (specs : List OptionSpec) (args : List String) : Option Arguments := do
  let items ← scan specs args
  let names := items.filterMap Item.name?
  if specs.all fun spec => spec.repeatable || names.count spec.name ≤ 1 then some ⟨items⟩
  else none

def positionals (a : Arguments) : List String :=
  a.items.filterMap fun
    | .positional text => some text
    | _ => none

def values (a : Arguments) (name : String) : List String :=
  a.items.filterMap fun
    | .option n value => if n = name then some value else none
    | _ => none

def hasFlag (a : Arguments) (name : String) : Bool := a.items.contains (.flag name)

def readAll (a : Arguments) (name : String) (read : String → Option α) : Option (List α) :=
  (a.values name).mapM read

/-- The value of an option as `read` understands it, if the option is given. -/
def readOne (a : Arguments) (name : String) (read : String → Option α) : Option (Option α) :=
  (a.readAll name read).map (·.head?)

end Arguments
end Baseboard.CommandLine
