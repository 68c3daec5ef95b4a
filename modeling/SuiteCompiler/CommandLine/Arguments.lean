/-
  SuiteCompiler/CommandLine/Arguments.lean
  ========================================
  The arguments of the command line.  Options are long or short; short ones may be
  written together, a value may follow its option directly or as the next argument,
  and of an option that is given more than once the last value counts.
-/

namespace SuiteCompiler

/-- An option of a command. -/
structure OptionSpec where
  long : String
  short : Option Char := none
  takesValue : Bool := false
  deriving DecidableEq, Repr

/-- An option that is given, by its long name, with its value if it takes one. -/
abbrev GivenOption := String × Option String

/-- Arguments after their options are told apart. -/
structure ParsedArguments where
  options : List GivenOption := []
  positional : List String := []
  deriving DecidableEq, Repr

namespace ParsedArguments

/-- Adds an argument before the others. -/
def withPositional (arg : String) (p : ParsedArguments) : ParsedArguments :=
  { p with positional := arg :: p.positional }

/-- Whether an option is given. -/
def has (p : ParsedArguments) (name : String) : Bool := p.options.any (·.1 = name)

/-- The last value of an option. -/
def value? (p : ParsedArguments) (name : String) : Option String :=
  (p.options.reverse.lookup name).join

end ParsedArguments

namespace Arguments

/-- The short options written together in `letters`.  The first one that takes a value takes the
rest of the letters, or else the next argument; the result is the options and the arguments that
are left, none if a letter is no option or a value is missing. -/
def readLetters (specs : List OptionSpec) (letters : List Char) (rest : List String) :
    Option (List GivenOption × List String) :=
  match letters with
  | [] => some ([], rest)
  | letter :: letters =>
    match specs.find? (·.short = some letter) with
    | none => none
    | some spec =>
      if spec.takesValue then
        if letters.isEmpty then
          match rest with
          | [] => none
          | value :: rest => some ([(spec.long, some value)], rest)
        else some ([(spec.long, some (String.ofList letters))], rest)
      else
        (readLetters specs letters rest).map fun (options, rest) =>
          ((spec.long, none) :: options, rest)

/-- The option that an argument after two dashes gives. -/
def readLong (specs : List OptionSpec) (body : List Char) (rest : List String) :
    Option (List GivenOption × List String) :=
  let name := String.ofList (body.takeWhile (· ≠ '='))
  match specs.find? (·.long = name) with
  | none => none
  | some spec =>
    match body.dropWhile (· ≠ '='), spec.takesValue with
    | _ :: value, true => some ([(spec.long, some (String.ofList value))], rest)
    | _ :: _, false => none
    | [], false => some ([(spec.long, none)], rest)
    | [], true =>
      match rest with
      | [] => none
      | value :: rest => some ([(spec.long, some value)], rest)

/-- Tells options and other arguments apart.  Options may follow other arguments if `interspersed`
says so; after two dashes there are none. -/
def parseFrom (specs : List OptionSpec) (interspersed : Bool) :
    Nat → List String → Option ParsedArguments
  | _, [] => some {}
  | 0, _ => none
  | fuel + 1, arg :: rest =>
    match arg.toList with
    | ['-', '-'] => some { positional := rest }
    | '-' :: '-' :: body => do
      let (options, rest) ← readLong specs body rest
      let parsed ← parseFrom specs interspersed fuel rest
      return { parsed with options := options ++ parsed.options }
    | '-' :: letter :: letters => do
      let (options, rest) ← readLetters specs (letter :: letters) rest
      let parsed ← parseFrom specs interspersed fuel rest
      return { parsed with options := options ++ parsed.options }
    | _ =>
      if interspersed then
        (parseFrom specs interspersed fuel rest).map (·.withPositional arg)
      else some { positional := arg :: rest }

/-- Tells options and other arguments apart; none if an option is unknown, lacks its value or has
one that it does not take. -/
def parse (specs : List OptionSpec) (interspersed : Bool) (args : List String) :
    Option ParsedArguments :=
  parseFrom specs interspersed args.length args

end Arguments

end SuiteCompiler
