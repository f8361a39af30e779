/-!
# Invocations

The command takes the file of its input and options that begin with two hyphens. The value of an
option follows it as the next argument or behind an equals sign, and every option is given at most
once.

* `Invocation`: what a run is asked for;
* `Argument`, `classify`: what a single argument may be;
* `Arguments.read`: the parts of an invocation in a list of arguments;
* `Invocation.ofArguments?`: the invocation of a list of arguments, unless it is refused.
-/

namespace SceneMarkup.CommandLine

/-- What a run is asked for. -/
structure Invocation where
  input : String
  format : String := "html"
  out : String := "."
  vectors : Option String := none
  title : Option String := none
  requireAutoLayout : Bool := false
  deriving DecidableEq, Repr

/-! ### Single arguments -/

/-- A single argument. -/
inductive Argument where
  | option (name : String) (attached : Option String)
  | endOfOptions
  | plain (text : String)
  /-- A hyphen with something behind it, which no option is written as. -/
  | unknown
  deriving DecidableEq, Repr

/-- What an argument is; a hyphen alone is plain. -/
def classify (argument : String) : Argument :=
  match argument.toList with
  | ['-', '-'] => .endOfOptions
  | '-' :: '-' :: rest =>
    .option (String.ofList (rest.takeWhile (· != '=')))
      ((rest.dropWhile (· != '=')).tail?.map String.ofList)
  | '-' :: _ :: _ => .unknown
  | _ => .plain argument

/-! ### Lists of arguments -/

/-- The parts of an invocation that are given so far. -/
structure Arguments where
  input : Option String := none
  format : Option String := none
  out : Option String := none
  vectors : Option String := none
  title : Option String := none
  requireAutoLayout : Bool := false
  deriving DecidableEq, Repr

namespace Arguments

/-- A part that is given for the first time. -/
def once (part : Option String) (value : String) : Option (Option String) :=
  if part.isSome then none else some (some value)

/-- One plain argument more. -/
def addInput (arguments : Arguments) (value : String) : Option Arguments :=
  (once arguments.input value).map fun input => { arguments with input }

/-- One option with a value more. -/
def addOption (arguments : Arguments) (name value : String) : Option Arguments :=
  match name with
  | "format" => (once arguments.format value).map fun format => { arguments with format }
  | "out" => (once arguments.out value).map fun out => { arguments with out }
  | "vectors" => (once arguments.vectors value).map fun vectors => { arguments with vectors }
  | "title" => (once arguments.title value).map fun title => { arguments with title }
  | _ => none

/-- The demand for auto layout, which has no value. -/
def addDemand (arguments : Arguments) : Option Arguments :=
  if arguments.requireAutoLayout then none else some { arguments with requireAutoLayout := true }

/-- The parts of an invocation in the arguments that are left. -/
def read (arguments : Arguments) : List String → Option Arguments
  | [] => some arguments
  | argument :: rest =>
    match classify argument with
    | .plain text => do read (← arguments.addInput text) rest
    | .endOfOptions => rest.foldlM addInput arguments
    | .unknown => none
    | .option name (some value) => do read (← arguments.addOption name value) rest
    | .option name none =>
      if name = "require-auto-layout" then do read (← arguments.addDemand) rest
      else
        match rest with
        | [] => none
        | value :: rest =>
          match classify value with
          | .plain value => do read (← arguments.addOption name value) rest
          | _ => none

end Arguments

/-- The invocation of a list of arguments, unless it is refused. -/
def Invocation.ofArguments? (list : List String) : Option Invocation := do
  let arguments ← Arguments.read {} list
  let input ← arguments.input
  if input.isEmpty then none
  else
    return {
      input
      format := arguments.format.getD "html"
      out := arguments.out.getD "."
      vectors := arguments.vectors
      title := arguments.title
      requireAutoLayout := arguments.requireAutoLayout }

end SceneMarkup.CommandLine
