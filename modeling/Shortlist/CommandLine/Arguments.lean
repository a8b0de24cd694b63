import Shortlist.CommandLine.Similarity

/-!
# Arguments

The command line takes an option with a value, `-c` or `--config`, and the flags for help and for
the version. The value follows as the next argument, behind an equals sign, or, behind the short
form, right away; it must not be empty and the option not be repeated. A variable of the environment
stands in for an option that is not given. Flags take effect as soon as they are read, and an
argument that is not understood ends the reading.
-/

namespace Shortlist.CommandLine

/-- What the arguments ask for. -/
inductive Request where
  | help
  | version
  /-- To run, with the settings of a file. -/
  | run (file? : Option String)
  deriving DecidableEq, Repr

/-- What is wrong with the arguments. -/
inductive Misuse where
  /-- An argument that is not understood, with a similar one if there is one; `named` are the
  options that are known to be meant. -/
  | unexpected (arg : String) (similar? : Option String) (named : List String)
  /-- The option has no value. -/
  | noValue
  /-- The option is repeated. -/
  | repeated
  /-- A flag has a value; `named` are the options that are known to be meant, the flag among
  them. -/
  | needlessValue (value flag : String) (named : List String)
  deriving DecidableEq, Repr

/-- Why the reading of the arguments ends. -/
inductive End where
  | asked (r : Request)
  | misused (m : Misuse)
  deriving DecidableEq, Repr

/-- The option that has been read but not taken up yet. -/
inductive Pending where
  | nothing
  /-- Its value has to come. -/
  | awaiting
  | value (v : String)
  deriving DecidableEq, Repr

/-- What has been read. -/
structure Reading where
  file? : Option String := none
  pending : Pending := .nothing

/-- The long names of the option and the flags. -/
def longNames : List String := ["config", "help", "version"]

namespace Reading

/-- Takes up a value of the option. -/
def accept (r : Reading) (v : String) : Reading × Option Misuse :=
  if r.file?.isSome then ({ r with file? := none }, some .repeated)
  else ({ r with file? := some v }, if v.isEmpty then some .noValue else none)

/-- Takes up the option that is pending. -/
def settle (r : Reading) : Reading × Option Misuse :=
  let cleared := { r with pending := .nothing }
  match r.pending with
  | .nothing => (cleared, none)
  | .awaiting => (cleared, some .noValue)
  | .value v => cleared.accept v

/-- The same, as a step that a misuse ends. -/
def settled (r : Reading) : Except End Reading :=
  match r.settle with
  | (r, none) => .ok r
  | (_, some m) => .error (.misused m)

/-- The options that are known to be meant. -/
def named (r : Reading) : List String := if r.file?.isSome then ["config"] else []

/-- Reads the option with a value behind it, or without one, which then has to follow. -/
def option (r : Reading) : Option String → Except End Reading
  | none => do return { ← r.settled with pending := .awaiting }
  | some v => do
    match (← r.settled).accept v with
    | (r, none) => return r
    | (_, some m) => throw (.misused m)

/-- Reads a flag. -/
def flag (r : Reading) (asked : Request) : Except End Reading := do
  let _ ← r.settled
  throw (.asked asked)

/-- An argument that is not understood. -/
def unexpected (arg : String) : Except End Reading :=
  .error (.misused (.unexpected arg none []))

/-- Reads a flag of a long name, which takes no value. -/
def longFlag (r : Reading) (name : String) (asked : Request) : Option String → Except End Reading
  | none => r.flag asked
  | some v => throw (.misused (.needlessValue v ("--" ++ name) (r.named ++ [name])))

/-- Reads an argument that begins with two dashes. -/
def long (r : Reading) (name : String) (value? : Option String) : Except End Reading :=
  if name = "config" then r.option value?
  else if name = "help" then r.longFlag name .help value?
  else if name = "version" then r.longFlag name .version value?
  else
    let known := r.settle.1.named
    match Similarity.mostSimilar? name longNames with
    | none => throw (.misused (.unexpected ("--" ++ name) none known))
    | some s =>
      let named := if known.contains s then known else known ++ [s]
      throw (.misused (.unexpected ("--" ++ name) (some ("--" ++ s)) named))

/-- Reads the letters of an argument that begins with one dash. -/
def short (r : Reading) : List Char → Except End Reading
  | [] => .ok r
  | 'c' :: [] => r.option none
  | 'c' :: '=' :: v | 'c' :: v => r.option (some (String.ofList v))
  | 'h' :: _ => r.flag .help
  | 'V' :: _ => r.flag .version
  | c :: _ => unexpected (String.ofList ['-', c])

/-- Splits at the first equals sign. -/
def splitValue (cs : List Char) : String × Option String :=
  match cs.span (· != '=') with
  | (name, _ :: v) => (String.ofList name, some (String.ofList v))
  | (name, []) => (String.ofList name, none)

/-- Reads an argument that names no option: the value that has to come, or one that is not
understood. -/
def plain (r : Reading) (arg : String) : Except End Reading :=
  if r.pending = .awaiting then .ok { r with pending := .value arg } else unexpected arg

/-- Reads arguments; behind two dashes that stand alone none is an option. -/
def args (r : Reading) : List String → Except End Reading
  | [] => r.settled
  | arg :: rest =>
    match arg.toList with
    | ['-', '-'] =>
      match rest with
      | [] => r.settled
      | arg :: _ => unexpected arg
    | '-' :: '-' :: cs => do
      let (name, value?) := splitValue cs
      (← r.long name value?).args rest
    | '-' :: c :: cs => do (← r.short (c :: cs)).args rest
    | _ => do (← r.plain arg).args rest

end Reading

/-- What arguments ask for, where `fallback?` is the variable of the environment that stands in for
the option. -/
def read (args : List String) (fallback? : Option String) : Except Misuse Request :=
  match Reading.args {} args with
  | .error (.asked r) => .ok r
  | .error (.misused m) => .error m
  | .ok r =>
    match r.file?.or fallback? with
    | none => .ok (.run none)
    | some file => if file.isEmpty then .error .noValue else .ok (.run (some file))

end Shortlist.CommandLine
