import OperatorPrecedence.Listing

/-!
The arguments of the command line and what they ask for.
-/

namespace OperatorPrecedence

structure Invocation where
  format : ArrayFormat
  name? : Option String
  /-- The file that takes the functions; without one they are printed. -/
  output? : Option String
  dumpGraph : Bool
  dumpDistances : Bool
  verify : Bool
  input : String
deriving Repr, DecidableEq

inductive Request where
  | run (invocation : Invocation)
  | version
  | help
  /-- The arguments make no sense. -/
  | rejected
deriving Repr, DecidableEq

/-- The options that take a value. -/
inductive ValueOption where
  | format
  | name
  | output
deriving Repr, DecidableEq

/-- The options that take none. -/
inductive Flag where
  | dumpGraph
  | dumpDistances
  | verify
deriving Repr, DecidableEq

/-- One argument on its own. -/
inductive Argument where
  /-- Two hyphens: every later argument is a plain one. -/
  | separator
  /-- An option, with its value if that is part of the argument. -/
  | option (option : ValueOption) (value? : Option String)
  | flag (flag : Flag)
  | version
  | help
  | unknown
  | plain (value : String)
deriving Repr, DecidableEq

namespace Argument

/-- A long option by its name and the value after an equals sign. -/
def ofLong (name : String) (value? : Option String) : Argument :=
  match name, value? with
  | "format", _ => .option .format value?
  | "name", _ => .option .name value?
  | "output", _ => .option .output value?
  | "dump-graph", none => .flag .dumpGraph
  | "dump-distances", none => .flag .dumpDistances
  | "verify", none => .flag .verify
  | "version", none => .version
  | "help", none => .help
  | _, _ => .unknown

/-- A short option by its letter and the characters after it, which may begin
with an equals sign. -/
def ofShort : Char → List Char → Argument
  | 'o', [] => .option .output none
  | 'o', '=' :: value => .option .output (some (String.ofList value))
  | 'o', value => .option .output (some (String.ofList value))
  | 'V', _ => .version
  | 'h', _ => .help
  | _, _ => .unknown

/-- Tell what an argument is.  A lone hyphen is a plain one. -/
def ofString (text : String) : Argument :=
  match text.toList with
  | ['-', '-'] => .separator
  | '-' :: '-' :: long =>
      let name := String.ofList (long.takeWhile (· ≠ '='))
      match long.dropWhile (· ≠ '=') with
      | [] => ofLong name none
      | _ :: value => ofLong name (some (String.ofList value))
  | '-' :: letter :: rest => ofShort letter rest
  | _ => .plain text

end Argument

namespace Request

/-- What the arguments read so far have given. -/
structure Draft where
  format? : Option ArrayFormat
  name? : Option String
  output? : Option String
  dumpGraph : Bool
  dumpDistances : Bool
  verify : Bool
  input? : Option String
deriving Repr, DecidableEq

namespace Draft

def empty : Draft := ⟨none, none, none, false, false, false, none⟩

def format (name : String) : Option ArrayFormat :=
  match name with
  | "plain" => some .plain
  | "rust" => some .rust
  | "c" => some .c
  | _ => none

/-- Give an option its value: no option twice, a known format, and no empty
path. -/
def give (draft : Draft) (option : ValueOption) (value : String) : Option Draft :=
  match option with
  | .format =>
      if draft.format?.isSome then none
      else (format value).map fun format => { draft with format? := some format }
  | .name =>
      if draft.name?.isSome then none else some { draft with name? := some value }
  | .output =>
      if draft.output?.isSome ∨ value = "" then none
      else some { draft with output? := some value }

/-- Set a flag, which may be set once. -/
def raise (draft : Draft) (flag : Flag) : Option Draft :=
  match flag with
  | .dumpGraph => if draft.dumpGraph then none else some { draft with dumpGraph := true }
  | .dumpDistances =>
      if draft.dumpDistances then none else some { draft with dumpDistances := true }
  | .verify => if draft.verify then none else some { draft with verify := true }

def place (draft : Draft) (input : String) : Option Draft :=
  if draft.input?.isSome ∨ input = "" then none
  else some { draft with input? := some input }

def finish (draft : Draft) : Request :=
  match draft.input? with
  | none => .rejected
  | some input =>
      .run
        { format := draft.format?.getD .plain
          name? := draft.name?
          output? := draft.output?
          dumpGraph := draft.dumpGraph
          dumpDistances := draft.dumpDistances
          verify := draft.verify
          input := input }

/-- Read the arguments after the separator. -/
def readPlain (draft : Draft) : List String → Request
  | [] => draft.finish
  | input :: rest =>
      match draft.place input with
      | none => .rejected
      | some next => next.readPlain rest

/-- Read the arguments one by one.  The first that is wrong, or that asks for
the version or for help, decides. -/
def read (draft : Draft) : List String → Request
  | [] => draft.finish
  | argument :: rest =>
      match Argument.ofString argument with
      | .separator => draft.readPlain rest
      | .version => .version
      | .help => .help
      | .unknown => .rejected
      | .flag flag =>
          match draft.raise flag with
          | none => .rejected
          | some next => next.read rest
      | .plain input =>
          match draft.place input with
          | none => .rejected
          | some next => next.read rest
      | .option option (some value) =>
          match draft.give option value with
          | none => .rejected
          | some next => next.read rest
      | .option option none =>
          match rest with
          | [] => .rejected
          | value :: rest =>
              match Argument.ofString value, draft.give option value with
              | .plain _, some next => next.read rest
              | _, _ => .rejected

end Draft

def ofArguments (arguments : List String) : Request :=
  Draft.empty.read arguments

end Request

end OperatorPrecedence
