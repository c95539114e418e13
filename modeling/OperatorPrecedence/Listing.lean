import OperatorPrecedence.PrecedenceFunctions
import OperatorPrecedence.Text.LetterCase

/-!
The values of the functions as two lists in a chosen order of the symbols, and
the texts of these lists.
-/

namespace OperatorPrecedence

/-- The symbols in their order, with the values of each. -/
structure Listing where
  symbols : List String
  f : List Nat
  g : List Nat
deriving Repr, DecidableEq

/-- What the lists are written as. -/
inductive ArrayFormat where
  /-- Two plain lines. -/
  | plain
  /-- Two `pub static` items. -/
  | rust
  /-- Two `static const int` arrays. -/
  | c
deriving Repr, DecidableEq

namespace Listing

/-- The symbols that a label of an order stands for: those of its class, or the
symbol itself. -/
def symbolsOf (functions : PrecedenceFunctions) (classes : Classes) (label : String) :
    Except TableError (List String) :=
  match classes.find? label with
  | some cls => .ok cls.symbols
  | none =>
      if (functions.get? label).isSome then .ok [label] else .error (.unknownSymbol label)

def symbolsOfAll (functions : PrecedenceFunctions) (classes : Classes) :
    List String → Except TableError (List String)
  | [] => .ok []
  | label :: labels =>
      match symbolsOf functions classes label with
      | .error error => .error error
      | .ok symbols =>
          match symbolsOfAll functions classes labels with
          | .error error => .error error
          | .ok rest => .ok (symbols ++ rest)

def valuesOf (functions : PrecedenceFunctions) :
    List String → Except TableError (List Values)
  | [] => .ok []
  | symbol :: symbols =>
      match functions.get? symbol with
      | none => .error (.unknownSymbol symbol)
      | some values =>
          match valuesOf functions symbols with
          | .error error => .error error
          | .ok rest => .ok (values :: rest)

/-- Lay out the values of the functions in an order of labels and symbols.
Without an order the symbols of the classes come in canonical order. -/
def ofFunctions (functions : PrecedenceFunctions) (classes : Classes)
    (order? : Option (List String)) : Except TableError Listing :=
  let symbols :=
    match order? with
    | some order => symbolsOfAll functions classes order
    | none => .ok classes.symbols
  match symbols with
  | .error error => .error error
  | .ok symbols =>
      match valuesOf functions symbols with
      | .error error => .error error
      | .ok values => .ok ⟨symbols, values.map Values.f, values.map Values.g⟩

def size (listing : Listing) : Nat :=
  listing.symbols.length

def listText (opening closing : String) (numbers : List Nat) : String :=
  opening ++ ", ".intercalate (numbers.map toString) ++ closing

def text (listing : Listing) : String :=
  "f = " ++ listText "[" "]" listing.f ++ "\n" ++
    "g = " ++ listText "[" "]" listing.g ++ "\n"

/-- The name of an array: its letter, after the name and an underscore if there
is a name. -/
def arrayName (name? : Option String) (letter : String) : String :=
  match name? with
  | some name => name ++ "_" ++ letter
  | none => letter

/-- The two `pub static` items under a comment with the symbols. -/
def rustText (listing : Listing) (name? : Option String) : String :=
  let item (letter : String) (numbers : List Nat) : String :=
    "pub static " ++ arrayName (name?.map Text.upper) letter ++ ": [u32; " ++
      toString listing.size ++ "] = " ++ listText "[" "]" numbers ++ ";\n"
  "// " ++ ", ".intercalate listing.symbols ++ "\n" ++
    item "F" listing.f ++ item "G" listing.g

/-- The two `static const int` arrays under a comment with the symbols. -/
def cText (listing : Listing) (name? : Option String) : String :=
  let item (letter : String) (numbers : List Nat) : String :=
    "static const int " ++ arrayName (name?.map Text.lower) letter ++ "[" ++
      toString listing.size ++ "] = " ++ listText "\x7b" "\x7d" numbers ++ ";\n"
  "/* " ++ ", ".intercalate listing.symbols ++ " */\n" ++
    item "f" listing.f ++ item "g" listing.g

def render (listing : Listing) (format : ArrayFormat) (name? : Option String) :
    Except TableError String :=
  match name?.filter (fun name => !Text.isLabel name) with
  | some name => .error (.invalidLabel name)
  | none =>
      match format with
      | .plain => .ok listing.text
      | .rust => .ok (listing.rustText name?)
      | .c => .ok (listing.cText name?)

end Listing

end OperatorPrecedence
