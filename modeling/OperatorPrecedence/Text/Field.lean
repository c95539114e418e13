/-!
Texts set into fields of a given width.  Widths count characters.
-/

namespace OperatorPrecedence.Text

inductive Alignment where
  | left
  | right
  | center
deriving Repr, DecidableEq

/-- The layout of a field.  A text longer than `limit` is cut to it before it is
set, and what `width` leaves free is filled up. -/
structure Field where
  width : Nat
  alignment : Alignment := .left
  fill : Char := ' '
  limit : Option Nat := none
deriving Repr, DecidableEq

/-- Set the characters of a text into a field.  An odd free place in a centred
field falls to the right. -/
def Field.setChars (field : Field) (cs : List Char) : List Char :=
  let shown :=
    match field.limit with
    | some limit => cs.take limit
    | none => cs
  let free := field.width - shown.length
  match field.alignment with
  | .left => shown ++ List.replicate free field.fill
  | .right => List.replicate free field.fill ++ shown
  | .center =>
      List.replicate (free / 2) field.fill ++ shown ++
        List.replicate (free - free / 2) field.fill

def Field.set (field : Field) (text : String) : String :=
  String.ofList (field.setChars text.toList)

/-- A field without a limit is filled exactly, or overrun by a longer text. -/
theorem Field.length_setChars (field : Field) (hlimit : field.limit = none)
    (cs : List Char) :
    (field.setChars cs).length = max field.width cs.length := by
  unfold Field.setChars
  rw [hlimit]
  cases field.alignment <;> simp <;> omega

end OperatorPrecedence.Text
