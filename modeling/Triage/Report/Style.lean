import Triage.Text.Basic

/-!
# Colour in reports

A report is written with colours or without them.  A colour starts with an
escape sequence in front of a text and ends with another one after it.
-/

namespace Triage.Report

/-- A way of showing text. -/
inductive Style where
  | bold
  | dim
  | red
  | green
  | yellow
  | blue
  | magenta
  | brightBlack
  | brightYellow
  | brightMagenta
  | brightCyan
  deriving DecidableEq, Repr

/-- The number of a style in an escape sequence. -/
def Style.number : Style → Nat
  | .bold => 1
  | .dim => 2
  | .red => 31
  | .green => 32
  | .yellow => 33
  | .blue => 34
  | .magenta => 35
  | .brightBlack => 90
  | .brightYellow => 93
  | .brightMagenta => 95
  | .brightCyan => 96

/-- The character that starts an escape sequence. -/
def escapeMark : Char := Char.ofNat 27

/-- The escape sequence of a number. -/
def sequence (number : Nat) : String :=
  String.ofList [escapeMark, '['] ++ toString number ++ "m"

/-- A text in some styles, if colours are used.  The styles end after the text,
even if there are none. -/
def paint (coloured : Bool) (styles : List Style) (text : String) : String :=
  if coloured then
    String.join (styles.map fun style => sequence style.number) ++ text ++ sequence 0
  else text

/-- Lines as one text. -/
def joinLines (lines : List String) : String :=
  "\n".intercalate lines

@[simp] theorem paint_plain (styles : List Style) (text : String) :
    paint false styles text = text := rfl

end Triage.Report
