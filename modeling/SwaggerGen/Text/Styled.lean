import SwaggerGen.Text.Controls

/-!
# Styled text

A report is made of pieces, each in a style. A terminal shows the styles by sequences of controls; anywhere
else the pieces are written one after the other, and lose the controls that they hold themselves. Such a
sequence never goes on in the next piece.
-/

namespace SwaggerGen.Text

/-- How a piece of a report is set off. -/
inductive Style where
  | plain
  /-- Red and bold, for what kind of report it is. -/
  | alarm
  /-- Yellow, for what is wrong. -/
  | wrong
  /-- Bold, for what is to be written as it stands. -/
  | verbatim
  deriving DecidableEq, Repr

def Style.sequences : Style → String
  | plain => ""
  | alarm => "\x1b[1m\x1b[31m"
  | wrong => "\x1b[33m"
  | verbatim => "\x1b[1m"

def styleEnd : String := "\x1b[0m"

structure Piece where
  style : Style
  text : String
  deriving DecidableEq, Repr

/-- A text that is not set off. -/
instance : Coe String Piece := ⟨Piece.mk .plain⟩

def Piece.written (coloured : Bool) (piece : Piece) : String :=
  if !coloured then dropControls piece.text
  else if piece.style = .plain then piece.text
  else piece.style.sequences ++ piece.text ++ styleEnd

def writtenPieces (coloured : Bool) (pieces : List Piece) : String :=
  String.join (pieces.map (Piece.written coloured))

end SwaggerGen.Text
