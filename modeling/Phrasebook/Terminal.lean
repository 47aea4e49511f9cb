/-!
# Terminal output

Text with the escape sequences of a terminal, or without them.

- `Style`: the looks that are used;
- `Terminal.paint`: text in a style;
- `Terminal.paintWide`: text in a style, moved to the right of a column of its own.
-/

namespace Phrasebook

/-- The looks of a text: emphasis and colour. -/
inductive Style where
  | bold
  | blue
  | green
  | red
  | yellow
  | cyan
  | boldRed
  | boldGreen
  | boldYellow
  | boldCyan
  | dimCyan
deriving Repr, DecidableEq

/-- The codes of a style: emphasis before colour. -/
def Style.codes : Style → String
  | .bold => "1"
  | .blue => "34"
  | .green => "32"
  | .red => "31"
  | .yellow => "33"
  | .cyan => "36"
  | .boldRed => "1;31"
  | .boldGreen => "1;32"
  | .boldYellow => "1;33"
  | .boldCyan => "1;36"
  | .dimCyan => "2;36"

/-- So many blanks. -/
def blanks (count : Nat) : String := String.ofList (List.replicate count ' ')

/-- A terminal that shows styles, or one that does not. -/
structure Terminal where
  colored : Bool
deriving Repr, DecidableEq, Inhabited

namespace Terminal

/-- Text in a style. -/
def paint (terminal : Terminal) (style : Style) (text : String) : String :=
  if terminal.colored then "\x1b[" ++ style.codes ++ "m" ++ text ++ "\x1b[0m" else text

/-- Text in a style, with blanks before it up to the given width. -/
def paintWide (terminal : Terminal) (style : Style) (width : Nat) (text : String) : String :=
  terminal.paint style (blanks (width - text.length) ++ text)

end Terminal

end Phrasebook
