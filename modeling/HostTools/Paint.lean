set_option autoImplicit false

namespace HostTools

inductive Style where
  | green
  | red
  | boldRed
deriving DecidableEq, Repr

namespace Style

def escapeChar : Char := '\x1b'

def reset : List Char := [escapeChar, '[', '0', 'm']

def start : Style → List Char
  | .green => [escapeChar, '[', '3', '2', 'm']
  | .red => [escapeChar, '[', '3', '1', 'm']
  | .boldRed => [escapeChar, '[', '1', ';', '3', '1', 'm']

def renewed (style : Style) : List Char → List Char
  | a :: b :: c :: d :: rest =>
    if [a, b, c, d] = reset then reset ++ style.start ++ renewed style rest
    else a :: renewed style (b :: c :: d :: rest)
  | short => short

def paint (style : Style) (color : Bool) (text : List Char) : List (List Char) :=
  if color then [style.start, style.renewed text, reset] else [text]

end Style

end HostTools
