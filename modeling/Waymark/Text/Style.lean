set_option autoImplicit false

/-! Terminal styles. A style is switched on before a text and off after it; styles nest, and padding
is part of the styled text. -/

namespace Waymark.Text

inductive Style where
  | bold
  | dimmed
  | yellow
  | blue
  | magenta
  | cyan
  | green
deriving DecidableEq, Repr

namespace Style

def onCode : Style → String
  | bold => "1"
  | dimmed => "2"
  | green => "32"
  | yellow => "33"
  | blue => "34"
  | magenta => "35"
  | cyan => "36"

/-- The code that switches a style off: colors return to the default color, the others reset. -/
def offCode : Style → String
  | bold | dimmed => "0"
  | _ => "39"

def sequence (code : String) : String :=
  "\x1b[" ++ code ++ "m"

def paint (style : Style) (text : String) : String :=
  sequence style.onCode ++ text ++ sequence style.offCode

end Style

def padRight (width : Nat) (text : String) : String :=
  text ++ String.ofList (List.replicate (width - text.length) ' ')

def padLeft (width : Nat) (text : String) : String :=
  String.ofList (List.replicate (width - text.length) ' ') ++ text

end Waymark.Text
