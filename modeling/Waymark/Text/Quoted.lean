import Waymark.Text.Class
import Waymark.Text.HiddenRanges

set_option autoImplicit false

/-! Texts quoted for people: in double quotes, on one line, with every character that would not show
as itself written as an escape. -/

namespace Waymark.Text

def hexadecimal (value : Nat) : String :=
  String.ofList (Nat.toDigits 16 value)

def quotedChar (c : Char) : String :=
  match c with
  | '\x00' => "\\0"
  | '\t' => "\\t"
  | '\r' => "\\r"
  | '\n' => "\\n"
  | '\\' => "\\\\"
  | '"' => "\\\""
  | c =>
      if inRanges extenderRanges c.toNat || inRanges hiddenRanges c.toNat then
        "\\u\x7b" ++ hexadecimal c.toNat ++ "\x7d"
      else c.toString

def quoted (text : String) : String :=
  "\"" ++ String.join (text.toList.map quotedChar) ++ "\""

end Waymark.Text
