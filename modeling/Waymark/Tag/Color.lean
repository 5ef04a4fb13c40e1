import Waymark.Text.Case
import Waymark.Text.Class
import Waymark.Data.Json

set_option autoImplicit false

/-! Icon colors. A color is configured by a palette name, by `default` or `auto`, or as `#` and three
or six digits. -/

namespace Waymark

inductive IconColor where
  | auto
  /-- A fixed color, its digits without the leading `#`. -/
  | hex (digits : String)
deriving DecidableEq, Repr

namespace IconColor

def palette : List (String × String) :=
  [("blue", "3ea8ff"), ("blurple", "7d5afc"), ("red", "f44336"), ("purple", "ba68c8"),
   ("teal", "00cec9"), ("orange", "ffa100"), ("green", "64dd17"), ("pink", "e84393"),
   ("emerald", "2ecc71"), ("yellow", "f4d13d")]

/-- A digit of a color: a decimal digit of any script or one of the first six letters. -/
def isColorDigit (c : Char) : Bool :=
  Text.isDigit c || ('a' ≤ c.toLower && c.toLower ≤ 'f')

def ofDigits? : List Char → Option IconColor
  | '#' :: digits =>
      if (digits.length == 3 || digits.length == 6) && digits.all isColorDigit then
        some (.hex (String.ofList (Text.lowerBasic digits)))
      else none
  | _ => none

/-- Reads a configured color; `none` if the text names no color. -/
def resolve (raw : String) : Option IconColor :=
  if raw == "default" || raw == "auto" then some .auto
  else
    match palette.lookup raw with
    | some digits => some (.hex digits)
    | none => ofDigits? raw.toList

def toJson : IconColor → Json
  | auto => .string "auto"
  | hex digits => .object [("hex", .string digits)]

end IconColor

end Waymark
