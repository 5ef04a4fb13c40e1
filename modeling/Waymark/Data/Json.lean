import Waymark.Text.Quoted

set_option autoImplicit false

/-! Values for structured output, and their written form: two spaces for each level, one item or
field a line, fields in the given order. -/

namespace Waymark

inductive Json where
  | null
  | bool (value : Bool)
  | number (value : Int)
  | string (value : String)
  | array (items : List Json)
  | object (fields : List (String × Json))
deriving Inhabited, Repr

namespace Json

def nat (value : Nat) : Json := .number (Int.ofNat value)

/-- An optional text; `null` if it is absent. -/
def optional (value : Option String) : Json :=
  value.elim .null .string

def strings (values : List String) : Json := .array (values.map .string)

def escapeChar (c : Char) : String :=
  match c with
  | '"' => "\\\""
  | '\\' => "\\\\"
  | '\n' => "\\n"
  | '\r' => "\\r"
  | '\t' => "\\t"
  | '\x08' => "\\b"
  | '\x0c' => "\\f"
  | c =>
      if c.toNat < 32 then
        let digits := Text.hexadecimal c.toNat
        "\\u" ++ String.ofList (List.replicate (4 - digits.length) '0') ++ digits
      else c.toString

def quote (text : String) : String :=
  "\"" ++ String.join (text.toList.map escapeChar) ++ "\""

def newLine (depth : Nat) : String :=
  "\n" ++ String.ofList (List.replicate (2 * depth) ' ')

/-- Parts between two brackets, one a line; nothing between the brackets if there are none. -/
def bracketed (opening closing : String) (depth : Nat) (parts : List String) : String :=
  if parts.isEmpty then opening ++ closing
  else
    opening ++ newLine (depth + 1) ++ String.intercalate ("," ++ newLine (depth + 1)) parts
      ++ newLine depth ++ closing

mutual

def pretty (depth : Nat) : Json → String
  | null => "null"
  | bool value => if value then "true" else "false"
  | number value => toString value
  | string value => quote value
  | array items => bracketed "[" "]" depth (prettyItems (depth + 1) items)
  | object fields => bracketed "\x7b" "\x7d" depth (prettyFields (depth + 1) fields)

def prettyItems (depth : Nat) : List Json → List String
  | [] => []
  | item :: rest => pretty depth item :: prettyItems depth rest

def prettyFields (depth : Nat) : List (String × Json) → List String
  | [] => []
  | (name, value) :: rest => (quote name ++ ": " ++ pretty depth value) :: prettyFields depth rest

end

def document (value : Json) : String :=
  pretty 0 value ++ "\n"

end Json

end Waymark
