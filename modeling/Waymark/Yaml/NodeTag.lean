import Waymark.Text.Number

set_option autoImplicit false

/-! The tags of YAML nodes. A tag is kept as bytes, since its escapes can spell bytes that are no
text. -/

namespace Waymark.Yaml

structure NodeTag where
  bytes : List UInt8
deriving DecidableEq, Repr

namespace NodeTag

def ofText (text : String) : NodeTag := ⟨text.toUTF8.toList⟩

def nonSpecific : NodeTag := ofText "!"

def core (name : String) : NodeTag := ofText ("tag:yaml.org,2002:" ++ name)

def after (leading suffix : NodeTag) : NodeTag := ⟨leading.bytes ++ suffix.bytes⟩

/-- The name that a private tag gives: what follows its `!`, or the `!` alone. -/
def name? (tag : NodeTag) : Option String :=
  match tag.bytes with
  | first :: rest =>
      if first == '!'.toUInt8 then
        String.fromUTF8? ⟨(if rest.isEmpty then [first] else rest).toArray⟩
      else none
  | [] => none

def followers? (first : Nat) : Option Nat :=
  if first < 0x80 then some 0
  else if first < 0xC0 then none
  else if first < 0xE0 then some 1
  else if first < 0xF0 then some 2
  else if first < 0xF8 then some 3
  else none

/-- Replaces the escapes of a written tag by their bytes; `none` if one is malformed. Of the bytes of
one character, `due` are still to come, and each of them must be escaped. -/
def unescape (due : Nat) : List Char → Option (List UInt8)
  | [] => if due = 0 then some [] else none
  | '%' :: a :: b :: rest => do
      let byte ← Text.readNatural? 16 [a, b]
      let due ←
        if due = 0 then followers? byte
        else if 0x80 ≤ byte && byte < 0xC0 then some (due - 1)
        else none
      let bytes ← unescape due rest
      some (byte.toUInt8 :: bytes)
  | '%' :: _ => none
  | c :: rest => if due = 0 then (unescape 0 rest).map (c.toUInt8 :: ·) else none

/-- Reads a written tag, which ends at its first zero byte. -/
def ofWritten? (written : List Char) : Option NodeTag :=
  (unescape 0 written).map fun bytes => ⟨bytes.takeWhile (· != 0)⟩

end NodeTag

end Waymark.Yaml
