import Waymark.Text.Class

set_option autoImplicit false

/-! Cutting texts: blanks at the ends, fields between separators, and bytes. -/

namespace Waymark.Text

def dropEndWhile (drop : Char → Bool) (text : List Char) : List Char :=
  (text.reverse.dropWhile drop).reverse

def trimEnd (text : List Char) : List Char :=
  dropEndWhile isBlank text

def trim (text : List Char) : List Char :=
  trimEnd (text.dropWhile isBlank)

def trimmed (text : String) : String :=
  String.ofList (trim text.toList)

/-- Puts an element before the first of some pieces; the separator begins a new piece instead. -/
def extendFields {α : Type} [DecidableEq α] (separator element : α) (pieces : List (List α)) :
    List (List α) :=
  if element = separator then [] :: pieces
  else
    match pieces with
    | [] => [[element]]
    | field :: more => (element :: field) :: more

/-- The pieces between the occurrences of `separator`; there is always at least one. -/
def fields {α : Type} [DecidableEq α] (separator : α) (text : List α) : List (List α) :=
  text.foldr (extendFields separator) [[]]

def cutAt (separator : Char) (text : List Char) : Option (List Char × List Char) :=
  match text.dropWhile (· != separator) with
  | [] => none
  | _ :: after => some (text.takeWhile (· != separator), after)

/-- What follows `lead` in a text that begins with it. -/
def dropLead (lead text : List Char) : Option (List Char) :=
  match lead, text with
  | [], rest => some rest
  | _ :: _, [] => none
  | a :: lead, b :: text => if a = b then dropLead lead text else none

/-- What precedes `closing` in a text that ends with it. -/
def dropClosing (closing text : List Char) : Option (List Char) :=
  (dropLead closing.reverse text.reverse).map List.reverse

def byteLength (text : List Char) : Nat :=
  text.foldr (fun c size => c.utf8Size + size) 0

def replaceChar (old new : Char) (text : String) : String :=
  String.ofList (text.toList.map fun c => if c = old then new else c)

end Waymark.Text
