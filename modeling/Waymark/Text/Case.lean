import Waymark.Text.FoldShifts
import Waymark.Text.UpperShifts

set_option autoImplicit false

/-! Two notions of "the same up to case". Folding maps each character to one character and is what
the pattern of a tag compares with; uppercasing may lengthen a text and is what names are stored
under. They disagree on some characters, so both are kept. -/

namespace Waymark.Text

def foldChar (c : Char) : Char :=
  if c.toNat < 128 then c.toLower else Char.ofNat (CaseShift.target foldShifts c.toNat)

def sameFold (a b : Char) : Bool :=
  a == b || foldChar a == foldChar b

def sameChar (matchCase : Bool) (a b : Char) : Bool :=
  if matchCase then a == b else sameFold a b

/-- Whether another character differs from this one only in case. -/
def hasCase (c : Char) : Bool :=
  foldShifts.any fun shift => shift.covers c.toNat || shift.reaches c.toNat

/-- The uppercase form of one character, which can have several characters. -/
def upperChar (c : Char) : List Char :=
  if c.toNat < 128 then [c.toUpper]
  else
    match upperExpansions.lookup c.toNat with
    | some points => points.map Char.ofNat
    | none => [Char.ofNat (CaseShift.target upperShifts c.toNat)]

def upper (text : String) : String :=
  String.ofList (text.toList.flatMap upperChar)

/-- Lowercases the 26 basic letters and nothing else. -/
def lowerBasic (text : List Char) : List Char :=
  text.map Char.toLower

end Waymark.Text
