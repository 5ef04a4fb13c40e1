import Waymark.Data.SortedMap
import Waymark.Path.Order

set_option autoImplicit false

/-! Where the texts of documents come from. -/

namespace Waymark

inductive SourceError where
  | notFound (document : Path)
  | failed (document : Path) (reason : String)
deriving DecidableEq, Repr

namespace SourceError

def message : SourceError → String
  | notFound document => "document not found: " ++ document.text
  | failed document reason => "failed to read " ++ document.text ++ ": " ++ reason

def reason? : SourceError → Option String
  | notFound _ => none
  | failed _ reason => some reason

end SourceError

abbrev Source := Path → Except SourceError String

abbrev MemorySource := SortedMap Path String

namespace MemorySource

def read (memory : MemorySource) : Source := fun document =>
  match memory.find? document with
  | some text => .ok text
  | none => .error (.notFound document)

end MemorySource

end Waymark
