import Waymark.Path

set_option autoImplicit false

/-! How the path of a document is shown. -/

namespace Waymark

inductive PathFormat where
  | full
  | abbreviated
  | hidden
deriving DecidableEq, Repr

namespace PathFormat

def name : PathFormat → String
  | full => "full"
  | abbreviated => "abbreviated"
  | hidden => "hidden"

def ofName? : String → Option PathFormat
  | "full" => some full
  | "abbreviated" => some abbreviated
  | "hidden" => some hidden
  | _ => none

/-- The segments after the first: all but the last are cut to their first character. -/
def abbreviateRest : List (List Char) → List (List Char)
  | [] => []
  | [last] => [last]
  | segment :: rest => segment.take 1 :: abbreviateRest rest

/-- The segments with all but the first and the last cut to their first character. -/
def abbreviate : List (List Char) → List (List Char)
  | [] => []
  | first :: rest => first :: abbreviateRest rest

/-- The path of a document as it is shown; a path that is not below the root is shown whole. -/
def display (format : PathFormat) (document root : Path) : String :=
  let path := Text.replaceChar '\\' '/' ((document.relativeTo? root).getD document).text
  let segments := Text.fields '/' path.toList
  match format with
  | full => path
  | abbreviated => String.intercalate "/" ((abbreviate segments).map String.ofList)
  | hidden => String.ofList (segments.getLast?.getD [])

end PathFormat

end Waymark
