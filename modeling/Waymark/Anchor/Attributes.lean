import Waymark.Text.Trim
import Waymark.Text.Number
import Waymark.Data.Json

set_option autoImplicit false

/-! Attributes in brackets after a tag: `TODO[epic=Auth,seq=3,id=login]`. A list of attributes acts
on the attributes that were there before, segment by segment. -/

namespace Waymark

structure Attributes where
  epic : Option String := none
  /-- The place within the epic, a signed 64-bit integer. -/
  seq : Int
  id : Option String := none
deriving DecidableEq, Repr

namespace Attributes

def nonEmpty (value : List Char) : Option String :=
  if value.isEmpty then none else some (String.ofList value)

/-- Sets one attribute; unknown keys and a `seq` that is no integer change nothing. -/
def assign (attributes : Attributes) (key value : List Char) : Attributes :=
  match String.ofList key with
  | "epic" => { attributes with epic := nonEmpty value }
  | "id" => { attributes with id := nonEmpty value }
  | "seq" => { attributes with seq := (Text.readSigned? 10 value).getD attributes.seq }
  | _ => attributes

/-- Applies one segment `key=value`; an empty one and one without `=` are skipped. -/
def applySegment (attributes : Attributes) (segment : List Char) : Attributes :=
  let pair := Text.trim segment
  if pair.isEmpty then attributes
  else
    match Text.cutAt '=' pair with
    | some (key, value) => attributes.assign (Text.trim key) (Text.trim value)
    | none => attributes

/-- Applies the segments of a comma-separated list from left to right, unless it is blank. -/
def parse (raw : String) (defaults : Attributes) : Attributes :=
  if (Text.trim raw.toList).isEmpty then defaults
  else (Text.fields ',' raw.toList).foldl applySegment defaults

def parse? (raw : Option String) (defaults : Attributes) : Attributes :=
  raw.elim defaults (parse · defaults)

def toJson (attributes : Attributes) : Json :=
  .object
    [("epic", .optional attributes.epic),
     ("seq", .number attributes.seq),
     ("id", .optional attributes.id)]

end Attributes

end Waymark
