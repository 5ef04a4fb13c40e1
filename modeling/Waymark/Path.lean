import Waymark.Text.Trim

set_option autoImplicit false

/-! Paths as written, compared by their components. Repeated slashes, a slash at the end and a `.`
other than at the start of a relative path do not count as components, so one place can be written
in several ways; a path is shown the way it was written. -/

namespace Waymark

inductive Component where
  | root
  | current
  | parent
  | normal (name : String)
deriving DecidableEq, Repr

namespace Component

def rank : Component → Nat
  | root => 0
  | current => 1
  | parent => 2
  | normal _ => 3

/-- Components are ordered by kind, names among themselves by code point. -/
def order : Component → Component → Ordering
  | normal a, normal b => compare a b
  | a, b => compare a.rank b.rank

def text : Component → String
  | root => "/"
  | current => "."
  | parent => ".."
  | normal name => name

end Component

structure Path where
  text : String
deriving DecidableEq, Repr

namespace Path

/-- How a path begins: at the root, with a `.` of its own, or with its first name. -/
inductive Lead where
  | root
  | current
  | none
deriving DecidableEq, Repr

structure Pieces where
  lead : Lead
  body : List String
deriving Repr

/-- A piece that is no component: nothing between two slashes, or a `.`. -/
def isNeutral (piece : String) : Bool :=
  piece == "" || piece == "."

def pieces (path : Path) : Pieces :=
  match path.text.toList with
  | '/' :: rest => ⟨.root, (Text.fields '/' rest).map String.ofList⟩
  | text =>
      match (Text.fields '/' text).map String.ofList with
      | "." :: body => ⟨.current, body⟩
      | body => ⟨.none, body⟩

def pieceComponent (piece : String) : Component :=
  if piece == ".." then .parent else .normal piece

def components (path : Path) : List Component :=
  let named := (path.pieces.body.filter (!isNeutral ·)).map pieceComponent
  match path.pieces.lead with
  | .root => .root :: named
  | .current => .current :: named
  | .none => named

def compareComponents : List Component → List Component → Ordering
  | [], [] => .eq
  | [], _ :: _ => .lt
  | _ :: _, [] => .gt
  | a :: as, b :: bs => (a.order b).then (compareComponents as bs)

instance : Ord Path where
  compare a b := compareComponents a.components b.components

/-- Two ways to write one path. -/
def same (a b : Path) : Bool := a.components == b.components

def isAbsolute (path : Path) : Bool := path.text.toList.head? == some '/'

def ofPieces (pieces : Pieces) : Path :=
  let body := String.intercalate "/" pieces.body
  match pieces.lead with
  | .root => ⟨"/" ++ body⟩
  | .current => if pieces.body.isEmpty then ⟨"."⟩ else ⟨"./" ++ body⟩
  | .none => ⟨body⟩

def trimPieces (body : List String) : List String :=
  (body.reverse.dropWhile isNeutral).reverse

/-- Follows `base` by `path`; an absolute path replaces the base. -/
def join (base path : Path) : Path :=
  if path.isAbsolute || base.text.isEmpty then path
  else if base.text.toList.getLast? == some '/' then ⟨base.text ++ path.text⟩
  else ⟨base.text ++ "/" ++ path.text⟩

/-- The path without its last component; the root and the empty path have no parent. -/
def parent? (path : Path) : Option Path :=
  let trimmed := trimPieces path.pieces.body
  match trimmed, path.pieces.lead with
  | [], .current => some ⟨""⟩
  | [], _ => none
  | _, lead => some (ofPieces ⟨lead, trimPieces trimmed.dropLast⟩)

def skipComponents : Nat → List String → List String
  | 0, body => body
  | _ + 1, [] => []
  | count + 1, piece :: body =>
      if isNeutral piece then skipComponents (count + 1) body else skipComponents count body

def dropComponents : List Component → List Component → Option (List Component)
  | [], rest => some rest
  | _ :: _, [] => none
  | a :: base, b :: path => if a = b then dropComponents base path else none

/-- The rest of a path below `base`, as written; `none` if the path is not below it. -/
def relativeTo? (path base : Path) : Option Path :=
  let body := path.pieces.body
  match base.components, dropComponents base.components path.components with
  | _, none => none
  | [], some _ => some (ofPieces ⟨path.pieces.lead, trimPieces body⟩)
  | start, some _ =>
      let skipped := if path.pieces.lead = .none then start.length else start.length - 1
      some (ofPieces ⟨.none, trimPieces ((skipComponents skipped body).dropWhile isNeutral)⟩)

def push (path : Path) (component : Component) : Path :=
  path.join ⟨component.text⟩

def ofComponents (components : List Component) : Path :=
  components.foldl push ⟨""⟩

end Path

end Waymark
