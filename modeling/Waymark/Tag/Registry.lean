import Waymark.Tag.Override
import Waymark.Data.SortedMap

set_option autoImplicit false

/-! The registry of known tags, in order of their uppercased names. Every operation that takes a
name uppercases it, so all spellings with one uppercase form address one tag. -/

namespace Waymark

/-- The known tags under their uppercased names. -/
structure Registry where
  tags : SortedMap String Tag := {}
deriving Repr

namespace Registry

def empty : Registry := {}

def list (registry : Registry) : List Tag := registry.tags.values

def size (registry : Registry) : Nat := registry.tags.size

def isEmpty (registry : Registry) : Bool := registry.tags.isEmpty

def insert (registry : Registry) (tag : Tag) : Registry :=
  let name := Text.upper tag.name
  ⟨registry.tags.insert name { tag with name }⟩

/-- Finds a tag by name, whatever the case. -/
def find? (registry : Registry) (name : String) : Option Tag :=
  registry.tags.find? (Text.upper name)

def contains (registry : Registry) (name : String) : Bool :=
  (registry.find? name).isSome

def hasRegion (registry : Registry) (name : String) : Bool :=
  (registry.find? name).any Tag.isRegion

def remove (registry : Registry) (name : String) : Registry :=
  ⟨registry.tags.erase (Text.upper name)⟩

/-- Applies the settings for one tag; settings without a name are ignored. -/
def mergeOne (registry : Registry) (entry : TagOverride) : Registry :=
  if entry.key.isEmpty then registry
  else
    match entry.resultFor (registry.tags.find? entry.key) with
    | some tag => ⟨registry.tags.insert entry.key tag⟩
    | none => ⟨registry.tags.erase entry.key⟩

def merge (registry : Registry) (entries : List TagOverride) : Registry :=
  entries.foldl mergeOne registry

def setDisplayLineNumber (registry : Registry) (displayLineNumber : Bool) : Registry :=
  ⟨registry.tags.mapValues fun tag => { tag with displayLineNumber }⟩

def defaultTags : List Tag :=
  [(Tag.named "ANCHOR" .marker .document).colored "default" "#A8C023",
   (Tag.named "TODO" .marker .workspace).colored "blue" "#3ea8ff",
   (Tag.named "FIXME" .marker .workspace).colored "red" "#F44336",
   (Tag.named "STUB" .marker .document).colored "purple" "#BA68C8",
   (Tag.named "NOTE" .marker .document).colored "teal" "#00cec9",
   (Tag.named "REVIEW" .marker .workspace).colored "green" "#64DD17",
   (Tag.named "SECTION" .region .workspace).colored "blurple" "#896afc",
   (Tag.named "LINK" .link .workspace).colored "emerald" "#2ecc71"]

def defaults : Registry := defaultTags.foldl insert empty

end Registry

end Waymark
