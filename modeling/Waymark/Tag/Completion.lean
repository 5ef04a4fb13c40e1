import Waymark.Tag.Registry

set_option autoImplicit false

/-! Snippets that insert a tag: its name, or for regions also its end form, with the first
separator. -/

namespace Waymark

structure TagCompletion where
  label : String
  insertion : String
deriving DecidableEq, Repr

namespace TagCompletion

def ofToken (separator token : String) : TagCompletion :=
  ⟨token ++ " Anchor", token ++ separator⟩

/-- The snippets of all tags; without a separator a space stands for it. -/
def ofRegistry (registry : Registry) (separators : List String) (endTag : String) :
    List TagCompletion :=
  let separator := separators.head?.getD " "
  (registry.list.flatMap (Tag.tokens endTag)).map (ofToken separator)

def toJson (item : TagCompletion) : Json :=
  .object [("label", .string item.label), ("insert", .string item.insertion)]

end TagCompletion

end Waymark
