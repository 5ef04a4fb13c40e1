import Waymark.Path

set_option autoImplicit false

/-! Paths are ordered by their components. The order is total, and two paths compare as equal exactly
if they have the same components, however they are written. -/

namespace Waymark

namespace Component

private def nameOf : Component → String
  | normal name => name
  | _ => ""

private theorem order_eq_compareLex :
    order = compareLex (compareOn rank) (compareOn nameOf) := by
  funext a b
  cases a <;> cases b <;> rfl

instance : Std.TransCmp order := by
  rw [order_eq_compareLex]
  infer_instance

instance : Std.LawfulEqCmp order where
  eq_of_compare := by
    intro a b same
    cases a <;> cases b <;> simp_all [order, rank]

end Component

namespace Path

private theorem compareComponents_eq_compareLex (a b : List Component) :
    compareComponents a b = a.compareLex Component.order b := by
  induction a generalizing b with
  | nil => cases b <;> rfl
  | cons first rest ih =>
      cases b with
      | nil => rfl
      | cons other others =>
          rw [compareComponents, List.compareLex_cons_cons, ih]

private theorem compare_eq_compareLex (a b : Path) :
    compare a b = a.components.compareLex Component.order b.components :=
  compareComponents_eq_compareLex a.components b.components

instance : Std.TransOrd Path where
  eq_swap := by
    intro a b
    rw [compare_eq_compareLex, compare_eq_compareLex]
    exact Std.OrientedCmp.eq_swap
  isLE_trans := by
    intro a b c before after
    rw [compare_eq_compareLex] at before after ⊢
    exact Std.TransCmp.isLE_trans before after

theorem compare_eq_iff (a b : Path) : compare a b = .eq ↔ a.components = b.components := by
  rw [compare_eq_compareLex]
  exact Std.LawfulEqCmp.compare_eq_iff_eq

theorem same_iff (a b : Path) : a.same b = true ↔ a.components = b.components := by
  unfold same
  exact beq_iff_eq

theorem same_iff_compare (a b : Path) : a.same b = true ↔ compare a b = .eq :=
  (same_iff a b).trans (compare_eq_iff a b).symm

end Path

end Waymark
