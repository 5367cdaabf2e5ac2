import Mathlib.Logic.Function.Basic

/-! Lookups after one insertion or removal in a partial function, in the form
the case analysis of a lookup uses. -/

set_option autoImplicit false

namespace GbMahjong.Library

variable {Key Value : Type} [DecidableEq Key]

theorem update_some_eq_some_iff {map : Key → Option Value} {key other : Key}
    {value found : Value} :
    Function.update map key (some value) other = some found ↔
      (other = key ∧ value = found) ∨ (other ≠ key ∧ map other = some found) := by
  by_cases same : other = key
  · subst same
    simp
  · simp [same]

theorem update_none_eq_some_iff {map : Key → Option Value} {key other : Key}
    {found : Value} :
    Function.update map key none other = some found ↔
      other ≠ key ∧ map other = some found := by
  by_cases same : other = key
  · subst same
    simp
  · simp [same]

theorem update_some_isSome {map : Key → Option Value} {key other : Key} {value : Value} :
    (Function.update map key (some value) other).isSome ↔
      other = key ∨ (map other).isSome := by
  by_cases same : other = key
  · subst same
    simp
  · simp [same]

theorem update_some_isSome_of_some {map : Key → Option Value} {key : Key}
    {old value : Value} (present : map key = some old) (other : Key) :
    (Function.update map key (some value) other).isSome = (map other).isSome := by
  by_cases same : other = key
  · subst same
    simp [present]
  · simp [same]

end GbMahjong.Library
