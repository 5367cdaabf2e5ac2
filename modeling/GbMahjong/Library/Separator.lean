import Mathlib.Data.List.Basic

/-! Two words joined by a separator that they may contain themselves: which pairs
give the same joined word. -/

set_option autoImplicit false

namespace GbMahjong.Library

/-- Two joined words are equal when their parts are, or when the first part of one
reaches past a separator that the second part of the other contains. -/
theorem append_cons_eq_iff {Symbol : Type} {separator : Symbol}
    {left right left' right' : List Symbol} :
    left ++ separator :: right = left' ++ separator :: right' ↔
      (left = left' ∧ right = right') ∨
        (∃ middle, left' = left ++ separator :: middle ∧
          right = middle ++ separator :: right') ∨
        ∃ middle, left = left' ++ separator :: middle ∧
          right' = middle ++ separator :: right := by
  constructor
  · intro joined
    rcases List.append_eq_append_iff.mp joined with ⟨overlap, first, second⟩ |
      ⟨overlap, first, second⟩
    · cases overlap with
      | nil =>
          simp only [List.nil_append, List.cons.injEq, true_and] at second
          exact .inl ⟨by simpa using first.symm, second⟩
      | cons symbol middle =>
          simp only [List.cons_append, List.cons.injEq] at second
          obtain ⟨rfl, second⟩ := second
          exact .inr (.inl ⟨middle, first, second⟩)
    · cases overlap with
      | nil =>
          simp only [List.nil_append, List.cons.injEq, true_and] at second
          exact .inl ⟨by simpa using first, second.symm⟩
      | cons symbol middle =>
          simp only [List.cons_append, List.cons.injEq] at second
          obtain ⟨rfl, second⟩ := second
          exact .inr (.inr ⟨middle, first, second⟩)
  · intro parts
    rcases parts with ⟨rfl, rfl⟩ | ⟨middle, rfl, rfl⟩ | ⟨middle, rfl, rfl⟩
    · rfl
    · simp
    · simp

/-- The two ways in which one joined word comes from two different pairs. -/
inductive SeparatorCollision (separator left right left' right' : String) : Prop where
  | later (middle : String) (first : left' = left ++ separator ++ middle)
      (second : right = middle ++ separator ++ right')
  | earlier (middle : String) (first : left = left' ++ separator ++ middle)
      (second : right' = middle ++ separator ++ right)

private theorem eq_joined_iff {separator : String} {symbol : Char}
    (single : separator.toList = [symbol]) (whole first second : String) :
    whole = first ++ separator ++ second ↔
      whole.toList = first.toList ++ symbol :: second.toList := by
  rw [← String.toList_inj, String.toList_append, String.toList_append, single,
    List.append_assoc]
  rfl

private theorem exists_string_iff {property : List Char → Prop} :
    (∃ middle : List Char, property middle) ↔
      ∃ middle : String, property middle.toList := by
  constructor
  · intro found
    obtain ⟨middle, holds⟩ := found
    exact ⟨String.ofList middle, by rwa [String.toList_ofList]⟩
  · intro found
    obtain ⟨middle, holds⟩ := found
    exact ⟨middle.toList, holds⟩

theorem joined_eq_iff {separator : String} {symbol : Char}
    (single : separator.toList = [symbol]) (left right left' right' : String) :
    left ++ separator ++ right = left' ++ separator ++ right' ↔
      (left = left' ∧ right = right') ∨
        SeparatorCollision separator left right left' right' := by
  have collision : SeparatorCollision separator left right left' right' ↔
      (∃ middle : String, left' = left ++ separator ++ middle ∧
        right = middle ++ separator ++ right') ∨
      ∃ middle : String, left = left' ++ separator ++ middle ∧
        right' = middle ++ separator ++ right := by
    constructor
    · intro collides
      cases collides with
      | later middle first second => exact .inl ⟨middle, first, second⟩
      | earlier middle first second => exact .inr ⟨middle, first, second⟩
    · intro collides
      rcases collides with ⟨middle, first, second⟩ | ⟨middle, first, second⟩
      · exact .later middle first second
      · exact .earlier middle first second
  rw [collision, eq_joined_iff single]
  simp only [String.toList_append, single, List.append_assoc, List.singleton_append,
    append_cons_eq_iff, exists_string_iff, String.toList_inj, eq_joined_iff single]

theorem SeparatorCollision.different {separator left right left' right' : String}
    (collides : SeparatorCollision separator left right left' right')
    (separates : separator ≠ "") : left ≠ left' := by
  have grows : ∀ first middle : String, first ≠ first ++ separator ++ middle := by
    intro first middle same
    have lengths := congrArg String.length same
    simp only [String.length_append] at lengths
    have empty : separator.length = 0 := by omega
    exact separates (String.length_eq_zero_iff.mp empty)
  cases collides with
  | later middle first => exact first ▸ grows left middle
  | earlier middle first => exact first ▸ (grows left' middle).symm

end GbMahjong.Library
