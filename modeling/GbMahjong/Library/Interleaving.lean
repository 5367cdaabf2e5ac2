import Mathlib.Data.List.Basic

/-! Interleavings of sequences, one for each key. Where actions of different keys
commute, all interleavings of one family lead to one state. -/

set_option autoImplicit false

namespace GbMahjong.Library

variable {State Action Key : Type} {key : Action → Key}

/-- Allowed actions of different keys commute in the states of the invariant. -/
structure Independent (key : Action → Key) (step : State → Action → State)
    (invariant : State → Prop) (allowed : Action → Prop) : Prop where
  kept : ∀ {state action}, allowed action → invariant state →
    invariant (step state action)
  commute : ∀ {state first second}, allowed first → allowed second →
    key first ≠ key second → invariant state →
    step (step state first) second = step (step state second) first

variable {step : State → Action → State} {invariant : State → Prop}
  {allowed : Action → Prop}

/-- An action moves to the front of a run of actions with other keys. -/
theorem Independent.foldl_front (independent : Independent key step invariant allowed)
    {action : Action} (permitted : allowed action) (before after : List Action)
    (others : ∀ other ∈ before, allowed other ∧ key other ≠ key action)
    {state : State} (holds : invariant state) :
    (before ++ action :: after).foldl step state =
      (before ++ after).foldl step (step state action) := by
  induction before generalizing state with
  | nil => rfl
  | cons other rest ih =>
      obtain ⟨otherPermitted, different⟩ := others other (.head _)
      have swapped := independent.commute otherPermitted permitted different holds
      have later := ih (fun next member => others next (.tail _ member))
        (independent.kept otherPermitted holds)
      calc (other :: rest ++ action :: after).foldl step state
          = (rest ++ after).foldl step (step (step state other) action) := later
        _ = (rest ++ after).foldl step (step (step state action) other) := by
              rw [swapped]

variable [DecidableEq Key]

/-- The actions of each key in the run are those of the family, in its order. -/
def Interleaves (key : Action → Key) (family : Key → List Action) (run : List Action) :
    Prop :=
  ∀ owner, run.filter (fun action => key action = owner) = family owner

theorem Interleaves.mem {family : Key → List Action} {run : List Action}
    (interleaves : Interleaves key family run) {action : Action} (member : action ∈ run) :
    action ∈ family (key action) := by
  rw [← interleaves (key action)]
  exact List.mem_filter.mpr ⟨member, by simp⟩

theorem filter_split {action : Action} {rest before after : List Action}
    (others : ∀ other ∈ before, key other ≠ key action)
    (same : ∀ owner, (action :: rest).filter (fun next => key next = owner) =
      (before ++ action :: after).filter (fun next => key next = owner)) (owner : Key) :
    rest.filter (fun next => key next = owner) =
      (before ++ after).filter (fun next => key next = owner) := by
  have whole := same owner
  simp only [List.filter_append, List.filter_cons] at whole ⊢
  by_cases own : key action = owner
  · have none : before.filter (fun next => key next = owner) = [] := by
      rw [List.filter_eq_nil_iff]
      intro other member
      simpa [← own] using others other member
    simpa [own, none] using whole
  · simpa [own] using whole

theorem Independent.foldl_eq (independent : Independent key step invariant allowed)
    {first second : List Action}
    (same : ∀ owner, first.filter (fun action => key action = owner) =
      second.filter (fun action => key action = owner))
    (permitted : ∀ action ∈ first, allowed action) {state : State}
    (holds : invariant state) : first.foldl step state = second.foldl step state := by
  induction first generalizing second state with
  | nil =>
      cases second with
      | nil => rfl
      | cons action rest =>
          have missing := same (key action)
          simp at missing
  | cons action rest ih =>
      have mine := (same (key action)).symm
      rw [List.filter_cons_of_pos (by simp)] at mine
      obtain ⟨before, after, rfl, apart, _, _⟩ := List.filter_eq_cons_iff.mp mine
      have others : ∀ other ∈ before, allowed other ∧ key other ≠ key action := by
        intro other member
        have different : key other ≠ key action := by simpa using apart other member
        have known : other ∈ (before ++ action :: after).filter
            (fun next => key next = key other) :=
          List.mem_filter.mpr ⟨List.mem_append_left _ member, by simp⟩
        rw [← same (key other)] at known
        exact ⟨permitted other (List.mem_of_mem_filter known), different⟩
      have now := permitted action (.head _)
      rw [independent.foldl_front now before after others holds]
      apply ih
      · exact filter_split (fun other member => (others other member).2) same
      · intro later member
        exact permitted later (.tail _ member)
      · exact independent.kept now holds

/-- Interleavings of one family of allowed actions lead to one state. -/
theorem Independent.interleavings (independent : Independent key step invariant allowed)
    {family : Key → List Action} {first second : List Action}
    (left : Interleaves key family first) (right : Interleaves key family second)
    (permitted : ∀ owner, ∀ action ∈ family owner, allowed action) {state : State}
    (holds : invariant state) : first.foldl step state = second.foldl step state := by
  apply independent.foldl_eq _ _ holds
  · intro owner
    rw [left owner, right owner]
  · intro action member
    exact permitted _ action (left.mem member)

end GbMahjong.Library
