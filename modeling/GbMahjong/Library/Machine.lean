/-! Reactive machines: a component that takes one input at a time and answers
each with a list of outputs. Runs are input lists; the rules below turn facts
about one step into facts about every run. -/

set_option autoImplicit false

namespace GbMahjong.Library

/-- A deterministic component with explicit state. -/
structure Machine (State Input Output : Type) where
  step : State → Input → State × List Output

namespace Machine

variable {State Input Output : Type} (machine : Machine State Input Output)

def exec (state : State) : List Input → State
  | [] => state
  | input :: rest => exec (machine.step state input).1 rest

/-- Everything a run puts out, in order. -/
def trace (state : State) : List Input → List Output
  | [] => []
  | input :: rest =>
      (machine.step state input).2 ++ trace (machine.step state input).1 rest

/-- Every step of the run meets the guard, in the state it starts from. -/
def Throughout (guard : State → Input → Prop) (state : State) : List Input → Prop
  | [] => True
  | input :: rest =>
      guard state input ∧ Throughout guard (machine.step state input).1 rest

/-- Every state of the run, the first and the last included, has the property. -/
def Always (property : State → Prop) (state : State) : List Input → Prop
  | [] => property state
  | input :: rest =>
      property state ∧ Always property (machine.step state input).1 rest

@[simp] theorem exec_nil (state : State) : machine.exec state [] = state := rfl

@[simp] theorem exec_cons (state : State) (input : Input) (rest : List Input) :
    machine.exec state (input :: rest) =
      machine.exec (machine.step state input).1 rest := rfl

theorem exec_append (state : State) (first second : List Input) :
    machine.exec state (first ++ second) =
      machine.exec (machine.exec state first) second := by
  induction first generalizing state with
  | nil => rfl
  | cons input rest ih => exact ih (machine.step state input).1

@[simp] theorem exec_concat (state : State) (inputs : List Input) (input : Input) :
    machine.exec state (inputs ++ [input]) =
      (machine.step (machine.exec state inputs) input).1 := by
  rw [exec_append]
  rfl

@[simp] theorem trace_nil (state : State) : machine.trace state [] = [] := rfl

@[simp] theorem trace_cons (state : State) (input : Input) (rest : List Input) :
    machine.trace state (input :: rest) =
      (machine.step state input).2 ++
        machine.trace (machine.step state input).1 rest := rfl

/-- The induction rule for state invariants. -/
theorem exec_invariant {property : State → Prop} {guard : Input → Prop}
    (kept : ∀ state input, guard input → property state →
      property (machine.step state input).1)
    {state : State} (start : property state) (inputs : List Input)
    (guarded : ∀ input ∈ inputs, guard input) :
    property (machine.exec state inputs) := by
  induction inputs generalizing state with
  | nil => exact start
  | cons input rest ih =>
      exact ih (kept state input (guarded input (.head _)) start)
        (fun later member => guarded later (.tail _ member))

/-- The induction rule for facts that relate the state to the output so far. -/
theorem trace_invariant {relation : State → List Output → Prop}
    (kept : ∀ state log input, relation state log →
      relation (machine.step state input).1 (log ++ (machine.step state input).2))
    {state : State} {log : List Output} (start : relation state log)
    (inputs : List Input) :
    relation (machine.exec state inputs) (log ++ machine.trace state inputs) := by
  induction inputs generalizing state log with
  | nil => simpa using start
  | cons input rest ih =>
      simpa only [exec_cons, trace_cons, List.append_assoc] using
        ih (kept state log input start)

/-- The induction rule for facts about each single output. -/
theorem forall_mem_trace {property : State → Prop} {guard : Input → Prop}
    {allowed : Output → Prop}
    (kept : ∀ state input, guard input → property state →
      property (machine.step state input).1)
    (emits : ∀ state input, guard input → property state →
      ∀ output ∈ (machine.step state input).2, allowed output)
    {state : State} (start : property state) (inputs : List Input)
    (guarded : ∀ input ∈ inputs, guard input) :
    ∀ output ∈ machine.trace state inputs, allowed output := by
  induction inputs generalizing state with
  | nil => simp
  | cons input rest ih =>
      have now := guarded input (.head _)
      intro output member
      rcases List.mem_append.mp member with current | later
      · exact emits state input now start output current
      · exact ih (kept state input now start)
          (fun later member => guarded later (.tail _ member)) output later

/-- The recursive form of `Always` agrees with quantifying over the prefixes
of the run. -/
theorem always_iff_prefixes (property : State → Prop) (state : State)
    (inputs : List Input) :
    machine.Always property state inputs ↔
      ∀ seen rest, inputs = seen ++ rest → property (machine.exec state seen) := by
  induction inputs generalizing state with
  | nil =>
      constructor
      · intro holds seen rest split
        have empty : seen = [] := (List.append_eq_nil_iff.mp split.symm).1
        subst empty
        exact holds
      · intro holds
        exact holds [] [] rfl
  | cons input tail ih =>
      simp only [Always, ih]
      constructor
      · intro always seen rest split
        obtain ⟨now, later⟩ := always
        cases seen with
        | nil => exact now
        | cons first seen =>
            simp only [List.cons_append, List.cons.injEq] at split
            obtain ⟨rfl, tailSplit⟩ := split
            exact later seen rest tailSplit
      · intro holds
        exact ⟨holds [] _ rfl, fun seen rest split =>
          holds (input :: seen) rest (by rw [split]; rfl)⟩

theorem Always.last {property : State → Prop} {state : State} {inputs : List Input}
    (always : machine.Always property state inputs) :
    property (machine.exec state inputs) :=
  (machine.always_iff_prefixes property state inputs).mp always inputs []
    (List.append_nil inputs).symm

/-- Where one step keeps a property exactly when it meets the guard, a run
keeps the property exactly when all its steps meet the guard. -/
theorem always_iff_throughout {background property : State → Prop}
    {guard : State → Input → Prop}
    (kept : ∀ state input, background state → background (machine.step state input).1)
    (exactly : ∀ state input, background state → property state →
      (property (machine.step state input).1 ↔ guard state input))
    {state : State} (known : background state) (start : property state)
    (inputs : List Input) :
    machine.Always property state inputs ↔ machine.Throughout guard state inputs := by
  induction inputs generalizing state with
  | nil => exact ⟨fun _ => trivial, fun _ => start⟩
  | cons input rest ih =>
      have step := exactly state input known start
      constructor
      · intro always
        obtain ⟨_, later⟩ := always
        have next : property (machine.step state input).1 := by
          cases rest with
          | nil => exact later
          | cons => exact later.1
        exact ⟨step.mp next, (ih (kept state input known) next).mp later⟩
      · intro throughout
        obtain ⟨guarded, later⟩ := throughout
        have next := step.mpr guarded
        exact ⟨start, (ih (kept state input known) next).mpr later⟩

theorem throughout_of_forall {guard : State → Input → Prop} {state : State}
    {inputs : List Input} (guarded : ∀ state, ∀ input ∈ inputs, guard state input) :
    machine.Throughout guard state inputs := by
  induction inputs generalizing state with
  | nil => trivial
  | cons input rest ih =>
      exact ⟨guarded state input (.head _),
        ih fun state later member => guarded state later (.tail _ member)⟩

end Machine

end GbMahjong.Library
