import Mathlib.Algebra.Ring.Int.Defs
import Mathlib.Data.List.Forall2

/-! C++ functions that may not return: they throw `std::invalid_argument`, or
they reach an operation whose behaviour the language leaves undefined. -/

set_option autoImplicit false

namespace GbMahjong.Library

/-- Why a C++ function did not return. -/
inductive Failure where
  | invalidArgument (what : String)
  | undefinedBehavior
  deriving DecidableEq, Repr

/-- The result of a C++ function that returns a `Value` or fails. -/
abbrev Checked (Value : Type) := Except Failure Value

namespace Checked

variable {Value Item Result State : Type}

def invalidArgument (what : String) : Checked Value :=
  .error (.invalidArgument what)

def Int64Range (value : Int) : Prop :=
  -2 ^ 63 ≤ value ∧ value < 2 ^ 63

instance (value : Int) : Decidable (Int64Range value) :=
  inferInstanceAs (Decidable (_ ∧ _))

/-- The value of an `int64_t` operation; signed overflow is undefined. -/
def int64 (value : Int) : Checked Int :=
  if Int64Range value then .ok value else .error .undefinedBehavior

def Int32Range (value : Int) : Prop :=
  -2 ^ 31 ≤ value ∧ value < 2 ^ 31

instance (value : Int) : Decidable (Int32Range value) :=
  inferInstanceAs (Decidable (_ ∧ _))

/-- The value of an `int` operation. -/
def int32 (value : Int) : Checked Int :=
  if Int32Range value then .ok value else .error .undefinedBehavior

theorem int32_eq_ok_iff {value result : Int} :
    int32 value = .ok result ↔ Int32Range value ∧ value = result := by
  unfold int32
  split
  · rename_i inRange
    simp [inRange]
  · rename_i outOfRange
    simp [outOfRange]

theorem int64_eq_ok_iff {value result : Int} :
    int64 value = .ok result ↔ Int64Range value ∧ value = result := by
  unfold int64
  split
  · rename_i inRange
    simp [inRange]
  · rename_i outOfRange
    simp [outOfRange]

@[simp] theorem invalidArgument_ne_ok {what : String} {value : Value} :
    invalidArgument what ≠ .ok value :=
  nofun

theorem ok_bind (value : Value) (next : Value → Checked Result) :
    (Except.ok value : Checked Value) >>= next = next value :=
  rfl

theorem bind_eq_ok_iff {first : Checked Value} {next : Value → Checked Result}
    {result : Result} :
    first >>= next = .ok result ↔ ∃ value, first = .ok value ∧ next value = .ok result := by
  cases first with
  | error failure => simp [bind, Except.bind]
  | ok value => simp [bind, Except.bind]

/-- Two continuations that return alike after what the first part returns. -/
theorem bind_eq_ok_congr {first : Checked Value} {next other : Value → Checked Result}
    {result : Result}
    (alike : ∀ value, first = .ok value → (next value = .ok result ↔ other value = .ok result)) :
    first >>= next = .ok result ↔ first >>= other = .ok result := by
  cases first with
  | error failure => exact .rfl
  | ok value => exact alike value rfl

theorem map_eq_ok_iff {computed : Value → Result} {returned : Checked Value}
    {result : Result} :
    returned.map computed = .ok result ↔
      ∃ value, returned = .ok value ∧ computed value = result := by
  cases returned with
  | error failure => simp [Except.map]
  | ok value => simp [Except.map]

theorem mapM_eq_ok_iff {step : Item → Checked Result} {items : List Item}
    {results : List Result} :
    items.mapM step = .ok results ↔
      List.Forall₂ (fun item result => step item = .ok result) items results := by
  induction items generalizing results with
  | nil => cases results <;> simp [pure, Except.pure]
  | cons item rest ih =>
      rw [List.mapM_cons, bind_eq_ok_iff]
      simp only [bind_eq_ok_iff, ih, pure, Except.pure, Except.ok.injEq,
        List.forall₂_cons_left_iff]
      constructor
      · intro returned
        obtain ⟨result, stepped, others, traversed, rfl⟩ := returned
        exact ⟨result, others, stepped, traversed, rfl⟩
      · intro pointwise
        obtain ⟨result, others, stepped, traversed, rfl⟩ := pointwise
        exact ⟨result, stepped, others, traversed, rfl⟩

/-- A traversal returns exactly when every step does, with what each step computes. -/
theorem mapM_eq_ok_iff_of_exact {step : Item → Checked Result} {fits : Item → Prop}
    {computed : Item → Result}
    (exact : ∀ item result, step item = .ok result ↔ fits item ∧ result = computed item)
    {items : List Item} {results : List Result} :
    items.mapM step = .ok results ↔
      (∀ item ∈ items, fits item) ∧ results = items.map computed := by
  simp only [mapM_eq_ok_iff, exact]
  induction items generalizing results with
  | nil => simp
  | cons item rest ih =>
      simp only [List.forall₂_cons_left_iff, ih, List.forall_mem_cons, List.map_cons]
      constructor
      · intro pointwise
        obtain ⟨_, _, ⟨fitsFirst, rfl⟩, ⟨fitsRest, rfl⟩, rfl⟩ := pointwise
        exact ⟨⟨fitsFirst, fitsRest⟩, rfl⟩
      · intro whole
        obtain ⟨⟨fitsFirst, fitsRest⟩, rfl⟩ := whole
        exact ⟨_, _, ⟨fitsFirst, rfl⟩, ⟨fitsRest, rfl⟩, rfl⟩

/-- A traversal in another order returns too, each item with the result it had. -/
theorem mapM_perm {step : Item → Checked Result} {items others : List Item}
    {results : List Result} (same : others.Perm items)
    (traversed : items.mapM step = .ok results) :
    ∃ reordered, others.mapM step = .ok reordered ∧
      (others.zip reordered).Perm (items.zip results) := by
  simp only [mapM_eq_ok_iff] at traversed ⊢
  induction same generalizing results with
  | nil =>
      cases traversed
      exact ⟨[], .nil, .refl _⟩
  | cons item _ ih =>
      cases traversed with
      | cons stepped rest =>
          obtain ⟨reordered, traversed, same⟩ := ih rest
          exact ⟨_ :: reordered, .cons stepped traversed, same.cons _⟩
  | swap first second rest =>
      cases traversed with
      | cons stepped others =>
          cases others with
          | cons steppedNext others =>
              exact ⟨_ :: _ :: _, .cons steppedNext (.cons stepped others), .swap _ _ _⟩
  | trans _ _ ihFirst ihSecond =>
      obtain ⟨middle, traversed, same⟩ := ihSecond traversed
      obtain ⟨reordered, traversed, sameFirst⟩ := ihFirst traversed
      exact ⟨reordered, traversed, sameFirst.trans same⟩

/-! ## Loops that build a value -/

/-- A loop that converts each item and adds the result is a traversal of the
conversions and a fold of the additions. -/
theorem foldlM_convert_eq (convert : Item → Checked Result) (add : State → Result → State)
    (items : List Item) (start : State) :
    (items.foldlM (fun state item => do .ok (add state (← convert item))) start :
        Checked State) = (items.mapM convert).map fun results => results.foldl add start := by
  induction items generalizing start with
  | nil => rfl
  | cons item rest ih =>
      rw [List.foldlM_cons, List.mapM_cons]
      cases convert item with
      | error failure => rfl
      | ok result =>
          refine (ih (add start result)).trans ?_
          change _ = Except.map _ (rest.mapM convert >>= fun results => .ok (result :: results))
          cases rest.mapM convert with
          | error failure => rfl
          | ok results => rfl

theorem foldlM_convert_eq_ok_iff {convert : Item → Checked Result}
    {add : State → Result → State} {items : List Item} {start final : State} :
    (items.foldlM (fun state item => do .ok (add state (← convert item))) start =
        (.ok final : Checked State)) ↔
      ∃ results, items.mapM convert = .ok results ∧ results.foldl add start = final := by
  rw [foldlM_convert_eq, map_eq_ok_iff]

/-! ## How far a loop comes -/

/-- A loop comes to an item once it has passed every item before it. -/
def Reaches (passes : Item → Prop) (items : List Item) (reached : Item) : Prop :=
  ∃ before after, items = before ++ reached :: after ∧ ∀ item ∈ before, passes item

section Reaches

variable {passes : Item → Prop} {items others : List Item} {item reached : Item}

theorem Reaches.mem (reaches : Reaches passes items reached) : reached ∈ items := by
  obtain ⟨before, after, rfl, _⟩ := reaches
  exact List.mem_append_right _ List.mem_cons_self

@[simp] theorem not_reaches_nil : ¬ Reaches passes [] reached :=
  fun reaches => List.not_mem_nil reaches.mem

theorem reaches_cons : Reaches passes (item :: items) reached ↔
    reached = item ∨ passes item ∧ Reaches passes items reached := by
  constructor
  · intro reaches
    obtain ⟨before, after, split, passed⟩ := reaches
    cases before with
    | nil => exact .inl (List.cons.inj split).1.symm
    | cons first before =>
        obtain ⟨rfl, rfl⟩ := List.cons.inj split
        obtain ⟨first, rest⟩ := List.forall_mem_cons.mp passed
        exact .inr ⟨first, before, after, rfl, rest⟩
  · intro reaches
    cases reaches with
    | inl same => exact ⟨[], items, by rw [same, List.nil_append], List.forall_mem_nil _⟩
    | inr later =>
        obtain ⟨first, before, after, rfl, rest⟩ := later
        exact ⟨item :: before, after, rfl, List.forall_mem_cons.mpr ⟨first, rest⟩⟩

/-- One loop after another. -/
theorem reaches_append : Reaches passes (items ++ others) reached ↔
    Reaches passes items reached ∨
      (∀ item ∈ items, passes item) ∧ Reaches passes others reached := by
  induction items with
  | nil => simp
  | cons item items ih =>
      rw [List.cons_append, reaches_cons, ih, reaches_cons, List.forall_mem_cons]
      tauto

/-- A traversal returns when every step of it does. -/
theorem exists_mapM_iff {step : Item → Checked Result} :
    (∃ results, items.mapM step = .ok results) ↔
      ∀ item ∈ items, ∃ result, step item = .ok result := by
  induction items with
  | nil => exact iff_of_true ⟨[], rfl⟩ (List.forall_mem_nil _)
  | cons item items ih =>
      rw [List.forall_mem_cons, ← ih]
      simp only [List.mapM_cons, bind_eq_ok_iff, pure, Except.pure, Except.ok.injEq]
      constructor
      · intro traversed
        obtain ⟨_, result, first, results, rest, _⟩ := traversed
        exact ⟨⟨result, first⟩, results, rest⟩
      · intro both
        obtain ⟨⟨result, first⟩, results, rest⟩ := both
        exact ⟨_, result, first, results, rest, rfl⟩

end Reaches

/-! ## Defined behaviour -/

def Defined (result : Checked Value) : Prop :=
  result ≠ .error .undefinedBehavior

theorem defined_ok (value : Value) : Defined (.ok value) :=
  nofun

theorem defined_invalidArgument (what : String) :
    Defined (invalidArgument what : Checked Value) := by
  intro undefined
  cases undefined

theorem defined_bind_iff {first : Checked Value} {next : Value → Checked Result} :
    Defined (first >>= next) ↔
      Defined first ∧ ∀ value, first = .ok value → Defined (next value) := by
  unfold Defined
  cases first with
  | error failure => simp [bind, Except.bind]
  | ok value => simp [bind, Except.bind]

/-- What follows is defined or not whatever the first part returns. -/
theorem defined_bind_iff_of_exact {first : Checked Value} {next : Value → Checked Result}
    {inRange passes rest : Prop} (whether : Defined first ↔ inRange)
    (returns : (∃ value, first = .ok value) ↔ passes)
    (exact : ∀ value, first = .ok value → (Defined (next value) ↔ rest)) :
    Defined (first >>= next) ↔ inRange ∧ (passes → rest) := by
  rw [defined_bind_iff, whether, ← returns]
  refine and_congr_right fun _ => ?_
  constructor
  · intro defined returned
    obtain ⟨value, returned⟩ := returned
    exact (exact value returned).mp (defined value returned)
  · exact fun holds value returned => (exact value returned).mpr (holds ⟨value, returned⟩)

theorem Defined.bind {first : Checked Value} {next : Value → Checked Result}
    (defined : Defined first) (rest : ∀ value, first = .ok value → Defined (next value)) :
    Defined (first >>= next) :=
  defined_bind_iff.mpr ⟨defined, rest⟩

theorem defined_map_iff {returned : Checked Value} {computed : Value → Result} :
    Defined (returned.map computed) ↔ Defined returned := by
  unfold Defined
  cases returned with
  | error failure => simp [Except.map]
  | ok value => simp [Except.map]

/-- A traversal is defined when every step that it comes to is. -/
theorem defined_mapM_iff {step : Item → Checked Result} {passes : Item → Prop}
    {items : List Item}
    (exact : ∀ item ∈ items, (∃ result, step item = .ok result) ↔ passes item) :
    Defined (items.mapM step) ↔ ∀ item, Reaches passes items item → Defined (step item) := by
  induction items with
  | nil => exact iff_of_true (defined_ok []) fun _ reaches => absurd reaches not_reaches_nil
  | cons item items ih =>
      obtain ⟨first, others⟩ := List.forall_mem_cons.mp exact
      have traversal : Defined ((item :: items).mapM step) ↔
          Defined (step item) ∧ (passes item → Defined (items.mapM step)) := by
        rw [List.mapM_cons, defined_bind_iff, ← first]
        refine and_congr_right fun _ => ?_
        simp only [defined_bind_iff, pure, Except.pure]
        constructor
        · intro rest passed
          obtain ⟨result, stepped⟩ := passed
          exact (rest result stepped).1
        · exact fun rest result stepped => ⟨rest ⟨result, stepped⟩, fun _ _ => defined_ok _⟩
      simp only [traversal, ih others, reaches_cons, or_imp, forall_and, forall_eq, and_imp]
      refine and_congr_right fun _ => ?_
      exact ⟨fun rest reached passed => rest passed reached, fun rest passed reached =>
        rest reached passed⟩

theorem Defined.thrown {result : Checked Value} (defined : Defined result)
    {failure : Failure} (failed : result = .error failure) :
    ∃ what, failure = .invalidArgument what := by
  cases failure with
  | invalidArgument what => exact ⟨what, rfl⟩
  | undefinedBehavior => exact absurd failed defined

/-! ## Computations without exceptions -/

/-- Nothing is thrown, though the behaviour may be undefined. -/
def Silent (result : Checked Value) : Prop :=
  ∀ what, result ≠ invalidArgument what

theorem Silent.bind {first : Checked Value} {next : Value → Checked Result}
    (silent : Silent first) (rest : ∀ value, first = .ok value → Silent (next value)) :
    Silent (first >>= next) := by
  intro what thrown
  cases returned : first with
  | ok value =>
      rw [returned] at thrown
      exact rest value returned what thrown
  | error failure =>
      rw [returned] at thrown
      cases thrown
      exact silent what returned

end Checked

end GbMahjong.Library
