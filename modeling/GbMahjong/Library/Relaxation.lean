import Mathlib.Data.List.Basic
import Mathlib.Logic.Function.Basic

/-! Search for the most valuable state by a queue that takes a state in again whenever its
key is reached with more value than before. The queue is worked off in rounds: what one
round puts in line comes up in the next. -/

set_option autoImplicit false

namespace GbMahjong.Library

/-- States with their successors, a key that stands for what can still be done, and a value. -/
structure Relaxation (State Key : Type) where
  next : State → List State
  key : State → Key
  value : State → Nat

/-- The most value met for each key, 0 for none, and the best state met. -/
structure Labels (State Key : Type) where
  best : Key → Nat
  top : State

namespace Relaxation

variable {State Key : Type} [DecidableEq Key] (problem : Relaxation State Key)

/-- One successor: in line if it improves on its key, and on top if it improves on all. -/
def offer (work : List State × Labels State Key) (state : State) :
    List State × Labels State Key :=
  if work.2.best (problem.key state) < problem.value state then
    (work.1 ++ [state], {
      best := Function.update work.2.best (problem.key state) (problem.value state)
      top := if problem.value work.2.top < problem.value state then state else work.2.top })
  else
    work

/-- A round: the successors of every state in line. -/
def round (queue : List State) (labels : Labels State Key) : List State × Labels State Key :=
  queue.foldl (fun work state => (problem.next state).foldl problem.offer work) ([], labels)

def run : Nat → List State → Labels State Key → Labels State Key
  | 0, _, labels => labels
  | fuel + 1, queue, labels =>
      let work := problem.round queue labels
      run fuel work.1 work.2

/-- The states that successors lead to. -/
inductive Reaches (problem : Relaxation State Key) (start : State) : State → Prop where
  | refl : Reaches problem start start
  | step {state further : State} (reaches : Reaches problem start state)
      (move : further ∈ problem.next state) : Reaches problem start further

/-- What the search relies on: value and key decide how far a state can still get, each
move adds value, and moves come to an end. -/
structure Sound (problem : Relaxation State Key) (start : State) (measure : State → Nat) :
    Prop where
  nothing : problem.value start = 0
  follows : ∀ {state other further}, problem.Reaches start state → problem.Reaches start other →
    problem.key state = problem.key other → problem.value state ≤ problem.value other →
    further ∈ problem.next state →
    ∃ after ∈ problem.next other, problem.key after = problem.key further ∧
      problem.value further ≤ problem.value after
  gains : ∀ {state further}, further ∈ problem.next state → 0 < problem.value further
  falls : ∀ {state further}, problem.Reaches start state → further ∈ problem.next state →
    measure further < measure state

/-- Every successor of the state is accounted for. -/
def Settled (problem : Relaxation State Key) (labels : Labels State Key) (state : State) : Prop :=
  ∀ further ∈ problem.next state, problem.value further ≤ labels.best (problem.key further)

/-- What holds between two steps: for every key met there is a state that has its value and
is in line, in hand or settled. -/
structure Progress (problem : Relaxation State Key) (start : State) (pending : List State)
    (labels : Labels State Key) : Prop where
  reached : ∀ state ∈ pending, problem.Reaches start state
  topReached : problem.Reaches start labels.top
  topMost : ∀ key, labels.best key ≤ problem.value labels.top
  accounted : ∀ key, key = problem.key start ∨ 0 < labels.best key →
    ∃ state, problem.Reaches start state ∧ problem.key state = key ∧
      labels.best key ≤ problem.value state ∧ (state ∈ pending ∨ problem.Settled labels state)

variable {problem} {start : State} {measure : State → Nat} {labels : Labels State Key}

omit [DecidableEq Key] in
theorem Settled.of_le {state : State} {later : Labels State Key}
    (settled : problem.Settled labels state) (grown : ∀ key, labels.best key ≤ later.best key) :
    problem.Settled later state :=
  fun further move => Nat.le_trans (settled further move) (grown _)

theorem offer_best_le (work : List State × Labels State Key) (state : State) (key : Key) :
    work.2.best key ≤ (problem.offer work state).2.best key := by
  rw [offer]
  split
  · rename_i better
    by_cases same : key = problem.key state
    · subst same
      simpa using Nat.le_of_lt better
    · simp [same]
  · exact Nat.le_refl _

/-- Whatever is offered is accounted for. -/
theorem value_le_offer_best (work : List State × Labels State Key) (state : State) :
    problem.value state ≤ (problem.offer work state).2.best (problem.key state) := by
  rw [offer]
  split
  · simp
  · rename_i notBetter
    exact Nat.le_of_not_lt notBetter

theorem foldl_offer_best_le (work : List State × Labels State Key) (states : List State)
    (key : Key) : work.2.best key ≤ (states.foldl problem.offer work).2.best key := by
  induction states generalizing work with
  | nil => exact Nat.le_refl _
  | cons state states ih => exact Nat.le_trans (offer_best_le work state key) (ih _)

/-- An offer keeps the progress, with the new state in line. -/
theorem Progress.offer {held : List State} {work : List State × Labels State Key} {state : State}
    (progress : problem.Progress start (held ++ work.1) work.2)
    (reaches : problem.Reaches start state) :
    problem.Progress start (held ++ (problem.offer work state).1) (problem.offer work state).2 := by
  have grown : ∀ key, work.2.best key ≤ (problem.offer work state).2.best key :=
    offer_best_le work state
  rw [Relaxation.offer] at grown ⊢
  split at grown
  · rename_i better
    simp only [better, if_true] at grown ⊢
    refine ⟨?_, ?_, ?_, ?_⟩
    · intro other member
      rw [← List.append_assoc] at member
      rcases List.mem_append.mp member with old | new
      · exact progress.reached other old
      · rwa [List.mem_singleton.mp new]
    · split
      · exact reaches
      · exact progress.topReached
    · intro key
      have most := progress.topMost key
      by_cases same : key = problem.key state
      · subst same
        simp only [Function.update_self]
        split <;> omega
      · simp only [Function.update_of_ne same]
        split <;> omega
    · intro key known
      by_cases same : key = problem.key state
      · subst same
        exact ⟨state, reaches, rfl, by simp, .inl (by simp)⟩
      · simp only [Function.update_of_ne same] at known ⊢
        obtain ⟨other, reachesOther, keyOther, value, either⟩ := progress.accounted key known
        refine ⟨other, reachesOther, keyOther, value, either.imp (fun member => ?_) fun settled =>
          settled.of_le grown⟩
        rw [← List.append_assoc]
        exact List.mem_append_left _ member
  · rename_i notBetter
    simpa only [notBetter, if_false] using progress

theorem Progress.foldl_offer {held states : List State} {work : List State × Labels State Key}
    (progress : problem.Progress start (held ++ work.1) work.2)
    (reaches : ∀ state ∈ states, problem.Reaches start state) :
    problem.Progress start (held ++ (states.foldl problem.offer work).1)
      (states.foldl problem.offer work).2 := by
  induction states generalizing work with
  | nil => exact progress
  | cons state states ih =>
      obtain ⟨first, rest⟩ := List.forall_mem_cons.mp reaches
      exact ih (progress.offer first) rest

/-- After all its successors were offered, a state is settled. -/
theorem settled_foldl_offer (work : List State × Labels State Key) (state : State) :
    problem.Settled ((problem.next state).foldl problem.offer work).2 state := by
  have all : ∀ (states : List State) (work : List State × Labels State Key),
      ∀ further ∈ states, problem.value further ≤
        (states.foldl problem.offer work).2.best (problem.key further) := by
    intro states
    induction states with
    | nil => exact fun _ _ member => (List.not_mem_nil member).elim
    | cons first states ih =>
        intro work further member
        rcases List.mem_cons.mp member with rfl | later
        · exact Nat.le_trans (value_le_offer_best work further) (foldl_offer_best_le _ states _)
        · exact ih _ further later
  exact all _ work

/-- A round leaves only new states pending. -/
theorem Progress.round {queue : List State} {work : List State × Labels State Key}
    (progress : problem.Progress start (queue ++ work.1) work.2) :
    let after := queue.foldl
      (fun work state => (problem.next state).foldl problem.offer work) work
    problem.Progress start after.1 after.2 := by
  induction queue generalizing work with
  | nil => exact progress
  | cons state queue ih =>
      apply ih
      have reaches := progress.reached state (by simp)
      have successors : ∀ further ∈ problem.next state, problem.Reaches start further :=
        fun further move => .step reaches move
      have offered := progress.foldl_offer successors
      refine ⟨?_, offered.topReached, offered.topMost, ?_⟩
      · intro other member
        exact offered.reached other (by
          rw [List.cons_append]
          exact List.mem_cons_of_mem _ member)
      · intro key known
        obtain ⟨other, reachesOther, keyOther, value, either⟩ := offered.accounted key known
        refine ⟨other, reachesOther, keyOther, value, ?_⟩
        rcases either with member | settled
        · rw [List.cons_append] at member
          rcases List.mem_cons.mp member with rfl | later
          · exact .inr (settled_foldl_offer work other)
          · exact .inl later
        · exact .inr settled

/-! ## The whole run -/

theorem mem_of_mem_foldl_offer {states : List State} {work : List State × Labels State Key}
    {state : State} (member : state ∈ (states.foldl problem.offer work).1) :
    state ∈ work.1 ∨ state ∈ states := by
  induction states generalizing work with
  | nil => exact .inl member
  | cons first states ih =>
      rcases ih member with old | later
      · rw [offer] at old
        split at old
        · rcases List.mem_append.mp old with old | new
          · exact .inl old
          · exact .inr (List.mem_singleton.mp new ▸ List.mem_cons_self)
        · exact .inl old
      · exact .inr (List.mem_cons_of_mem _ later)

/-- What a round puts in line are successors of what was in line. -/
theorem exists_of_mem_round {queue : List State} {work : List State × Labels State Key}
    {state : State} (member : state ∈ (queue.foldl
      (fun work state => (problem.next state).foldl problem.offer work) work).1) :
    state ∈ work.1 ∨ ∃ front ∈ queue, state ∈ problem.next front := by
  induction queue generalizing work with
  | nil => exact .inl member
  | cons front queue ih =>
      rcases ih member with early | ⟨later, among, move⟩
      · rcases mem_of_mem_foldl_offer early with old | move
        · exact .inl old
        · exact .inr ⟨front, List.mem_cons_self, move⟩
      · exact .inr ⟨later, List.mem_cons_of_mem _ among, move⟩

/-- With fuel for every move there can be, the run ends with nothing pending. -/
theorem Progress.run (sound : problem.Sound start measure) {fuel : Nat} {queue : List State}
    (progress : problem.Progress start queue labels)
    (enough : ∀ state ∈ queue, measure state < fuel) :
    problem.Progress start [] (problem.run fuel queue labels) := by
  induction fuel generalizing queue labels with
  | zero =>
      obtain rfl : queue = [] := List.eq_nil_iff_forall_not_mem.mpr
        fun state member => Nat.not_lt_zero _ (enough state member)
      exact progress
  | succ fuel ih =>
      have before : problem.Progress start (queue ++ []) labels := by rwa [List.append_nil]
      refine ih before.round fun state member => ?_
      rcases exists_of_mem_round member with none | ⟨front, among, move⟩
      · cases none
      · have falls := sound.falls (progress.reached front among) move
        have bound := enough front among
        omega

/-- The run finds a reachable state of the most value there is. -/
theorem run_top (sound : problem.Sound start measure) {fuel : Nat}
    (enough : measure start < fuel) :
    let found := (problem.run fuel [start] ⟨fun _ => 0, start⟩).top
    problem.Reaches start found ∧
      ∀ state, problem.Reaches start state → problem.value state ≤ problem.value found := by
  have begins : problem.Progress start [start] ⟨fun _ => 0, start⟩ := by
    refine ⟨?_, .refl, fun _ => Nat.zero_le _, ?_⟩
    · intro state member
      rw [List.mem_singleton.mp member]
      exact .refl
    · intro key known
      have same := known.resolve_right (Nat.lt_irrefl 0)
      exact ⟨start, .refl, same.symm, Nat.zero_le _, .inl List.mem_cons_self⟩
  have ends := begins.run sound (by simpa using enough : ∀ state ∈ [start], measure state < fuel)
  refine ⟨ends.topReached, fun state reaches => ?_⟩
  -- Some settled state is never worse, all along the way to a state.
  suffices matched : (∃ other, problem.Reaches start other ∧
      problem.key other = problem.key state ∧ problem.value state ≤ problem.value other ∧
      problem.Settled (problem.run fuel [start] ⟨fun _ => 0, start⟩) other) ∧
      problem.value state ≤ problem.value (problem.run fuel [start] ⟨fun _ => 0, start⟩).top
    from matched.2
  induction reaches with
  | refl =>
      obtain ⟨other, reachesOther, key, _, either⟩ := ends.accounted _ (.inl rfl)
      rw [sound.nothing]
      exact ⟨⟨other, reachesOther, key, Nat.zero_le _, either.resolve_left List.not_mem_nil⟩,
        Nat.zero_le _⟩
  | @step state further reaches move ih =>
      obtain ⟨⟨other, reachesOther, key, value, settled⟩, _⟩ := ih
      obtain ⟨after, moveToo, keyAfter, valueAfter⟩ :=
        sound.follows reaches reachesOther key.symm value move
      have accounted := settled after moveToo
      rw [keyAfter] at accounted
      have met := Nat.le_trans valueAfter accounted
      obtain ⟨last, reachesLast, keyLast, valueLast, either⟩ := ends.accounted
        (problem.key further) (.inr (Nat.lt_of_lt_of_le (sound.gains move) met))
      exact ⟨⟨last, reachesLast, keyLast, Nat.le_trans met valueLast,
        either.resolve_left List.not_mem_nil⟩, Nat.le_trans met (ends.topMost _)⟩

end Relaxation

end GbMahjong.Library
