import Mathlib.Data.List.Basic

/-! Depth-first search that passes over a node whose key it has met before. Where nodes
of one key have the same leaves, up to a likeness of leaves, nothing is lost by that. -/

set_option autoImplicit false

namespace GbMahjong.Library

/-- A tree given by what its nodes are: a leaf that answers the search, or a list of moves. -/
structure SearchTree (Node Key : Type) where
  done : Node → Bool
  moves : Node → List Node
  key : Node → Key

/-- The keys met so far, and what was made of the leaves. -/
structure SearchState (Key Result : Type) where
  seen : List Key
  result : Result

namespace SearchTree

variable {Node Key Result Other : Type} [DecidableEq Key] (tree : SearchTree Node Key)

/-- Try moves in turn. With `stopAtFirst` the first success ends the search. -/
def tryMoves (stopAtFirst : Bool)
    (descend : Node → SearchState Key Result → Bool × SearchState Key Result) :
    List Node → Bool → SearchState Key Result → Bool × SearchState Key Result
  | [], found, state => (found, state)
  | next :: others, found, state =>
      if tree.key next ∈ state.seen then
        tryMoves stopAtFirst descend others found state
      else
        let below := descend next { state with seen := tree.key next :: state.seen }
        if stopAtFirst && (found || below.1) then
          (true, below.2)
        else
          tryMoves stopAtFirst descend others (found || below.1) below.2

/-- The search below a node: whether it met a leaf, and the state it leaves. -/
def explore (visit : Node → Result → Result) (stopAtFirst : Bool) :
    Nat → Node → SearchState Key Result → Bool × SearchState Key Result
  | 0, _, state => (false, state)
  | fuel + 1, node, state =>
      if tree.done node then
        (true, { state with result := visit node state.result })
      else
        tree.tryMoves stopAtFirst (explore visit stopAtFirst fuel) (tree.moves node) false state

/-- The leaves below a node, pruned or not. -/
inductive Leaf : Node → Node → Prop where
  | here {node} (done : tree.done node = true) : Leaf node node
  | down {node next leaf} (inner : tree.done node = false) (move : next ∈ tree.moves node)
      (below : Leaf next leaf) : Leaf node leaf

/-! ## What is made of the leaves -/

variable {visit : Node → Result → Result} {stopAtFirst : Bool}

/-- The induction rule for results: only leaves below the node are visited. -/
theorem explore_invariant (property : Result → Prop) {fuel : Nat} {node : Node}
    {state : SearchState Key Result} (start : property state.result)
    (kept : ∀ leaf result, tree.Leaf node leaf → property result →
      property (visit leaf result)) :
    property (tree.explore visit stopAtFirst fuel node state).2.result := by
  induction fuel generalizing node state with
  | zero => exact start
  | succ fuel ih =>
      rw [explore]
      split
      · rename_i done
        exact kept node _ (.here done) start
      · rename_i inner
        rw [Bool.not_eq_true] at inner
        have all : ∀ moves : List Node, (∀ next ∈ moves, next ∈ tree.moves node) →
            ∀ found state, property state.result →
            property (tree.tryMoves stopAtFirst (tree.explore visit stopAtFirst fuel) moves found
              state).2.result := by
          intro moves
          induction moves with
          | nil => exact fun _ _ _ start => start
          | cons next others rest =>
              intro among found state start
              obtain ⟨move, among⟩ := List.forall_mem_cons.mp among
              have below : property (tree.explore visit stopAtFirst fuel next
                  { state with seen := tree.key next :: state.seen }).2.result :=
                ih start fun leaf result leafBelow =>
                  kept leaf result (.down inner move leafBelow)
              rw [tryMoves]
              split
              · exact rest among _ _ start
              · dsimp only
                split
                · exact below
                · exact rest among _ _ below
        exact all _ (fun _ member => member) _ _ start

/-- Two searches of one tree that make related results of the leaves go the same way. -/
theorem explore_related {visitOther : Node → Other → Other} (relation : Result → Other → Prop)
    (kept : ∀ leaf result other, relation result other →
      relation (visit leaf result) (visitOther leaf other))
    (fuel : Nat) (node : Node) (seen : List Key) {result : Result} {other : Other}
    (start : relation result other) :
    let first := tree.explore visit stopAtFirst fuel node ⟨seen, result⟩
    let second := tree.explore visitOther stopAtFirst fuel node ⟨seen, other⟩
    first.1 = second.1 ∧ first.2.seen = second.2.seen ∧
      relation first.2.result second.2.result := by
  induction fuel generalizing node seen result other with
  | zero => exact ⟨rfl, rfl, start⟩
  | succ fuel ih =>
      simp only [explore]
      split
      · exact ⟨rfl, rfl, kept _ _ _ start⟩
      · have all : ∀ (moves : List Node) (found : Bool) (seen : List Key) (result : Result)
            (other : Other), relation result other →
            let first := tree.tryMoves stopAtFirst (tree.explore visit stopAtFirst fuel) moves
              found ⟨seen, result⟩
            let second := tree.tryMoves stopAtFirst (tree.explore visitOther stopAtFirst fuel)
              moves found ⟨seen, other⟩
            first.1 = second.1 ∧ first.2.seen = second.2.seen ∧
              relation first.2.result second.2.result := by
          intro moves
          induction moves with
          | nil => exact fun _ _ _ _ start => ⟨rfl, rfl, start⟩
          | cons next others rest =>
              intro found seen result other start
              obtain ⟨sameFound, sameSeen, related⟩ :=
                ih next (tree.key next :: seen) start
              simp only [tryMoves]
              split
              · exact rest _ _ _ _ start
              · rw [sameFound]
                split
                · exact ⟨rfl, sameSeen, related⟩
                · rw [show (tree.explore visit stopAtFirst fuel next
                    ⟨tree.key next :: seen, result⟩).2 = ⟨_, _⟩ from rfl, sameSeen]
                  exact rest _ _ _ _ related
        exact all _ _ _ _ _ start

/-! ## Which leaves are met -/

/-- Every leaf below the node is like one that was met. -/
def Covered (tree : SearchTree Node Key) (like : Node → Node → Prop) (met : List Node)
    (node : Node) : Prop :=
  ∀ leaf, tree.Leaf node leaf → ∃ found ∈ met, like leaf found

/-- What makes the pruning harmless: on the nodes that the search can meet every move goes
down a rank, and nodes of one key have one rank and like leaves. -/
structure KeysDecide (tree : SearchTree Node Key) (admissible : Node → Prop)
    (rank : Node → Nat) (like : Node → Node → Prop) : Prop where
  kept : ∀ {node next}, admissible node → tree.done node = false → next ∈ tree.moves node →
    admissible next
  falls : ∀ {node next}, admissible node → tree.done node = false → next ∈ tree.moves node →
    rank next < rank node
  ranked : ∀ {node other}, admissible node → admissible other →
    tree.key node = tree.key other → rank node = rank other
  covers : ∀ {node other met}, admissible node → admissible other →
    tree.key node = tree.key other → tree.Covered like met node → tree.Covered like met other

/-- The list of the leaves met, in order. -/
def record (leaf : Node) (met : List Node) : List Node :=
  met ++ [leaf]

/-- The leaves that a search meets from a node on. -/
def visited (tree : SearchTree Node Key) (stopAtFirst : Bool) (fuel : Nat) (node : Node) :
    List Node :=
  (tree.explore record stopAtFirst fuel node ⟨[], []⟩).2.result

variable {admissible : Node → Prop} {rank : Node → Nat} {like : Node → Node → Prop}

omit [DecidableEq Key] in
/-- It is enough that a leaf below one node has a twin below every other of its key. -/
theorem KeysDecide.of_twins {tree : SearchTree Node Key}
    (kept : ∀ {node next}, admissible node → tree.done node = false → next ∈ tree.moves node →
      admissible next)
    (falls : ∀ {node next}, admissible node → tree.done node = false →
      next ∈ tree.moves node → rank next < rank node)
    (ranked : ∀ {node other}, admissible node → admissible other →
      tree.key node = tree.key other → rank node = rank other)
    (twins : ∀ {node other leaf}, admissible node → admissible other →
      tree.key node = tree.key other → tree.Leaf node leaf →
      ∃ twin, tree.Leaf other twin ∧ like leaf twin)
    (transitive : ∀ {leaf twin found}, like leaf twin → like twin found → like leaf found) :
    KeysDecide tree admissible rank like where
  kept := kept
  falls := falls
  ranked := ranked
  covers admitted admittedToo same covered leaf below := by
    obtain ⟨twin, belowToo, alike⟩ := twins admittedToo admitted same.symm below
    obtain ⟨found, met, alikeToo⟩ := covered twin belowToo
    exact ⟨found, met, transitive alike alikeToo⟩

omit [DecidableEq Key] in
theorem Covered.append {tree : SearchTree Node Key} {met : List Node} {node : Node}
    (covered : Covered tree like met node) (more : List Node) :
    tree.Covered like (met ++ more) node := by
  intro leaf below
  obtain ⟨found, member, alike⟩ := covered leaf below
  exact ⟨found, List.mem_append_left _ member, alike⟩

/-- A search adds leaves to those it has met, and says so exactly when it adds any. -/
theorem explore_extends (stopAtFirst : Bool) (fuel : Nat) (node : Node) (seen : List Key)
    (met : List Node) :
    ∃ more, (tree.explore record stopAtFirst fuel node ⟨seen, met⟩).2.result = met ++ more ∧
      ((tree.explore record stopAtFirst fuel node ⟨seen, met⟩).1 = true ↔ more ≠ []) := by
  induction fuel generalizing node seen met with
  | zero => exact ⟨[], by simp [explore]⟩
  | succ fuel ih =>
      simp only [explore]
      split
      · exact ⟨[node], by simp [record]⟩
      · have all : ∀ (moves : List Node) (found : Bool) (seen : List Key) (met : List Node),
            ∃ more,
              (tree.tryMoves stopAtFirst (tree.explore record stopAtFirst fuel) moves found
                ⟨seen, met⟩).2.result = met ++ more ∧
              ((tree.tryMoves stopAtFirst (tree.explore record stopAtFirst fuel) moves found
                ⟨seen, met⟩).1 = true ↔ found = true ∨ more ≠ []) := by
          intro moves
          induction moves with
          | nil => exact fun _ _ _ => ⟨[], by simp [tryMoves]⟩
          | cons next others rest =>
              intro found seen met
              simp only [tryMoves]
              split
              · exact rest _ _ _
              · obtain ⟨more, result, succeeded⟩ :=
                  ih next (tree.key next :: seen) met
                split
                · rename_i stopped
                  simp only [Bool.and_eq_true, Bool.or_eq_true] at stopped
                  exact ⟨more, result, iff_of_true rfl (by rw [← succeeded]; exact stopped.2)⟩
                · obtain ⟨later, laterResult, laterSucceeded⟩ := rest
                    (found || (tree.explore record stopAtFirst fuel next
                      ⟨tree.key next :: seen, met⟩).1)
                    (tree.explore record stopAtFirst fuel next
                      ⟨tree.key next :: seen, met⟩).2.seen (met ++ more)
                  rw [← result] at laterResult laterSucceeded
                  refine ⟨more ++ later, ?_, ?_⟩
                  · rw [laterResult, result, List.append_assoc]
                  · rw [laterSucceeded, Bool.or_eq_true, succeeded, or_assoc]
                    simp only [ne_eq, List.append_eq_nil_iff, not_and_or]
        obtain ⟨more, result, succeeded⟩ := all (tree.moves node) false seen met
        exact ⟨more, result, by simpa using succeeded⟩

/-- What a search that ran to its end leaves: the node is covered, and so is every node
whose key was added. It may start from keys of nodes that are covered or of higher rank. -/
theorem explore_covers (decide : KeysDecide tree admissible rank like) {fuel : Nat}
    {node : Node} {seen : List Key} {met : List Node} (enough : rank node < fuel)
    (admitted : admissible node)
    (lower : ∀ other, admissible other → rank other < rank node → tree.key other ∈ seen →
      tree.Covered like met other) (reflexive : ∀ leaf, like leaf leaf) :
    let after := tree.explore record stopAtFirst fuel node ⟨seen, met⟩
    (stopAtFirst && after.1) = false →
      tree.Covered like after.2.result node ∧
        ∀ other, admissible other → tree.key other ∈ after.2.seen →
          tree.key other ∈ seen ∨ tree.Covered like after.2.result other := by
  induction fuel generalizing node seen met with
  | zero => omega
  | succ fuel ih =>
      simp only [explore]
      split
      · rename_i done
        intro _
        refine ⟨fun leaf below => ?_, fun other _ member => .inl member⟩
        cases below with
        | here => exact ⟨node, by simp [record], reflexive node⟩
        | down inner => rw [done] at inner; cases inner
      · rename_i inner
        rw [Bool.not_eq_true] at inner
        -- The moves tried so far are covered; so is whatever key they added.
        have all : ∀ (moves : List Node), (∀ next ∈ moves, next ∈ tree.moves node) →
            ∀ (found : Bool) (seen : List Key) (met : List Node),
            (∀ other, admissible other → rank other < rank node → tree.key other ∈ seen →
              tree.Covered like met other) →
            let after := tree.tryMoves stopAtFirst (tree.explore record stopAtFirst fuel) moves
              found ⟨seen, met⟩
            (stopAtFirst && after.1) = false →
              (∃ more, after.2.result = met ++ more) ∧
              (∀ next ∈ moves, tree.Covered like after.2.result next) ∧
              ∀ other, admissible other → tree.key other ∈ after.2.seen →
                tree.key other ∈ seen ∨ tree.Covered like after.2.result other := by
          intro moves
          induction moves with
          | nil =>
              exact fun _ _ _ _ _ _ =>
                ⟨⟨[], by simp [tryMoves]⟩, nofun, fun _ _ member => .inl member⟩
          | cons next others rest =>
              intro among found seen met lower
              obtain ⟨move, among⟩ := List.forall_mem_cons.mp among
              have admittedNext := decide.kept admitted inner move
              have fallsNext := decide.falls admitted inner move
              simp only [tryMoves]
              split
              · rename_i known
                intro complete
                obtain ⟨⟨more, grown⟩, covered, added⟩ := rest among _ _ _ lower complete
                have coveredNext := lower next admittedNext fallsNext known
                refine ⟨⟨more, grown⟩, List.forall_mem_cons.mpr ⟨?_, covered⟩, added⟩
                exact grown ▸ coveredNext.append more
              · split
                · rename_i stopped
                  simp only [Bool.and_eq_true] at stopped
                  intro complete
                  simp [stopped.1] at complete
                · rename_i goesOn
                  intro complete
                  have belowComplete : (stopAtFirst && (tree.explore record stopAtFirst fuel next
                      ⟨tree.key next :: seen, met⟩).1) = false := by
                    revert goesOn
                    cases stopAtFirst <;> simp
                  have lowerNext : ∀ other, admissible other → rank other < rank next →
                      tree.key other ∈ tree.key next :: seen → tree.Covered like met other := by
                    intro other admittedOther lowerOther member
                    rcases List.mem_cons.mp member with same | member
                    · have equal := decide.ranked admittedOther admittedNext same
                      omega
                    · exact lower other admittedOther (by omega) member
                  obtain ⟨coveredNext, addedNext⟩ := ih (by omega) admittedNext
                    lowerNext belowComplete
                  obtain ⟨first, firstGrown, _⟩ := explore_extends tree stopAtFirst fuel next
                    (tree.key next :: seen) met
                  have lowerAfter : ∀ other, admissible other → rank other < rank node →
                      tree.key other ∈ (tree.explore record stopAtFirst fuel next
                        ⟨tree.key next :: seen, met⟩).2.seen →
                      tree.Covered like (tree.explore record stopAtFirst fuel next
                        ⟨tree.key next :: seen, met⟩).2.result other := by
                    intro other admittedOther lowerOther member
                    rcases addedNext other admittedOther member with old | covered
                    · rcases List.mem_cons.mp old with same | old
                      · exact decide.covers admittedNext admittedOther same.symm coveredNext
                      · rw [firstGrown]
                        exact (lower other admittedOther lowerOther old).append first
                    · exact covered
                  obtain ⟨⟨more, grown⟩, covered, added⟩ :=
                    rest among _ _ _ lowerAfter complete
                  refine ⟨⟨first ++ more, ?_⟩, List.forall_mem_cons.mpr ⟨?_, covered⟩, ?_⟩
                  · rw [grown, firstGrown, List.append_assoc]
                  · exact grown ▸ coveredNext.append more
                  · intro other admittedOther member
                    rcases added other admittedOther member with early | covered
                    · rcases addedNext other admittedOther early with old | covered
                      · rcases List.mem_cons.mp old with same | old
                        · refine .inr (grown ▸ Covered.append ?_ more)
                          exact decide.covers admittedNext admittedOther same.symm coveredNext
                        · exact .inl old
                      · exact .inr (grown ▸ covered.append more)
                    · exact .inr covered
        intro complete
        obtain ⟨_, covered, added⟩ := all _ (fun _ member => member) _ _ _ lower complete
        refine ⟨fun leaf below => ?_, added⟩
        cases below with
        | here done => rw [done] at inner; cases inner
        | down _ move below => exact covered _ move leaf below

theorem leaf_of_visited {fuel : Nat} {node leaf : Node}
    (met : leaf ∈ tree.visited stopAtFirst fuel node) : tree.Leaf node leaf := by
  have all : ∀ leaf ∈ tree.visited stopAtFirst fuel node, tree.Leaf node leaf := by
    apply explore_invariant tree (fun met => ∀ leaf ∈ met, tree.Leaf node leaf)
    · exact List.forall_mem_nil _
    intro last met below before leaf member
    rcases List.mem_append.mp member with member | member
    · exact before leaf member
    · rwa [List.mem_singleton.mp member]
  exact all leaf met

/-- What any search makes of the leaves is made of those it meets, in order. -/
theorem explore_result {fuel : Nat} {node : Node} {start : Result} :
    (tree.explore visit stopAtFirst fuel node ⟨[], start⟩).2.result =
      (tree.visited stopAtFirst fuel node).foldl (fun result leaf => visit leaf result) start := by
  let madeOf (result : Result) (met : List Node) : Prop :=
    result = met.foldl (fun result leaf => visit leaf result) start
  have kept : ∀ leaf result met, madeOf result met →
      madeOf (visit leaf result) (record leaf met) := by
    intro leaf result met same
    change visit leaf result = (met ++ [leaf]).foldl _ start
    rw [List.foldl_append, ← same]
    rfl
  have made : madeOf start [] := rfl
  exact (explore_related tree madeOf kept fuel node [] made).2.2

/-- A pruned search that goes on to the end meets a leaf like any there is. -/
theorem visited_covers (decide : KeysDecide tree admissible rank like) {fuel : Nat}
    {node : Node} (enough : rank node < fuel) (admitted : admissible node)
    (reflexive : ∀ leaf, like leaf leaf) :
    tree.Covered like (tree.visited false fuel node) node :=
  (explore_covers tree decide enough admitted (fun _ _ _ member => (List.not_mem_nil member).elim) reflexive
    (Bool.false_and _)).1

/-- A search succeeds when it meets a leaf. -/
theorem explore_found_iff_visited {fuel : Nat} {node : Node} {start : Result} :
    (tree.explore visit stopAtFirst fuel node ⟨[], start⟩).1 = true ↔
      tree.visited stopAtFirst fuel node ≠ [] := by
  obtain ⟨more, result, succeeded⟩ := explore_extends tree stopAtFirst fuel node [] []
  have same : (tree.explore visit stopAtFirst fuel node ⟨[], start⟩).1 =
      (tree.explore record stopAtFirst fuel node ⟨[], []⟩).1 :=
    (explore_related tree (fun _ _ => True) (fun _ _ _ _ => trivial) fuel node [] trivial).1
  rw [same, succeeded, visited, result, List.nil_append]

/-- A pruned search that stops at the first leaf finds one exactly when there is one. -/
theorem explore_found_iff (decide : KeysDecide tree admissible rank like) {fuel : Nat}
    {node : Node} (enough : rank node < fuel) (admitted : admissible node)
    (reflexive : ∀ leaf, like leaf leaf) {start : Result} :
    (tree.explore visit true fuel node ⟨[], start⟩).1 = true ↔ ∃ leaf, tree.Leaf node leaf := by
  rw [explore_found_iff_visited]
  constructor
  · intro found
    obtain ⟨leaf, member⟩ := List.exists_mem_of_ne_nil _ found
    exact ⟨leaf, leaf_of_visited tree member⟩
  · intro some nothing
    obtain ⟨leaf, below⟩ := some
    have missed : (tree.explore record true fuel node ⟨[], []⟩).1 = false := by
      rw [Bool.eq_false_iff, ne_eq, explore_found_iff_visited, nothing]
      exact fun found => found rfl
    have covered := (explore_covers tree decide enough admitted
      (fun _ _ _ member => (List.not_mem_nil member).elim) reflexive
      (by rw [missed]; rfl)).1
    obtain ⟨found, member, _⟩ := covered leaf below
    rw [← visited, nothing] at member
    cases member

end SearchTree

end GbMahjong.Library
