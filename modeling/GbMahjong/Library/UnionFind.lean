import Mathlib.Data.List.Basic
import Mathlib.Data.List.GetD
import Mathlib.Data.List.Pairwise
import Mathlib.Logic.Relation

/-! Union-find over small numbers: every number points at itself or at a lower one of its
class, and classes are joined under the lower root. Shortening the way to a root is left
out, as it changes no root. -/

set_option autoImplicit false

namespace GbMahjong.Library

/-- Whom each number points at; a number past the end points at itself. -/
abbrev Parents := List Nat

namespace Parents

/-- No number points higher than itself. -/
def Falling (parents : Parents) : Prop :=
  ∀ number, parents.getD number number ≤ number

/-- Climb to the root. -/
def findFrom (parents : Parents) : Nat → Nat → Nat
  | 0, number => number
  | fuel + 1, number =>
      if parents.getD number number = number then number
      else findFrom parents fuel (parents.getD number number)

/-- The root of a number; the way there is no longer than the number is high. -/
def find (parents : Parents) (number : Nat) : Nat :=
  findFrom parents number number

/-- Join two classes under the lower root. -/
def unite (parents : Parents) (first second : Nat) : Parents :=
  let a := parents.find first
  let b := parents.find second
  if a = b then parents else if a < b then parents.set b a else parents.set a b

def separate (size : Nat) : Parents :=
  List.range size

variable {parents : Parents} {number first second fuel : Nat}

theorem findFrom_le (falling : parents.Falling) : findFrom parents fuel number ≤ number := by
  induction fuel generalizing number with
  | zero => exact Nat.le_refl _
  | succ fuel ih =>
      rw [findFrom]
      split
      · exact Nat.le_refl _
      · exact Nat.le_trans ih (falling number)

theorem find_le (falling : parents.Falling) : parents.find number ≤ number :=
  findFrom_le falling

/-- With fuel for the height, the climb ends at a root. -/
theorem findFrom_root (falling : parents.Falling) (enough : number ≤ fuel) :
    parents.getD (findFrom parents fuel number) (findFrom parents fuel number) =
      findFrom parents fuel number := by
  induction fuel generalizing number with
  | zero =>
      obtain rfl := Nat.le_zero.mp enough
      exact Nat.le_zero.mp (falling 0)
  | succ fuel ih =>
      rw [findFrom]
      split
      · assumption
      · rename_i moves
        have lower := falling number
        exact ih (by omega)

theorem find_root (falling : parents.Falling) :
    parents.getD (parents.find number) (parents.find number) = parents.find number :=
  findFrom_root falling (Nat.le_refl _)

/-- More fuel than the height changes nothing. -/
theorem findFrom_eq (falling : parents.Falling) (enough : number ≤ fuel) :
    findFrom parents fuel number = parents.find number := by
  induction fuel using Nat.strongRecOn generalizing number with
  | ind fuel ih =>
      cases fuel with
      | zero =>
          obtain rfl := Nat.le_zero.mp enough
          rfl
      | succ fuel =>
          cases number with
          | zero =>
              have root := Nat.le_zero.mp (falling 0)
              rw [findFrom, if_pos root]
              rfl
          | succ number =>
              rw [find, findFrom, findFrom]
              split
              · rfl
              · rename_i moves
                have lower := falling (number + 1)
                rw [ih fuel (Nat.lt_succ_self _) (by omega)]
                rcases Nat.lt_or_ge number fuel with less | same
                · rw [ih number (by omega) (by omega)]
                · obtain rfl : number = fuel := by omega
                  rw [ih number (Nat.lt_succ_self _) (by omega)]

theorem find_step (falling : parents.Falling) :
    parents.find number = parents.find (parents.getD number number) := by
  cases number with
  | zero => rw [Nat.le_zero.mp (falling 0)]
  | succ number =>
      rw [find, findFrom]
      split
      · rename_i root
        rw [root, find, findFrom, if_pos root]
      · have lower := falling (number + 1)
        exact findFrom_eq falling (by omega)

theorem find_of_root (root : parents.getD number number = number) :
    parents.find number = number := by
  cases number with
  | zero => rfl
  | succ number => rw [find, findFrom, if_pos root]

/-! ## Joining two roots -/

section Set

variable {low high : Nat}

theorem getD_set (inside : high < parents.length) :
    (parents.set high low).getD number number =
      if number = high then low else parents.getD number number := by
  rw [List.getD_eq_getElem?_getD, List.getD_eq_getElem?_getD, List.getElem?_set]
  by_cases same : high = number
  · subst same
    simp [inside]
  · simp [same, Ne.symm same]

theorem falling_set (falling : parents.Falling) (inside : high < parents.length)
    (lower : low < high) : Falling (parents.set high low) := by
  intro number
  rw [getD_set inside]
  split
  · omega
  · exact falling number

/-- Hanging one root under another sends its class there. -/
theorem find_set (falling : parents.Falling) (inside : high < parents.length)
    (lower : low < high) (lowRoot : parents.getD low low = low)
    (highRoot : parents.getD high high = high) :
    find (parents.set high low) number =
      if parents.find number = high then low else parents.find number := by
  have fallingToo := falling_set falling inside lower
  induction number using Nat.strongRecOn with
  | ind number ih =>
      by_cases root : parents.getD number number = number
      · rw [find_of_root root]
        split
        · rename_i same
          subst same
          rw [find_step fallingToo, getD_set inside, if_pos rfl]
          refine find_of_root ?_
          rw [getD_set inside, if_neg (Nat.ne_of_lt lower), lowRoot]
        · rename_i other
          refine find_of_root ?_
          rw [getD_set inside, if_neg other, root]
      · have notHigh : number ≠ high := fun same => root (same ▸ highRoot)
        have climbs := falling number
        rw [find_step fallingToo, getD_set inside, if_neg notHigh, find_step falling]
        exact ih _ (by omega)

end Set

variable {other : Nat}

theorem falling_unite (falling : parents.Falling) (inside : first < parents.length)
    (insideToo : second < parents.length) : (parents.unite first second).Falling := by
  have below : parents.find first ≤ first := find_le falling
  have belowToo : parents.find second ≤ second := find_le falling
  rw [unite]
  split
  · exact falling
  · split
    · rename_i less
      exact falling_set falling (by omega) less
    · exact falling_set falling (by omega) (by omega)

@[simp] theorem length_unite : (parents.unite first second).length = parents.length := by
  rw [unite]
  split
  · rfl
  · split <;> exact List.length_set

/-- What joining makes of the roots. -/
theorem find_unite (falling : parents.Falling) (inside : first < parents.length)
    (insideToo : second < parents.length) :
    (parents.unite first second).find number =
      if parents.find number = max (parents.find first) (parents.find second) then
        min (parents.find first) (parents.find second)
      else
        parents.find number := by
  have below : parents.find first ≤ first := find_le falling
  have belowToo : parents.find second ≤ second := find_le falling
  have root : parents.getD (parents.find first) (parents.find first) = _ := find_root falling
  have rootToo : parents.getD (parents.find second) (parents.find second) = _ :=
    find_root falling
  rw [unite]
  split
  · rename_i same
    rw [same, Nat.max_self, Nat.min_self]
    split <;> simp_all
  · split
    · rename_i less
      rw [find_set falling (by omega) less root rootToo, Nat.max_eq_right (Nat.le_of_lt less),
        Nat.min_eq_left (Nat.le_of_lt less)]
    · have less : parents.find second < parents.find first := by omega
      rw [find_set falling (by omega) less rootToo root, Nat.max_eq_left (Nat.le_of_lt less),
        Nat.min_eq_right (Nat.le_of_lt less)]

/-- Two numbers are of one class afterwards if they were before or are of the two classes. -/
theorem find_unite_eq_iff (falling : parents.Falling) (inside : first < parents.length)
    (insideToo : second < parents.length) :
    (parents.unite first second).find number = (parents.unite first second).find other ↔
      parents.find number = parents.find other ∨
        (parents.find number = parents.find first ∨ parents.find number = parents.find second) ∧
          (parents.find other = parents.find first ∨
            parents.find other = parents.find second) := by
  rw [find_unite falling inside insideToo, find_unite falling inside insideToo]
  grind

/-! ## The number of classes -/

/-- The numbers that are their own root. -/
def classes (parents : Parents) : Nat :=
  (List.range parents.length).countP fun number => parents.getD number number == number

/-- Joining different classes leaves fewer. -/
theorem classes_unite_lt (falling : parents.Falling) (inside : first < parents.length)
    (insideToo : second < parents.length) (apart : parents.find first ≠ parents.find second) :
    (parents.unite first second).classes < parents.classes := by
  have below : parents.find first ≤ first := find_le falling
  have belowToo : parents.find second ≤ second := find_le falling
  have root : parents.getD (parents.find first) (parents.find first) = _ := find_root falling
  have rootToo : parents.getD (parents.find second) (parents.find second) = _ :=
    find_root falling
  have lost : ∀ {low high : Nat}, high < parents.length → low < high →
      parents.getD high high = high →
      classes (parents.set high low) < parents.classes := by
    intro low high inside lower root
    rw [classes, classes, List.countP_eq_length_filter, List.countP_eq_length_filter,
      List.length_set]
    have fewer : ((List.range parents.length).filter fun number =>
        List.getD (parents.set high low) number number == number).Sublist
        ((List.range parents.length).filter fun number =>
          parents.getD number number == number) := by
      refine List.monotone_filter_right _ fun number kept => ?_
      rw [beq_iff_eq, getD_set inside] at kept
      rw [beq_iff_eq]
      split at kept <;> omega
    refine Nat.lt_of_le_of_ne fewer.length_le fun same => ?_
    have equal := fewer.eq_of_length same
    have held : high ∈ (List.range parents.length).filter fun number =>
        parents.getD number number == number := by
      exact List.mem_filter.mpr ⟨List.mem_range.mpr inside, beq_iff_eq.mpr root⟩
    rw [← equal] at held
    have kept := (List.mem_filter.mp held).2
    rw [beq_iff_eq, getD_set inside, if_pos rfl] at kept
    omega
  rw [unite, if_neg apart]
  split
  · rename_i less
    exact lost (by omega) less rootToo
  · exact lost (by omega) (by omega) root

/-! ## Joining groups -/

/-- Join the members of a group, one to the next. -/
def uniteAll : Parents → List Nat → Parents
  | parents, first :: second :: later => uniteAll (parents.unite second first) (second :: later)
  | parents, _ => parents

variable {group : List Nat} {groups : List (List Nat)}

theorem uniteAll_spec (falling : parents.Falling)
    (inside : ∀ member ∈ group, member < parents.length) :
    (parents.uniteAll group).Falling ∧ (parents.uniteAll group).length = parents.length ∧
      ∀ number other, (parents.uniteAll group).find number = (parents.uniteAll group).find other ↔
        parents.find number = parents.find other ∨
          (∃ member ∈ group, parents.find number = parents.find member) ∧
            ∃ member ∈ group, parents.find other = parents.find member := by
  induction group generalizing parents with
  | nil => simpa [uniteAll] using falling
  | cons first group ih =>
      cases group with
      | nil =>
          refine ⟨falling, rfl, fun number other => ?_⟩
          simp only [uniteAll, List.mem_singleton, exists_eq_left]
          exact ⟨.inl, fun either => either.elim id fun both => both.1.trans both.2.symm⟩
      | cons second later =>
          obtain ⟨insideFirst, insideRest⟩ := List.forall_mem_cons.mp inside
          have insideSecond := insideRest second List.mem_cons_self
          have next := falling_unite falling insideSecond insideFirst
          obtain ⟨fallingAll, length, joined⟩ := ih next (by simpa using insideRest)
          refine ⟨fallingAll, length.trans length_unite, fun number other => ?_⟩
          rw [uniteAll, joined]
          simp only [find_unite_eq_iff falling insideSecond insideFirst]
          simp only [List.mem_cons]
          grind

theorem classes_unite_le (falling : parents.Falling) (inside : first < parents.length)
    (insideToo : second < parents.length) :
    (parents.unite first second).classes ≤ parents.classes := by
  by_cases same : parents.find first = parents.find second
  · exact Nat.le_of_eq (by rw [unite, if_pos same])
  · exact Nat.le_of_lt (classes_unite_lt falling inside insideToo same)

theorem classes_uniteAll_le (falling : parents.Falling)
    (inside : ∀ member ∈ group, member < parents.length) :
    (parents.uniteAll group).classes ≤ parents.classes := by
  induction group generalizing parents with
  | nil => exact Nat.le_refl _
  | cons first group ih =>
      cases group with
      | nil => exact Nat.le_refl _
      | cons second later =>
          obtain ⟨insideFirst, insideRest⟩ := List.forall_mem_cons.mp inside
          have insideSecond := insideRest second List.mem_cons_self
          rw [uniteAll]
          exact Nat.le_trans
            (ih (falling_unite falling insideSecond insideFirst) (by simpa using insideRest))
            (classes_unite_le falling insideSecond insideFirst)

/-- The roots before decide the roots after. -/
theorem find_uniteAll_eq {others : Parents} (falling : parents.Falling)
    (fallingToo : others.Falling) (sizes : parents.length = others.length)
    (same : ∀ number, parents.find number = others.find number)
    (inside : ∀ member ∈ group, member < parents.length) (number : Nat) :
    (parents.uniteAll group).find number = (others.uniteAll group).find number := by
  induction group generalizing parents others with
  | nil => exact same number
  | cons first group ih =>
      cases group with
      | nil => exact same number
      | cons second later =>
          obtain ⟨insideFirst, insideRest⟩ := List.forall_mem_cons.mp inside
          have insideSecond := insideRest second List.mem_cons_self
          rw [uniteAll, uniteAll]
          refine ih (falling_unite falling insideSecond insideFirst)
            (falling_unite fallingToo (sizes ▸ insideSecond) (sizes ▸ insideFirst))
            (by rw [length_unite, length_unite, sizes]) (fun number => ?_) (by simpa using insideRest)
          rw [find_unite falling insideSecond insideFirst,
            find_unite fallingToo (sizes ▸ insideSecond) (sizes ▸ insideFirst)]
          simp only [same]

theorem find_of_outside (outside : parents.length ≤ number) : parents.find number = number := by
  refine find_of_root ?_
  rw [List.getD_eq_getElem?_getD, List.getElem?_eq_none outside, Option.getD_none]

/-- A group of several classes leaves fewer of them. -/
theorem classes_uniteAll_lt (falling : parents.Falling)
    (inside : ∀ member ∈ group, member < parents.length) (several : 2 ≤ group.length)
    (apart : group.Pairwise fun member other => parents.find member ≠ parents.find other) :
    (parents.uniteAll group).classes < parents.classes := by
  match group, several with
  | first :: second :: later, _ =>
      obtain ⟨insideFirst, insideRest⟩ := List.forall_mem_cons.mp inside
      have insideSecond := insideRest second List.mem_cons_self
      have different := (List.pairwise_cons.mp apart).1 second List.mem_cons_self
      rw [uniteAll]
      exact Nat.lt_of_le_of_lt
        (classes_uniteAll_le (falling_unite falling insideSecond insideFirst)
          (by simpa using insideRest))
        (classes_unite_lt falling insideSecond insideFirst different.symm)

/-- Two numbers are joined by groups when a chain of members leads from one to the other. -/
def Joined (groups : List (List Nat)) : Nat → Nat → Prop :=
  Relation.EqvGen fun number other => ∃ group ∈ groups, number ∈ group ∧ other ∈ group

theorem Joined.symm {groups : List (List Nat)} {number other : Nat}
    (joined : Joined groups number other) : Joined groups other number :=
  Relation.EqvGen.symm _ _ joined

theorem Joined.trans {groups : List (List Nat)} {number middle other : Nat}
    (joined : Joined groups number middle) (further : Joined groups middle other) :
    Joined groups number other :=
  Relation.EqvGen.trans _ _ _ joined further

theorem joined_nil : Joined [] number other ↔ number = other := by
  constructor
  · intro joined
    induction joined with
    | rel _ _ shared =>
        obtain ⟨_, none, _⟩ := shared
        cases none
    | refl => rfl
    | symm _ _ _ ih => exact ih.symm
    | trans _ _ _ _ _ ih further => exact ih.trans further
  · rintro rfl
    exact .refl _

theorem Joined.mono {more : List (List Nat)} (joined : Joined groups number other)
    (among : ∀ group ∈ groups, group ∈ more) : Joined more number other := by
  induction joined with
  | rel _ _ shared =>
      obtain ⟨held, member, both⟩ := shared
      exact .rel _ _ ⟨held, among held member, both⟩
  | refl => exact .refl _
  | symm _ _ _ ih => exact ih.symm
  | trans _ _ _ _ _ ih further => exact ih.trans further

theorem Joined.concat (joined : Joined groups number other) :
    Joined (groups ++ [group]) number other :=
  joined.mono fun _ member => List.mem_append_left _ member

/-- One more group joins whatever its members were joined with. -/
theorem joined_concat : Joined (groups ++ [group]) number other ↔
    Joined groups number other ∨ (∃ member ∈ group, Joined groups number member) ∧
      ∃ member ∈ group, Joined groups other member := by
  constructor
  · intro joined
    induction joined with
    | rel number other shared =>
        obtain ⟨held, among, member, memberToo⟩ := shared
        rcases List.mem_append.mp among with old | new
        · exact .inl (.rel _ _ ⟨held, old, member, memberToo⟩)
        · obtain rfl := List.mem_singleton.mp new
          exact .inr ⟨⟨number, member, .refl _⟩, ⟨other, memberToo, .refl _⟩⟩
    | refl number => exact .inl (.refl _)
    | symm _ _ _ ih => exact ih.imp Joined.symm And.symm
    | trans first second third _ _ ih further =>
        rcases ih with ih | ⟨⟨member, among, toMember⟩, ⟨middle, amongToo, toMiddle⟩⟩ <;>
          rcases further with further | ⟨⟨middle', among', toMiddle'⟩, ⟨last, amongLast, toLast⟩⟩
        · exact .inl (ih.trans further)
        · exact .inr ⟨⟨middle', among', ih.trans toMiddle'⟩, ⟨last, amongLast, toLast⟩⟩
        · exact .inr ⟨⟨member, among, toMember⟩, ⟨middle, amongToo, further.symm.trans toMiddle⟩⟩
        · exact .inr ⟨⟨member, among, toMember⟩, ⟨last, amongLast, toLast⟩⟩
  · intro either
    rcases either with joined | ⟨⟨member, among, toMember⟩, ⟨last, amongLast, toLast⟩⟩
    · exact joined.concat
    · have shared : Joined (groups ++ [group]) member last :=
        .rel _ _ ⟨group, by simp, among, amongLast⟩
      exact (toMember.concat.trans shared).trans toLast.concat.symm

/-- The roots tell which numbers the groups join. -/
def Represents (parents : Parents) (groups : List (List Nat)) : Prop :=
  ∀ number other, parents.find number = parents.find other ↔ Joined groups number other

theorem Represents.uniteAll (represents : parents.Represents groups) (falling : parents.Falling)
    (inside : ∀ member ∈ group, member < parents.length) :
    (parents.uniteAll group).Represents (groups ++ [group]) := by
  intro number other
  rw [(uniteAll_spec falling inside).2.2, joined_concat]
  simp only [represents number, represents other]

/-! ## Groups without loops -/

/-- No group closes a loop: no two of its members are joined by the other groups. -/
def LoopFree (groups : List (List Nat)) : Prop :=
  ∀ before group after, groups = before ++ group :: after →
    group.Pairwise fun member other => ¬Joined (before ++ after) member other

theorem loopFree_nil : LoopFree [] := by
  intro before group after whole
  cases before <;> cases whole

/-- A last group closes no loop if its members are apart without it. Then the groups before
close none with it either: a way from one member of such a group to another by way of the
last would join two members of the last. -/
theorem loopFree_concat : LoopFree (groups ++ [group]) ↔
    LoopFree groups ∧ group.Pairwise fun member other => ¬Joined groups member other := by
  constructor
  · intro free
    refine ⟨fun before held after whole => ?_, ?_⟩
    · have apart := free before held (after ++ [group]) (by rw [whole]; simp)
      refine apart.imp fun apart joined => apart (joined.mono fun other member => ?_)
      grind
    · simpa using free groups group []
  · intro both
    obtain ⟨free, apart⟩ := both
    intro before held after whole
    rcases List.eq_nil_or_concat after with rfl | ⟨middle, last, rfl⟩
    · obtain ⟨rfl, same⟩ := List.append_inj' whole rfl
      obtain rfl := List.singleton_inj.mp same
      simpa using apart
    · rw [List.concat_eq_append, ← List.cons_append, ← List.append_assoc] at whole
      obtain ⟨rfl, same⟩ := List.append_inj' whole rfl
      obtain rfl := List.singleton_inj.mp same
      have heldApart := free before held middle rfl
      rw [List.concat_eq_append, ← List.append_assoc]
      refine heldApart.imp_of_mem fun {member other} inHeld inHeldToo notJoined joined => ?_
      rcases joined_concat.mp joined with joined | ⟨⟨near, among, toNear⟩, ⟨far, amongToo, toFar⟩⟩
      · exact notJoined joined
      · have others : ∀ other ∈ before ++ middle, other ∈ before ++ held :: middle := by grind
        by_cases same : near = far
        · subst same
          exact notJoined (toNear.trans toFar.symm)
        · have across : Joined (before ++ held :: middle) member other :=
            .rel _ _ ⟨held, by simp, inHeld, inHeldToo⟩
          have joinedEnds : Joined (before ++ held :: middle) near far :=
            ((toNear.mono others).symm.trans across).trans (toFar.mono others)
          have symmetric : Std.Symm fun member other =>
              ¬Joined (before ++ held :: middle) member other :=
            ⟨fun _ _ apart joined => apart joined.symm⟩
          exact apart.forall among amongToo same joinedEnds

theorem getD_separate (size number : Nat) : (separate size).getD number number = number := by
  rw [separate, List.getD_eq_getElem?_getD]
  by_cases inside : number < size
  · simp [inside]
  · rw [List.getElem?_eq_none (by simpa using inside), Option.getD_none]

theorem falling_separate (size : Nat) : (separate size).Falling :=
  fun number => Nat.le_of_eq (getD_separate size number)

theorem represents_separate (size : Nat) : (separate size).Represents [] := by
  intro number other
  rw [find_of_root (getD_separate size number), find_of_root (getD_separate size other), joined_nil]

end Parents

end GbMahjong.Library
