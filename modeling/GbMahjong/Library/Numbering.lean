import Mathlib.Data.List.Basic

/-! Lists of numbered items, as a counter produces them: every use of the counter
stamps one item, or several copies of one, with a fresh number. -/

set_option autoImplicit false

namespace GbMahjong.Library

variable {Item : Type}

/-- The items carry numbers from `start` up to `stop`, in order, and only copies
of one another share a number. -/
structure Numbered (number : Item → Nat) (copies : Item → Item → Prop) (start stop : Nat)
    (items : List Item) : Prop where
  advances : start ≤ stop
  within : ∀ item ∈ items, start ≤ number item ∧ number item < stop
  ordered : items.Pairwise fun earlier later =>
    number earlier < number later ∨
      number earlier = number later ∧ copies earlier later

namespace Numbered

variable {number : Item → Nat} {copies : Item → Item → Prop} {start middle stop : Nat}

theorem nil (start : Nat) : Numbered number copies start start [] :=
  ⟨Nat.le_refl _, by simp, .nil⟩

/-- One use of the counter. -/
theorem round {items : List Item} (stamped : ∀ item ∈ items, number item = start)
    (alike : items.Pairwise copies) : Numbered number copies start (start + 1) items := by
  refine ⟨Nat.le_succ _, fun item member => ?_, ?_⟩
  · have same := stamped item member
    omega
  · refine alike.imp_of_mem fun earlier later copied => ?_
    exact .inr ⟨(stamped _ earlier).trans (stamped _ later).symm, copied⟩

theorem single {item : Item} (stamped : number item = start) :
    Numbered number copies start (start + 1) [item] :=
  round (by simpa using stamped) (List.pairwise_singleton _ _)

theorem append {first second : List Item} (before : Numbered number copies start middle first)
    (after : Numbered number copies middle stop second) :
    Numbered number copies start stop (first ++ second) := by
  refine ⟨Nat.le_trans before.advances after.advances, fun item member => ?_, ?_⟩
  · have left := before.advances
    have right := after.advances
    rcases List.mem_append.mp member with early | late
    · have range := before.within item early
      omega
    · have range := after.within item late
      omega
  · refine List.pairwise_append.mpr ⟨before.ordered, after.ordered, ?_⟩
    intro earlier early later late
    have low := before.within earlier early
    have high := after.within later late
    exact .inl (by omega)

theorem cons {item : Item} {items : List Item} (stamped : number item = start)
    (after : Numbered number copies (start + 1) stop items) :
    Numbered number copies start stop (item :: items) :=
  (single stamped).append after

theorem sublist {items chosen : List Item}
    (numbered : Numbered number copies start stop items) (sublist : chosen.Sublist items) :
    Numbered number copies start stop chosen :=
  ⟨numbered.advances, fun item member => numbered.within item (sublist.subset member),
    numbered.ordered.sublist sublist⟩

/-- The counter may run on without stamping anything. -/
theorem widen {items : List Item} {later : Nat}
    (numbered : Numbered number copies start stop items) (grown : stop ≤ later) :
    Numbered number copies start later items := by
  refine ⟨Nat.le_trans numbered.advances grown, fun item member => ?_, numbered.ordered⟩
  have range := numbered.within item member
  omega

theorem nondecreasing {items : List Item}
    (numbered : Numbered number copies start stop items) :
    (items.map number).Pairwise (· ≤ ·) := by
  rw [List.pairwise_map]
  refine numbered.ordered.imp ?_
  rintro earlier later (below | ⟨same, _⟩) <;> omega

/-- Items that are no copies of one another carry strictly increasing numbers. -/
theorem strictly_increasing {items chosen : List Item}
    (numbered : Numbered number copies start stop items) (sublist : chosen.Sublist items)
    (distinct : ∀ earlier ∈ chosen, ∀ later ∈ chosen, ¬ copies earlier later) :
    (chosen.map number).Pairwise (· < ·) := by
  rw [List.pairwise_map]
  refine (numbered.ordered.sublist sublist).imp_of_mem ?_
  rintro earlier later early late (below | ⟨_, copied⟩)
  · exact below
  · exact absurd copied (distinct earlier early later late)

end Numbered

end GbMahjong.Library
