import Mathlib.Algebra.BigOperators.Group.List.Basic
import Mathlib.Algebra.Order.Ring.Int
import Mathlib.Tactic.Ring

/-! Settlements in which every item of a list wins one amount, loses another or
is left alone. Winning takes precedence over losing. -/

set_option autoImplicit false

namespace GbMahjong.Library

variable {Item : Type} (wins loses : Item → Bool) (gain loss : Int)

def payoff (item : Item) : Int :=
  if wins item then gain else if loses item then -loss else 0

def losers (items : List Item) : List Item :=
  items.filter fun item => !wins item && loses item

theorem sum_payoff (items : List Item) :
    (items.map (payoff wins loses gain loss)).sum =
      gain * (items.filter wins).length - loss * (losers wins loses items).length := by
  induction items with
  | nil => simp [losers]
  | cons item rest ih =>
      rw [List.map_cons, List.sum_cons, ih]
      unfold losers payoff
      cases won : wins item <;> cases lost : loses item <;> simp [won, lost] <;> ring

variable {wins loses gain loss}

theorem filter_payoff_pos (gains : 0 < gain) (losses : 0 ≤ loss) (items : List Item) :
    items.filter (fun item => 0 < payoff wins loses gain loss item) = items.filter wins := by
  apply List.filter_congr
  intro item _
  unfold payoff
  cases won : wins item <;> cases lost : loses item <;> simp [gains, losses]

theorem filter_payoff_neg (gains : 0 ≤ gain) (losses : 0 < loss) (items : List Item) :
    items.filter (fun item => payoff wins loses gain loss item < 0) =
      losers wins loses items := by
  apply List.filter_congr
  intro item _
  unfold payoff
  cases won : wins item <;> cases lost : loses item <;> simp [gains, losses]

theorem payoff_nonpos (gains : gain ≤ 0) (losses : 0 ≤ loss) (item : Item) :
    payoff wins loses gain loss item ≤ 0 := by
  unfold payoff
  split
  · exact gains
  · split <;> omega

theorem payoff_zero (item : Item) : payoff wins loses 0 0 item = 0 := by
  simp [payoff]

theorem length_losers_of_all (everybody : ∀ item, loses item = true) (items : List Item) :
    (items.filter wins).length + (losers wins loses items).length = items.length := by
  have rest : losers wins loses items = items.filter fun item => !wins item := by
    simp [losers, everybody]
  rw [rest]
  exact (List.length_eq_length_filter_add wins).symm

end GbMahjong.Library
