import Mathlib.Data.List.Induction
import Mathlib.Tactic.Ring

/-! Digits packed into a word by shifting. As long as the digits fit, the word tells them
apart; past its width the earliest ones are lost. -/

set_option autoImplicit false

namespace GbMahjong.Library.Packing

/-- Shifting a word and setting free low bits multiplies and adds, modulo the width. -/
theorem toNat_shiftLeft_or {width shift : Nat} (word digit : BitVec width) (fits : shift ≤ width)
    (small : digit.toNat < 2 ^ shift) :
    (word <<< shift ||| digit).toNat = (word.toNat * 2 ^ shift + digit.toNat) % 2 ^ width := by
  have split : 2 ^ width = 2 ^ (width - shift) * 2 ^ shift := by
    rw [← Nat.pow_add, Nat.sub_add_cancel fits]
  have kept : word.toNat * 2 ^ shift % 2 ^ width =
      (word.toNat % 2 ^ (width - shift)) <<< shift := by
    rw [split, Nat.mul_mod_mul_right, Nat.shiftLeft_eq]
  have whole := (word <<< shift ||| digit).isLt
  rw [BitVec.toNat_or, BitVec.toNat_shiftLeft, Nat.shiftLeft_eq, kept,
    ← Nat.shiftLeft_add_eq_or_of_lt small, ← kept] at whole ⊢
  rw [← Nat.mod_eq_of_lt whole, Nat.mod_add_mod]

/-- The number that digits spell, the last one lowest. -/
def packed (base : Nat) (digits : List Nat) : Nat :=
  digits.foldl (fun number digit => number * base + digit) 0

variable {base : Nat}

theorem packed_concat (digits : List Nat) (digit : Nat) :
    packed base (digits ++ [digit]) = packed base digits * base + digit := by
  rw [packed, List.foldl_append]
  rfl

theorem packed_append (digits others : List Nat) :
    packed base (digits ++ others) =
      packed base digits * base ^ others.length + packed base others := by
  induction others using List.reverseRecOn with
  | nil => simp [packed]
  | append_singleton others digit ih =>
      rw [← List.append_assoc, packed_concat, ih, packed_concat, List.length_append,
        List.length_singleton]
      ring

theorem packed_lt {digits : List Nat} (small : ∀ digit ∈ digits, digit < base) :
    packed base digits < base ^ digits.length := by
  induction digits using List.reverseRecOn with
  | nil => simp [packed]
  | append_singleton digits digit ih =>
      have before := ih fun later member => small later (List.mem_append_left _ member)
      have last := small digit (by simp)
      rw [packed_concat, List.length_append, List.length_singleton, Nat.pow_succ]
      calc packed base digits * base + digit
          < packed base digits * base + base := Nat.add_lt_add_left last _
        _ = (packed base digits + 1) * base := by ring
        _ ≤ base ^ digits.length * base := Nat.mul_le_mul_right _ before

/-- Digits that are not zero are told apart, and so is how many there are. -/
theorem packed_injective {digits others : List Nat}
    (proper : ∀ digit ∈ digits, 0 < digit ∧ digit < base)
    (properToo : ∀ digit ∈ others, 0 < digit ∧ digit < base)
    (same : packed base digits = packed base others) : digits = others := by
  induction digits using List.reverseRecOn generalizing others with
  | nil =>
      cases others using List.reverseRecOn with
      | nil => rfl
      | append_singleton others digit =>
          have positive := (properToo digit (by simp)).1
          rw [packed_concat] at same
          change 0 = _ at same
          omega
  | append_singleton digits digit ih =>
      have last := proper digit (by simp)
      cases others using List.reverseRecOn with
      | nil =>
          rw [packed_concat] at same
          change _ = 0 at same
          omega
      | append_singleton others other =>
          have lastToo := properToo other (by simp)
          rw [packed_concat, packed_concat] at same
          have sameDigit : digit = other := by
            have low := congrArg (· % base) same
            simpa [Nat.mul_add_mod_self_right, Nat.mod_eq_of_lt last.2,
              Nat.mod_eq_of_lt lastToo.2] using low
          subst sameDigit
          have sameRest := Nat.eq_of_mul_eq_mul_right (by omega) (Nat.add_right_cancel same)
          rw [ih (fun later member => proper later (List.mem_append_left _ member))
            (fun later member => properToo later (List.mem_append_left _ member)) sameRest]

end GbMahjong.Library.Packing
