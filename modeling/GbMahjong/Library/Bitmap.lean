import Mathlib.Data.Finset.Card
import Mathlib.Data.List.Dedup
import Mathlib.Data.Nat.Bitwise

/-! Sets of small numbers as the bits of a word: membership, the test for a subset, and
the count of the bits by clearing the lowest one until none is left. -/

set_option autoImplicit false

namespace GbMahjong.Library.Bitmap

variable {width : Nat}

/-- The word with the bits of the list set. -/
def ofList (width : Nat) (members : List Nat) : BitVec width :=
  members.foldl (fun word member => word ||| (1 : BitVec width) <<< member) 0

/-- `(word & mask) == word`. -/
def within (word mask : BitVec width) : Bool :=
  word &&& mask == word

theorem getLsbD_foldl {members : List Nat} {word : BitVec width} {bit : Nat} :
    (members.foldl (fun word member => word ||| (1 : BitVec width) <<< member) word).getLsbD bit =
      (word.getLsbD bit || (decide (bit < width) && decide (bit ∈ members))) := by
  induction members generalizing word with
  | nil => simp
  | cons member rest ih =>
      rw [List.foldl_cons, ih]
      by_cases same : bit = member
      · subst same
        by_cases fits : bit < width <;> simp [fits]
      · have shifted : ¬(¬bit < member ∧ bit - member = 0) := by omega
        by_cases fits : bit < width
        · simp only [BitVec.getLsbD_or, BitVec.getLsbD_shiftLeft, fits, List.mem_cons, same]
          grind
        · simp [fits]

theorem getLsbD_ofList {members : List Nat} {bit : Nat} :
    (ofList width members).getLsbD bit = (decide (bit < width) && decide (bit ∈ members)) := by
  rw [ofList, getLsbD_foldl, BitVec.ofNat_eq_ofNat, BitVec.getLsbD_zero, Bool.false_or]

theorem within_iff {word mask : BitVec width} :
    within word mask = true ↔ ∀ bit, word.getLsbD bit = true → mask.getLsbD bit = true := by
  rw [within, beq_iff_eq]
  constructor
  · intro same bit set
    rw [← same, BitVec.getLsbD_and, Bool.and_eq_true] at set
    exact set.2
  · intro subset
    ext bit fits
    have implied := subset bit
    rw [BitVec.getLsbD_eq_getElem fits, BitVec.getLsbD_eq_getElem fits] at implied
    rw [BitVec.getElem_and]
    cases set : word[bit] with
    | false => rfl
    | true => exact implied set

/-- `(mask | word) == mask`, the other way to ask the same. -/
theorem or_eq_mask_iff {word mask : BitVec width} :
    (mask ||| word == mask) = true ↔ within word mask = true := by
  rw [within_iff, beq_iff_eq]
  constructor
  · intro same bit set
    rw [← same, BitVec.getLsbD_or, set, Bool.or_true]
  · intro subset
    ext bit fits
    have implied := subset bit
    rw [BitVec.getLsbD_eq_getElem fits, BitVec.getLsbD_eq_getElem fits] at implied
    rw [BitVec.getElem_or]
    cases set : word[bit] with
    | false => exact Bool.or_false _
    | true => rw [implied set, Bool.or_true]

/-! ## Counting bits -/

/-- `for (c = 0; n; ++c) n &= n - 1`; a word has no more bits than its width. -/
def bitCountFrom : Nat → BitVec width → Nat
  | 0, _ => 0
  | fuel + 1, word => if word = 0 then 0 else bitCountFrom fuel (word &&& (word - 1)) + 1

def bitCount (word : BitVec width) : Nat :=
  bitCountFrom width word

/-- The number of bits set among the lowest ones. -/
def population (bits number : Nat) : Nat :=
  (List.range bits).countP fun bit => number.testBit bit

theorem population_succ (bits number : Nat) :
    population (bits + 1) number = number % 2 + population bits (number / 2) := by
  rw [population, List.range_succ_eq_map, List.countP_cons, List.countP_map, population]
  have rest : ((fun bit => number.testBit bit) ∘ Nat.succ) = fun bit => (number / 2).testBit bit := by
    funext bit
    exact Nat.testBit_succ number bit
  rw [rest, Nat.add_comm, Nat.testBit_zero]
  congr 1
  rcases Nat.mod_two_eq_zero_or_one number with even | odd
  · simp [even]
  · simp [odd]

theorem half_land_pred {number : Nat} :
    (number &&& (number - 1)) / 2 = if number % 2 = 1 then number / 2 else
      number / 2 &&& (number / 2 - 1) := by
  rw [Nat.and_div_two]
  split
  · rw [show (number - 1) / 2 = number / 2 by omega, Nat.and_self]
  · rw [show (number - 1) / 2 = number / 2 - 1 by omega]

/-- Clearing the lowest bit takes one off the count. -/
theorem population_land_pred {bits number : Nat} (positive : 0 < number)
    (fits : number < 2 ^ bits) :
    population bits (number &&& (number - 1)) + 1 = population bits number := by
  induction bits generalizing number with
  | zero => omega
  | succ bits ih =>
      rw [population_succ, population_succ, half_land_pred]
      have low : (number &&& (number - 1)) % 2 = 0 := by
        have bit := Nat.testBit_and number (number - 1) 0
        simp only [Nat.testBit_zero] at bit
        rcases Nat.mod_two_eq_zero_or_one (number &&& (number - 1)) with even | odd
        · exact even
        · rw [odd] at bit
          have both := (Bool.and_eq_true _ _).mp bit.symm
          simp only [decide_eq_true_eq] at both
          omega
      rw [low]
      split
      · rename_i odd
        omega
      · rename_i even
        have halved : number / 2 < 2 ^ bits := by
          rw [Nat.pow_succ] at fits
          omega
        rw [Nat.zero_add, ih (by omega) halved]
        omega

theorem bitCountFrom_eq {bits fuel : Nat} {word : BitVec width} (fits : word.toNat < 2 ^ bits)
    (enough : population bits word.toNat ≤ fuel) :
    bitCountFrom fuel word = population bits word.toNat := by
  induction fuel generalizing word with
  | zero => rw [bitCountFrom]; omega
  | succ fuel ih =>
      rw [bitCountFrom]
      split
      · rename_i none
        subst none
        simp [population]
      · rename_i some
        have positive : 0 < word.toNat := by
          rcases Nat.eq_zero_or_pos word.toNat with zero | positive
          · exact absurd (BitVec.eq_of_toNat_eq (by simpa using zero)) some
          · exact positive
        have wide : 0 < width := by
          rcases Nat.eq_zero_or_pos width with rfl | wide
          · have := word.isLt
            omega
          · exact wide
        have cleared : (word &&& (word - 1)).toNat = word.toNat &&& (word.toNat - 1) := by
          rw [BitVec.toNat_and, BitVec.toNat_sub_of_le]
          · congr 2
            exact Nat.mod_eq_of_lt (Nat.one_lt_two_pow (by omega))
          · rw [BitVec.le_def]
            calc (1 : BitVec width).toNat ≤ 1 := Nat.mod_le _ _
              _ ≤ word.toNat := positive
        have fewer := population_land_pred positive fits
        rw [← cleared] at fewer
        rw [ih _ (by omega), fewer]
        rw [cleared]
        exact Nat.lt_of_le_of_lt Nat.and_le_left fits

/-- The count of the bits is the number of different members. -/
theorem bitCount_ofList {members : List Nat} (small : ∀ member ∈ members, member < width) :
    bitCount (ofList width members) = members.dedup.length := by
  have bits : population width (ofList width members).toNat =
      (List.range width).countP (· ∈ members) := by
    rw [population]
    refine List.countP_congr fun bit member => ?_
    change (ofList width members).getLsbD bit = true ↔ _
    rw [getLsbD_ofList, Bool.and_eq_true]
    simp [List.mem_range.mp member]
  rw [bitCount, bitCountFrom_eq (BitVec.isLt _), bits, List.countP_eq_length_filter]
  · refine List.Perm.length_eq ((List.perm_ext_iff_of_nodup ?_ members.nodup_dedup).mpr ?_)
    · exact List.nodup_range.filter _
    · intro member
      simp only [List.mem_filter, List.mem_range, decide_eq_true_eq, List.mem_dedup]
      exact ⟨And.right, fun held => ⟨small member held, held⟩⟩
  · rw [bits]
    exact (List.countP_le_length).trans_eq List.length_range

end GbMahjong.Library.Bitmap
