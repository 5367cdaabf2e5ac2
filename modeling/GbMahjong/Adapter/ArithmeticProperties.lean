import GbMahjong.Adapter.SettlementProperties
import GbMahjong.Adapter.SnapshotProperties

/-! The settlement computes in `int64_t`. A 32-bit stake times an `int` of fans always
fits; what may not fit is what a drawn win collects and the balances it is added to. -/

set_option autoImplicit false

namespace GbMahjong.Adapter

open GbMahjong.Library GbMahjong.Library.Checked GbMahjong.Mahjong GbMahjong.Engine
open GbMahjong.Library.ProtoEnum (asI32)

/-! ## Accepted requests -/

/-- The numbers of the request are of their wire types. -/
structure WireTyped (request : CalculateScoreRequest) : Prop where
  basePoints : ∀ ruleConfig, request.ruleConfig = some ruleConfig →
    ruleConfig.basePoints < 2 ^ 32
  currentScore : ∀ hand ∈ request.hands, Int64Range hand.currentScore

/-- Every check of the settlement passes, and the winner's hand makes so many fans. -/
structure Accepted (library : FanLibrary) (request : CalculateScoreRequest)
    (ruleConfig : RuleConfig) (totalFan : Nat) : Prop where
  placed : request.roundContext.isSome = true
  ruled : request.ruleConfig = some ruleConfig
  seated : request.winnerSeat ≠ asI32 Seat.unspecified
  won : ∃ hand handtiles, findWinnerHand request = .ok hand ∧
    buildWinningHandtilesForScoring request hand = .ok handtiles ∧
    library.judgeHu handtiles = true ∧ totalFan = (library.countFan handtiles).totFanRes

/-- A stake times the fans of a hand. -/
def stakeOf (ruleConfig : RuleConfig) (totalFan : Nat) : Int :=
  max 1 (ruleConfig.basePoints : Int) * totalFan

/-- Every value of the answer is the one the integers give. -/
def ExactScores (request : CalculateScoreRequest) (ruleConfig : RuleConfig)
    (outcome : ScoreOutcome) : Prop :=
  outcome.scoreDeltaBySeat =
    request.hands.map (exactEntry request (stakeOf ruleConfig outcome.totalFan))

/-- A drawn win collects less than 2^63 points, no winner's balance passes 2^63 by the
gain, and no payer's falls below -2^63. -/
structure BalancesBear (request : CalculateScoreRequest) (unitDelta : Int) : Prop where
  collected : isDrawnWin request.winType = true →
    (∃ hand ∈ request.hands, hand.seat = request.winnerSeat) →
    unitDelta * ((request.hands.length : Int) - 1) < 2 ^ 63
  winners : ∀ hand ∈ request.hands, hand.seat = request.winnerSeat →
    hand.currentScore < 2 ^ 63 - winnerGain request unitDelta
  payers : ∀ hand ∈ request.hands, hand.seat ≠ request.winnerSeat → owes request hand = true →
    -2 ^ 63 + unitDelta ≤ hand.currentScore

/-- The win whose hand a settlement builds. -/
def SettlesWin (score : CalculateScoreRequest) (win : WinDescription) : Prop :=
  score.roundContext.isSome ∧ score.ruleConfig.isSome ∧
    score.winnerSeat ≠ asI32 Seat.unspecified ∧
    ∃ hand, findWinnerHand score = .ok hand ∧ win = scoredWin score hand

section Arithmetic

variable {library : FanLibrary} {request : CalculateScoreRequest} {ruleConfig : RuleConfig}
  {totalFan : Nat}

/-- The stake fits without any check. -/
theorem stakeOf_inRange (typed : WireTyped request)
    (accepted : Accepted library request ruleConfig totalFan) :
    0 ≤ stakeOf ruleConfig totalFan ∧ stakeOf ruleConfig totalFan < 2 ^ 63 := by
  have base := typed.basePoints ruleConfig accepted.ruled
  obtain ⟨_, handtiles, _, _, _, rfl⟩ := accepted.won
  have fans := (library.countFan handtiles).isInt
  have product : max 1 ruleConfig.basePoints * (library.countFan handtiles).totFanRes ≤
      (2 ^ 32 - 1) * (2 ^ 31 - 1) := Nat.mul_le_mul (by omega) (by omega)
  unfold stakeOf
  constructor
  · positivity
  · exact_mod_cast Nat.lt_of_le_of_lt product (by decide)

theorem entryFits_iff {unitDelta : Int} {hand : HandSnapshot} (natural : 0 ≤ unitDelta)
    (unit : unitDelta < 2 ^ 63) (balance : Int64Range hand.currentScore)
    (member : hand ∈ request.hands) :
    EntryFits request unitDelta hand ↔
      (hand.seat = request.winnerSeat → winnerGain request unitDelta < 2 ^ 63 ∧
        hand.currentScore < 2 ^ 63 - winnerGain request unitDelta) ∧
      (hand.seat ≠ request.winnerSeat → owes request hand = true →
        -2 ^ 63 + unitDelta ≤ hand.currentScore) := by
  have present : 0 < request.hands.length := List.length_pos_of_mem member
  have gain : 0 ≤ winnerGain request unitDelta := by
    unfold winnerGain
    split
    · exact Int.mul_nonneg natural (by omega)
    · exact natural
  unfold EntryFits exactDelta payoff sitsAtWinnerSeat
  unfold Int64Range at balance ⊢
  by_cases atWinner : hand.seat = request.winnerSeat
  · rw [if_pos (beq_iff_eq.mpr atWinner)]
    simp only [atWinner, ne_eq, not_true_eq_false, forall_const, IsEmpty.forall_iff, and_true]
    omega
  · rw [if_neg (by simpa using atWinner)]
    cases owing : owes request hand with
    | true =>
        simp only [atWinner, if_true, ne_eq, not_false_eq_true, forall_const,
          IsEmpty.forall_iff, true_and]
        omega
    | false =>
        simp only [atWinner, Bool.false_eq_true, if_false, IsEmpty.forall_iff, and_true,
          implies_true, iff_true]
        omega

theorem entriesFit_iff {unitDelta : Int} (typed : WireTyped request) (natural : 0 ≤ unitDelta)
    (unit : unitDelta < 2 ^ 63) :
    (∀ hand ∈ request.hands, EntryFits request unitDelta hand) ↔
      BalancesBear request unitDelta := by
  have perHand := fun hand member =>
    @entryFits_iff request unitDelta hand natural unit (typed.currentScore hand member) member
  constructor
  · intro fits
    refine ⟨fun drawn winner => ?_, fun hand member atWinner => ?_,
      fun hand member other => ?_⟩
    · obtain ⟨hand, member, atWinner⟩ := winner
      have collected := (((perHand hand member).mp (fits hand member)).1 atWinner).1
      rwa [winnerGain, if_pos drawn] at collected
    · exact (((perHand hand member).mp (fits hand member)).1 atWinner).2
    · exact ((perHand hand member).mp (fits hand member)).2 other
  · intro bear hand member
    refine (perHand hand member).mpr ⟨fun atWinner => ⟨?_, bear.winners hand member atWinner⟩,
      bear.payers hand member⟩
    unfold winnerGain
    split
    · rename_i drawn
      exact bear.collected drawn ⟨hand, member, atWinner⟩
    · exact unit

/-- An accepted settlement is exact precisely when the balances bear it. -/
theorem exactScores_iff_balancesBear (typed : WireTyped request)
    (accepted : Accepted library request ruleConfig totalFan) :
    (∃ outcome, calculateScore library request = .ok outcome ∧ outcome.totalFan = totalFan ∧
        ExactScores request ruleConfig outcome) ↔
      BalancesBear request (stakeOf ruleConfig totalFan) := by
  obtain ⟨natural, bounded⟩ := stakeOf_inRange typed accepted
  have unit : Int64Range (stakeOf ruleConfig totalFan) := ⟨by omega, bounded⟩
  rw [← entriesFit_iff typed natural bounded]
  obtain ⟨placed, ruled, seated, hand, handtiles, found, built, judged, rfl⟩ := accepted
  constructor
  · intro exact
    obtain ⟨outcome, computed, _, _⟩ := exact
    obtain ⟨_, _, _, _, deltas, _, ruledToo, _, foundToo, builtToo, _, unitToo, scored, _⟩ :=
      calculateScore_eq_ok_iff.mp computed
    rw [ruled] at ruledToo
    rw [found] at foundToo
    cases ruledToo
    cases foundToo
    rw [built] at builtToo
    cases builtToo
    obtain ⟨_, rfl⟩ := int64_eq_ok_iff.mp unitToo
    exact ((mapM_scoreDelta_eq_ok_iff unit).mp scored).1
  · intro fits
    exact ⟨_, calculateScore_eq_ok_iff.mpr ⟨ruleConfig, hand, handtiles, _, _, placed, ruled,
      seated, found, built, judged, int64_eq_ok_iff.mpr ⟨unit, rfl⟩,
      (mapM_scoreDelta_eq_ok_iff unit).mpr ⟨fits, rfl⟩, rfl⟩, rfl, rfl⟩

end Arithmetic

/-! ## A full balance -/

def orphansRules : RuleConfig :=
  ⟨"gb", 4, true, true, true, true, 1⟩

/-- The orphans are accepted with their 88 fans as soon as the hand is judged a win. -/
theorem accepted_of_judged {request : CalculateScoreRequest}
    (placed : request.roundContext.isSome = true)
    (ruled : request.ruleConfig = some orphansRules)
    (seated : request.winnerSeat ≠ asI32 Seat.unspecified)
    (judged : (findWinnerHand request >>= buildWinningHandtilesForScoring request).map
      thirteenOrphansLibrary.judgeHu = .ok true) :
    Accepted thirteenOrphansLibrary request orphansRules 88 := by
  obtain ⟨handtiles, rebuilt, judged⟩ := map_eq_ok_iff.mp judged
  obtain ⟨hand, found, built⟩ := bind_eq_ok_iff.mp rebuilt
  exact ⟨placed, ruled, seated, hand, handtiles, found, built, judged, rfl⟩

theorem exactScores_iff_balancesBear_thirteenOrphans :
    ∃ outcome, calculateScore thirteenOrphansLibrary (thirteenOrphansWin .south) =
        .ok outcome ∧
      outcome.totalFan = 88 ∧ ExactScores (thirteenOrphansWin .south) orphansRules outcome := by
  have typed : WireTyped (thirteenOrphansWin .south) := by
    refine ⟨fun ruleConfig ruled => ?_, by decide⟩
    cases ruled
    decide
  have accepted := @accepted_of_judged (thirteenOrphansWin .south) rfl rfl (by decide)
    (by decide +kernel)
  refine (exactScores_iff_balancesBear typed accepted).mpr ⟨nofun, ?_, ?_⟩
  · decide
  · decide

/-- East wins the same hand on top of the highest balance there is. -/
def richestWin : CalculateScoreRequest :=
  { thirteenOrphansWin .south with
    hands := [
      { emptyHand .east with
        concealedTiles := [2, 10, 11, 19, 20, 28, 29, 30, 31, 32, 33, 34, 35]
        currentScore := 2 ^ 63 - 1
        winner := true },
      emptyHand .south, emptyHand .west, emptyHand .north] }

/-- The gain overflows the balance, which no check has refused. -/
theorem richestWin_overflows :
    WireTyped richestWin ∧ Accepted thirteenOrphansLibrary richestWin orphansRules 88 ∧
      calculateScore thirteenOrphansLibrary richestWin = .error .undefinedBehavior := by
  refine ⟨⟨fun ruleConfig ruled => ?_, by decide⟩, ?_, by decide +kernel⟩
  · cases ruled
    decide
  · exact accepted_of_judged rfl rfl (by decide) (by decide +kernel)

end GbMahjong.Adapter
