import GbMahjong.Adapter.SettlementProperties

/-! Which hand is scored and which is paid. The winner's hand is looked up by its
flag or its seat and paid by its seat alone, so the order of the hands can decide
what is scored. -/

set_option autoImplicit false

namespace GbMahjong.Adapter

open GbMahjong.Library GbMahjong.Library.Checked GbMahjong.Mahjong GbMahjong.Engine
open GbMahjong.Library.ProtoEnum (asI32)

variable {library : FanLibrary} {request : CalculateScoreRequest} {outcome : ScoreOutcome}

/-! ## The order of the hands -/

/-- The hands of a request, in another order. -/
def withHands (request : CalculateScoreRequest) (hands : List HandSnapshot) :
    CalculateScoreRequest :=
  { request with hands }

/-- The hand that is scored is the only one paid as the winner's, and another order
of the hands orders the deltas and changes nothing else. -/
structure PaysScoredHand (library : FanLibrary) (request : CalculateScoreRequest)
    (outcome : ScoreOutcome) (hands : List HandSnapshot) : Prop where
  scored : ∃ hand, findWinnerHand (withHands request hands) = .ok hand ∧
    seatedAt (withHands request hands) request.winnerSeat = [hand]
  settled : ∃ reordered, calculateScore library (withHands request hands) = .ok reordered ∧
    reordered.totalFan = outcome.totalFan ∧ reordered.fanDetails = outcome.fanDetails ∧
    (hands.zip reordered.scoreDeltaBySeat).Perm (request.hands.zip outcome.scoreDeltaBySeat)

/-- One hand sits at the winner's seat, and no other is flagged as the winner's. -/
def OneWinner (request : CalculateScoreRequest) : Prop :=
  (seatedAt request request.winnerSeat).length = 1 ∧
    ∀ hand ∈ request.hands, hand.winner = true → hand.seat = request.winnerSeat

instance : Decidable (OneWinner request) :=
  inferInstanceAs (Decidable (_ ∧ _))

theorem OneWinner.only (one : OneWinner request) :
    ∃ hand, seatedAt request request.winnerSeat = [hand] ∧
      (request.hands.filter fun hand => hand.winner || hand.seat == request.winnerSeat) =
        [hand] := by
  obtain ⟨single, flagged⟩ := one
  obtain ⟨hand, only⟩ := List.length_eq_one_iff.mp single
  refine ⟨hand, only, only ▸ List.filter_congr fun other member => ?_⟩
  cases flag : other.winner with
  | false => rfl
  | true => simp [flagged other member flag]

/-- In every order the same hand is found. -/
theorem OneWinner.find_reordered (one : OneWinner request) {hands : List HandSnapshot}
    (same : hands.Perm request.hands) :
    ∃ hand, findWinnerHand request = .ok hand ∧
      findWinnerHand (withHands request hands) = .ok hand ∧
      seatedAt (withHands request hands) request.winnerSeat = [hand] := by
  obtain ⟨hand, seated, only⟩ := one.only
  have reordered : (hands.filter fun hand =>
      hand.winner || hand.seat == request.winnerSeat) = [hand] :=
    List.perm_singleton.mp (only ▸ same.filter _)
  refine ⟨hand, findWinnerHand_of_only only, ?_, ?_⟩
  · exact @findWinnerHand_of_only (withHands request hands) hand reordered
  · exact List.perm_singleton.mp (seated ▸ same.filter _)

theorem scoreDelta_reordered {hands : List HandSnapshot}
    (length : hands.length = request.hands.length) :
    scoreDelta (withHands request hands) = scoreDelta request := by
  funext unitDelta hand
  unfold scoreDelta handDelta
  simp only [withHands, length]
  rfl

/-! ## When the scored hand is the paid one -/

/-- The scored hand is the paid one in every order of the hands exactly when one hand
sits at the winner's seat and only it may be flagged. -/
theorem paysScoredHand_iff_oneWinner
    (accepted : calculateScore library request = .ok outcome) :
    (∀ hands, hands.Perm request.hands → PaysScoredHand library request outcome hands) ↔
      OneWinner request := by
  constructor
  · intro pays
    obtain ⟨hand, _, seated⟩ := (pays request.hands (.refl _)).scored
    refine ⟨List.length_eq_one_iff.mpr ⟨hand, seated⟩, fun hand member flag => ?_⟩
    -- A flagged hand is found when it stands first.
    obtain ⟨before, after, split⟩ := List.append_of_mem member
    have first : (hand :: (before ++ after)).Perm request.hands := by
      rw [split]
      exact List.perm_middle.symm
    obtain ⟨found, first, seated⟩ := (pays _ first).scored
    have same : found = hand := by
      unfold findWinnerHand withHands at first
      simp only [List.find?_cons, flag, Bool.true_or] at first
      exact (Except.ok.inj first).symm
    exact seat_of_seatedAt (same ▸ seated ▸ List.mem_singleton_self found)
  · intro one hands same
    obtain ⟨ruleConfig, winnerHand, handtiles, unitDelta, deltas, placed, configured, seated,
      found, built, judged, unit, scored, rfl⟩ := calculateScore_eq_ok_iff.mp accepted
    obtain ⟨hand, first, foundReordered, only⟩ := one.find_reordered same
    rw [found] at first
    cases first
    obtain ⟨reordered, traversed, follow⟩ := mapM_perm same scored
    rw [← scoreDelta_reordered same.length_eq] at traversed
    exact ⟨⟨winnerHand, foundReordered, only⟩, _, calculateScore_eq_ok_iff.mpr
      ⟨ruleConfig, winnerHand, handtiles, unitDelta, reordered, placed, configured, seated,
        foundReordered, built, judged, unit, traversed, rfl⟩, rfl, rfl, follow⟩

theorem paysScoredHand_iff_oneWinner_thirteenOrphans :
    PaysScoredHand thirteenOrphansLibrary (thirteenOrphansWin .south)
      (thirteenOrphansOutcome (-88)) (thirteenOrphansWin .south).hands.reverse := by
  have accepted : calculateScore thirteenOrphansLibrary (thirteenOrphansWin .south) =
      .ok (thirteenOrphansOutcome (-88)) := by decide +kernel
  exact (paysScoredHand_iff_oneWinner accepted).mpr (by decide) _ (List.reverse_perm _)

/-- East is the winner, and South's hand is flagged. -/
def misflaggedWin : CalculateScoreRequest :=
  { thirteenOrphansWin .west with
    hands := [
      { emptyHand .south with
        concealedTiles := [2, 10, 11, 19, 20, 28, 29, 30, 31, 32, 33, 34, 35]
        winner := true },
      emptyHand .east, emptyHand .west, emptyHand .north] }

def misflaggedOutcome : ScoreOutcome :=
  { thirteenOrphansOutcome 0 with
    scoreDeltaBySeat := [
      ⟨asI32 Seat.south, 0, 0⟩, ⟨asI32 Seat.east, 88, 88⟩,
      ⟨asI32 Seat.west, -88, -88⟩, ⟨asI32 Seat.north, 0, 0⟩] }

/-- South's hand is scored and East is paid for it. -/
theorem misflagged_hand_scored :
    calculateScore thirteenOrphansLibrary misflaggedWin = .ok misflaggedOutcome ∧
      ∃ hand, findWinnerHand misflaggedWin = .ok hand ∧
        hand.seat ≠ misflaggedWin.winnerSeat ∧
        ¬ PaysScoredHand thirteenOrphansLibrary misflaggedWin misflaggedOutcome
          misflaggedWin.hands := by
  refine ⟨by decide +kernel, _, rfl, by decide, fun pays => ?_⟩
  obtain ⟨hand, found, seated⟩ := pays.scored
  cases found
  exact absurd (seat_of_seatedAt (seated ▸ List.mem_singleton_self _)) (by decide)

end GbMahjong.Adapter
