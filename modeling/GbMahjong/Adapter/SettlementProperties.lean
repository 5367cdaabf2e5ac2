import GbMahjong.Adapter.Scoring
import GbMahjong.Library.Payoff
import Mathlib.Tactic.Positivity

/-! What a settlement adds up to. Each delta depends on its own hand's seat
only, so the seats of the request decide whether the deltas balance: an
accepted request with fans settles exactly when one hand sits at the winner's
seat and somebody else is there to pay. -/

set_option autoImplicit false

namespace GbMahjong.Adapter

open GbMahjong.Library GbMahjong.Library.Checked GbMahjong.Mahjong GbMahjong.Engine
open GbMahjong.Library.ProtoEnum (asI32)

variable {library : FanLibrary} {request : CalculateScoreRequest} {outcome : ScoreOutcome}

/-! ## What an accepted request went through -/

theorem findWinnerHand_eq_ok {hand : HandSnapshot}
    (found : findWinnerHand request = .ok hand) :
    hand ∈ request.hands ∧ (hand.winner = true ∨ hand.seat = request.winnerSeat) := by
  unfold findWinnerHand at found
  split at found
  · rename_i candidate first
    cases found
    refine ⟨List.mem_of_find?_eq_some first, ?_⟩
    simpa using List.find?_some first
  · cases found

/-- A single candidate is found wherever it stands. -/
theorem findWinnerHand_of_only {hand : HandSnapshot}
    (only : (request.hands.filter fun hand =>
      hand.winner || hand.seat == request.winnerSeat) = [hand]) :
    findWinnerHand request = .ok hand := by
  have first := @List.head?_filter _
    (fun hand : HandSnapshot => hand.winner || hand.seat == request.winnerSeat) request.hands
  rw [only] at first
  unfold findWinnerHand
  rw [← first]
  rfl

/-- What a request goes through until it is accepted. -/
theorem calculateScore_eq_ok_iff :
    calculateScore library request = .ok outcome ↔
      ∃ ruleConfig winnerHand handtiles unitDelta deltas,
        request.roundContext.isSome = true ∧ request.ruleConfig = some ruleConfig ∧
        request.winnerSeat ≠ asI32 Seat.unspecified ∧
        findWinnerHand request = .ok winnerHand ∧
        buildWinningHandtilesForScoring request winnerHand = .ok handtiles ∧
        library.judgeHu handtiles = true ∧
        unitDeltaOf ruleConfig (library.countFan handtiles) = .ok unitDelta ∧
        request.hands.mapM (scoreDelta request unitDelta) = .ok deltas ∧
        outcome = {
          totalFan := (library.countFan handtiles).totFanRes
          fanDetails := populateFanDetails (library.countFan handtiles)
          scoreDeltaBySeat := deltas
          settlementFlags := request.settlementFlags } := by
  constructor
  · intro accepted
    unfold calculateScore at accepted
    split at accepted
    · rename_i ruleConfig placed configured
      split at accepted
      · cases accepted
      · rename_i seated
        simp only [bind_eq_ok_iff] at accepted
        obtain ⟨winnerHand, found, handtiles, built, accepted⟩ := accepted
        split at accepted
        · rename_i judged
          simp only [bind_eq_ok_iff] at accepted
          obtain ⟨unitDelta, unit, deltas, scored, same⟩ := accepted
          cases same
          exact ⟨ruleConfig, winnerHand, handtiles, unitDelta, deltas, by simp [placed],
            configured, seated, found, built, judged, unit, scored, rfl⟩
        · cases accepted
    · cases accepted
  · intro checked
    obtain ⟨ruleConfig, winnerHand, handtiles, unitDelta, deltas, placed, configured, seated,
      found, built, judged, unit, scored, rfl⟩ := checked
    obtain ⟨roundContext, placed⟩ := Option.isSome_iff_exists.mp placed
    unfold calculateScore
    simp only [placed, configured, if_neg seated, bind_eq_ok_iff]
    refine ⟨winnerHand, found, handtiles, built, ?_⟩
    rw [if_pos judged]
    simp only [bind_eq_ok_iff]
    exact ⟨unitDelta, unit, deltas, scored, rfl⟩

theorem calculateScore_eq_ok (accepted : calculateScore library request = .ok outcome) :
    ∃ ruleConfig winnerHand handtiles unitDelta,
      request.ruleConfig = some ruleConfig ∧
      findWinnerHand request = .ok winnerHand ∧
      buildWinningHandtilesForScoring request winnerHand = .ok handtiles ∧
      library.judgeHu handtiles = true ∧
      unitDeltaOf ruleConfig (library.countFan handtiles) = .ok unitDelta ∧
      request.hands.mapM (scoreDelta request unitDelta) = .ok outcome.scoreDeltaBySeat ∧
      outcome.totalFan = (library.countFan handtiles).totFanRes := by
  obtain ⟨ruleConfig, winnerHand, handtiles, unitDelta, deltas, _, configured, _, found,
    built, judged, unit, scored, rfl⟩ := calculateScore_eq_ok_iff.mp accepted
  exact ⟨ruleConfig, winnerHand, handtiles, unitDelta, configured, found, built, judged,
    unit, scored, rfl⟩

/-! ## Deltas as payoffs -/

def seatedAt (request : CalculateScoreRequest) (seat : Int) : List HandSnapshot :=
  request.hands.filter (·.seat == seat)

theorem seat_of_seatedAt {seat : Int} {hand : HandSnapshot}
    (seated : hand ∈ seatedAt request seat) : hand.seat = seat := by
  simpa using (List.mem_filter.mp seated).2

def sitsAtWinnerSeat (request : CalculateScoreRequest) (hand : HandSnapshot) : Bool :=
  hand.seat == request.winnerSeat

/-- Everybody pays for a drawn win, the discarder alone for any other. -/
def owes (request : CalculateScoreRequest) (hand : HandSnapshot) : Bool :=
  isDrawnWin request.winType || hand.seat == request.discarderSeat

def winnerGain (request : CalculateScoreRequest) (unitDelta : Int) : Int :=
  if isDrawnWin request.winType then
    unitDelta * ((request.hands.length : Int) - 1)
  else
    unitDelta

def exactDelta (request : CalculateScoreRequest) (unitDelta : Int) : HandSnapshot → Int :=
  payoff (sitsAtWinnerSeat request) (owes request) (winnerGain request unitDelta) unitDelta

def exactEntry (request : CalculateScoreRequest) (unitDelta : Int)
    (hand : HandSnapshot) : SeatScoreDelta where
  seat := hand.seat
  delta := exactDelta request unitDelta hand
  finalTotal := hand.currentScore + exactDelta request unitDelta hand

/-- The values that are not computed anew are in range because the stake is. -/
theorem handDelta_eq {unitDelta : Int} (unit : Int64Range unitDelta) (hand : HandSnapshot) :
    handDelta request unitDelta hand = int64 (exactDelta request unitDelta hand) := by
  have nothing : Int64Range 0 := by decide
  unfold handDelta exactDelta payoff sitsAtWinnerSeat owes winnerGain
  by_cases atWinner : hand.seat = request.winnerSeat
  · rw [if_pos atWinner]
    cases drawn : isDrawnWin request.winType with
    | true => simp [atWinner]
    | false => simp [atWinner, int64, unit]
  · rw [if_neg atWinner]
    cases drawn : isDrawnWin request.winType with
    | true => simp [atWinner]
    | false =>
        by_cases atDiscarder : hand.seat = request.discarderSeat
        · simp [atWinner, ← atDiscarder]
        · simp [atWinner, atDiscarder, int64, nothing]

/-- The delta and the new total of a hand fit. -/
def EntryFits (request : CalculateScoreRequest) (unitDelta : Int) (hand : HandSnapshot) :
    Prop :=
  Int64Range (exactDelta request unitDelta hand) ∧
    Int64Range (hand.currentScore + exactDelta request unitDelta hand)

theorem scoreDelta_eq_ok_iff {unitDelta : Int} (unit : Int64Range unitDelta)
    (hand : HandSnapshot) (entry : SeatScoreDelta) :
    scoreDelta request unitDelta hand = .ok entry ↔
      EntryFits request unitDelta hand ∧ entry = exactEntry request unitDelta hand := by
  simp only [scoreDelta, bind_eq_ok_iff, handDelta_eq unit, int64_eq_ok_iff]
  constructor
  · intro scored
    obtain ⟨_, ⟨delta, rfl⟩, _, ⟨total, rfl⟩, same⟩ := scored
    cases same
    exact ⟨⟨delta, total⟩, rfl⟩
  · intro fits
    obtain ⟨⟨delta, total⟩, rfl⟩ := fits
    exact ⟨_, ⟨delta, rfl⟩, _, ⟨total, rfl⟩, rfl⟩

theorem mapM_scoreDelta_eq_ok_iff {unitDelta : Int} (unit : Int64Range unitDelta)
    {deltas : List SeatScoreDelta} :
    request.hands.mapM (scoreDelta request unitDelta) = .ok deltas ↔
      (∀ hand ∈ request.hands, EntryFits request unitDelta hand) ∧
        deltas = request.hands.map (exactEntry request unitDelta) :=
  mapM_eq_ok_iff_of_exact (scoreDelta_eq_ok_iff unit)

/-- The deltas of an accepted request are the payoffs of its hands, at a stake
that is zero exactly when no fan was counted. -/
theorem scoreDeltas_of_accepted (accepted : calculateScore library request = .ok outcome) :
    ∃ unitDelta : Int, 0 ≤ unitDelta ∧ (0 < outcome.totalFan ↔ 0 < unitDelta) ∧
      outcome.scoreDeltaBySeat = request.hands.map (exactEntry request unitDelta) ∧
      request.hands ≠ [] := by
  obtain ⟨ruleConfig, winnerHand, handtiles, unitDelta, _, found, _, _, unit, scored, total⟩ :=
    calculateScore_eq_ok accepted
  obtain ⟨inRange, rfl⟩ := int64_eq_ok_iff.mp unit
  have basePositive : (0 : Int) < max 1 (ruleConfig.basePoints : Int) := by omega
  refine ⟨_, Int.mul_nonneg basePositive.le (Int.natCast_nonneg _), ?_,
    ((mapM_scoreDelta_eq_ok_iff inRange).mp scored).2,
    List.ne_nil_of_mem (findWinnerHand_eq_ok found).1⟩
  rw [total, mul_pos_iff_of_pos_left basePositive, Int.natCast_pos]

/-! ## The settlement law -/

/-- The deltas balance, the winner's seat alone gains, and when the win was not
drawn one seat alone pays. -/
structure Settles (request : CalculateScoreRequest) (outcome : ScoreOutcome) : Prop where
  zeroSum : (outcome.scoreDeltaBySeat.map (·.delta)).sum = 0
  oneWinner : 0 < outcome.totalFan →
    ∃ entry, outcome.scoreDeltaBySeat.filter (fun entry => 0 < entry.delta) = [entry] ∧
      entry.seat = request.winnerSeat
  oneLoser : isDrawnWin request.winType = false →
    ∃ entry, outcome.scoreDeltaBySeat.filter (fun entry => entry.delta < 0) = [entry]

/-- The seats a settlement needs: one hand at the winner's seat, and either a
second hand to pay for a drawn win or one hand at another seat that discarded. -/
def SeatsSettle (request : CalculateScoreRequest) : Prop :=
  (seatedAt request request.winnerSeat).length = 1 ∧
    if isDrawnWin request.winType then
      2 ≤ request.hands.length
    else
      request.discarderSeat ≠ request.winnerSeat ∧
        (seatedAt request request.discarderSeat).length = 1

instance : Decidable (SeatsSettle request) :=
  inferInstanceAs (Decidable (_ ∧ ite _ (_ ≤ _) (_ ∧ _)))

def payers (request : CalculateScoreRequest) : List HandSnapshot :=
  losers (sitsAtWinnerSeat request) (owes request) request.hands

section Entries

variable {unitDelta : Int}

theorem sum_exactEntry :
    ((request.hands.map (exactEntry request unitDelta)).map (·.delta)).sum =
      winnerGain request unitDelta * (seatedAt request request.winnerSeat).length -
        unitDelta * (payers request).length := by
  rw [List.map_map]
  exact sum_payoff (sitsAtWinnerSeat request) (owes request) _ unitDelta request.hands

theorem winners_exactEntry (gains : 0 < winnerGain request unitDelta)
    (stake : 0 ≤ unitDelta) :
    (request.hands.map (exactEntry request unitDelta)).filter (fun entry => 0 < entry.delta) =
      (seatedAt request request.winnerSeat).map (exactEntry request unitDelta) := by
  rw [List.filter_map]
  exact congrArg _ (filter_payoff_pos gains stake request.hands)

theorem losers_exactEntry (gains : 0 ≤ winnerGain request unitDelta)
    (stake : 0 < unitDelta) :
    (request.hands.map (exactEntry request unitDelta)).filter (fun entry => entry.delta < 0) =
      (payers request).map (exactEntry request unitDelta) := by
  rw [List.filter_map]
  exact congrArg _ (filter_payoff_neg gains stake request.hands)

end Entries

theorem length_payers_of_drawn (drawn : isDrawnWin request.winType = true) :
    (seatedAt request request.winnerSeat).length + (payers request).length =
      request.hands.length :=
  length_losers_of_all (fun hand => by simp [owes, drawn]) request.hands

theorem payers_of_not_drawn (notDrawn : isDrawnWin request.winType = false) :
    payers request =
      if request.discarderSeat = request.winnerSeat then []
      else seatedAt request request.discarderSeat := by
  unfold payers losers seatedAt
  split
  · rename_i same
    apply List.filter_eq_nil_iff.mpr
    intro hand _
    simp [sitsAtWinnerSeat, owes, notDrawn, same]
  · rename_i different
    apply List.filter_congr
    intro hand _
    by_cases atDiscarder : hand.seat = request.discarderSeat
    · simp [sitsAtWinnerSeat, owes, atDiscarder, different]
    · simp [owes, notDrawn, atDiscarder]

theorem singleton_of_length {entries : List HandSnapshot} {unitDelta : Int} :
    (∃ entry, entries.map (exactEntry request unitDelta) = [entry]) ↔
      entries.length = 1 := by
  rw [← List.length_eq_one_iff, List.length_map]

/-! ## When a settlement settles -/

section Stake

variable {unitDelta : Int}

private theorem settles_iff_of_drawn
    (deltas : outcome.scoreDeltaBySeat = request.hands.map (exactEntry request unitDelta))
    (fans : 0 < outcome.totalFan) (stake : 0 < unitDelta) (present : request.hands ≠ [])
    (drawn : isDrawnWin request.winType = true) :
    Settles request outcome ↔ SeatsSettle request := by
  have everybody := length_payers_of_drawn drawn
  have some : 0 < request.hands.length := List.length_pos_of_ne_nil present
  have gain : winnerGain request unitDelta = unitDelta * ((request.hands.length : Int) - 1) := by
    simp [winnerGain, drawn]
  -- The sum is the stake times the number of hands, once for each winner too many.
  have sum : (outcome.scoreDeltaBySeat.map (·.delta)).sum =
      unitDelta * request.hands.length *
        ((seatedAt request request.winnerSeat).length - 1) := by
    rw [deltas, sum_exactEntry, gain, ← everybody]
    push_cast
    ring
  constructor
  · intro settles
    obtain ⟨zeroSum, oneWinner, _⟩ := settles
    have one : (seatedAt request request.winnerSeat).length = 1 := by
      rw [sum] at zeroSum
      have product : unitDelta * (request.hands.length : Int) ≠ 0 := by positivity
      have := (mul_eq_zero.mp zeroSum).resolve_left product
      omega
    refine ⟨one, ?_⟩
    rw [if_pos drawn]
    by_contra alone
    have nobody : winnerGain request unitDelta = 0 := by
      rw [gain, show (request.hands.length : Int) - 1 = 0 by omega, mul_zero]
    obtain ⟨entry, ahead, _⟩ := oneWinner fans
    have member : entry ∈ outcome.scoreDeltaBySeat.filter fun entry => 0 < entry.delta := by
      rw [ahead]
      exact List.mem_singleton_self entry
    rw [deltas, List.mem_filter, List.mem_map] at member
    obtain ⟨⟨hand, _, rfl⟩, positive⟩ := member
    have behind : exactDelta request unitDelta hand ≤ 0 :=
      payoff_nonpos nobody.le stake.le hand
    exact absurd (of_decide_eq_true positive) behind.not_gt
  · intro settle
    obtain ⟨one, others⟩ := settle
    rw [if_pos drawn] at others
    have gains : 0 < winnerGain request unitDelta := by
      rw [gain]
      exact mul_pos stake (by omega)
    refine ⟨by rw [sum, one]; simp, fun _ => ?_, fun notDrawn => ?_⟩
    · obtain ⟨hand, only⟩ := List.length_eq_one_iff.mp one
      refine ⟨exactEntry request unitDelta hand, ?_, ?_⟩
      · rw [deltas, winners_exactEntry gains stake.le, only]
        rfl
      · exact seat_of_seatedAt (only ▸ List.mem_singleton_self hand)
    · rw [drawn] at notDrawn
      cases notDrawn

private theorem settles_iff_of_not_drawn
    (deltas : outcome.scoreDeltaBySeat = request.hands.map (exactEntry request unitDelta))
    (fans : 0 < outcome.totalFan) (stake : 0 < unitDelta)
    (notDrawn : isDrawnWin request.winType = false) :
    Settles request outcome ↔ SeatsSettle request := by
  have gain : winnerGain request unitDelta = unitDelta := by simp [winnerGain, notDrawn]
  have gains : 0 < winnerGain request unitDelta := gain.symm ▸ stake
  have ahead := winners_exactEntry gains stake.le
  have behind := losers_exactEntry gains.le stake
  have payers := payers_of_not_drawn notDrawn
  have sum := @sum_exactEntry request unitDelta
  rw [← deltas] at ahead behind sum
  constructor
  · intro settles
    obtain ⟨_, oneWinner, oneLoser⟩ := settles
    obtain ⟨entry, winner, _⟩ := oneWinner fans
    have one := singleton_of_length.mp ⟨entry, ahead.symm.trans winner⟩
    obtain ⟨loser, only⟩ := oneLoser notDrawn
    have paying := singleton_of_length.mp ⟨loser, behind.symm.trans only⟩
    refine ⟨one, ?_⟩
    rw [if_neg (by simp [notDrawn])]
    rw [payers] at paying
    split at paying
    · cases paying
    · rename_i different
      exact ⟨different, paying⟩
  · intro settle
    obtain ⟨one, discarded⟩ := settle
    rw [if_neg (by simp [notDrawn])] at discarded
    obtain ⟨different, paying⟩ := discarded
    rw [if_neg different] at payers
    refine ⟨?_, fun _ => ?_, fun _ => ?_⟩
    · rw [sum, gain, payers, one, paying]
      ring
    · obtain ⟨hand, only⟩ := List.length_eq_one_iff.mp one
      refine ⟨exactEntry request unitDelta hand, ?_, ?_⟩
      · rw [ahead, only]
        rfl
      · exact seat_of_seatedAt (only ▸ List.mem_singleton_self hand)
    · obtain ⟨loser, only⟩ := singleton_of_length.mpr paying
      exact ⟨loser, by rw [behind, payers]; exact only⟩

end Stake

/-- An accepted request with fans obeys the settlement law exactly when its
seats allow it, and one without fans moves no points. -/
theorem settles_iff_seatsSettle
    (accepted : calculateScore library request = .ok outcome) :
    (0 < outcome.totalFan → (Settles request outcome ↔ SeatsSettle request)) ∧
      (outcome.totalFan = 0 → ∀ entry ∈ outcome.scoreDeltaBySeat, entry.delta = 0) := by
  obtain ⟨unitDelta, natural, stakes, deltas, present⟩ := scoreDeltas_of_accepted accepted
  refine ⟨fun fans => ?_, fun noFan entry member => ?_⟩
  · cases drawn : isDrawnWin request.winType with
    | true => exact settles_iff_of_drawn deltas fans (stakes.mp fans) present drawn
    | false => exact settles_iff_of_not_drawn deltas fans (stakes.mp fans) drawn
  · have nothing : unitDelta = 0 := by omega
    rw [deltas, List.mem_map] at member
    obtain ⟨hand, _, rfl⟩ := member
    have noGain : winnerGain request unitDelta = 0 := by simp [winnerGain, nothing]
    change payoff _ _ (winnerGain request unitDelta) unitDelta hand = 0
    rw [noGain, nothing]
    exact payoff_zero hand

/-! ## Two wins by discard -/

/-- The library on the thirteen orphans, its only fan worth 88. -/
def thirteenOrphansLibrary : FanLibrary where
  judgeHu handtiles :=
    handtiles.fulu.isEmpty &&
      handtiles.lipai.map (·.tile) ==
        [1, 9, 10, 18, 19, 27, 28, 29, 30, 31, 32, 33, 34, 1]
  countFan _ := {
    fanTableRes := fun fanIndex => if fanIndex = 7 then [[]] else []
    totFanRes := 88
    isInt := by decide }

def emptyHand (seat : Seat) : HandSnapshot :=
  ⟨asI32 seat, [], [], [], 0, false, false⟩

/-- East wins on the thirteen orphans with the tile of the given discarder. -/
def thirteenOrphansWin (discarder : Seat) : CalculateScoreRequest where
  roomId := "room"
  matchId := "room-match"
  roundId := "room-round"
  ruleConfig := some ⟨"gb", 4, true, true, true, true, 1⟩
  roundContext := some { defaultRoundContext with prevailingWind := asI32 Seat.east }
  winType := asI32 WinType.discard
  winnerSeat := asI32 Seat.east
  discarderSeat := asI32 discarder
  winningTile := asI32 Engine.Tile.character1
  hands := [
    { emptyHand .east with
      concealedTiles := [2, 10, 11, 19, 20, 28, 29, 30, 31, 32, 33, 34, 35]
      winner := true },
    emptyHand .south, emptyHand .west, emptyHand .north]
  settlementFlags := [asI32 SettlementFlag.discardWin]
  terminalAction := none

def thirteenOrphansOutcome (southDelta : Int) : ScoreOutcome where
  totalFan := 88
  fanDetails := populateFanDetails (thirteenOrphansLibrary.countFan .new)
  scoreDeltaBySeat := [
    ⟨asI32 Seat.east, 88, 88⟩, ⟨asI32 Seat.south, southDelta, southDelta⟩,
    ⟨asI32 Seat.west, 0, 0⟩, ⟨asI32 Seat.north, 0, 0⟩]
  settlementFlags := [asI32 SettlementFlag.discardWin]

theorem settles_iff_seatsSettle_thirteenOrphans :
    Settles (thirteenOrphansWin .south) (thirteenOrphansOutcome (-88)) := by
  have accepted : calculateScore thirteenOrphansLibrary (thirteenOrphansWin .south) =
      .ok (thirteenOrphansOutcome (-88)) := by decide +kernel
  exact ((settles_iff_seatsSettle accepted).1 (by decide)).mpr (by decide)

/-- With no discarder named, the winner is paid and nobody pays. -/
theorem unnamedDiscarder_not_settles :
    calculateScore thirteenOrphansLibrary (thirteenOrphansWin .unspecified) =
        .ok (thirteenOrphansOutcome 0) ∧
      0 < (thirteenOrphansOutcome 0).totalFan ∧
      ¬ Settles (thirteenOrphansWin .unspecified) (thirteenOrphansOutcome 0) := by
  refine ⟨by decide +kernel, by decide, fun settles => ?_⟩
  exact absurd settles.zeroSum (by decide)

end GbMahjong.Adapter
