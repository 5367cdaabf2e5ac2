import GbMahjong.Adapter.SettlementProperties
import GbMahjong.Adapter.ValidationProperties

/-! Validation and scoring of one win. Two builders make the library's hand from
two requests; each makes the hand of one description of a win, and the two
descriptions differ in the winning tile at most. -/

set_option autoImplicit false

namespace GbMahjong.Adapter

open GbMahjong.Library GbMahjong.Library.Checked GbMahjong.Mahjong GbMahjong.Engine
open GbMahjong.Library.ProtoEnum (asI32)

/-! ## The settlement of a validated win -/

/-- The score request for a win that was validated with this context: one hand is
the winner's, and it leaves the winning tile out. -/
structure DescribesWin (request : ValidateActionRequest) (winningContext : WinningContext)
    (score : CalculateScoreRequest) (hand : HandSnapshot) : Prop where
  roundContext : score.roundContext = request.roundContext
  ruleConfig : score.ruleConfig = request.ruleConfig
  winnerSeat : score.winnerSeat = request.actorSeat
  winType : score.winType = winningContext.winType
  winningTile : score.winningTile = winningContext.winningTile
  notLastTileDraw : asI32 SettlementFlag.lastTileDraw ∉ score.settlementFlags
  notLastTileClaim : asI32 SettlementFlag.lastTileClaim ∉ score.settlementFlags
  onlyWinner : (score.hands.filter fun hand =>
    hand.winner || hand.seat == score.winnerSeat) = [hand]
  seat : hand.seat = request.actorSeat
  tiles : ∃ actorState privateHand, (findActorSeat request).2 = some actorState ∧
    request.actorPrivateHand = some privateHand ∧ hand.melds = actorState.melds ∧
    hand.flowers = actorState.flowers ∧ hand.concealedTiles = privateHand.concealedTiles

/-- The points of the settlement stay inside `int64_t`. -/
def PointsFit (score : CalculateScoreRequest) (totalFan : Nat) : Prop :=
  ∀ ruleConfig, score.ruleConfig = some ruleConfig →
    let unitDelta := max 1 (ruleConfig.basePoints : Int) * totalFan
    Int64Range unitDelta ∧ ∀ hand ∈ score.hands,
      Int64Range (exactDelta score unitDelta hand) ∧
        Int64Range (hand.currentScore + exactDelta score unitDelta hand)

/-- The settlement rebuilds the validated hand, and accepts it with its fans. -/
def ScoresAsValidated (library : FanLibrary) (request : ValidateActionRequest)
    (winningContext : WinningContext) (score : CalculateScoreRequest)
    (hand : HandSnapshot) : Prop :=
  (∃ handtiles, buildWinningHandtilesForValidation request = .ok handtiles ∧
    buildWinningHandtilesForScoring score hand = .ok handtiles) ∧
  (PointsFit score winningContext.tentativeTotalFan →
    ∃ outcome, calculateScore library score = .ok outcome ∧
      outcome.totalFan = winningContext.tentativeTotalFan)

/-- A win declared on a draw names the tile that was drawn. -/
def DeclaresDrawnTile (request : ValidateActionRequest) : Prop :=
  ∀ declareWin privateHand,
    request.candidateAction = some ⟨some (.declareWin declareWin)⟩ →
    request.actorPrivateHand = some privateHand →
    isDrawnWin declareWin.winType = true → privateHand.drawnTile = declareWin.winningTile

section Settlement

variable {library : FanLibrary} {request : ValidateActionRequest}
  {winningContext : WinningContext} {score : CalculateScoreRequest} {hand : HandSnapshot}

theorem calculateScore_of_fits {ruleConfig : RuleConfig} {handtiles : Handtiles}
    (placed : score.roundContext.isSome = true) (ruled : score.ruleConfig = some ruleConfig)
    (seated : score.winnerSeat ≠ asI32 Seat.unspecified)
    (found : findWinnerHand score = .ok hand)
    (built : buildWinningHandtilesForScoring score hand = .ok handtiles)
    (judged : library.judgeHu handtiles = true)
    (fits : PointsFit score (library.countFan handtiles).totFanRes) :
    ∃ outcome, calculateScore library score = .ok outcome ∧
      outcome.totalFan = (library.countFan handtiles).totFanRes := by
  obtain ⟨unitFits, handsFit⟩ := fits ruleConfig ruled
  have unit := int64_eq_ok_iff.mpr ⟨unitFits, rfl⟩
  have scored := (mapM_scoreDelta_eq_ok_iff unitFits).mpr ⟨handsFit, rfl⟩
  exact ⟨_, calculateScore_eq_ok_iff.mpr ⟨ruleConfig, hand, handtiles, _, _, placed, ruled,
    seated, found, built, judged, unit, scored, rfl⟩, rfl⟩

/-! ## When the two agree -/

theorem declareWin_of_drawn {candidateAction : CandidateAction} {winType : Int}
    (typed : extractWinType candidateAction = .ok winType)
    (drawn : isDrawnWin winType = true) :
    ∃ declareWin, candidateAction = ⟨some (.declareWin declareWin)⟩ ∧
      declareWin.winType = winType := by
  obtain ⟨action⟩ := candidateAction
  unfold extractWinType at typed
  split at typed
  · rename_i declareWin same
    cases typed
    exact ⟨declareWin, congrArg CandidateAction.mk same, rfl⟩
  · split at typed
    · cases typed
      cases drawn
    · split at typed
      · cases typed
        cases drawn
      · cases typed
  · cases typed

/-- A validation evaluates the tile it reports, but for a declaration that names
another tile than the one drawn. -/
theorem lastTile_eq_winningTile_iff {privateHand : PrivateHandContext} {lastTile : Int}
    {candidateAction : CandidateAction}
    (requested : request.candidateAction = some candidateAction)
    (held : request.actorPrivateHand = some privateHand)
    (typed : extractWinType candidateAction = .ok winningContext.winType)
    (named : extractWinningTile candidateAction = .ok winningContext.winningTile)
    (evaluated : lastTileOf candidateAction winningContext.winType privateHand =
      .ok lastTile) :
    lastTile = winningContext.winningTile ↔ DeclaresDrawnTile request := by
  unfold lastTileOf at evaluated
  split at evaluated
  · rename_i drawn
    cases evaluated
    obtain ⟨declareWin, rfl, sameType⟩ := declareWin_of_drawn typed drawn
    rw [← Except.ok.inj named]
    constructor
    · intro same other hand declared holds _
      rw [requested] at declared
      rw [held] at holds
      cases declared
      cases holds
      exact same
    · intro declares
      exact declares declareWin privateHand requested held (sameType ▸ drawn)
  · rename_i notDrawn
    rw [named] at evaluated
    cases evaluated
    refine iff_of_true rfl ?_
    intro declareWin hand declared _ drawn
    rw [requested] at declared
    cases declared
    rw [Except.ok.inj typed] at drawn
    exact absurd drawn notDrawn

theorem DescribesWin.findWinnerHand
    (describes : DescribesWin request winningContext score hand) :
    findWinnerHand score = .ok hand :=
  findWinnerHand_of_only describes.onlyWinner

/-- The description of a settlement is that of the validation but for its last tile. -/
theorem DescribesWin.scoredWin_eq {actorState : EnginePlayerState}
    {privateHand : PrivateHandContext}
    (describes : DescribesWin request winningContext score hand)
    (seated : (findActorSeat request).2 = some actorState)
    (held : request.actorPrivateHand = some privateHand) :
    scoredWin score hand =
      validatedWin request actorState privateHand winningContext.winType
        winningContext.winningTile := by
  obtain ⟨roundContext, _, _, winType, winningTile, noDraw, noClaim, _, seat, tiles⟩ :=
    describes
  obtain ⟨_, _, sameState, sameHand, melds, flowers, concealedTiles⟩ := tiles
  rw [seated] at sameState
  rw [held] at sameHand
  cases sameState
  cases sameHand
  have unflagged : ∀ flag : SettlementFlag, asI32 flag ∉ score.settlementFlags →
      containsSettlementFlag score flag = false := by
    intro flag absent
    refine List.any_eq_false.mpr fun other member same => absent ?_
    rwa [← eq_of_beq same]
  simp [scoredWin, validatedWin, roundContext, winType, winningTile, seat, melds, flowers,
    concealedTiles, unflagged _ noDraw, unflagged _ noClaim]

def winnerSnapshot (request : ValidateActionRequest) (actorState : EnginePlayerState)
    (privateHand : PrivateHandContext) : HandSnapshot where
  seat := request.actorSeat
  concealedTiles := privateHand.concealedTiles
  melds := actorState.melds
  flowers := actorState.flowers
  currentScore := actorState.currentScore
  winner := true
  discarder := false

/-- A settlement among no other players. -/
def settlementOf (request : ValidateActionRequest) (winningContext : WinningContext)
    (winnerHand : HandSnapshot) : CalculateScoreRequest where
  roomId := request.roomId
  matchId := request.matchId
  roundId := request.roundId
  ruleConfig := request.ruleConfig
  roundContext := request.roundContext
  winType := winningContext.winType
  winnerSeat := request.actorSeat
  discarderSeat := asI32 Seat.unspecified
  winningTile := winningContext.winningTile
  hands := [winnerHand]
  settlementFlags := []
  terminalAction := request.recentAction

theorem settlementOf_describes {actorState : EnginePlayerState}
    {privateHand : PrivateHandContext}
    (seated : (findActorSeat request).2 = some actorState)
    (held : request.actorPrivateHand = some privateHand) :
    DescribesWin request winningContext
      (settlementOf request winningContext (winnerSnapshot request actorState privateHand))
      (winnerSnapshot request actorState privateHand) where
  roundContext := rfl
  ruleConfig := rfl
  winnerSeat := rfl
  winType := rfl
  winningTile := rfl
  notLastTileDraw := List.not_mem_nil
  notLastTileClaim := List.not_mem_nil
  onlyWinner := rfl
  seat := rfl
  tiles := ⟨actorState, privateHand, seated, held, rfl, rfl, rfl⟩

/-- A validated win settles as it was validated, in every settlement that describes
it, exactly when a declaration on a draw names the drawn tile. -/
theorem settles_as_validated_iff {outcome : ValidateOutcome}
    (validated : validateAction library request = .ok outcome)
    (legal : outcome.legal = true) (context : outcome.winningContext = some winningContext) :
    (∀ score hand, DescribesWin request winningContext score hand →
        ScoresAsValidated library request winningContext score hand) ↔
      DeclaresDrawnTile request := by
  obtain ⟨candidateAction, handtiles, checked, built, judged, evaluated⟩ :=
    validateAction_eq_win validated legal context
  obtain ⟨requested, ruled, placed, seated⟩ := checkRequest_eq_ok checked
  obtain ⟨typed, named, total⟩ := buildWinningContext_eq_ok evaluated
  obtain ⟨actorState, privateHand, winType, lastTile, sits, held, sameType, chosen,
    builds⟩ := buildWinningHandtilesForValidation_eq_ok_iff.mp built
  have candidate : candidateActionOf request = candidateAction := by
    rw [candidateActionOf, requested]
    rfl
  rw [candidate] at sameType chosen
  rw [typed] at sameType
  cases sameType
  have reported := lastTile_eq_winningTile_iff requested held typed named chosen
  have thirteen : actorState.melds.length * 3 + privateHand.concealedTiles.length = 13 := by
    obtain ⟨_, _, _, _, _, _, _, _, _, _, _, _, thirteen, _⟩ := builds
    exact thirteen
  rw [← reported]
  constructor
  · intro settles
    have described := @settlementOf_describes _ winningContext _ _ sits held
    obtain ⟨⟨rebuilt, same, scored⟩, _⟩ := settles _ _ described
    rw [built] at same
    cases same
    have scoredBuilds := (buildWinningHandtilesForScoring_eq_ok_iff thirteen).mp scored
    rw [described.scoredWin_eq sits held] at scoredBuilds
    have ends := builds.lastTile.symm.trans scoredBuilds.lastTile
    have tiles : lastTile - 1 = winningContext.winningTile - 1 := Option.some.inj ends
    omega
  · intro same score hand describes
    rw [same, ← describes.scoredWin_eq sits held] at builds
    obtain ⟨_, _, sameState, sameHand, melds, flowers, concealedTiles⟩ := describes.tiles
    have scored : buildWinningHandtilesForScoring score hand = .ok handtiles := by
      rw [sits] at sameState
      rw [held] at sameHand
      cases sameState
      cases sameHand
      refine (buildWinningHandtilesForScoring_eq_ok_iff ?_).mpr builds
      rw [melds, concealedTiles]
      exact thirteen
    refine ⟨⟨handtiles, built, scored⟩, fun fits => ?_⟩
    rw [total] at fits ⊢
    obtain ⟨ruleConfig, ruled⟩ := Option.isSome_iff_exists.mp ruled
    exact calculateScore_of_fits (describes.roundContext ▸ placed)
      (describes.ruleConfig.trans ruled) (describes.winnerSeat ▸ seated)
      describes.findWinnerHand scored judged fits

end Settlement

/-! ## Two wins on the thirteen orphans -/

/-- The library on the thirteen orphans, where a self-drawn win makes one fan more. -/
def drawnOrphansLibrary : FanLibrary where
  judgeHu := thirteenOrphansLibrary.judgeHu
  countFan handtiles :=
    if handtiles.zimo then {
      fanTableRes := fun fanIndex => if fanIndex = 7 ∨ fanIndex = 80 then [[]] else []
      totFanRes := 89
      isInt := by decide }
    else
      thirteenOrphansLibrary.countFan handtiles

def orphansPlayer : EnginePlayerState :=
  ⟨asI32 Seat.east, 0, 14, [], [], []⟩

def orphansHand : PrivateHandContext where
  concealedTiles := [2, 10, 11, 19, 20, 28, 29, 30, 31, 32, 33, 34, 35]
  drawnTile := asI32 Engine.Tile.character1

/-- East declares a self-drawn win on a tile. -/
def orphansRequest (winningTile : Engine.Tile) : ValidateActionRequest where
  roomId := "room"
  matchId := "room-match"
  roundId := "room-round"
  serverEventSeq := 1
  ruleConfig := some ⟨"gb", 4, true, true, true, true, 1⟩
  roundContext := some { defaultRoundContext with prevailingWind := asI32 Seat.east }
  actorSeat := asI32 Seat.east
  candidateAction := some ⟨some (.declareWin
    ⟨asI32 WinType.selfDraw, asI32 winningTile, asI32 Seat.unspecified, 0⟩)⟩
  recentAction := none
  players := [orphansPlayer]
  actorPrivateHand := some orphansHand
  claimWindow := none

def orphansContext (winningTile : Engine.Tile) : WinningContext where
  winType := asI32 WinType.selfDraw
  winningTile := asI32 winningTile
  completesStandardHand := false
  completesSevenPairs := false
  completesThirteenOrphans := true
  tentativeFanDetails := populateFanDetails
    (drawnOrphansLibrary.countFan { Handtiles.new with zimo := true })
  tentativeTotalFan := 89

def orphansOutcome (winningTile : Engine.Tile) : ValidateOutcome where
  legal := true
  rejectCode := asI32 ValidationRejectCode.unspecified
  derivedActionType := asI32 ActionKind.declareWin
  explanation := "winning action validated by GB-Mahjong using real hand evaluation"
  meldResult := none
  winningContext := some (orphansContext winningTile)
  followUps := []

def orphansSnapshot (winningTile : Engine.Tile) : HandSnapshot :=
  winnerSnapshot (orphansRequest winningTile) orphansPlayer orphansHand

def orphansSettlement (winningTile : Engine.Tile) : CalculateScoreRequest :=
  settlementOf (orphansRequest winningTile) (orphansContext winningTile)
    (orphansSnapshot winningTile)

theorem orphansSettlement_describes (winningTile : Engine.Tile) :
    DescribesWin (orphansRequest winningTile) (orphansContext winningTile)
      (orphansSettlement winningTile) (orphansSnapshot winningTile) :=
  settlementOf_describes rfl rfl

theorem settles_as_validated_iff_orphans :
    ScoresAsValidated drawnOrphansLibrary (orphansRequest .character1)
      (orphansContext .character1) (orphansSettlement .character1)
      (orphansSnapshot .character1) := by
  have validated : validateAction drawnOrphansLibrary (orphansRequest .character1) =
      .ok (orphansOutcome .character1) := by decide +kernel
  have named : DeclaresDrawnTile (orphansRequest .character1) := by
    intro declareWin privateHand declared held _
    cases declared
    cases held
    rfl
  exact (settles_as_validated_iff validated rfl rfl).mpr named _ _
    (orphansSettlement_describes .character1)

/-- East draws a one and declares a five: the orphans are validated on the one, and
the settlement of the five is refused. -/
theorem misdeclared_draw_not_settled :
    validateAction drawnOrphansLibrary (orphansRequest .character5) =
        .ok (orphansOutcome .character5) ∧
      DescribesWin (orphansRequest .character5) (orphansContext .character5)
        (orphansSettlement .character5) (orphansSnapshot .character5) ∧
      ¬ ScoresAsValidated drawnOrphansLibrary (orphansRequest .character5)
        (orphansContext .character5) (orphansSettlement .character5)
        (orphansSnapshot .character5) ∧
      calculateScore drawnOrphansLibrary (orphansSettlement .character5) =
        invalidArgument "winner hand snapshot is not a valid winning hand for GB-Mahjong" := by
  refine ⟨by decide +kernel, orphansSettlement_describes .character5, ?_,
    by decide +kernel⟩
  intro settles
  obtain ⟨⟨handtiles, built, scored⟩, _⟩ := settles
  have drawn : (buildWinningHandtilesForValidation (orphansRequest .character5)).map
      (·.lipai.getLast?) = .ok (some ⟨1, 1⟩) := by decide +kernel
  have declared : (buildWinningHandtilesForScoring (orphansSettlement .character5)
      (orphansSnapshot .character5)).map (·.lipai.getLast?) = .ok (some ⟨5, 1⟩) := by
    decide +kernel
  rw [built] at drawn
  rw [scored] at declared
  cases drawn.symm.trans declared

end GbMahjong.Adapter
