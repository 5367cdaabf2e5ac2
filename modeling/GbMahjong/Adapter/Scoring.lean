import GbMahjong.Adapter.Conversion
import GbMahjong.Mahjong.Fan

/-! `GbMahjongAdapter::CalculateScore`: the winner's hand is rebuilt for the
library, and every hand of the request gets a score delta from its own seat
alone. -/

set_option autoImplicit false

namespace GbMahjong.Adapter

open GbMahjong.Library GbMahjong.Library.Checked GbMahjong.Mahjong GbMahjong.Engine
open GbMahjong.Library.ProtoEnum (asI32)

/-! ## Request accessors -/

/-- The default instance a protobuf accessor returns for an absent message. -/
def defaultRoundContext : RoundContext where
  prevailingWind := 0
  dealerSeat := 0
  currentTurnSeat := 0
  handNumber := 0
  dealerStreak := 0
  wallTilesRemaining := 0
  deadWallTilesRemaining := 0
  replacementDrawPending := false
  isLastTile := false

def containsSettlementFlag (request : CalculateScoreRequest) (flag : SettlementFlag) : Bool :=
  request.settlementFlags.any (· == asI32 flag)

def isDrawnWin (winType : Int) : Bool :=
  winType == asI32 WinType.selfDraw || winType == asI32 WinType.kongDraw

def isKongWin (winType : Int) : Bool :=
  winType == asI32 WinType.robKong || winType == asI32 WinType.kongDraw

/-! ## The winner's hand -/

/-- `FindWinnerHand`: the first hand flagged as the winner's or seated there. -/
def findWinnerHand (request : CalculateScoreRequest) : Checked HandSnapshot :=
  match request.hands.find? fun hand => hand.winner || hand.seat == request.winnerSeat with
  | some hand => .ok hand
  | none => invalidArgument "CalculateScoreRequest must include the winner hand snapshot"

def moveOneTileToBack (tiles : List Mahjong.Tile) (tile : Mahjong.Tile) :
    Checked (List Mahjong.Tile) :=
  match tiles.findIdx? fun candidate => candidate.Same tile with
  | some index => .ok (tiles.eraseIdx index ++ tiles[index]?.toList)
  | none => invalidArgument "winning tile is not present in concealed tiles"

/-- The concealed tiles with the winning tile last, from either snapshot form. -/
def winningTilesOf (hand : HandSnapshot) (concealedTiles : List Mahjong.Tile)
    (winningTile : Mahjong.Tile) : Checked (List Mahjong.Tile) :=
  let visibleTileCount := hand.melds.length * 3 + hand.concealedTiles.length
  if visibleTileCount = 13 then
    .ok (concealedTiles ++ [winningTile])
  else if visibleTileCount = 14 then
    moveOneTileToBack concealedTiles winningTile
  else
    invalidArgument
      "winner hand snapshot must contain either 13 tiles plus winning tile or a full 14 tiles"

/-- The tail of both hand builders: mark the winning tile and sort the others. -/
def finishLipai (handtiles : Handtiles) : Handtiles :=
  (handtiles.modifyLastLipai
    (if handtiles.zimo then Tile.setZimo else Tile.setChonghu)).sortLipaiWithoutLastOne

def buildWinningHandtilesForScoring (request : CalculateScoreRequest)
    (hand : HandSnapshot) : Checked Handtiles := do
  let roundContext := request.roundContext.getD defaultRoundContext
  let quanfeng ← protoSeatToMahjongWind roundContext.prevailingWind
  let menfeng ← protoSeatToMahjongWind hand.seat
  let handtiles := { seedHandtilesTables .new with
    quanfeng
    menfeng
    zimo := isDrawnWin request.winType
    juezhang := false
    haidi := roundContext.isLastTile ||
      containsSettlementFlag request .lastTileDraw ||
      containsSettlementFlag request .lastTileClaim
    gang := isKongWin request.winType }
  let handtiles ← hand.melds.foldlM (addMeld hand.seat) handtiles
  let handtiles ← hand.flowers.foldlM addFlower handtiles
  let concealedTiles ← hand.concealedTiles.mapM protoTileToMahjongTile
  let winningTile ← protoTileToMahjongTile request.winningTile
  let concealedTiles ← winningTilesOf hand concealedTiles winningTile
  let handtiles := concealedTiles.foldl addLipaiTile handtiles
  if handtiles.fulu.length * 3 + handtiles.lipai.length ≠ 14 then
    invalidArgument "winner hand snapshot does not form 14 tiles"
  else
    .ok (finishLipai handtiles)

/-! ## The settlement -/

/-- `PopulateFanDetails`. -/
def populateFanDetails (fan : Fan) : List FanDetail :=
  (List.range' 1 (fanSize - 1)).filterMap fun fanIndex =>
    let entries := fan.fanTableRes fanIndex
    if entries.isEmpty then
      none
    else
      some {
        fanCode := "gbm_fan_" ++ toString fanIndex
        fanName := fanName.getD fanIndex ""
        fanValue := fanScore.getD fanIndex 0
        count := entries.length % 2 ^ 32
        description := "由 GB-Mahjong 识别出的番种，出现次数为 " ++ toString entries.length }

structure ScoreOutcome where
  totalFan : Nat
  fanDetails : List FanDetail
  scoreDeltaBySeat : List SeatScoreDelta
  settlementFlags : List Int
  deriving DecidableEq, Repr

/-- `unit_delta`: a zero `base_points` counts as 1. -/
def unitDeltaOf (ruleConfig : RuleConfig) (fan : Fan) : Checked Int :=
  int64 (max 1 (ruleConfig.basePoints : Int) * fan.totFanRes)

def handDelta (request : CalculateScoreRequest) (unitDelta : Int)
    (hand : HandSnapshot) : Checked Int :=
  if hand.seat = request.winnerSeat then
    if isDrawnWin request.winType then
      int64 (unitDelta * ((request.hands.length : Int) - 1))
    else
      .ok unitDelta
  else if isDrawnWin request.winType then
    int64 (-unitDelta)
  else if hand.seat = request.discarderSeat then
    int64 (-unitDelta)
  else
    .ok 0

/-- The loop body over `request.hands()`. -/
def scoreDelta (request : CalculateScoreRequest) (unitDelta : Int)
    (hand : HandSnapshot) : Checked SeatScoreDelta := do
  let delta ← handDelta request unitDelta hand
  let finalTotal ← int64 (hand.currentScore + delta)
  .ok { seat := hand.seat, delta, finalTotal }

def calculateScore (library : FanLibrary) (request : CalculateScoreRequest) :
    Checked ScoreOutcome :=
  match request.roundContext, request.ruleConfig with
  | some _, some ruleConfig =>
      if request.winnerSeat = asI32 Seat.unspecified then
        invalidArgument "winner_seat must not be unspecified"
      else do
        let winnerHand ← findWinnerHand request
        let handtiles ← buildWinningHandtilesForScoring request winnerHand
        if library.judgeHu handtiles then
          let fan := library.countFan handtiles
          let unitDelta ← unitDeltaOf ruleConfig fan
          let scoreDeltaBySeat ← request.hands.mapM (scoreDelta request unitDelta)
          .ok {
            totalFan := fan.totFanRes
            fanDetails := populateFanDetails fan
            scoreDeltaBySeat
            settlementFlags := request.settlementFlags }
        else
          invalidArgument "winner hand snapshot is not a valid winning hand for GB-Mahjong"
  | _, _ => invalidArgument "CalculateScoreRequest requires round_context and rule_config"

end GbMahjong.Adapter
