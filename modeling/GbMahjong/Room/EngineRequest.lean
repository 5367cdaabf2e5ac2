import GbMahjong.Room.State

/-! The translation of a client action into a `ValidateActionRequest`. Client
and engine enumerations are matched by their proto names. -/

set_option autoImplicit false

namespace GbMahjong.Room

open GbMahjong.Library GbMahjong.Client

structure ActionValidationError where
  rejectCode : RejectCode
  message : String
  deriving DecidableEq, Repr

/-- The engine value with the client value's proto name, or the given default:
the common body of the `map_*_to_engine` functions. -/
def mapToEngine {Source Target : Type} [NamedProtoEnum Source] [NamedProtoEnum Target]
    (unspecified : Target) (value : Source) : Target :=
  (NamedProtoEnum.fromStrName (NamedProtoEnum.asStrName value)).getD unspecified

def mapSeatToEngine (seat : Seat) : Engine.Seat := mapToEngine .unspecified seat

def mapTileToEngine (tile : Tile) : Engine.Tile := mapToEngine .unspecified tile

def mapClaimKindToEngine (claimKind : ClaimKind) : Engine.ClaimKind :=
  mapToEngine .unspecified claimKind

def mapWinTypeToEngine (winType : WinType) : Engine.WinType :=
  mapToEngine .unspecified winType

/-- A declared value or the rejection of the number: the common body of the
`parse_client_*` functions, which differ in the code and in one word of the text. -/
def parseClient {Value : Type} [ProtoEnum Value] (rejectCode : RejectCode)
    (kind : String) (number : Int) : Except ActionValidationError Value :=
  match ProtoEnum.tryFrom number with
  | some value => .ok value
  | none => .error ⟨rejectCode, s!"unknown {kind} enum value {number}"⟩

def parseClientSeat (seat : Int) : Except ActionValidationError Seat :=
  parseClient .invalidRequest "seat" seat

def parseClientTile (tile : Int) : Except ActionValidationError Tile :=
  parseClient .invalidTile "tile" tile

def parseClientClaimKind (claimKind : Int) : Except ActionValidationError ClaimKind :=
  parseClient .invalidRequest "claim kind" claimKind

def parseClientWinType (winType : Int) : Except ActionValidationError WinType :=
  parseClient .invalidRequest "win type" winType

def parseClientSeatValue (seat : Int) : Except ActionValidationError Int := do
  return ProtoEnum.asI32 (mapSeatToEngine (← parseClientSeat seat))

def parseClientTileValue (tile : Int) : Except ActionValidationError Int := do
  return ProtoEnum.asI32 (mapTileToEngine (← parseClientTile tile))

def parseClientClaimKindValue (claimKind : Int) : Except ActionValidationError Int := do
  return ProtoEnum.asI32 (mapClaimKindToEngine (← parseClientClaimKind claimKind))

def parseClientWinTypeValue (winType : Int) : Except ActionValidationError Int := do
  return ProtoEnum.asI32 (mapWinTypeToEngine (← parseClientWinType winType))

/-- `Result::unwrap_or`. -/
def unwrapOr {Error Value : Type} (result : Except Error Value) (default : Value) : Value :=
  match result with
  | .ok value => value
  | .error _ => default

def deriveClaimTriggerAction (claimKind : Int) : Engine.ActionKind :=
  match unwrapOr (parseClientClaimKind claimKind) .unspecified with
  | .robKongWin => .supplementalKong
  | .unspecified | .chi | .peng | .exposedKong | .discardWin => .discard

def deriveWinTriggerAction (winType : Int) : Engine.ActionKind :=
  match unwrapOr (parseClientWinType winType) .unspecified with
  | .selfDraw => .draw
  | .discard => .discard
  | .robKong => .supplementalKong
  | .kongDraw => .draw
  | .unspecified => .unspecified

def mapValidationRejectCode (rejectCode : Int) : RejectCode :=
  match (ProtoEnum.tryFrom rejectCode).getD Engine.ValidationRejectCode.unspecified with
  | .unspecified => .ruleValidationFailed
  | .invalidContext => .invalidRequest
  | .tileNotOwned | .tileNotAvailable => .invalidTile
  | .meldNotFormable | .handNotComplete | .rulesetViolation => .ruleValidationFailed
  | .actionWindowMismatch => .actionWindowClosed
  | .internalError => .internalError

namespace RoomState

def buildCandidateAction (room : RoomState) (actorSeat : Seat) (action : Action) :
    Except ActionValidationError Engine.Candidate :=
  match action with
  | .discard discard => do
      let tile ← parseClientTileValue discard.tile
      return .discard { tile, tsumogiri := discard.tsumogiri }
  | .claim claim => do
      let claimKind ← parseClientClaimKindValue claim.claimKind
      let targetTile ← parseClientTileValue claim.targetTile
      let consumeTiles ← claim.consumeTiles.mapM parseClientTileValue
      let sourceSeat ← parseClientSeatValue claim.sourceSeat
      return .claim {
        claimKind, targetTile, consumeTiles, sourceSeat
        sourceEventSeq := claim.sourceEventSeq }
  | .declareWin declareWin => do
      let winType ← parseClientWinTypeValue declareWin.winType
      let winningTile ← parseClientTileValue declareWin.winningTile
      let sourceSeat ← parseClientSeatValue declareWin.sourceSeat
      return .declareWin {
        winType, winningTile, sourceSeat
        sourceEventSeq := declareWin.sourceEventSeq }
  | .pass pass => return .pass { sourceEventSeq := pass.sourceEventSeq }
  | .supplementalKong kong => do
      let tile ← parseClientTileValue kong.tile
      return .kong {
        kongKind := ProtoEnum.asI32 Engine.ActionKind.supplementalKong
        tile
        consumeTiles := []
        sourceSeat := ProtoEnum.asI32 (mapSeatToEngine actorSeat)
        sourceEventSeq := room.currentEventSeq }
  | .autoPlayToggle _ =>
      .error ⟨.actionNotAvailable,
        "auto play toggles are handled locally and do not go through the rule engine"⟩

def buildRecentActionContext (room : RoomState) (actorSeat : Seat) (action : Action) :
    Except ActionValidationError (Option Engine.RecentActionContext) :=
  match action with
  | .discard discard => do
      let sourceTile ← parseClientTileValue discard.tile
      return some {
        sourceEventSeq := room.currentEventSeq
        sourceSeat := ProtoEnum.asI32 (mapSeatToEngine actorSeat)
        sourceActionKind := ProtoEnum.asI32 Engine.ActionKind.draw
        sourceTile
        replacementDraw := false
        robKongCandidate := false }
  | .claim claim => do
      let sourceSeat ← parseClientSeatValue claim.sourceSeat
      let sourceTile ← parseClientTileValue claim.targetTile
      let claimKind ← parseClientClaimKind claim.claimKind
      return some {
        sourceEventSeq := claim.sourceEventSeq
        sourceSeat
        sourceActionKind := ProtoEnum.asI32 (deriveClaimTriggerAction claim.claimKind)
        sourceTile
        replacementDraw := false
        robKongCandidate := claimKind == .robKongWin }
  | .declareWin declareWin => do
      let sourceSeat ← parseClientSeatValue declareWin.sourceSeat
      let sourceTile ← parseClientTileValue declareWin.winningTile
      let winType ← parseClientWinType declareWin.winType
      return some {
        sourceEventSeq := declareWin.sourceEventSeq
        sourceSeat
        sourceActionKind := ProtoEnum.asI32 (deriveWinTriggerAction declareWin.winType)
        sourceTile
        replacementDraw := winType == .kongDraw
        robKongCandidate := winType == .robKong }
  | .pass pass => return some {
      sourceEventSeq := pass.sourceEventSeq
      sourceSeat := ProtoEnum.asI32 Engine.Seat.unspecified
      sourceActionKind := ProtoEnum.asI32 Engine.ActionKind.unspecified
      sourceTile := ProtoEnum.asI32 Engine.Tile.unspecified
      replacementDraw := false
      robKongCandidate := false }
  | .supplementalKong kong => do
      let sourceTile ← parseClientTileValue kong.tile
      return some {
        sourceEventSeq := room.currentEventSeq
        sourceSeat := ProtoEnum.asI32 (mapSeatToEngine actorSeat)
        sourceActionKind := ProtoEnum.asI32 Engine.ActionKind.supplementalKong
        sourceTile
        replacementDraw := false
        robKongCandidate := true }
  | .autoPlayToggle _ => return none

def buildClaimWindowContext (room : RoomState) (actorSeat : Seat)
    (request : PlayerActionRequest) (action : Action) :
    Except ActionValidationError (Option Engine.ClaimWindowContext) :=
  if request.actionWindowId = 0 then
    return none
  else
    let window (sourceEventSeq : Nat) (sourceSeat targetTile triggerActionKind : Int) :
        Engine.ClaimWindowContext := {
      actionWindowId := request.actionWindowId
      sourceEventSeq, sourceSeat, targetTile, triggerActionKind
      eligibleSeats := [ProtoEnum.asI32 (mapSeatToEngine actorSeat)] }
    match action with
    | .claim claim => do
        let sourceSeat ← parseClientSeatValue claim.sourceSeat
        let targetTile ← parseClientTileValue claim.targetTile
        return some (window claim.sourceEventSeq sourceSeat targetTile
          (ProtoEnum.asI32 (deriveClaimTriggerAction claim.claimKind)))
    | .declareWin declareWin => do
        let sourceSeat ← parseClientSeatValue declareWin.sourceSeat
        let targetTile ← parseClientTileValue declareWin.winningTile
        return some (window declareWin.sourceEventSeq sourceSeat targetTile
          (ProtoEnum.asI32 (deriveWinTriggerAction declareWin.winType)))
    | .pass pass =>
        return some (window pass.sourceEventSeq
          (ProtoEnum.asI32 Engine.Seat.unspecified)
          (ProtoEnum.asI32 Engine.Tile.unspecified)
          (ProtoEnum.asI32 Engine.ActionKind.unspecified))
    | .discard _ =>
        return some (window room.currentEventSeq
          (ProtoEnum.asI32 (mapSeatToEngine actorSeat))
          (ProtoEnum.asI32 Engine.Tile.unspecified)
          (ProtoEnum.asI32 Engine.ActionKind.draw))
    | .supplementalKong kong => do
        let targetTile ← parseClientTileValue kong.tile
        return some (window room.currentEventSeq
          (ProtoEnum.asI32 (mapSeatToEngine actorSeat)) targetTile
          (ProtoEnum.asI32 Engine.ActionKind.supplementalKong))
    | .autoPlayToggle _ => return none

def buildEngineRuleConfig (room : RoomState) : Engine.RuleConfig where
  rulesetId := room.roomConfig.rulesetId
  seatCount := room.roomConfig.seatCount
  enableFlowerTiles := room.roomConfig.enableFlowerTiles
  enableRobbingKong := room.roomConfig.enableRobbingKong
  enableKongDraw := room.roomConfig.enableKongDraw
  enableLastTileBonus := true
  basePoints := 0

def buildEngineRoundContext (room : RoomState) : Engine.RoundContext where
  prevailingWind := ProtoEnum.asI32 (mapSeatToEngine room.prevailingWind)
  dealerSeat := ProtoEnum.asI32 (mapSeatToEngine room.dealerSeat)
  currentTurnSeat := ProtoEnum.asI32 (mapSeatToEngine room.currentTurnSeat)
  handNumber := room.handNumber
  dealerStreak := room.dealerStreak
  wallTilesRemaining := room.wallTilesRemaining
  deadWallTilesRemaining := room.deadWallTilesRemaining
  replacementDrawPending := false
  isLastTile := decide (room.wallTilesRemaining ≤ 1)

def buildEnginePlayerStates (room : RoomState) : List Engine.EnginePlayerState :=
  (seatOrder.filterMap room.playersBySeat).map fun player => {
    seat := ProtoEnum.asI32 (mapSeatToEngine player.seat)
    currentScore := player.score
    concealedTileCount := 0
    melds := []
    discards := []
    flowers := [] }

def buildValidateActionRequest (room : RoomState) (actorSeat : Seat)
    (request : PlayerActionRequest) :
    Except ActionValidationError Engine.ValidateActionRequest :=
  match request.action with
  | none => .error ⟨.invalidRequest, "player action payload must be set"⟩
  | some action => do
      let candidateAction ← room.buildCandidateAction actorSeat action
      let recentAction ← room.buildRecentActionContext actorSeat action
      let claimWindow ← room.buildClaimWindowContext actorSeat request action
      return {
        roomId := room.roomId
        matchId := room.matchId
        roundId := room.roundId
        serverEventSeq := room.currentEventSeq
        ruleConfig := some room.buildEngineRuleConfig
        roundContext := some room.buildEngineRoundContext
        actorSeat := ProtoEnum.asI32 (mapSeatToEngine actorSeat)
        candidateAction := some { action := some candidateAction }
        recentAction
        players := room.buildEnginePlayerStates
        actorPrivateHand := some {
          concealedTiles := []
          drawnTile := ProtoEnum.asI32 Engine.Tile.unspecified }
        claimWindow }

end RoomState

end GbMahjong.Room
