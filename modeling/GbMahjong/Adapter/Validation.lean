import GbMahjong.Adapter.Scoring

/-! `GbMahjongAdapter::ValidateAction` and the copy of its outcome into the
response. The try block writes the outcome as it goes and the handler repairs a
part of it, so an exception carries the outcome that was written so far. -/

set_option autoImplicit false

namespace GbMahjong.Adapter

open GbMahjong.Library GbMahjong.Library.Checked GbMahjong.Mahjong GbMahjong.Engine
open GbMahjong.Library.ProtoEnum (asI32)

/-! ## Request accessors -/

def isBlank (value : String) : Bool := value.isEmpty

def defaultCandidateAction : CandidateAction := ⟨none⟩

def candidateActionOf (request : ValidateActionRequest) : CandidateAction :=
  request.candidateAction.getD defaultCandidateAction

/-- The seat and, where a player of the request sits there, that player's state. -/
def findActorSeat (request : ValidateActionRequest) : Int × Option EnginePlayerState :=
  match request.players.find? fun player => player.seat == request.actorSeat with
  | some player => (player.seat, some player)
  | none => (request.actorSeat, none)

/-! ## The candidate -/

def isWinningClaimKind (claimKind : Int) : Bool :=
  claimKind == asI32 ClaimKind.discardWin || claimKind == asI32 ClaimKind.robKongWin

def isWinningAction (candidateAction : CandidateAction) : Bool :=
  match candidateAction.action with
  | some (.declareWin _) => true
  | some (.claim claim) => isWinningClaimKind claim.claimKind
  | _ => false

def extractWinType (candidateAction : CandidateAction) : Checked Int :=
  match candidateAction.action with
  | some (.declareWin declareWin) => .ok declareWin.winType
  | some (.claim claim) =>
      if claim.claimKind = asI32 ClaimKind.robKongWin then
        .ok (asI32 WinType.robKong)
      else if claim.claimKind = asI32 ClaimKind.discardWin then
        .ok (asI32 WinType.discard)
      else
        invalidArgument "candidate action is not a winning action"
  | _ => invalidArgument "candidate action is not a winning action"

def extractWinningTile (candidateAction : CandidateAction) : Checked Int :=
  match candidateAction.action with
  | some (.declareWin declareWin) => .ok declareWin.winningTile
  | some (.claim claim) => .ok claim.targetTile
  | _ => invalidArgument "candidate action does not carry a winning tile"

def deduceActionKind (candidateAction : CandidateAction) : Int :=
  match candidateAction.action with
  | some (.discard _) => asI32 ActionKind.discard
  | some (.claim claim) =>
      match (ProtoEnum.tryFrom claim.claimKind : Option ClaimKind) with
      | some .chi => asI32 ActionKind.chi
      | some .peng => asI32 ActionKind.peng
      | some .exposedKong => asI32 ActionKind.exposedKong
      | some .discardWin | some .robKongWin => asI32 ActionKind.declareWin
      | _ => asI32 ActionKind.unspecified
  | some (.declareWin _) => asI32 ActionKind.declareWin
  | some (.pass _) => asI32 ActionKind.pass
  | some (.kong kong) => kong.kongKind
  | some (.replaceFlower _) => asI32 ActionKind.replaceFlower
  | none => asI32 ActionKind.unspecified

def deduceMeldKind (claimAction : ClaimAction) : Int :=
  match (ProtoEnum.tryFrom claimAction.claimKind : Option ClaimKind) with
  | some .chi => asI32 MeldKind.chi
  | some .peng => asI32 MeldKind.peng
  | some .exposedKong => asI32 MeldKind.exposedKong
  | _ => asI32 MeldKind.unspecified

/-! ## The winning hand -/

/-- A drawn win is evaluated on the drawn tile, the others on the tile named. -/
def lastTileOf (candidateAction : CandidateAction) (winType : Int)
    (privateHand : PrivateHandContext) : Checked Int :=
  if isDrawnWin winType then .ok privateHand.drawnTile
  else extractWinningTile candidateAction

/-- `AddLipaiTile` on a tile of the request. -/
def addConcealedTile (handtiles : Handtiles) (tile : Int) : Checked Handtiles := do
  .ok (addLipaiTile handtiles (← protoTileToMahjongTile tile))

/-- The builder once the actor and the private hand are found. -/
def buildActorHandtiles (request : ValidateActionRequest) (actorState : EnginePlayerState)
    (privateHand : PrivateHandContext) : Checked Handtiles := do
  let roundContext := request.roundContext.getD defaultRoundContext
  let candidateAction := candidateActionOf request
  let quanfeng ← protoSeatToMahjongWind roundContext.prevailingWind
  let menfeng ← protoSeatToMahjongWind request.actorSeat
  let winType ← extractWinType candidateAction
  let handtiles := { seedHandtilesTables .new with
    quanfeng
    menfeng
    zimo := isDrawnWin winType
    juezhang := false
    haidi := roundContext.isLastTile
    gang := isKongWin winType }
  let handtiles ← actorState.melds.foldlM (addMeld request.actorSeat) handtiles
  let handtiles ← actorState.flowers.foldlM addFlower handtiles
  let handtiles ← privateHand.concealedTiles.foldlM addConcealedTile handtiles
  let lastTile ← lastTileOf candidateAction winType privateHand
  let handtiles ← addConcealedTile handtiles lastTile
  if handtiles.fulu.length * 3 + handtiles.lipai.length ≠ 14 then
    invalidArgument "winning validation requires a complete 14-tile hand snapshot"
  else
    .ok (finishLipai handtiles)

def buildWinningHandtilesForValidation (request : ValidateActionRequest) :
    Checked Handtiles :=
  match (findActorSeat request).2, request.actorPrivateHand with
  | none, _ => invalidArgument "players must contain the actor seat state"
  | some _, none => invalidArgument "actor_private_hand must be present"
  | some actorState, some privateHand => buildActorHandtiles request actorState privateHand

def hasFan (fan : Fan) (fanIndex : Nat) : Bool :=
  !(fan.fanTableRes fanIndex).isEmpty

def buildWinningContext (candidateAction : CandidateAction) (fan : Fan) :
    Checked WinningContext := do
  let winType ← extractWinType candidateAction
  let winningTile ← extractWinningTile candidateAction
  let completesSevenPairs := hasFan fan fanQidui || hasFan fan fanLianqidui
  let completesThirteenOrphans := hasFan fan fanShisanyao
  .ok {
    winType
    winningTile
    completesStandardHand := !completesSevenPairs && !completesThirteenOrphans &&
      !hasFan fan fanQixingbukao && !hasFan fan fanQuanbukao
    completesSevenPairs
    completesThirteenOrphans
    tentativeFanDetails := populateFanDetails fan
    tentativeTotalFan := fan.totFanRes }

/-! ## The outcome -/

structure ValidateOutcome where
  legal : Bool
  rejectCode : Int
  derivedActionType : Int
  explanation : String
  meldResult : Option MeldResult
  winningContext : Option WinningContext
  followUps : List SuggestedFollowUp
  deriving DecidableEq, Repr

def ValidateOutcome.new : ValidateOutcome where
  legal := false
  rejectCode := asI32 ValidationRejectCode.unspecified
  derivedActionType := asI32 ActionKind.unspecified
  explanation := ""
  meldResult := none
  winningContext := none
  followUps := []

/-- A failure on its way out of the try block, with the outcome at that moment. -/
structure Thrown where
  failure : Failure
  outcome : ValidateOutcome
  deriving DecidableEq, Repr

/-- The checks that every candidate has to pass. -/
def checkRequest (request : ValidateActionRequest) : Checked CandidateAction :=
  if isBlank request.roomId || isBlank request.matchId || isBlank request.roundId then
    invalidArgument "room_id, match_id, and round_id must all be present"
  else
    match request.ruleConfig, request.roundContext, request.candidateAction with
    | some _, some _, some candidateAction =>
        if request.actorSeat = asI32 Seat.unspecified then
          invalidArgument "actor_seat must not be unspecified"
        else
          match candidateAction.action with
          | none => invalidArgument "candidate_action.action must be set"
          | some _ => .ok candidateAction
    | _, _, _ =>
        invalidArgument "rule_config, round_context, and candidate_action are required"

/-- The winning branch of the try block. -/
def validateWinningAction (library : FanLibrary) (request : ValidateActionRequest)
    (candidateAction : CandidateAction) (outcome : ValidateOutcome) :
    Except Thrown ValidateOutcome :=
  match buildWinningHandtilesForValidation request with
  | .error failure => .error ⟨failure, outcome⟩
  | .ok handtiles =>
      let legal := library.judgeHu handtiles
      let outcome := { outcome with
        legal
        derivedActionType := asI32 ActionKind.declareWin }
      if legal then
        match buildWinningContext candidateAction (library.countFan handtiles) with
        | .error failure => .error ⟨failure, outcome⟩
        | .ok winningContext => .ok { outcome with
            winningContext := some winningContext
            explanation :=
              "winning action validated by GB-Mahjong using real hand evaluation" }
      else
        .ok { outcome with
          rejectCode := asI32 ValidationRejectCode.handNotComplete
          explanation := "GB-Mahjong judged the candidate winning hand as incomplete" }

/-- The meld of a claim that is not a win, as the claim names it. -/
def claimMeldResult (claim : ClaimAction) : MeldResult where
  meld := some {
    kind := deduceMeldKind claim
    tiles := claim.consumeTiles ++ [claim.targetTile]
    fromSeat := claim.sourceSeat
    claimedTile := claim.targetTile
    concealed := false
    sourceEventSeq := claim.sourceEventSeq }
  consumedTiles := claim.consumeTiles
  targetTile := claim.targetTile

/-- The rest of the try block, for candidates that are no win. -/
def validateOtherAction (candidateAction : CandidateAction) (outcome : ValidateOutcome) :
    ValidateOutcome :=
  let outcome := { outcome with explanation :=
    "GB-Mahjong does not expose a full action-window legality API; non-winning actions remain state-machine validated" }
  match candidateAction.action with
  | some (.claim claim) =>
      if isWinningClaimKind claim.claimKind then outcome
      else { outcome with meldResult := some (claimMeldResult claim) }
  | _ => outcome

def tryBlock (library : FanLibrary) (request : ValidateActionRequest) :
    Except Thrown ValidateOutcome :=
  match checkRequest request with
  | .error failure => .error ⟨failure, .new⟩
  | .ok candidateAction =>
      let outcome := { ValidateOutcome.new with
        legal := true
        derivedActionType := deduceActionKind candidateAction }
      if isWinningAction candidateAction then
        validateWinningAction library request candidateAction outcome
      else
        .ok (validateOtherAction candidateAction outcome)

/-- The handler resets the verdict and leaves the other fields as they are. -/
def validateAction (library : FanLibrary) (request : ValidateActionRequest) :
    Checked ValidateOutcome :=
  match tryBlock library request with
  | .ok outcome => .ok outcome
  | .error ⟨.invalidArgument what, outcome⟩ => .ok { outcome with
      legal := false
      rejectCode := asI32 ValidationRejectCode.invalidContext
      explanation := what }
  | .error ⟨.undefinedBehavior, _⟩ => .error .undefinedBehavior

/-- `RuleEngineServiceImpl::ValidateAction`, without its log line. -/
def serveValidateAction (library : FanLibrary) (request : ValidateActionRequest) :
    Checked ValidateActionResponse := do
  let outcome ← validateAction library request
  .ok {
    isLegal := outcome.legal
    rejectCode := outcome.rejectCode
    derivedActionType := outcome.derivedActionType
    meldResult := outcome.meldResult
    winningContext := outcome.winningContext
    suggestedFollowUps := outcome.followUps
    explanation := outcome.explanation }

end GbMahjong.Adapter
