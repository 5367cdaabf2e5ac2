import GbMahjong.Library.ProtoEnum

/-! The rule-engine protocol: the enumerations and messages of `proto/engine`
that the room builds and the engine adapter reads. proto3 enums are open, so
an enumeration field holds any number. -/

set_option autoImplicit false

namespace GbMahjong.Engine

open GbMahjong.Library

inductive Seat where
  | unspecified | east | south | west | north
  deriving DecidableEq, Repr

instance : NamedProtoEnum Seat where
  values := [
    .unspecified, .east, .south, .west, .north]
  asI32
    | .unspecified => 0 | .east => 1 | .south => 2 | .west => 3 | .north => 4
  complete value := by cases value <;> decide
  distinct := by decide
  asStrName
    | .unspecified => "SEAT_UNSPECIFIED"
    | .east => "SEAT_EAST"
    | .south => "SEAT_SOUTH"
    | .west => "SEAT_WEST"
    | .north => "SEAT_NORTH"

inductive Tile where
  | unspecified | unknown | character1 | character2 | character3 | character4
  | character5 | character6 | character7 | character8 | character9 | bamboo1 | bamboo2
  | bamboo3 | bamboo4 | bamboo5 | bamboo6 | bamboo7 | bamboo8 | bamboo9 | dot1 | dot2
  | dot3 | dot4 | dot5 | dot6 | dot7 | dot8 | dot9 | eastWind | southWind | westWind
  | northWind | redDragon | greenDragon | whiteDragon | flowerPlum | flowerOrchid
  | flowerBamboo | flowerChrysanthemum | seasonSpring | seasonSummer | seasonAutumn
  | seasonWinter
  deriving DecidableEq, Repr

instance : NamedProtoEnum Tile where
  values := [
    .unspecified, .unknown, .character1, .character2, .character3, .character4,
    .character5, .character6, .character7, .character8, .character9, .bamboo1,
    .bamboo2, .bamboo3, .bamboo4, .bamboo5, .bamboo6, .bamboo7, .bamboo8, .bamboo9,
    .dot1, .dot2, .dot3, .dot4, .dot5, .dot6, .dot7, .dot8, .dot9, .eastWind,
    .southWind, .westWind, .northWind, .redDragon, .greenDragon, .whiteDragon,
    .flowerPlum, .flowerOrchid, .flowerBamboo, .flowerChrysanthemum, .seasonSpring,
    .seasonSummer, .seasonAutumn, .seasonWinter]
  asI32
    | .unspecified => 0 | .unknown => 1 | .character1 => 2 | .character2 => 3
    | .character3 => 4 | .character4 => 5 | .character5 => 6 | .character6 => 7
    | .character7 => 8 | .character8 => 9 | .character9 => 10 | .bamboo1 => 11
    | .bamboo2 => 12 | .bamboo3 => 13 | .bamboo4 => 14 | .bamboo5 => 15 | .bamboo6 => 16
    | .bamboo7 => 17 | .bamboo8 => 18 | .bamboo9 => 19 | .dot1 => 20 | .dot2 => 21
    | .dot3 => 22 | .dot4 => 23 | .dot5 => 24 | .dot6 => 25 | .dot7 => 26 | .dot8 => 27
    | .dot9 => 28 | .eastWind => 29 | .southWind => 30 | .westWind => 31
    | .northWind => 32 | .redDragon => 33 | .greenDragon => 34 | .whiteDragon => 35
    | .flowerPlum => 36 | .flowerOrchid => 37 | .flowerBamboo => 38
    | .flowerChrysanthemum => 39 | .seasonSpring => 40 | .seasonSummer => 41
    | .seasonAutumn => 42 | .seasonWinter => 43
  complete value := by cases value <;> decide
  distinct := by decide
  asStrName
    | .unspecified => "TILE_UNSPECIFIED"
    | .unknown => "TILE_UNKNOWN"
    | .character1 => "TILE_CHARACTER_1"
    | .character2 => "TILE_CHARACTER_2"
    | .character3 => "TILE_CHARACTER_3"
    | .character4 => "TILE_CHARACTER_4"
    | .character5 => "TILE_CHARACTER_5"
    | .character6 => "TILE_CHARACTER_6"
    | .character7 => "TILE_CHARACTER_7"
    | .character8 => "TILE_CHARACTER_8"
    | .character9 => "TILE_CHARACTER_9"
    | .bamboo1 => "TILE_BAMBOO_1"
    | .bamboo2 => "TILE_BAMBOO_2"
    | .bamboo3 => "TILE_BAMBOO_3"
    | .bamboo4 => "TILE_BAMBOO_4"
    | .bamboo5 => "TILE_BAMBOO_5"
    | .bamboo6 => "TILE_BAMBOO_6"
    | .bamboo7 => "TILE_BAMBOO_7"
    | .bamboo8 => "TILE_BAMBOO_8"
    | .bamboo9 => "TILE_BAMBOO_9"
    | .dot1 => "TILE_DOT_1"
    | .dot2 => "TILE_DOT_2"
    | .dot3 => "TILE_DOT_3"
    | .dot4 => "TILE_DOT_4"
    | .dot5 => "TILE_DOT_5"
    | .dot6 => "TILE_DOT_6"
    | .dot7 => "TILE_DOT_7"
    | .dot8 => "TILE_DOT_8"
    | .dot9 => "TILE_DOT_9"
    | .eastWind => "TILE_EAST_WIND"
    | .southWind => "TILE_SOUTH_WIND"
    | .westWind => "TILE_WEST_WIND"
    | .northWind => "TILE_NORTH_WIND"
    | .redDragon => "TILE_RED_DRAGON"
    | .greenDragon => "TILE_GREEN_DRAGON"
    | .whiteDragon => "TILE_WHITE_DRAGON"
    | .flowerPlum => "TILE_FLOWER_PLUM"
    | .flowerOrchid => "TILE_FLOWER_ORCHID"
    | .flowerBamboo => "TILE_FLOWER_BAMBOO"
    | .flowerChrysanthemum => "TILE_FLOWER_CHRYSANTHEMUM"
    | .seasonSpring => "TILE_SEASON_SPRING"
    | .seasonSummer => "TILE_SEASON_SUMMER"
    | .seasonAutumn => "TILE_SEASON_AUTUMN"
    | .seasonWinter => "TILE_SEASON_WINTER"

inductive ActionKind where
  | unspecified | draw | discard | chi | peng | exposedKong | concealedKong
  | supplementalKong | declareWin | pass | replaceFlower
  deriving DecidableEq, Repr

instance : NamedProtoEnum ActionKind where
  values := [
    .unspecified, .draw, .discard, .chi, .peng, .exposedKong, .concealedKong,
    .supplementalKong, .declareWin, .pass, .replaceFlower]
  asI32
    | .unspecified => 0 | .draw => 1 | .discard => 2 | .chi => 3 | .peng => 4
    | .exposedKong => 5 | .concealedKong => 6 | .supplementalKong => 7
    | .declareWin => 8 | .pass => 9 | .replaceFlower => 10
  complete value := by cases value <;> decide
  distinct := by decide
  asStrName
    | .unspecified => "ACTION_KIND_UNSPECIFIED"
    | .draw => "ACTION_KIND_DRAW"
    | .discard => "ACTION_KIND_DISCARD"
    | .chi => "ACTION_KIND_CHI"
    | .peng => "ACTION_KIND_PENG"
    | .exposedKong => "ACTION_KIND_EXPOSED_KONG"
    | .concealedKong => "ACTION_KIND_CONCEALED_KONG"
    | .supplementalKong => "ACTION_KIND_SUPPLEMENTAL_KONG"
    | .declareWin => "ACTION_KIND_DECLARE_WIN"
    | .pass => "ACTION_KIND_PASS"
    | .replaceFlower => "ACTION_KIND_REPLACE_FLOWER"

inductive ClaimKind where
  | unspecified | chi | peng | exposedKong | discardWin | robKongWin
  deriving DecidableEq, Repr

instance : NamedProtoEnum ClaimKind where
  values := [
    .unspecified, .chi, .peng, .exposedKong, .discardWin, .robKongWin]
  asI32
    | .unspecified => 0 | .chi => 1 | .peng => 2 | .exposedKong => 3 | .discardWin => 4
    | .robKongWin => 5
  complete value := by cases value <;> decide
  distinct := by decide
  asStrName
    | .unspecified => "CLAIM_KIND_UNSPECIFIED"
    | .chi => "CLAIM_KIND_CHI"
    | .peng => "CLAIM_KIND_PENG"
    | .exposedKong => "CLAIM_KIND_EXPOSED_KONG"
    | .discardWin => "CLAIM_KIND_DISCARD_WIN"
    | .robKongWin => "CLAIM_KIND_ROB_KONG_WIN"

inductive WinType where
  | unspecified | selfDraw | discard | robKong | kongDraw
  deriving DecidableEq, Repr

instance : NamedProtoEnum WinType where
  values := [
    .unspecified, .selfDraw, .discard, .robKong, .kongDraw]
  asI32
    | .unspecified => 0 | .selfDraw => 1 | .discard => 2 | .robKong => 3
    | .kongDraw => 4
  complete value := by cases value <;> decide
  distinct := by decide
  asStrName
    | .unspecified => "WIN_TYPE_UNSPECIFIED"
    | .selfDraw => "WIN_TYPE_SELF_DRAW"
    | .discard => "WIN_TYPE_DISCARD"
    | .robKong => "WIN_TYPE_ROB_KONG"
    | .kongDraw => "WIN_TYPE_KONG_DRAW"

inductive MeldKind where
  | unspecified | chi | peng | exposedKong | concealedKong | supplementalKong
  deriving DecidableEq, Repr

instance : ProtoEnum MeldKind where
  values := [
    .unspecified, .chi, .peng, .exposedKong, .concealedKong, .supplementalKong]
  asI32
    | .unspecified => 0 | .chi => 1 | .peng => 2 | .exposedKong => 3
    | .concealedKong => 4 | .supplementalKong => 5
  complete value := by cases value <;> decide
  distinct := by decide

inductive ValidationRejectCode where
  | unspecified | invalidContext | tileNotOwned | tileNotAvailable | meldNotFormable
  | handNotComplete | rulesetViolation | actionWindowMismatch | internalError
  deriving DecidableEq, Repr

instance : ProtoEnum ValidationRejectCode where
  values := [
    .unspecified, .invalidContext, .tileNotOwned, .tileNotAvailable, .meldNotFormable,
    .handNotComplete, .rulesetViolation, .actionWindowMismatch, .internalError]
  asI32
    | .unspecified => 0 | .invalidContext => 1 | .tileNotOwned => 2
    | .tileNotAvailable => 3 | .meldNotFormable => 4 | .handNotComplete => 5
    | .rulesetViolation => 6 | .actionWindowMismatch => 7 | .internalError => 8
  complete value := by cases value <;> decide
  distinct := by decide

inductive SettlementFlag where
  | unspecified | selfDraw | discardWin | robKongWin | kongDrawWin | lastTileDraw
  | lastTileClaim | drawGame
  deriving DecidableEq, Repr

instance : ProtoEnum SettlementFlag where
  values := [
    .unspecified, .selfDraw, .discardWin, .robKongWin, .kongDrawWin, .lastTileDraw,
    .lastTileClaim, .drawGame]
  asI32
    | .unspecified => 0 | .selfDraw => 1 | .discardWin => 2 | .robKongWin => 3
    | .kongDrawWin => 4 | .lastTileDraw => 5 | .lastTileClaim => 6 | .drawGame => 7
  complete value := by cases value <;> decide
  distinct := by decide

/-! ## Shared messages -/

structure RuleConfig where
  rulesetId : String
  seatCount : Nat
  enableFlowerTiles : Bool
  enableRobbingKong : Bool
  enableKongDraw : Bool
  enableLastTileBonus : Bool
  basePoints : Nat
  deriving DecidableEq, Repr

structure RoundContext where
  prevailingWind : Int
  dealerSeat : Int
  currentTurnSeat : Int
  handNumber : Nat
  dealerStreak : Nat
  wallTilesRemaining : Nat
  deadWallTilesRemaining : Nat
  replacementDrawPending : Bool
  isLastTile : Bool
  deriving DecidableEq, Repr

structure Meld where
  kind : Int
  tiles : List Int
  fromSeat : Int
  claimedTile : Int
  concealed : Bool
  sourceEventSeq : Nat
  deriving DecidableEq, Repr

structure DiscardTile where
  tile : Int
  turnIndex : Nat
  claimed : Bool
  drawnAndDiscarded : Bool
  sourceEventSeq : Nat
  deriving DecidableEq, Repr

structure EnginePlayerState where
  seat : Int
  currentScore : Int
  concealedTileCount : Nat
  melds : List Meld
  discards : List DiscardTile
  flowers : List Int
  deriving DecidableEq, Repr

structure PrivateHandContext where
  concealedTiles : List Int
  drawnTile : Int
  deriving DecidableEq, Repr

structure RecentActionContext where
  sourceEventSeq : Nat
  sourceSeat : Int
  sourceActionKind : Int
  sourceTile : Int
  replacementDraw : Bool
  robKongCandidate : Bool
  deriving DecidableEq, Repr

structure ClaimWindowContext where
  actionWindowId : Nat
  sourceEventSeq : Nat
  sourceSeat : Int
  targetTile : Int
  triggerActionKind : Int
  eligibleSeats : List Int
  deriving DecidableEq, Repr

structure FanDetail where
  fanCode : String
  fanName : String
  fanValue : Nat
  count : Nat
  description : String
  deriving DecidableEq, Repr

/-! ## Candidate actions -/

structure DiscardAction where
  tile : Int
  tsumogiri : Bool
  deriving DecidableEq, Repr

structure ClaimAction where
  claimKind : Int
  targetTile : Int
  consumeTiles : List Int
  sourceSeat : Int
  sourceEventSeq : Nat
  deriving DecidableEq, Repr

structure DeclareWinAction where
  winType : Int
  winningTile : Int
  sourceSeat : Int
  sourceEventSeq : Nat
  deriving DecidableEq, Repr

structure PassAction where
  sourceEventSeq : Nat
  deriving DecidableEq, Repr

structure KongAction where
  kongKind : Int
  tile : Int
  consumeTiles : List Int
  sourceSeat : Int
  sourceEventSeq : Nat
  deriving DecidableEq, Repr

structure ReplaceFlowerAction where
  flowers : List Int
  deriving DecidableEq, Repr

/-- `oneof action` of a `CandidateAction`. -/
inductive Candidate where
  | discard (discard : DiscardAction)
  | claim (claim : ClaimAction)
  | declareWin (declareWin : DeclareWinAction)
  | pass (pass : PassAction)
  | kong (kong : KongAction)
  | replaceFlower (replaceFlower : ReplaceFlowerAction)
  deriving DecidableEq, Repr

structure CandidateAction where
  action : Option Candidate
  deriving DecidableEq, Repr

/-! ## Validation -/

structure ValidateActionRequest where
  roomId : String
  matchId : String
  roundId : String
  serverEventSeq : Nat
  ruleConfig : Option RuleConfig
  roundContext : Option RoundContext
  actorSeat : Int
  candidateAction : Option CandidateAction
  recentAction : Option RecentActionContext
  players : List EnginePlayerState
  actorPrivateHand : Option PrivateHandContext
  claimWindow : Option ClaimWindowContext
  deriving DecidableEq, Repr

structure MeldResult where
  meld : Option Meld
  consumedTiles : List Int
  targetTile : Int
  deriving DecidableEq, Repr

structure WinningContext where
  winType : Int
  winningTile : Int
  completesStandardHand : Bool
  completesSevenPairs : Bool
  completesThirteenOrphans : Bool
  tentativeFanDetails : List FanDetail
  tentativeTotalFan : Nat
  deriving DecidableEq, Repr

structure SuggestedFollowUp where
  actionKind : Int
  claimKind : Int
  tiles : List Int
  deriving DecidableEq, Repr

structure ValidateActionResponse where
  isLegal : Bool
  rejectCode : Int
  derivedActionType : Int
  meldResult : Option MeldResult
  winningContext : Option WinningContext
  suggestedFollowUps : List SuggestedFollowUp
  explanation : String
  deriving DecidableEq, Repr

/-! ## Scoring -/

structure HandSnapshot where
  seat : Int
  concealedTiles : List Int
  melds : List Meld
  flowers : List Int
  currentScore : Int
  winner : Bool
  discarder : Bool
  deriving DecidableEq, Repr

structure CalculateScoreRequest where
  roomId : String
  matchId : String
  roundId : String
  ruleConfig : Option RuleConfig
  roundContext : Option RoundContext
  winType : Int
  winnerSeat : Int
  discarderSeat : Int
  winningTile : Int
  hands : List HandSnapshot
  settlementFlags : List Int
  terminalAction : Option RecentActionContext
  deriving DecidableEq, Repr

structure SeatScoreDelta where
  seat : Int
  delta : Int
  finalTotal : Int
  deriving DecidableEq, Repr

end GbMahjong.Engine
