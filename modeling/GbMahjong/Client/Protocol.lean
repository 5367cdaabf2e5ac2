import GbMahjong.Library.ProtoEnum

/-! The client protocol: the enumerations and messages of `proto/client` that
the room and the gateway read or build. Enumeration fields hold the raw number,
as in the generated code; strings, `uint32` and `uint64` are unbounded here. -/

set_option autoImplicit false

namespace GbMahjong.Client

open GbMahjong.Library

inductive Seat where
  | unspecified | east | south | west | north
  deriving DecidableEq, Repr

instance : NamedProtoEnum Seat where
  values := [
    .unspecified, .east, .south, .west, .north]
  asI32
    | .unspecified => 0 | .east => 1 | .south => 2 | .west => 3 | .north => 4
  complete value := by cases value <;> decide
  distinct := by decide
  asStrName
    | .unspecified => "SEAT_UNSPECIFIED"
    | .east => "SEAT_EAST"
    | .south => "SEAT_SOUTH"
    | .west => "SEAT_WEST"
    | .north => "SEAT_NORTH"

inductive Tile where
  | unspecified | unknown | character1 | character2 | character3 | character4
  | character5 | character6 | character7 | character8 | character9 | bamboo1 | bamboo2
  | bamboo3 | bamboo4 | bamboo5 | bamboo6 | bamboo7 | bamboo8 | bamboo9 | dot1 | dot2
  | dot3 | dot4 | dot5 | dot6 | dot7 | dot8 | dot9 | eastWind | southWind | westWind
  | northWind | redDragon | greenDragon | whiteDragon | flowerPlum | flowerOrchid
  | flowerBamboo | flowerChrysanthemum | seasonSpring | seasonSummer | seasonAutumn
  | seasonWinter
  deriving DecidableEq, Repr

instance : NamedProtoEnum Tile where
  values := [
    .unspecified, .unknown, .character1, .character2, .character3, .character4,
    .character5, .character6, .character7, .character8, .character9, .bamboo1,
    .bamboo2, .bamboo3, .bamboo4, .bamboo5, .bamboo6, .bamboo7, .bamboo8, .bamboo9,
    .dot1, .dot2, .dot3, .dot4, .dot5, .dot6, .dot7, .dot8, .dot9, .eastWind,
    .southWind, .westWind, .northWind, .redDragon, .greenDragon, .whiteDragon,
    .flowerPlum, .flowerOrchid, .flowerBamboo, .flowerChrysanthemum, .seasonSpring,
    .seasonSummer, .seasonAutumn, .seasonWinter]
  asI32
    | .unspecified => 0 | .unknown => 1 | .character1 => 2 | .character2 => 3
    | .character3 => 4 | .character4 => 5 | .character5 => 6 | .character6 => 7
    | .character7 => 8 | .character8 => 9 | .character9 => 10 | .bamboo1 => 11
    | .bamboo2 => 12 | .bamboo3 => 13 | .bamboo4 => 14 | .bamboo5 => 15 | .bamboo6 => 16
    | .bamboo7 => 17 | .bamboo8 => 18 | .bamboo9 => 19 | .dot1 => 20 | .dot2 => 21
    | .dot3 => 22 | .dot4 => 23 | .dot5 => 24 | .dot6 => 25 | .dot7 => 26 | .dot8 => 27
    | .dot9 => 28 | .eastWind => 29 | .southWind => 30 | .westWind => 31
    | .northWind => 32 | .redDragon => 33 | .greenDragon => 34 | .whiteDragon => 35
    | .flowerPlum => 36 | .flowerOrchid => 37 | .flowerBamboo => 38
    | .flowerChrysanthemum => 39 | .seasonSpring => 40 | .seasonSummer => 41
    | .seasonAutumn => 42 | .seasonWinter => 43
  complete value := by cases value <;> decide
  distinct := by decide
  asStrName
    | .unspecified => "TILE_UNSPECIFIED"
    | .unknown => "TILE_UNKNOWN"
    | .character1 => "TILE_CHARACTER_1"
    | .character2 => "TILE_CHARACTER_2"
    | .character3 => "TILE_CHARACTER_3"
    | .character4 => "TILE_CHARACTER_4"
    | .character5 => "TILE_CHARACTER_5"
    | .character6 => "TILE_CHARACTER_6"
    | .character7 => "TILE_CHARACTER_7"
    | .character8 => "TILE_CHARACTER_8"
    | .character9 => "TILE_CHARACTER_9"
    | .bamboo1 => "TILE_BAMBOO_1"
    | .bamboo2 => "TILE_BAMBOO_2"
    | .bamboo3 => "TILE_BAMBOO_3"
    | .bamboo4 => "TILE_BAMBOO_4"
    | .bamboo5 => "TILE_BAMBOO_5"
    | .bamboo6 => "TILE_BAMBOO_6"
    | .bamboo7 => "TILE_BAMBOO_7"
    | .bamboo8 => "TILE_BAMBOO_8"
    | .bamboo9 => "TILE_BAMBOO_9"
    | .dot1 => "TILE_DOT_1"
    | .dot2 => "TILE_DOT_2"
    | .dot3 => "TILE_DOT_3"
    | .dot4 => "TILE_DOT_4"
    | .dot5 => "TILE_DOT_5"
    | .dot6 => "TILE_DOT_6"
    | .dot7 => "TILE_DOT_7"
    | .dot8 => "TILE_DOT_8"
    | .dot9 => "TILE_DOT_9"
    | .eastWind => "TILE_EAST_WIND"
    | .southWind => "TILE_SOUTH_WIND"
    | .westWind => "TILE_WEST_WIND"
    | .northWind => "TILE_NORTH_WIND"
    | .redDragon => "TILE_RED_DRAGON"
    | .greenDragon => "TILE_GREEN_DRAGON"
    | .whiteDragon => "TILE_WHITE_DRAGON"
    | .flowerPlum => "TILE_FLOWER_PLUM"
    | .flowerOrchid => "TILE_FLOWER_ORCHID"
    | .flowerBamboo => "TILE_FLOWER_BAMBOO"
    | .flowerChrysanthemum => "TILE_FLOWER_CHRYSANTHEMUM"
    | .seasonSpring => "TILE_SEASON_SPRING"
    | .seasonSummer => "TILE_SEASON_SUMMER"
    | .seasonAutumn => "TILE_SEASON_AUTUMN"
    | .seasonWinter => "TILE_SEASON_WINTER"

inductive GamePhase where
  | unspecified | lobby | dealing | replacingFlower | drawing | waitingDiscard
  | waitingClaim | resolvingKong | roundSettlement | matchSettlement
  deriving DecidableEq, Repr

instance : ProtoEnum GamePhase where
  values := [
    .unspecified, .lobby, .dealing, .replacingFlower, .drawing, .waitingDiscard,
    .waitingClaim, .resolvingKong, .roundSettlement, .matchSettlement]
  asI32
    | .unspecified => 0 | .lobby => 1 | .dealing => 2 | .replacingFlower => 3
    | .drawing => 4 | .waitingDiscard => 5 | .waitingClaim => 6 | .resolvingKong => 7
    | .roundSettlement => 8 | .matchSettlement => 9
  complete value := by cases value <;> decide
  distinct := by decide

inductive PlayerStatus where
  | unspecified | joined | ready | playing | disconnected | reconnecting | autoPlay
  | left
  deriving DecidableEq, Repr

instance : ProtoEnum PlayerStatus where
  values := [
    .unspecified, .joined, .ready, .playing, .disconnected, .reconnecting, .autoPlay,
    .left]
  asI32
    | .unspecified => 0 | .joined => 1 | .ready => 2 | .playing => 3
    | .disconnected => 4 | .reconnecting => 5 | .autoPlay => 6 | .left => 7
  complete value := by cases value <;> decide
  distinct := by decide

inductive ClaimKind where
  | unspecified | chi | peng | exposedKong | discardWin | robKongWin
  deriving DecidableEq, Repr

instance : NamedProtoEnum ClaimKind where
  values := [
    .unspecified, .chi, .peng, .exposedKong, .discardWin, .robKongWin]
  asI32
    | .unspecified => 0 | .chi => 1 | .peng => 2 | .exposedKong => 3 | .discardWin => 4
    | .robKongWin => 5
  complete value := by cases value <;> decide
  distinct := by decide
  asStrName
    | .unspecified => "CLAIM_KIND_UNSPECIFIED"
    | .chi => "CLAIM_KIND_CHI"
    | .peng => "CLAIM_KIND_PENG"
    | .exposedKong => "CLAIM_KIND_EXPOSED_KONG"
    | .discardWin => "CLAIM_KIND_DISCARD_WIN"
    | .robKongWin => "CLAIM_KIND_ROB_KONG_WIN"

inductive WinType where
  | unspecified | selfDraw | discard | robKong | kongDraw
  deriving DecidableEq, Repr

instance : NamedProtoEnum WinType where
  values := [
    .unspecified, .selfDraw, .discard, .robKong, .kongDraw]
  asI32
    | .unspecified => 0 | .selfDraw => 1 | .discard => 2 | .robKong => 3
    | .kongDraw => 4
  complete value := by cases value <;> decide
  distinct := by decide
  asStrName
    | .unspecified => "WIN_TYPE_UNSPECIFIED"
    | .selfDraw => "WIN_TYPE_SELF_DRAW"
    | .discard => "WIN_TYPE_DISCARD"
    | .robKong => "WIN_TYPE_ROB_KONG"
    | .kongDraw => "WIN_TYPE_KONG_DRAW"

inductive RejectCode where
  | unspecified | invalidRequest | authFailed | roomNotFound | matchAlreadyStarted
  | seatUnavailable | alreadyJoined | notInRoom | phaseMismatch | notYourTurn
  | actionWindowClosed | staleEventSeq | invalidTile | actionNotAvailable
  | ruleValidationFailed | internalError
  deriving DecidableEq, Repr

instance : ProtoEnum RejectCode where
  values := [
    .unspecified, .invalidRequest, .authFailed, .roomNotFound, .matchAlreadyStarted,
    .seatUnavailable, .alreadyJoined, .notInRoom, .phaseMismatch, .notYourTurn,
    .actionWindowClosed, .staleEventSeq, .invalidTile, .actionNotAvailable,
    .ruleValidationFailed, .internalError]
  asI32
    | .unspecified => 0 | .invalidRequest => 1 | .authFailed => 2 | .roomNotFound => 3
    | .matchAlreadyStarted => 4 | .seatUnavailable => 5 | .alreadyJoined => 6
    | .notInRoom => 7 | .phaseMismatch => 8 | .notYourTurn => 9
    | .actionWindowClosed => 10 | .staleEventSeq => 11 | .invalidTile => 12
    | .actionNotAvailable => 13 | .ruleValidationFailed => 14 | .internalError => 15
  complete value := by cases value <;> decide
  distinct := by decide

inductive SyncReason where
  | unspecified | initialJoin | reconnect | serverResync | roundStart
  deriving DecidableEq, Repr

instance : ProtoEnum SyncReason where
  values := [
    .unspecified, .initialJoin, .reconnect, .serverResync, .roundStart]
  asI32
    | .unspecified => 0 | .initialJoin => 1 | .reconnect => 2 | .serverResync => 3
    | .roundStart => 4
  complete value := by cases value <;> decide
  distinct := by decide

/-! ## Shared messages -/

structure RoomConfig where
  rulesetId : String
  seatCount : Nat
  enableFlowerTiles : Bool
  enableRobbingKong : Bool
  enableKongDraw : Bool
  reconnectGraceSeconds : Nat
  actionTimeoutMs : Nat
  deriving DecidableEq, Repr

structure Meld where
  kind : Int
  tiles : List Int
  fromSeat : Int
  claimedTile : Int
  concealed : Bool
  sourceEventSeq : Nat
  deriving DecidableEq, Repr

structure DiscardTile where
  tile : Int
  turnIndex : Nat
  claimed : Bool
  drawnAndDiscarded : Bool
  sourceEventSeq : Nat
  deriving DecidableEq, Repr

structure PlayerState where
  userId : String
  displayName : String
  seat : Int
  status : Int
  score : Int
  isDealer : Bool
  isConnected : Bool
  autoPlayEnabled : Bool
  concealedTileCount : Nat
  melds : List Meld
  discards : List DiscardTile
  flowers : List Int
  replacementDrawCount : Nat
  deriving DecidableEq, Repr

structure SelfHandState where
  concealedTiles : List Int
  drawnTile : Int
  deriving DecidableEq, Repr

structure PromptOption where
  optionId : String
  actionKind : Int
  claimKind : Int
  winType : Int
  candidateTiles : List Int
  consumeTiles : List Int
  deriving DecidableEq, Repr

structure ClaimWindow where
  actionWindowId : Nat
  sourceEventSeq : Nat
  sourceSeat : Int
  targetTile : Int
  triggerActionKind : Int
  eligibleSeats : List Int
  options : List PromptOption
  deadlineUnixMs : Nat
  deriving DecidableEq, Repr

structure GameSnapshot where
  roomConfig : Option RoomConfig
  phase : Int
  selfSeat : Int
  prevailingWind : Int
  dealerSeat : Int
  currentTurnSeat : Int
  handNumber : Nat
  dealerStreak : Nat
  wallTilesRemaining : Nat
  deadWallTilesRemaining : Nat
  latestEventSeq : Nat
  players : List PlayerState
  selfHand : Option SelfHandState
  activeClaimWindow : Option ClaimWindow
  actionDeadlineUnixMs : Nat
  deriving DecidableEq, Repr

structure SyncState where
  roomId : String
  matchId : String
  roundId : String
  reason : Int
  serverTimeMs : Nat
  snapshot : Option GameSnapshot
  deriving DecidableEq, Repr

/-! ## Requests -/

structure JoinRoomRequest where
  roomId : String
  userId : String
  sessionToken : String
  displayName : String
  clientVersion : String
  deriving DecidableEq, Repr

structure ReadyRequest where
  ready : Bool
  deriving DecidableEq, Repr

structure Heartbeat where
  clientTimeMs : Nat
  lastReceivedEventSeq : Nat
  deriving DecidableEq, Repr

structure ResumeSessionRequest where
  roomId : String
  userId : String
  resumeToken : String
  lastReceivedEventSeq : Nat
  deriving DecidableEq, Repr

structure DiscardAction where
  tile : Int
  tsumogiri : Bool
  deriving DecidableEq, Repr

structure ClaimAction where
  claimKind : Int
  targetTile : Int
  consumeTiles : List Int
  sourceSeat : Int
  sourceEventSeq : Nat
  deriving DecidableEq, Repr

structure DeclareWinAction where
  winType : Int
  winningTile : Int
  sourceSeat : Int
  sourceEventSeq : Nat
  deriving DecidableEq, Repr

structure PassAction where
  sourceEventSeq : Nat
  deriving DecidableEq, Repr

structure SupplementalKongAction where
  tile : Int
  deriving DecidableEq, Repr

structure AutoPlayToggleAction where
  enabled : Bool
  deriving DecidableEq, Repr

/-- `oneof action` of a `PlayerActionRequest`. -/
inductive Action where
  | discard (discard : DiscardAction)
  | claim (claim : ClaimAction)
  | declareWin (declareWin : DeclareWinAction)
  | pass (pass : PassAction)
  | supplementalKong (kong : SupplementalKongAction)
  | autoPlayToggle (toggle : AutoPlayToggleAction)
  deriving DecidableEq, Repr

structure PlayerActionRequest where
  roomId : String
  matchId : String
  roundId : String
  expectedEventSeq : Nat
  actionWindowId : Nat
  action : Option Action
  deriving DecidableEq, Repr

/-- `oneof payload` of a `ClientFrame`. -/
inductive ClientPayload where
  | joinRoom (request : JoinRoomRequest)
  | ready (request : ReadyRequest)
  | heartbeat (heartbeat : Heartbeat)
  | resumeSession (request : ResumeSessionRequest)
  | playerAction (request : PlayerActionRequest)
  deriving DecidableEq, Repr

structure ClientFrame where
  requestId : String
  payload : Option ClientPayload
  deriving DecidableEq, Repr

/-! ## Responses -/

structure JoinRoomResponse where
  requestId : String
  accepted : Bool
  rejectCode : Int
  roomId : String
  matchId : String
  seat : Int
  connectionId : String
  resumeToken : String
  roomConfig : Option RoomConfig
  message : String
  latestEventSeq : Nat
  deriving DecidableEq, Repr

structure ActionRejected where
  requestId : String
  rejectCode : Int
  message : String
  expectedEventSeq : Nat
  actualEventSeq : Nat
  actionWindowId : Nat
  deriving DecidableEq, Repr

structure PlayerConnectionChanged where
  roomId : String
  matchId : String
  userId : String
  seat : Int
  status : Int
  connected : Bool
  reconnectDeadlineUnixMs : Nat
  deriving DecidableEq, Repr

structure Pong where
  requestId : String
  serverTimeMs : Nat
  echoedClientTimeMs : Nat
  latestEventSeq : Nat
  deriving DecidableEq, Repr

/-- The cases of `oneof payload` of a `ServerFrame` that the server builds;
broadcasts, prompts and settlements are declared in the proto only. -/
inductive ServerPayload where
  | joinRoom (response : JoinRoomResponse)
  | syncState (sync : SyncState)
  | actionRejected (rejected : ActionRejected)
  | playerConnectionChanged (changed : PlayerConnectionChanged)
  | pong (pong : Pong)
  deriving DecidableEq, Repr

/-- Every frame the server sends has its payload set. -/
structure ServerFrame where
  eventSeq : Nat
  payload : ServerPayload
  deriving DecidableEq, Repr

end GbMahjong.Client
