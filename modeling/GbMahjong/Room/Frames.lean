import GbMahjong.Room.State

/-! The frames a room builds. The clock reading is an argument. -/

set_option autoImplicit false

namespace GbMahjong.Room

open GbMahjong.Library GbMahjong.Client

def buildJoinRoomResponse (eventSeq : Nat) (requestId : String) (accepted : Bool)
    (rejectCode : RejectCode) (roomId matchId : String) (seat : Seat)
    (connectionId resumeToken : String) (roomConfig : Option RoomConfig)
    (message : String) : ServerFrame where
  eventSeq := eventSeq
  payload := .joinRoom {
    requestId := requestId
    accepted := accepted
    rejectCode := ProtoEnum.asI32 rejectCode
    roomId := roomId
    matchId := matchId
    seat := ProtoEnum.asI32 seat
    connectionId := connectionId
    resumeToken := resumeToken
    roomConfig := roomConfig
    message := message
    latestEventSeq := eventSeq }

def buildPlayerConnectionChanged (eventSeq : Nat) (roomId matchId userId : String)
    (seat : Seat) (status : PlayerStatus) (connected : Bool) (unixTimeMs : Nat) :
    ServerFrame where
  eventSeq := eventSeq
  payload := .playerConnectionChanged {
    roomId := roomId
    matchId := matchId
    userId := userId
    seat := ProtoEnum.asI32 seat
    status := ProtoEnum.asI32 status
    connected := connected
    reconnectDeadlineUnixMs :=
      if connected then 0 else unixTimeMs + reconnectGraceMs }

def buildActionRejected (eventSeq : Nat) (requestId : String) (rejectCode : RejectCode)
    (message : String) (expectedEventSeq actionWindowId : Nat) : ServerFrame where
  eventSeq := eventSeq
  payload := .actionRejected {
    requestId := requestId
    rejectCode := ProtoEnum.asI32 rejectCode
    message := message
    expectedEventSeq := expectedEventSeq
    actualEventSeq := eventSeq
    actionWindowId := actionWindowId }

namespace RoomState

def playerState (room : RoomState) (player : PlayerSlot) : PlayerState where
  userId := player.userId
  displayName := player.displayName
  seat := ProtoEnum.asI32 player.seat
  status := ProtoEnum.asI32 player.status
  score := player.score
  isDealer := player.seat == room.dealerSeat
  isConnected := player.connected
  autoPlayEnabled := player.autoPlayEnabled
  concealedTileCount := 0
  melds := []
  discards := []
  flowers := []
  replacementDrawCount := 0

def buildSyncStateFor (room : RoomState) (recipientSeat : Seat) (eventSeq : Nat)
    (reason : SyncReason) (unixTimeMs : Nat) : ServerFrame where
  eventSeq := eventSeq
  payload := .syncState {
    roomId := room.roomId
    matchId := room.matchId
    roundId := room.roundId
    reason := ProtoEnum.asI32 reason
    serverTimeMs := unixTimeMs
    snapshot := some {
      roomConfig := some room.roomConfig
      phase := ProtoEnum.asI32 room.phase
      selfSeat := ProtoEnum.asI32 recipientSeat
      prevailingWind := ProtoEnum.asI32 room.prevailingWind
      dealerSeat := ProtoEnum.asI32 room.dealerSeat
      currentTurnSeat := ProtoEnum.asI32 room.currentTurnSeat
      handNumber := room.handNumber
      dealerStreak := room.dealerStreak
      wallTilesRemaining := room.wallTilesRemaining
      deadWallTilesRemaining := room.deadWallTilesRemaining
      latestEventSeq := eventSeq
      players := (seatOrder.filterMap room.playersBySeat).map room.playerState
      selfHand := some {
        concealedTiles := []
        drawnTile := ProtoEnum.asI32 Tile.unspecified }
      activeClaimWindow := none
      actionDeadlineUnixMs := 0 } }

end RoomState

end GbMahjong.Room
