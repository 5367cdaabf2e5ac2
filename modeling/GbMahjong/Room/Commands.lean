import GbMahjong.Library.Machine
import GbMahjong.Room.EngineRequest
import GbMahjong.Room.Frames
import Mathlib.Logic.Function.Basic

/-! The command handlers of the room task. A handler returns the next state and
the effects it has on the way, in order. -/

set_option autoImplicit false

namespace GbMahjong.Room

open GbMahjong.Library GbMahjong.Client

def PlayerSlot.reboundTo (player : PlayerSlot) (connection : ConnectionHandle) :
    PlayerSlot :=
  { player with
    connectionId := some connection.connectionId
    connected := true
    outboundTx := some connection.outboundTx }

def PlayerSlot.released (player : PlayerSlot) : PlayerSlot :=
  { player with connected := false, connectionId := none, outboundTx := none }

namespace RoomState

/-! ## Sending -/

def broadcastSyncState (room : RoomState) (reason : SyncReason) (around : Surroundings) :
    RoomState × List Effect :=
  let eventSeq := room.allocateEventSeq.1
  let room := room.allocateEventSeq.2
  (room, seatOrder.filterMap fun seat =>
    match room.playersBySeat seat with
    | none => none
    | some player =>
        if !player.connected then none
        else player.outboundTx.map fun outboundTx =>
          .send ⟨.slot seat, outboundTx,
            room.buildSyncStateFor seat eventSeq reason (around.syncTimeMs seat)⟩)

def broadcastConnectionChanged (room : RoomState) (seat : Seat) (connected : Bool)
    (around : Surroundings) : RoomState × List Effect :=
  match room.playersBySeat seat with
  | none => (room, [])
  | some changed =>
      let eventSeq := room.allocateEventSeq.1
      let room := room.allocateEventSeq.2
      let frame := buildPlayerConnectionChanged eventSeq room.roomId room.matchId
        changed.userId seat changed.status connected around.changedTimeMs
      (room, around.slotOrder.seats.filterMap fun target =>
        match room.playersBySeat target with
        | none => none
        | some player =>
            if !player.connected then none
            else player.outboundTx.map fun outboundTx =>
              .send ⟨.slot target, outboundTx, frame⟩)

/-- The reject goes to the channel of the slot that the connection maps to, not
to the connection itself. -/
def sendRejectToConnection (room : RoomState) (connectionId requestId : String)
    (rejectCode : RejectCode) (message : String)
    (expectedEventSeq actionWindowId : Nat) : RoomState × List Effect :=
  match room.connectionToUser connectionId with
  | none => (room, [])
  | some userId =>
      match room.userToSeat userId with
      | none => (room, [])
      | some seat =>
          match (room.playersBySeat seat).bind (·.outboundTx) with
          | none => (room, [])
          | some outboundTx =>
              let eventSeq := room.allocateEventSeq.1
              let room := room.allocateEventSeq.2
              (room, [.send ⟨.slot seat, outboundTx,
                buildActionRejected eventSeq requestId rejectCode message
                  expectedEventSeq actionWindowId⟩])

/-! ## Bookkeeping -/

def setPlayer (room : RoomState) (seat : Seat) (player : PlayerSlot) : RoomState :=
  { room with playersBySeat := Function.update room.playersBySeat seat (some player) }

def resumeToken (room : RoomState) (userId : String) : String :=
  s!"resume-{room.roomId}-{userId}"

def joinedPlayer (room : RoomState) (seat : Seat) (connection : ConnectionHandle)
    (request : JoinRoomRequest) : PlayerSlot where
  userId := request.userId
  displayName := request.displayName
  seat := seat
  status := .joined
  score := initialScore
  connected := true
  autoPlayEnabled := false
  connectionId := some connection.connectionId
  outboundTx := some connection.outboundTx
  resumeToken := room.resumeToken request.userId

/-- The three insertions of an accepted join. -/
def seatPlayer (room : RoomState) (seat : Seat) (connection : ConnectionHandle)
    (request : JoinRoomRequest) : RoomState :=
  { room with
    connectionToUser := Function.update room.connectionToUser connection.connectionId
      (some request.userId)
    userToSeat := Function.update room.userToSeat request.userId (some seat)
    playersBySeat := Function.update room.playersBySeat seat
      (some (room.joinedPlayer seat connection request)) }

def setReady (room : RoomState) (seat : Seat) (ready : Bool) : RoomState :=
  match room.playersBySeat seat with
  | none => room
  | some player =>
      room.setPlayer seat { player with status := if ready then .ready else .joined }

/-- `all_ready` of `handle_ready`. -/
def allReady (room : RoomState) : Bool :=
  room.playerCount == room.roomConfig.seatCount &&
    (ProtoEnum.values : List Seat).all fun seat =>
      (room.playersBySeat seat).all fun player => player.status == .ready

def updatePhase (room : RoomState) : RoomState :=
  { room with phase := if room.allReady then .dealing else .lobby }

/-- The updates of an accepted resume: the old connection of the slot is
forgotten before the new one is registered. -/
def rebindPlayer (room : RoomState) (seat : Seat) (player : PlayerSlot)
    (connection : ConnectionHandle) : RoomState :=
  let released := match player.connectionId with
    | none => room.connectionToUser
    | some oldConnectionId => Function.update room.connectionToUser oldConnectionId none
  { room with
    connectionToUser := Function.update released connection.connectionId
      (some player.userId)
    playersBySeat := Function.update room.playersBySeat seat
      (some (player.reboundTo connection)) }

def forgetConnection (room : RoomState) (connectionId : String) : RoomState :=
  { room with
    connectionToUser := Function.update room.connectionToUser connectionId none }

def disconnectPlayer (room : RoomState) (seat : Seat) (player : PlayerSlot) : RoomState :=
  room.setPlayer seat player.released

/-! ## Handlers -/

def handleJoin (room : RoomState) (requestId : String) (connection : ConnectionHandle)
    (request : JoinRoomRequest) (around : Surroundings) : RoomState × List Effect :=
  match room.userToSeat request.userId with
  | some existingSeat =>
      let eventSeq := room.allocateEventSeq.1
      let room := room.allocateEventSeq.2
      (room, [connection.sendFrame (buildJoinRoomResponse eventSeq requestId false
        .alreadyJoined room.roomId room.matchId existingSeat connection.connectionId ""
        (some room.roomConfig) "user already joined this room")])
  | none =>
      match room.nextOpenSeat with
      | none =>
          let eventSeq := room.allocateEventSeq.1
          let room := room.allocateEventSeq.2
          (room, [connection.sendFrame (buildJoinRoomResponse eventSeq requestId false
            .seatUnavailable room.roomId room.matchId .unspecified
            connection.connectionId "" (some room.roomConfig) "room is full")])
      | some seat =>
          let resumeToken := room.resumeToken request.userId
          let room := room.seatPlayer seat connection request
          let eventSeq := room.allocateEventSeq.1
          let room := room.allocateEventSeq.2
          let response := connection.sendFrame (buildJoinRoomResponse eventSeq requestId
            true .unspecified room.roomId room.matchId seat connection.connectionId
            resumeToken (some room.roomConfig) "joined room task successfully")
          let synced := room.broadcastSyncState .serverResync around
          let changed := synced.1.broadcastConnectionChanged seat true around
          (changed.1, response :: synced.2 ++ changed.2)

def handleReady (room : RoomState) (requestId connectionId : String)
    (request : ReadyRequest) (around : Surroundings) : RoomState × List Effect :=
  match room.seatForConnection connectionId with
  | none => room.sendRejectToConnection connectionId requestId .notInRoom
      "connection is not registered in this room" 0 0
  | some seat =>
      let room := (room.setReady seat request.ready).updatePhase
      room.broadcastSyncState (if room.allReady then .roundStart else .serverResync) around

def handleResume (room : RoomState) (requestId : String) (connection : ConnectionHandle)
    (request : ResumeSessionRequest) (around : Surroundings) : RoomState × List Effect :=
  let reject (rejectCode : RejectCode) (message : String) : RoomState × List Effect :=
    let eventSeq := room.allocateEventSeq.1
    let room := room.allocateEventSeq.2
    (room, [connection.sendFrame (buildActionRejected eventSeq requestId rejectCode
      message request.lastReceivedEventSeq 0)])
  match room.userToSeat request.userId with
  | none => reject .notInRoom "user is not known in this room"
  | some seat =>
      -- The source looks the slot up a second time after the token check; nothing
      -- changes in between, so that lookup finds the same slot.
      match room.playersBySeat seat with
      | none => reject .internalError "room state lost player seat mapping"
      | some player =>
          if player.resumeToken ≠ request.resumeToken then
            reject .authFailed "resume token does not match room state"
          else
            let room := room.rebindPlayer seat player connection
            let eventSeq := room.allocateEventSeq.1
            let room := room.allocateEventSeq.2
            let syncFrame := room.buildSyncStateFor seat eventSeq .reconnect
              (around.syncTimeMs seat)
            let changed := room.broadcastConnectionChanged seat true around
            (changed.1, connection.sendFrame syncFrame :: changed.2)

def handleAutoPlayToggle (room : RoomState) (seat : Seat) (enabled : Bool)
    (around : Surroundings) : RoomState × List Effect :=
  match room.playersBySeat seat with
  | none => (room, [])
  | some player =>
      (room.setPlayer seat { player with autoPlayEnabled := enabled }).broadcastSyncState
        .serverResync around

def handlePlayerAction (room : RoomState) (requestId connectionId : String)
    (request : PlayerActionRequest) (around : Surroundings) : RoomState × List Effect :=
  let reject (rejectCode : RejectCode) (message : String) : RoomState × List Effect :=
    room.sendRejectToConnection connectionId requestId rejectCode message
      request.expectedEventSeq request.actionWindowId
  match room.seatForConnection connectionId with
  | none => reject .notInRoom "connection is not registered in this room"
  | some seat =>
      if request.matchId ≠ room.matchId then
        reject .invalidRequest
          s!"match_id {request.matchId} does not match active room match {room.matchId}"
      else if request.roundId ≠ room.roundId then
        reject .invalidRequest
          s!"round_id {request.roundId} does not match active round {room.roundId}"
      else
        match request.action with
        | some (.autoPlayToggle toggle) =>
            room.handleAutoPlayToggle seat toggle.enabled around
        | none => reject .invalidRequest "player action payload must be set"
        | some _ =>
            match room.buildValidateActionRequest seat request with
            | .error error => reject error.rejectCode error.message
            | .ok validateRequest =>
                let answered := match around.validateAction validateRequest with
                  | .ok response =>
                      if response.isLegal then
                        let derivedAction :=
                          match (ProtoEnum.tryFrom response.derivedActionType :
                              Option Engine.ActionKind) with
                          | some actionKind => NamedProtoEnum.asStrName actionKind
                          | none => s!"ACTION_KIND_UNKNOWN_{response.derivedActionType}"
                        reject .actionNotAvailable
                          s!"action validated via rule engine as {derivedAction}; applying validated actions lands in a later task"
                      else
                        reject (mapValidationRejectCode response.rejectCode)
                          response.explanation
                  | .error error =>
                      reject .internalError s!"rule engine validation RPC failed: {error}"
                (answered.1, .validateAction validateRequest :: answered.2)

def handleDisconnect (room : RoomState) (connectionId : String) (around : Surroundings) :
    RoomState × List Effect :=
  match room.connectionToUser connectionId with
  | none => (room, [])
  | some userId =>
      let room := room.forgetConnection connectionId
      match room.userToSeat userId with
      | none => (room, [])
      | some seat =>
          match room.playersBySeat seat with
          | none => (room, [])
          | some player =>
              let room := room.disconnectPlayer seat player
              let synced := room.broadcastSyncState .serverResync around
              let changed := synced.1.broadcastConnectionChanged seat false around
              (changed.1, synced.2 ++ changed.2)

def handleCommand (room : RoomState) (command : RoomCommand) (around : Surroundings) :
    RoomState × List Effect :=
  match command with
  | .join requestId connection request =>
      room.handleJoin requestId connection request around
  | .ready requestId connectionId request =>
      room.handleReady requestId connectionId request around
  | .resumeSession requestId connection request =>
      room.handleResume requestId connection request around
  | .playerAction requestId connectionId request =>
      room.handlePlayerAction requestId connectionId request around
  | .disconnect connectionId => room.handleDisconnect connectionId around

end RoomState

/-- One input of a room task: a command and what the task reads while it
processes the command. -/
abbrev RoomInput := RoomCommand × Surroundings

/-- `run_room_task`: one command after the other. -/
def roomTask : Machine RoomState RoomInput Effect where
  step room input := room.handleCommand input.1 input.2

/-- The states of the room task started by `RoomState::new`. -/
def RoomState.Reachable (room : RoomState) : Prop :=
  ∃ roomId inputs, room = roomTask.exec (RoomState.new roomId) inputs

end GbMahjong.Room
