import GbMahjong.Room.Broadcast
import GbMahjong.Room.Consistency

/-! One command in a consistent room, inverted: the next state together with
everything that is put on channels. Every law about what clients see starts
from `Consistent.handled`. -/

set_option autoImplicit false

namespace GbMahjong.Room

open GbMahjong.Library GbMahjong.Client

namespace RoomState

def advanceSeq (room : RoomState) (count : Nat) : RoomState :=
  { room with nextEventSeq := room.nextEventSeq + count }

def syncDeliveries (room : RoomState) (eventSeq : Nat) (reason : SyncReason)
    (around : Surroundings) : List Delivery :=
  room.fanOut seatOrder fun seat =>
    room.buildSyncStateFor seat eventSeq reason (around.syncTimeMs seat)

/-- The deliveries of a `PlayerConnectionChanged` broadcast about this slot. -/
def changedDeliveries (room : RoomState) (eventSeq : Nat) (player : PlayerSlot)
    (seat : Seat) (connected : Bool) (around : Surroundings) : List Delivery :=
  room.fanOut around.slotOrder.seats fun _ =>
    buildPlayerConnectionChanged eventSeq room.roomId room.matchId player.userId seat
      player.status connected around.changedTimeMs

inductive Handled (room : RoomState) (around : Surroundings) :
    RoomCommand → RoomState → List Delivery → Prop where
  | ignored (command : RoomCommand) (unbound : room.boundSeat? command = none)
      (unregistered : room.connectionToUser command.connectionId = none)
      (kind : ∀ requestId connection request,
        command ≠ .join requestId connection request)
      (kind' : ∀ requestId connection request,
        command ≠ .resumeSession requestId connection request) :
      Handled room around command room []
  | joinRefused (requestId : String) (connection : ConnectionHandle)
      (request : JoinRoomRequest) (rejectCode : RejectCode) (seat : Seat)
      (message : String) (refused : room.joinSeat? request.userId = none) :
      Handled room around (.join requestId connection request) (room.advanceSeq 1)
        [⟨.requester connection.connectionId, connection.outboundTx,
          buildJoinRoomResponse room.nextEventSeq requestId false rejectCode room.roomId
            room.matchId seat connection.connectionId "" (some room.roomConfig) message⟩]
  | resumeRefused (requestId : String) (connection : ConnectionHandle)
      (request : ResumeSessionRequest) (rejectCode : RejectCode) (message : String)
      (refused : room.resumeSlot? request = none) :
      Handled room around (.resumeSession requestId connection request)
        (room.advanceSeq 1)
        [⟨.requester connection.connectionId, connection.outboundTx,
          buildActionRejected room.nextEventSeq requestId rejectCode message
            request.lastReceivedEventSeq 0⟩]
  | actionRejected (requestId connectionId : String) (request : PlayerActionRequest)
      (seat : Seat) (player : PlayerSlot) (outboundTx : ConnectionSender)
      (rejectCode : RejectCode) (message : String)
      (bound : room.seatForConnection connectionId = some seat)
      (found : room.playersBySeat seat = some player)
      (sender : player.outboundTx = some outboundTx) :
      Handled room around (.playerAction requestId connectionId request)
        (room.advanceSeq 1)
        [⟨.slot seat, outboundTx,
          buildActionRejected room.nextEventSeq requestId rejectCode message
            request.expectedEventSeq request.actionWindowId⟩]
  | joined (requestId : String) (connection : ConnectionHandle)
      (request : JoinRoomRequest) (seat : Seat) (next : RoomState)
      (unknown : room.userToSeat request.userId = none)
      (opened : room.nextOpenSeat = some seat)
      (books : next = room.seatPlayer seat connection request) :
      Handled room around (.join requestId connection request) (next.advanceSeq 3)
        (⟨.requester connection.connectionId, connection.outboundTx,
          buildJoinRoomResponse room.nextEventSeq requestId true .unspecified room.roomId
            room.matchId seat connection.connectionId (room.resumeToken request.userId)
            (some room.roomConfig) "joined room task successfully"⟩ ::
          next.syncDeliveries (room.nextEventSeq + 1) .serverResync around ++
          next.changedDeliveries (room.nextEventSeq + 2)
            (room.joinedPlayer seat connection request) seat true around)
  | readied (requestId connectionId : String) (request : ReadyRequest) (seat : Seat)
      (player : PlayerSlot) (next : RoomState)
      (bound : room.seatForConnection connectionId = some seat)
      (found : room.playersBySeat seat = some player)
      (books : next = (room.setPlayer seat
        { player with status := if request.ready then .ready else .joined }).updatePhase) :
      Handled room around (.ready requestId connectionId request) (next.advanceSeq 1)
        (next.syncDeliveries room.nextEventSeq
          (if next.allReady then .roundStart else .serverResync) around)
  | resumed (requestId : String) (connection : ConnectionHandle)
      (request : ResumeSessionRequest) (seat : Seat) (player : PlayerSlot)
      (next : RoomState) (known : room.userToSeat request.userId = some seat)
      (found : room.playersBySeat seat = some player)
      (token : player.resumeToken = request.resumeToken)
      (books : next = room.rebindPlayer seat player connection) :
      Handled room around (.resumeSession requestId connection request)
        (next.advanceSeq 2)
        (⟨.requester connection.connectionId, connection.outboundTx,
          next.buildSyncStateFor seat room.nextEventSeq .reconnect
            (around.syncTimeMs seat)⟩ ::
          next.changedDeliveries (room.nextEventSeq + 1) (player.reboundTo connection)
            seat true around)
  | toggled (requestId connectionId : String) (request : PlayerActionRequest)
      (seat : Seat) (player : PlayerSlot) (enabled : Bool) (next : RoomState)
      (bound : room.seatForConnection connectionId = some seat)
      (found : room.playersBySeat seat = some player)
      (books : next = room.setPlayer seat { player with autoPlayEnabled := enabled }) :
      Handled room around (.playerAction requestId connectionId request)
        (next.advanceSeq 1)
        (next.syncDeliveries room.nextEventSeq .serverResync around)
  | disconnected (connectionId userId : String) (seat : Seat) (player : PlayerSlot)
      (next : RoomState) (bound : room.connectionToUser connectionId = some userId)
      (known : room.userToSeat userId = some seat)
      (found : room.playersBySeat seat = some player)
      (books : next = (room.forgetConnection connectionId).disconnectPlayer seat player) :
      Handled room around (.disconnect connectionId) (next.advanceSeq 2)
        (next.syncDeliveries room.nextEventSeq .serverResync around ++
          next.changedDeliveries (room.nextEventSeq + 1) player.released seat false around)

/-! ## Replies and broadcasts -/

def frameRequestId? (frame : ServerFrame) : Option String :=
  match frame.payload with
  | .joinRoom response => some response.requestId
  | .actionRejected rejected => some rejected.requestId
  | .pong pong => some pong.requestId
  | .syncState _ | .playerConnectionChanged _ => none

def frameResumeToken? (frame : ServerFrame) : Option String :=
  match frame.payload with
  | .joinRoom response => some response.resumeToken
  | .actionRejected _ | .pong _ | .syncState _ | .playerConnectionChanged _ => none

/-- Frames that are not the reply to one request. -/
def IsNotice (frame : ServerFrame) : Prop :=
  frameRequestId? frame = none ∧ frameResumeToken? frame = none

theorem syncDeliveries_isNotice {room : RoomState} {eventSeq : Nat}
    {reason : SyncReason} {around : Surroundings} :
    ∀ delivery ∈ room.syncDeliveries eventSeq reason around,
      IsNotice delivery.frame := by
  intro delivery member
  obtain ⟨seat, _, channel, _, rfl⟩ := mem_fanOut.mp member
  exact ⟨rfl, rfl⟩

theorem changedDeliveries_isNotice {room : RoomState} {eventSeq : Nat}
    {player : PlayerSlot} {seat : Seat} {connected : Bool} {around : Surroundings} :
    ∀ delivery ∈ room.changedDeliveries eventSeq player seat connected around,
      IsNotice delivery.frame := by
  intro delivery member
  obtain ⟨target, _, channel, _, rfl⟩ := mem_fanOut.mp member
  exact ⟨rfl, rfl⟩

theorem sendRejectToConnection_unregistered {room : RoomState} {connectionId : String}
    (unregistered : room.connectionToUser connectionId = none) (requestId : String)
    (rejectCode : RejectCode) (message : String) (expectedEventSeq actionWindowId : Nat) :
    room.sendRejectToConnection connectionId requestId rejectCode message
      expectedEventSeq actionWindowId = (room, []) := by
  simp only [sendRejectToConnection, unregistered]

theorem sendRejectToConnection_bound {room : RoomState} {connectionId : String}
    {seat : Seat} {player : PlayerSlot} {outboundTx : ConnectionSender}
    (bound : room.seatForConnection connectionId = some seat)
    (found : room.playersBySeat seat = some player)
    (sender : player.outboundTx = some outboundTx) (requestId : String)
    (rejectCode : RejectCode) (message : String) (expectedEventSeq actionWindowId : Nat) :
    room.sendRejectToConnection connectionId requestId rejectCode message
      expectedEventSeq actionWindowId =
      (room.advanceSeq 1, [.send ⟨.slot seat, outboundTx,
        buildActionRejected room.nextEventSeq requestId rejectCode message
          expectedEventSeq actionWindowId⟩]) := by
  unfold seatForConnection at bound
  cases mapped : room.connectionToUser connectionId with
  | none => simp [mapped] at bound
  | some userId =>
      simp only [mapped] at bound
      simp [sendRejectToConnection, mapped, bound, found, sender, allocateEventSeq,
        advanceSeq]

theorem Consistent.bound_sender {room : RoomState} (consistent : room.Consistent)
    {connectionId : String} {seat : Seat}
    (bound : room.seatForConnection connectionId = some seat) :
    ∃ player outboundTx, room.playersBySeat seat = some player ∧
      player.connectionId = some connectionId ∧
      player.outboundTx = some outboundTx := by
  obtain ⟨player, found, mapped⟩ := consistent.seatForConnection_slot bound
  have holds := consistent.bound_slot mapped found rfl
  have wired := (consistent.wired found).2
  rw [holds, Option.isSome_some, Option.isSome_iff_exists] at wired
  obtain ⟨outboundTx, sender⟩ := wired
  exact ⟨player, outboundTx, found, holds, sender⟩

theorem Consistent.seatForConnection_eq_none {room : RoomState}
    (consistent : room.Consistent) {connectionId : String}
    (unbound : room.seatForConnection connectionId = none) :
    room.connectionToUser connectionId = none := by
  unfold seatForConnection at unbound
  cases mapped : room.connectionToUser connectionId with
  | none => rfl
  | some userId =>
      obtain ⟨seat, player, found, rfl, _⟩ := consistent.bound mapped
      simp [mapped, consistent.user_of_slot found] at unbound

private theorem Consistent.handled_join {room : RoomState} (requestId : String)
    (connection : ConnectionHandle) (request : JoinRoomRequest) (around : Surroundings) :
    room.Handled around (.join requestId connection request)
      (room.handleJoin requestId connection request around).1
      (deliveries (room.handleJoin requestId connection request around).2) := by
  simp only [handleJoin]
  cases known : room.userToSeat request.userId with
  | some existingSeat =>
      exact .joinRefused requestId connection request _ _ _ (by simp [joinSeat?, known])
  | none =>
      cases opened : room.nextOpenSeat with
      | none =>
          exact .joinRefused requestId connection request _ _ _
            (by simp [joinSeat?, known, opened])
      | some seat =>
          have seated : (room.seatPlayer seat connection request).playersBySeat seat =
              some (room.joinedPlayer seat connection request) := by
            simp [RoomState.seatPlayer]
          simp only [ConnectionHandle.sendFrame, List.cons_append, deliveries_send,
            deliveries_append, deliveries_broadcastSyncState]
          rw [broadcastConnectionChanged_fst (by exact seated),
            deliveries_broadcastConnectionChanged (by exact seated)]
          exact .joined requestId connection request seat _ known opened rfl

private theorem Consistent.handled_ready {room : RoomState} (consistent : room.Consistent)
    (requestId connectionId : String) (request : ReadyRequest) (around : Surroundings) :
    room.Handled around (.ready requestId connectionId request)
      (room.handleReady requestId connectionId request around).1
      (deliveries (room.handleReady requestId connectionId request around).2) := by
  simp only [handleReady]
  cases bound : room.seatForConnection connectionId with
  | none =>
      have unregistered := consistent.seatForConnection_eq_none bound
      simp only [sendRejectToConnection_unregistered unregistered]
      exact .ignored _ rfl unregistered (by simp) (by simp)
  | some seat =>
      obtain ⟨player, found, _⟩ := consistent.seatForConnection_slot bound
      simp only [setReady, found, deliveries_broadcastSyncState]
      exact .readied requestId connectionId request seat player _ bound found rfl

private theorem Consistent.handled_resume {room : RoomState} (requestId : String)
    (connection : ConnectionHandle) (request : ResumeSessionRequest)
    (around : Surroundings) :
    room.Handled around (.resumeSession requestId connection request)
      (room.handleResume requestId connection request around).1
      (deliveries (room.handleResume requestId connection request around).2) := by
  simp only [handleResume]
  cases known : room.userToSeat request.userId with
  | none => exact .resumeRefused requestId connection request _ _ (by simp [resumeSlot?, known])
  | some seat =>
      cases found : room.playersBySeat seat with
      | none =>
          simp only [found]
          exact .resumeRefused requestId connection request _ _
            (by simp [resumeSlot?, known, found])
      | some player =>
          by_cases token : player.resumeToken = request.resumeToken
          · have rebound : (room.rebindPlayer seat player connection).playersBySeat seat =
                some (player.reboundTo connection) := by
              simp [RoomState.rebindPlayer]
            simp only [found, token, ne_eq, not_true_eq_false, ↓reduceIte,
              ConnectionHandle.sendFrame, deliveries_send]
            rw [broadcastConnectionChanged_fst (by exact rebound),
              deliveries_broadcastConnectionChanged (by exact rebound)]
            exact .resumed requestId connection request seat player _ known found token rfl
          · simp only [found, token, ne_eq, not_false_eq_true, ↓reduceIte]
            exact .resumeRefused requestId connection request _ _
              (by simp [resumeSlot?, known, found, token])

private theorem Consistent.handled_playerAction {room : RoomState}
    (consistent : room.Consistent) (requestId connectionId : String)
    (request : PlayerActionRequest) (around : Surroundings) :
    room.Handled around (.playerAction requestId connectionId request)
      (room.handlePlayerAction requestId connectionId request around).1
      (deliveries (room.handlePlayerAction requestId connectionId request around).2) := by
  simp only [handlePlayerAction]
  cases bound : room.seatForConnection connectionId with
  | none =>
      have unregistered := consistent.seatForConnection_eq_none bound
      simp only [sendRejectToConnection_unregistered unregistered]
      exact .ignored _ rfl unregistered (by simp) (by simp)
  | some seat =>
      obtain ⟨player, outboundTx, found, _, sender⟩ := consistent.bound_sender bound
      have rejected : ∀ rejectCode message, room.Handled around
          (.playerAction requestId connectionId request) (room.advanceSeq 1)
          [⟨.slot seat, outboundTx, buildActionRejected room.nextEventSeq requestId
            rejectCode message request.expectedEventSeq request.actionWindowId⟩] :=
        fun rejectCode message => .actionRejected requestId connectionId request seat player
          outboundTx rejectCode message bound found sender
      simp only [sendRejectToConnection_bound bound found sender]
      by_cases sameMatch : request.matchId = room.matchId
      · by_cases sameRound : request.roundId = room.roundId
        · simp only [sameMatch, sameRound, ne_eq, not_true_eq_false, ↓reduceIte]
          cases request.action with
          | none => exact rejected _ _
          | some action =>
              cases action with
              | autoPlayToggle toggle =>
                  simp only [handleAutoPlayToggle, found, deliveries_broadcastSyncState]
                  exact .toggled requestId connectionId request seat player toggle.enabled _
                    bound found rfl
              | discard | claim | declareWin | pass | supplementalKong =>
                  cases room.buildValidateActionRequest seat request with
                  | error error => exact rejected _ _
                  | ok validateRequest =>
                      cases answer : around.validateAction validateRequest with
                      | error error =>
                          simp only [answer, deliveries_validateAction]
                          exact rejected _ _
                      | ok response =>
                          simp only [answer, deliveries_validateAction]
                          split <;> exact rejected _ _
        · simp only [sameMatch, sameRound, ne_eq, not_true_eq_false, not_false_eq_true,
            ↓reduceIte]
          exact rejected _ _
      · simp only [sameMatch, ne_eq, not_false_eq_true, ↓reduceIte]
        exact rejected _ _

private theorem Consistent.handled_disconnect {room : RoomState}
    (consistent : room.Consistent) (connectionId : String) (around : Surroundings) :
    room.Handled around (.disconnect connectionId)
      (room.handleDisconnect connectionId around).1
      (deliveries (room.handleDisconnect connectionId around).2) := by
  simp only [handleDisconnect]
  cases bound : room.connectionToUser connectionId with
  | none => exact .ignored _ rfl bound (by simp) (by simp)
  | some userId =>
      obtain ⟨seat, player, found, owner, _⟩ := consistent.bound bound
      have known : room.userToSeat userId = some seat :=
        owner ▸ consistent.user_of_slot found
      have cleared : ((room.forgetConnection connectionId).disconnectPlayer seat
          player).playersBySeat seat = some player.released := by
        simp [RoomState.disconnectPlayer, RoomState.setPlayer]
      simp only [forgetConnection, known, found, deliveries_append,
        deliveries_broadcastSyncState]
      rw [broadcastConnectionChanged_fst (by exact cleared),
        deliveries_broadcastConnectionChanged (by exact cleared)]
      exact .disconnected connectionId userId seat player _ bound known found rfl

/-- Every command of a consistent room is handled in one of the ways above. -/
theorem Consistent.handled {room : RoomState} (consistent : room.Consistent)
    (command : RoomCommand) (around : Surroundings) :
    room.Handled around command (room.handleCommand command around).1
      (deliveries (room.handleCommand command around).2) := by
  cases command with
  | join requestId connection request => exact handled_join ..
  | ready requestId connectionId request => exact consistent.handled_ready ..
  | resumeSession requestId connection request => exact handled_resume ..
  | playerAction requestId connectionId request => exact consistent.handled_playerAction ..
  | disconnect connectionId => exact consistent.handled_disconnect ..

theorem Consistent.exists_handled {room : RoomState} (consistent : room.Consistent)
    (command : RoomCommand) (around : Surroundings) :
    ∃ next sent, (room.handleCommand command around).1 = next ∧
      deliveries (room.handleCommand command around).2 = sent ∧ next.Consistent ∧
      room.Handled around command next sent :=
  ⟨_, _, rfl, rfl, consistent.step (command, around), consistent.handled command around⟩

/-- What is sent through a slot goes to the channel the slot holds afterwards. -/
theorem Handled.slot_channel {room next : RoomState} {around : Surroundings}
    {command : RoomCommand} {sent : List Delivery} {delivery : Delivery} {seat : Seat}
    (handled : room.Handled around command next sent) (member : delivery ∈ sent)
    (via : delivery.via = .slot seat) :
    ∃ player, next.playersBySeat seat = some player ∧
      player.outboundTx = some delivery.channel := by
  have fanned : ∀ (state : RoomState) (seats : List Seat) (frame : Seat → ServerFrame),
      delivery ∈ state.fanOut seats frame → ∃ player,
        state.playersBySeat seat = some player ∧
          player.outboundTx = some delivery.channel := by
    intro state seats frame broadcast
    obtain ⟨target, _, channel, live, rfl⟩ := mem_fanOut.mp broadcast
    cases via
    obtain ⟨player, found, _, sender⟩ := liveChannel?_eq_some_iff.mp live
    exact ⟨player, found, sender⟩
  cases handled with
  | ignored => cases member
  | joinRefused | resumeRefused =>
      rw [List.mem_singleton.mp member] at via
      cases via
  | actionRejected requestId connectionId request target player outboundTx _ _ _ found
      sender =>
      rw [List.mem_singleton.mp member] at via ⊢
      cases via
      exact ⟨player, found, sender⟩
  | joined =>
      rcases List.mem_append.mp member with earlier | changed
      · rcases List.mem_cons.mp earlier with rfl | synced
        · cases via
        · exact fanned _ _ _ synced
      · exact fanned _ _ _ changed
  | readied => exact fanned _ _ _ member
  | resumed =>
      rcases List.mem_cons.mp member with rfl | changed
      · cases via
      · exact fanned _ _ _ changed
  | toggled => exact fanned _ _ _ member
  | disconnected =>
      rcases List.mem_append.mp member with synced | changed
      · exact fanned _ _ _ synced
      · exact fanned _ _ _ changed

theorem Consistent.syncDeliveries_through {room : RoomState}
    (consistent : room.Consistent) {seat : Seat} {player : PlayerSlot}
    (found : room.playersBySeat seat = some player) (connected : player.connected = true)
    (eventSeq : Nat) (reason : SyncReason) (around : Surroundings) :
    ∃ channel, player.outboundTx = some channel ∧
      (⟨.slot seat, channel, room.buildSyncStateFor seat eventSeq reason
        (around.syncTimeMs seat)⟩ : Delivery) ∈
          room.syncDeliveries eventSeq reason around := by
  have wired := consistent.wired found
  have present : player.outboundTx.isSome := by rw [wired.2, ← wired.1, connected]
  obtain ⟨channel, sender⟩ := Option.isSome_iff_exists.mp present
  exact ⟨channel, sender, mem_fanOut.mpr ⟨seat, consistent.mem_seatOrder found, channel,
    liveChannel?_eq_some_iff.mpr ⟨player, found, connected, sender⟩, rfl⟩⟩

end RoomState

end GbMahjong.Room
