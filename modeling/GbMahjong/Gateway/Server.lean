import GbMahjong.Room.Commands

/-! The server process: one task for each websocket, one for each room, and the
channels between them. A socket task reads a message, puts a command on a room's
queue and puts its own replies on the connection's outbound channel; a room task
takes commands off its queue and puts frames on outbound channels. The scheduler
may switch tasks at every `await` and between any two sends. -/

set_option autoImplicit false

namespace GbMahjong.Gateway

open GbMahjong.Library GbMahjong.Client GbMahjong.Room

/-! ## Frames -/

def buildPong (eventSeq : Nat) (requestId : String) (heartbeat : Heartbeat)
    (unixTimeMs : Nat) : ServerFrame where
  eventSeq := eventSeq
  payload := .pong {
    requestId := requestId
    serverTimeMs := unixTimeMs
    echoedClientTimeMs := heartbeat.clientTimeMs
    latestEventSeq := eventSeq }

/-- The reject of the gateway itself; rooms and the room manager have their own. -/
def buildActionRejected (eventSeq : Nat) (requestId : String) (rejectCode : RejectCode)
    (message : String) : ServerFrame where
  eventSeq := eventSeq
  payload := .actionRejected {
    requestId := requestId
    rejectCode := ProtoEnum.asI32 rejectCode
    message := message
    expectedEventSeq := 0
    actualEventSeq := 0
    actionWindowId := 0 }

/-! ## Tasks -/

structure ConnectionSession where
  connectionId : String
  outboundTx : ConnectionSender
  currentRoomId : Option String
  deriving DecidableEq, Repr

def ConnectionSession.new (connectionId : String) : ConnectionSession where
  connectionId := connectionId
  outboundTx := ⟨connectionId⟩
  currentRoomId := none

def ConnectionSession.handle (session : ConnectionSession) : ConnectionHandle :=
  ⟨session.connectionId, session.outboundTx⟩

/-- Who numbered a frame: the process-wide counter of `AppState`, the room
manager, which numbers its rejects 0, or the counter of a room. -/
inductive Origin where
  | gateway
  | manager
  | room (roomId : String)
  deriving DecidableEq, Repr

/-- A command on its way to a room. `create` is set where the room is created on
demand; `notFound` is the reject where it is not. -/
structure Dispatch where
  roomId : String
  command : RoomCommand
  create : Bool
  notFound : Option ServerFrame
  deriving DecidableEq, Repr

/-- Where a socket task stands: in `select!`, about to send a frame on its own
channel, about to look up a room, or about to send a command to a room. -/
inductive Activity where
  | waiting
  | replying (origin : Origin) (frame : ServerFrame)
  | looking (dispatch : Dispatch)
  | sending (roomId : String) (command : RoomCommand)
  deriving DecidableEq, Repr

/-- The task of `handle_socket`. `closed` says that its read loop has ended. -/
structure SocketTask where
  session : ConnectionSession
  activity : Activity
  closed : Bool
  deriving DecidableEq, Repr

/-- The task of `run_room_task` with its command channel. `unsent` are the
frames of the command in progress that are not on their channels yet. The
manager keeps a sender of every room, so no room task ends. -/
structure RoomTask where
  state : RoomState
  commandQueue : List RoomCommand
  unsent : List Delivery

def RoomTask.new (roomId : String) : RoomTask := ⟨.new roomId, [], []⟩

structure Server where
  nextConnectionId : Nat
  nextEventSeq : Nat
  sockets : String → Option SocketTask
  rooms : String → Option RoomTask

def Server.new : Server := ⟨1, 1, fun _ => none, fun _ => none⟩

inductive SocketMessage where
  | clientFrame (frame : ClientFrame)
  | undecodable
  | text
  deriving DecidableEq, Repr

/-- One choice of the scheduler or of the network. -/
inductive Event where
  | accept
  | receive (connectionId : String) (message : SocketMessage) (unixTimeMs : Nat)
  | close (connectionId : String)
  | advance (connectionId : String)
  | process (roomId : String) (around : Surroundings)
  | emit (roomId : String)

/-- What can be seen of a run: frames put on channels and commands processed. -/
inductive Observation where
  | sent (origin : Origin) (delivery : Delivery)
  | processed (roomId : String) (input : RoomInput)

/-! ## The room manager -/

def dispatchJoin (requestId : String) (connection : ConnectionHandle)
    (request : JoinRoomRequest) : Dispatch where
  roomId := request.roomId
  command := .join requestId connection request
  create := true
  notFound := none

def dispatchReady (roomId requestId : String) (connection : ConnectionHandle)
    (request : ReadyRequest) : Dispatch where
  roomId := roomId
  command := .ready requestId connection.connectionId request
  create := false
  notFound := some (Room.buildActionRejected 0 requestId .roomNotFound
    "room task not found for ReadyRequest" 0 0)

def dispatchResume (requestId : String) (connection : ConnectionHandle)
    (request : ResumeSessionRequest) : Dispatch where
  roomId := request.roomId
  command := .resumeSession requestId connection request
  create := false
  notFound := some (Room.buildActionRejected 0 requestId .roomNotFound
    "room task not found for ResumeSessionRequest" 0 0)

def dispatchPlayerAction (requestId : String) (connection : ConnectionHandle)
    (request : PlayerActionRequest) : Dispatch where
  roomId := request.roomId
  command := .playerAction requestId connection.connectionId request
  create := false
  notFound := some (Room.buildActionRejected 0 requestId .roomNotFound
    "room task not found for PlayerActionRequest" request.expectedEventSeq
    request.actionWindowId)

def disconnect (roomId connectionId : String) : Dispatch where
  roomId := roomId
  command := .disconnect connectionId
  create := false
  notFound := none

namespace Server

def setSocket (server : Server) (connectionId : String) (socket : SocketTask) : Server :=
  { server with sockets := Function.update server.sockets connectionId (some socket) }

def setRoom (server : Server) (roomId : String) (task : RoomTask) : Server :=
  { server with rooms := Function.update server.rooms roomId (some task) }

/-- `AppState::next_event_seq`, the process-wide counter. -/
def takeEventSeq (server : Server) : Nat × Server :=
  (server.nextEventSeq, { server with nextEventSeq := server.nextEventSeq + 1 })

/-! ## Socket tasks -/

/-- A message that the gateway rejects itself. -/
def rejectMessage (server : Server) (session : ConnectionSession) (requestId : String)
    (rejectCode : RejectCode) (message : String) : Server × ConnectionSession × Activity :=
  (server.takeEventSeq.2, session, .replying .gateway
    (buildActionRejected server.takeEventSeq.1 requestId rejectCode message))

def handleClientFrame (server : Server) (session : ConnectionSession) (frame : ClientFrame)
    (unixTimeMs : Nat) : Server × ConnectionSession × Activity :=
  match frame.payload with
  | some (.heartbeat heartbeat) =>
      (server.takeEventSeq.2, session, .replying .gateway
        (buildPong server.takeEventSeq.1 frame.requestId heartbeat unixTimeMs))
  | some (.joinRoom joinRoom) =>
      (server, { session with currentRoomId := some joinRoom.roomId },
        .looking (dispatchJoin frame.requestId session.handle joinRoom))
  | some (.ready ready) =>
      match session.currentRoomId with
      | none => server.rejectMessage session frame.requestId .notInRoom
          "connection must join a room before ReadyRequest"
      | some roomId =>
          (server, session,
            .looking (dispatchReady roomId frame.requestId session.handle ready))
  | some (.resumeSession resume) =>
      (server, { session with currentRoomId := some resume.roomId },
        .looking (dispatchResume frame.requestId session.handle resume))
  | some (.playerAction action) =>
      (server, { session with currentRoomId := some action.roomId },
        .looking (dispatchPlayerAction frame.requestId session.handle action))
  | none => server.rejectMessage session frame.requestId .invalidRequest
      "ClientFrame.payload must be set"

def handleMessage (server : Server) (session : ConnectionSession)
    (message : SocketMessage) (unixTimeMs : Nat) : Server × ConnectionSession × Activity :=
  match message with
  | .clientFrame frame => server.handleClientFrame session frame unixTimeMs
  | .undecodable => server.rejectMessage session "" .invalidRequest
      "invalid protobuf binary frame"
  | .text => server.rejectMessage session "" .invalidRequest
      "text frames are not supported; send protobuf binary frames"

/-- `handle_socket` up to its first wait. -/
def accept (server : Server) : Server :=
  let connectionId := s!"conn-{server.nextConnectionId}"
  { server with nextConnectionId := server.nextConnectionId + 1 }.setSocket connectionId
    ⟨.new connectionId, .waiting, false⟩

/-- The end of `handle_socket`: the session leaves the room it named last. -/
def leave (session : ConnectionSession) : Activity :=
  match session.currentRoomId with
  | none => .waiting
  | some roomId => .looking (disconnect roomId session.connectionId)

/-- A socket task that is not waiting for a message takes its next step. -/
def advance (server : Server) (connectionId : String) (socket : SocketTask) :
    Server × List Observation :=
  match socket.activity with
  | .waiting => (server, [])
  | .replying origin frame =>
      (server.setSocket connectionId { socket with activity := .waiting },
        [.sent origin ⟨.requester socket.session.connectionId, socket.session.outboundTx,
          frame⟩])
  | .looking dispatch =>
      let found := server.setSocket connectionId
        { socket with activity := .sending dispatch.roomId dispatch.command }
      match server.rooms dispatch.roomId with
      | some _ => (found, [])
      | none =>
          if dispatch.create then
            (found.setRoom dispatch.roomId (.new dispatch.roomId), [])
          else
            (server.setSocket connectionId { socket with
              activity := match dispatch.notFound with
                | none => .waiting
                | some frame => .replying .manager frame }, [])
  | .sending roomId command =>
      match server.rooms roomId with
      | none => (server, [])
      | some task =>
          if task.commandQueue.length < roomCommandBuffer then
            ((server.setRoom roomId
              { task with commandQueue := task.commandQueue ++ [command] }).setSocket
                connectionId { socket with activity := .waiting }, [])
          else (server, [])

def step (server : Server) : Event → Server × List Observation
  | .accept => (server.accept, [])
  | .receive connectionId message unixTimeMs =>
      match server.sockets connectionId with
      | some ⟨session, .waiting, false⟩ =>
          let handled := server.handleMessage session message unixTimeMs
          (handled.1.setSocket connectionId ⟨handled.2.1, handled.2.2, false⟩, [])
      | _ => (server, [])
  | .close connectionId =>
      match server.sockets connectionId with
      | some ⟨session, .waiting, false⟩ =>
          (server.setSocket connectionId ⟨session, leave session, true⟩, [])
      | _ => (server, [])
  | .advance connectionId =>
      match server.sockets connectionId with
      | none => (server, [])
      | some socket => server.advance connectionId socket
  | .process roomId around =>
      match server.rooms roomId with
      | some ⟨state, command :: rest, []⟩ =>
          let handled := state.handleCommand command around
          (server.setRoom roomId ⟨handled.1, rest, deliveries handled.2⟩,
            [.processed roomId (command, around)])
      | _ => (server, [])
  | .emit roomId =>
      match server.rooms roomId with
      | some ⟨state, queue, delivery :: rest⟩ =>
          (server.setRoom roomId ⟨state, queue, rest⟩, [.sent (.room roomId) delivery])
      | _ => (server, [])

end Server

def gateway : Machine Server Event Observation where
  step := Server.step

end GbMahjong.Gateway
