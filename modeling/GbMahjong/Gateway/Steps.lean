import GbMahjong.Gateway.Server

/-! One step of the process, inverted: the transitions that change something,
each with what it finds and what it leaves. -/

set_option autoImplicit false

namespace GbMahjong.Gateway

open GbMahjong.Library GbMahjong.Client GbMahjong.Room

namespace Server

/-- What handling a message does: it either names a room for the session and
dispatches a command of that connection, or rejects or answers the message. -/
inductive Understood (server : Server) (session : ConnectionSession) :
    SocketMessage → Server × ConnectionSession × Activity → Prop where
  | answered (message : SocketMessage) (frame : ServerFrame)
      (numbered : frame.eventSeq = server.nextEventSeq)
      (ownNumber : ∀ pong, frame.payload = .pong pong →
        pong.latestEventSeq = frame.eventSeq) :
      Understood server session message
        (server.takeEventSeq.2, session, .replying .gateway frame)
  | dispatched (message : SocketMessage) (next : ConnectionSession) (dispatch : Dispatch)
      (names : next = { session with currentRoomId := some dispatch.roomId })
      (named : dispatch.command.connectionId = session.connectionId)
      (kind : ∀ connectionId, dispatch.command ≠ .disconnect connectionId)
      (wired : dispatch.command.UsesChannel fun _ => session.outboundTx)
      (unnumbered : ∀ frame, dispatch.notFound = some frame → frame.eventSeq = 0) :
      Understood server session message (server, next, .looking dispatch)

theorem rejectMessage_understood (server : Server) (session : ConnectionSession)
    (message : SocketMessage) (requestId : String) (rejectCode : RejectCode)
    (text : String) :
    server.Understood session message
      (server.rejectMessage session requestId rejectCode text) :=
  .answered message _ rfl fun _ payload => by cases payload

private theorem reject_unnumbered {requestId message : String} {rejectCode : RejectCode}
    {expectedEventSeq actionWindowId : Nat} {frame : ServerFrame}
    (missing : some (Room.buildActionRejected 0 requestId rejectCode message
      expectedEventSeq actionWindowId) = some frame) : frame.eventSeq = 0 := by
  rw [← Option.some.inj missing]
  rfl

theorem handleMessage_understood (server : Server) (session : ConnectionSession)
    (message : SocketMessage) (unixTimeMs : Nat) :
    server.Understood session message (server.handleMessage session message unixTimeMs) := by
  cases message with
  | text | undecodable => exact rejectMessage_understood ..
  | clientFrame frame =>
      simp only [handleMessage, handleClientFrame]
      cases frame.payload with
      | none => exact rejectMessage_understood ..
      | some payload =>
          cases payload with
          | heartbeat heartbeat =>
              refine .answered _ _ rfl fun pong answer => ?_
              rw [← ServerPayload.pong.inj answer]
              rfl
          | joinRoom request =>
              exact .dispatched _ _ (dispatchJoin frame.requestId session.handle request)
                rfl rfl (fun _ => by simp [dispatchJoin]) rfl (fun _ missing => by cases missing)
          | ready request =>
              cases known : session.currentRoomId with
              | none => exact rejectMessage_understood ..
              | some roomId =>
                  refine .dispatched _ _
                    (dispatchReady roomId frame.requestId session.handle request) ?_ rfl
                    (fun _ => by simp [dispatchReady]) trivial fun _ => reject_unnumbered
                  simp only [dispatchReady, ← known]
          | resumeSession request =>
              exact .dispatched _ _ (dispatchResume frame.requestId session.handle request)
                rfl rfl (fun _ => by simp [dispatchResume]) rfl fun _ => reject_unnumbered
          | playerAction request =>
              exact .dispatched _ _
                (dispatchPlayerAction frame.requestId session.handle request) rfl rfl
                (fun _ => by simp [dispatchPlayerAction]) trivial
                fun _ => reject_unnumbered

inductive Stepped (server : Server) : Event → Server → List Observation → Prop where
  | idle (event : Event) : Stepped server event server []
  | accepted : Stepped server .accept server.accept []
  | received (connectionId : String) (message : SocketMessage) (unixTimeMs : Nat)
      (session : ConnectionSession) (handled : Server × ConnectionSession × Activity)
      (found : server.sockets connectionId = some ⟨session, .waiting, false⟩)
      (understood : server.Understood session message handled) :
      Stepped server (.receive connectionId message unixTimeMs)
        (handled.1.setSocket connectionId ⟨handled.2.1, handled.2.2, false⟩) []
  | closed (connectionId : String) (session : ConnectionSession)
      (found : server.sockets connectionId = some ⟨session, .waiting, false⟩) :
      Stepped server (.close connectionId)
        (server.setSocket connectionId ⟨session, leave session, true⟩) []
  | replied (connectionId : String) (session : ConnectionSession) (closed : Bool)
      (origin : Origin) (frame : ServerFrame)
      (found : server.sockets connectionId =
        some ⟨session, .replying origin frame, closed⟩) :
      Stepped server (.advance connectionId)
        (server.setSocket connectionId ⟨session, .waiting, closed⟩)
        [.sent origin ⟨.requester session.connectionId, session.outboundTx, frame⟩]
  | looked (connectionId : String) (session : ConnectionSession) (closed : Bool)
      (dispatch : Dispatch) (task : RoomTask)
      (found : server.sockets connectionId = some ⟨session, .looking dispatch, closed⟩)
      (opened : server.rooms dispatch.roomId = some task) :
      Stepped server (.advance connectionId)
        (server.setSocket connectionId
          ⟨session, .sending dispatch.roomId dispatch.command, closed⟩) []
  | created (connectionId : String) (session : ConnectionSession) (closed : Bool)
      (dispatch : Dispatch)
      (found : server.sockets connectionId = some ⟨session, .looking dispatch, closed⟩)
      (absent : server.rooms dispatch.roomId = none) (creates : dispatch.create = true) :
      Stepped server (.advance connectionId)
        ((server.setSocket connectionId
          ⟨session, .sending dispatch.roomId dispatch.command, closed⟩).setRoom
            dispatch.roomId (.new dispatch.roomId)) []
  | missed (connectionId : String) (session : ConnectionSession) (closed : Bool)
      (dispatch : Dispatch) (activity : Activity)
      (found : server.sockets connectionId = some ⟨session, .looking dispatch, closed⟩)
      (absent : server.rooms dispatch.roomId = none) (creates : dispatch.create = false)
      (left : activity = match dispatch.notFound with
        | none => .waiting
        | some frame => .replying .manager frame) :
      Stepped server (.advance connectionId)
        (server.setSocket connectionId ⟨session, activity, closed⟩) []
  | enqueued (connectionId : String) (session : ConnectionSession) (closed : Bool)
      (roomId : String) (command : RoomCommand) (task : RoomTask)
      (found : server.sockets connectionId =
        some ⟨session, .sending roomId command, closed⟩)
      (opened : server.rooms roomId = some task)
      (room : task.commandQueue.length < roomCommandBuffer) :
      Stepped server (.advance connectionId)
        ((server.setRoom roomId
          { task with commandQueue := task.commandQueue ++ [command] }).setSocket
            connectionId ⟨session, .waiting, closed⟩) []
  | processed (roomId : String) (around : Surroundings) (state : RoomState)
      (command : RoomCommand) (rest : List RoomCommand)
      (opened : server.rooms roomId = some ⟨state, command :: rest, []⟩) :
      Stepped server (.process roomId around)
        (server.setRoom roomId ⟨(state.handleCommand command around).1, rest,
          deliveries (state.handleCommand command around).2⟩)
        [.processed roomId (command, around)]
  | emitted (roomId : String) (state : RoomState) (queue : List RoomCommand)
      (delivery : Delivery) (rest : List Delivery)
      (opened : server.rooms roomId = some ⟨state, queue, delivery :: rest⟩) :
      Stepped server (.emit roomId) (server.setRoom roomId ⟨state, queue, rest⟩)
        [.sent (.room roomId) delivery]

private theorem stepped_advance (server : Server) {connectionId : String}
    {socket : SocketTask} (found : server.sockets connectionId = some socket) :
    server.Stepped (.advance connectionId) (server.advance connectionId socket).1
      (server.advance connectionId socket).2 := by
  obtain ⟨session, activity, closed⟩ := socket
  cases activity with
  | waiting => exact .idle _
  | replying origin frame => exact .replied connectionId session closed origin frame found
  | looking dispatch =>
      simp only [advance]
      cases opened : server.rooms dispatch.roomId with
      | some task => exact .looked connectionId session closed dispatch task found opened
      | none =>
          cases creates : dispatch.create with
          | true =>
              simp only [↓reduceIte]
              exact .created connectionId session closed dispatch found opened creates
          | false =>
              simp only [Bool.false_eq_true, ↓reduceIte]
              exact .missed connectionId session closed dispatch _ found opened creates rfl
  | sending roomId command =>
      simp only [advance]
      cases opened : server.rooms roomId with
      | none => exact .idle _
      | some task =>
          by_cases room : task.commandQueue.length < roomCommandBuffer
          · simp only [room, ↓reduceIte]
            exact .enqueued connectionId session closed roomId command task found opened room
          · simp only [room, ↓reduceIte]
            exact .idle _

theorem stepped (server : Server) (event : Event) :
    server.Stepped event (server.step event).1 (server.step event).2 := by
  cases event with
  | accept => exact .accepted
  | receive connectionId message unixTimeMs =>
      simp only [step]
      split
      · rename_i session found
        exact .received connectionId message unixTimeMs session _ found
          (server.handleMessage_understood session message unixTimeMs)
      · exact .idle _
  | close connectionId =>
      simp only [step]
      split
      · rename_i session found
        exact .closed connectionId session found
      · exact .idle _
  | advance connectionId =>
      simp only [step]
      cases found : server.sockets connectionId with
      | none => exact .idle _
      | some socket => exact server.stepped_advance found
  | process roomId around =>
      simp only [step]
      split
      · rename_i state command rest opened
        exact .processed roomId around state command rest opened
      · exact .idle _
  | emit roomId =>
      simp only [step]
      split
      · rename_i state queue delivery rest opened
        exact .emitted roomId state queue delivery rest opened
      · exact .idle _

end Server

end GbMahjong.Gateway
