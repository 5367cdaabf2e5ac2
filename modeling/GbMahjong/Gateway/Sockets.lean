import GbMahjong.Gateway.Steps
import GbMahjong.Library.PartialMap

/-! What every socket task keeps to: its own session, commands of its own
connection, and replies that carry a gateway number or none. -/

set_option autoImplicit false

namespace GbMahjong.Gateway

open GbMahjong.Library GbMahjong.Client GbMahjong.Room

/-! ## Lookups after a transition -/

namespace Server

@[simp] theorem setSocket_rooms (server : Server) (connectionId : String)
    (socket : SocketTask) : (server.setSocket connectionId socket).rooms = server.rooms := rfl

@[simp] theorem setSocket_sockets (server : Server) (connectionId : String)
    (socket : SocketTask) : (server.setSocket connectionId socket).sockets =
      Function.update server.sockets connectionId (some socket) := rfl

@[simp] theorem setSocket_nextEventSeq (server : Server) (connectionId : String)
    (socket : SocketTask) :
    (server.setSocket connectionId socket).nextEventSeq = server.nextEventSeq := rfl

@[simp] theorem setSocket_nextConnectionId (server : Server) (connectionId : String)
    (socket : SocketTask) :
    (server.setSocket connectionId socket).nextConnectionId = server.nextConnectionId := rfl

@[simp] theorem setRoom_rooms (server : Server) (roomId : String) (task : RoomTask) :
    (server.setRoom roomId task).rooms =
      Function.update server.rooms roomId (some task) := rfl

@[simp] theorem setRoom_sockets (server : Server) (roomId : String) (task : RoomTask) :
    (server.setRoom roomId task).sockets = server.sockets := rfl

@[simp] theorem setRoom_nextEventSeq (server : Server) (roomId : String) (task : RoomTask) :
    (server.setRoom roomId task).nextEventSeq = server.nextEventSeq := rfl

@[simp] theorem setRoom_nextConnectionId (server : Server) (roomId : String)
    (task : RoomTask) :
    (server.setRoom roomId task).nextConnectionId = server.nextConnectionId := rfl

@[simp] theorem takeEventSeq_rooms (server : Server) :
    server.takeEventSeq.2.rooms = server.rooms := rfl

@[simp] theorem takeEventSeq_sockets (server : Server) :
    server.takeEventSeq.2.sockets = server.sockets := rfl

@[simp] theorem takeEventSeq_nextEventSeq (server : Server) :
    server.takeEventSeq.2.nextEventSeq = server.nextEventSeq + 1 := rfl

@[simp] theorem takeEventSeq_nextConnectionId (server : Server) :
    server.takeEventSeq.2.nextConnectionId = server.nextConnectionId := rfl

def nextConnection (server : Server) : String := s!"conn-{server.nextConnectionId}"

@[simp] theorem accept_rooms (server : Server) : server.accept.rooms = server.rooms := rfl

@[simp] theorem accept_nextEventSeq (server : Server) :
    server.accept.nextEventSeq = server.nextEventSeq := rfl

@[simp] theorem accept_nextConnectionId (server : Server) :
    server.accept.nextConnectionId = server.nextConnectionId + 1 := rfl

@[simp] theorem accept_sockets (server : Server) :
    server.accept.sockets = Function.update server.sockets server.nextConnection
      (some ⟨.new server.nextConnection, .waiting, false⟩) := rfl

end Server

/-! ## Sound socket tasks -/

/-- A frame of the gateway whose embedded number, if it is a pong, is its own. -/
def OwnPong (frame : ServerFrame) : Prop :=
  ∀ pong, frame.payload = .pong pong → pong.latestEventSeq = frame.eventSeq

/-- A command of this connection that brings no channel but the connection's. -/
def Owned (connectionId : String) (command : RoomCommand) : Prop :=
  command.connectionId = connectionId ∧ command.UsesChannel ConnectionSender.mk

/-- What an activity of this connection's task may be about. -/
def Activity.Sound (connectionId : String) : Activity → Prop
  | .waiting => True
  | .replying origin frame =>
      origin = .gateway ∧ OwnPong frame ∨ origin = .manager ∧ frame.eventSeq = 0
  | .looking dispatch => Owned connectionId dispatch.command ∧
      ∀ frame, dispatch.notFound = some frame → frame.eventSeq = 0
  | .sending _ command => Owned connectionId command

structure SocketTask.Sound (connectionId : String) (socket : SocketTask) : Prop where
  name : socket.session.connectionId = connectionId
  channel : socket.session.outboundTx = ⟨connectionId⟩
  activity : socket.activity.Sound connectionId

def SocketsSound (server : Server) : Prop :=
  ∀ connectionId socket, server.sockets connectionId = some socket →
    socket.Sound connectionId

theorem SocketsSound.new : SocketsSound .new := fun _ _ found => by cases found

private theorem SocketsSound.replace {server next : Server} (sound : SocketsSound server)
    {connectionId : String} {socket : SocketTask}
    (sockets : next.sockets = Function.update server.sockets connectionId (some socket))
    (replaced : socket.Sound connectionId) : SocketsSound next := by
  intro other found lookup
  rw [sockets, update_some_eq_some_iff] at lookup
  rcases lookup with ⟨rfl, rfl⟩ | ⟨_, lookup⟩
  · exact replaced
  · exact sound other found lookup

theorem Server.Understood.sound {server : Server} {session : ConnectionSession}
    {message : SocketMessage} {handled : Server × ConnectionSession × Activity}
    {connectionId : String} (understood : server.Understood session message handled)
    (name : session.connectionId = connectionId)
    (channel : session.outboundTx = ⟨connectionId⟩) :
    (⟨handled.2.1, handled.2.2, false⟩ : SocketTask).Sound connectionId := by
  cases understood with
  | answered frame numbered ownNumber =>
      exact ⟨name, channel, .inl ⟨rfl, ownNumber⟩⟩
  | dispatched next dispatch names named kind wired unnumbered =>
      subst names
      refine ⟨name, channel, ⟨named.trans name, ?_⟩, unnumbered⟩
      obtain ⟨roomId, command, create, notFound⟩ := dispatch
      cases command with
      | join requestId connection request =>
          exact wired.trans (channel.trans (congrArg _ (named.trans name).symm))
      | resumeSession requestId connection request =>
          exact wired.trans (channel.trans (congrArg _ (named.trans name).symm))
      | ready | playerAction | disconnect => trivial

theorem Server.leave_sound {session : ConnectionSession} {connectionId : String}
    (name : session.connectionId = connectionId) : (Server.leave session).Sound connectionId := by
  unfold Server.leave
  cases session.currentRoomId with
  | none => trivial
  | some roomId => exact ⟨⟨name, trivial⟩, fun _ missing => by cases missing⟩

theorem SocketsSound.step {server next : Server} {event : Event} {seen : List Observation}
    (sound : SocketsSound server) (stepped : server.Stepped event next seen) :
    SocketsSound next := by
  cases stepped with
  | idle => exact sound
  | accepted => exact sound.replace rfl ⟨rfl, rfl, trivial⟩
  | received connectionId message unixTimeMs session handled found understood =>
      have own := sound connectionId _ found
      have kept : handled.1.sockets = server.sockets := by cases understood <;> rfl
      exact sound.replace (by rw [← kept]; rfl) (understood.sound own.name own.channel)
  | closed connectionId session found =>
      have own := sound connectionId _ found
      exact sound.replace rfl ⟨own.name, own.channel, Server.leave_sound own.name⟩
  | replied connectionId session closed origin frame found =>
      have own := sound connectionId _ found
      exact sound.replace rfl ⟨own.name, own.channel, trivial⟩
  | looked connectionId session closed dispatch task found opened =>
      have own := sound connectionId _ found
      exact sound.replace rfl ⟨own.name, own.channel, own.activity.1⟩
  | created connectionId session closed dispatch found absent creates =>
      have own := sound connectionId _ found
      exact sound.replace rfl ⟨own.name, own.channel, own.activity.1⟩
  | missed connectionId session closed dispatch activity found absent creates left =>
      have own := sound connectionId _ found
      refine sound.replace rfl ⟨own.name, own.channel, ?_⟩
      have unnumbered := own.activity.2
      subst left
      cases missing : dispatch.notFound with
      | none => trivial
      | some frame => exact .inr ⟨rfl, unnumbered frame missing⟩
  | enqueued connectionId session closed roomId command task found opened room =>
      have own := sound connectionId _ found
      exact sound.replace rfl ⟨own.name, own.channel, trivial⟩
  | processed => exact sound
  | emitted => exact sound

end GbMahjong.Gateway
