import GbMahjong.Gateway.DisconnectProperties

/-! The room of a session. A frame that names a room moves the session there before
anybody has looked at the frame, and no verdict on it ever comes back. -/

set_option autoImplicit false

namespace GbMahjong.Gateway

open GbMahjong.Library GbMahjong.Client GbMahjong.Room

/-! ## The room that a message names -/

def SocketMessage.namedRoom : SocketMessage → Option String
  | .clientFrame frame =>
      match frame.payload with
      | some (.joinRoom joinRoom) => some joinRoom.roomId
      | some (.resumeSession resume) => some resume.roomId
      | some (.playerAction action) => some action.roomId
      | _ => none
  | _ => none

/-- A message that asks to join a room, or to resume there. -/
def Binds (roomId : String) (message : SocketMessage) : Prop :=
  ∃ frame, message = .clientFrame frame ∧
    ((∃ joinRoom, frame.payload = some (.joinRoom joinRoom) ∧ joinRoom.roomId = roomId) ∨
      ∃ resume, frame.payload = some (.resumeSession resume) ∧ resume.roomId = roomId)

theorem Binds.namedRoom {roomId : String} {message : SocketMessage}
    (binds : Binds roomId message) : message.namedRoom = some roomId := by
  obtain ⟨frame, rfl, ⟨joinRoom, payload, rfl⟩ | ⟨resume, payload, rfl⟩⟩ := binds
  · simp [SocketMessage.namedRoom, payload]
  · simp [SocketMessage.namedRoom, payload]

/-- The room that the task is about to look up or to send a command to. -/
def Activity.target : Activity → Option String
  | .waiting | .replying _ _ => none
  | .looking dispatch => some dispatch.roomId
  | .sending roomId _ => some roomId

/-- The session belongs to the room, and so does whatever its task is about to do. -/
structure SocketTask.StaysIn (roomId : String) (socket : SocketTask) : Prop where
  session : socket.session.currentRoomId = some roomId
  target : ∀ other, socket.activity.target = some other → other = roomId

/-- A named room becomes the session's, and any command goes to the session's room. -/
theorem Server.handleMessage_session (server : Server) (session : ConnectionSession)
    (message : SocketMessage) (unixTimeMs : Nat) :
    let handled := server.handleMessage session message unixTimeMs
    handled.2.1.currentRoomId = message.namedRoom.or session.currentRoomId ∧
      ∀ other, handled.2.2.target = some other → handled.2.1.currentRoomId = some other := by
  cases message with
  | text | undecodable => exact ⟨rfl, fun _ same => by cases same⟩
  | clientFrame frame =>
      simp only [handleMessage, handleClientFrame, SocketMessage.namedRoom]
      cases frame.payload with
      | none => exact ⟨rfl, fun _ same => by cases same⟩
      | some payload =>
          cases payload with
          | heartbeat heartbeat => exact ⟨rfl, fun _ same => by cases same⟩
          | joinRoom request | resumeSession request | playerAction request =>
              exact ⟨rfl, fun _ same => same⟩
          | ready request =>
              cases known : session.currentRoomId with
              | none => exact ⟨known, fun _ same => by cases same⟩
              | some roomId => exact ⟨known, fun _ same => known.trans same⟩

/-! ## One step -/

/-- The connection's session stays in the room. -/
def StaysIn (connectionId roomId : String) (server : Server) : Prop :=
  ∃ socket, server.sockets connectionId = some socket ∧ socket.StaysIn roomId

/-- A message that the connection's task reads names no other room. -/
def NamesNoOther (connectionId roomId : String) (server : Server) : Event → Prop
  | .receive receiver message _ => receiver = connectionId →
      (∃ session, server.sockets connectionId = some ⟨session, .waiting, false⟩) →
      ∀ other, message.namedRoom = some other → other = roomId
  | _ => True

section Step

variable {connectionId roomId : String} {server next : Server} {socket : SocketTask}

theorem staysIn_of_found (found : server.sockets connectionId = some socket) :
    StaysIn connectionId roomId server ↔ socket.StaysIn roomId := by
  unfold StaysIn
  rw [found]
  simp

theorem StaysIn.replace (stays : StaysIn connectionId roomId server) {receiver : String}
    (sockets : next.sockets = Function.update server.sockets receiver (some socket))
    (kept : receiver = connectionId → socket.StaysIn roomId) :
    StaysIn connectionId roomId next := by
  by_cases same : receiver = connectionId
  · refine ⟨socket, ?_, kept same⟩
    rw [sockets, same, Function.update_self]
  · obtain ⟨own, found, staying⟩ := stays
    refine ⟨own, ?_, staying⟩
    rw [sockets, Function.update_of_ne (Ne.symm same)]
    exact found

/-- The disconnect at the end of a session goes to its room. -/
theorem staysIn_leave {session : ConnectionSession}
    (current : session.currentRoomId = some roomId) :
    (⟨session, Server.leave session, true⟩ : SocketTask).StaysIn roomId := by
  refine ⟨current, fun other same => ?_⟩
  simp only [Server.leave, current, Activity.target, disconnect, Option.some.injEq] at same
  exact same.symm

/-- No other step of the process touches the session. -/
theorem staysIn_of_other {event : Event} {seen : List Observation} (fresh : Fresh server)
    (stays : StaysIn connectionId roomId server) (stepped : server.Stepped event next seen)
    (other : ∀ message unixTimeMs, event ≠ .receive connectionId message unixTimeMs) :
    StaysIn connectionId roomId next := by
  have own : ∀ receiver socket, server.sockets receiver = some socket →
      receiver = connectionId → socket.StaysIn roomId :=
    fun receiver socket found same => (staysIn_of_found (same ▸ found)).mp stays
  cases stepped with
  | idle | processed | emitted => exact stays
  | accepted =>
      refine stays.replace rfl fun same => ?_
      obtain ⟨socket, found, _⟩ := stays
      have free := fresh server.nextConnectionId (Nat.le_refl _)
      rw [show s!"conn-{server.nextConnectionId}" = connectionId from same, found] at free
      cases free
  | received receiver message unixTimeMs session handled found understood =>
      have different : receiver ≠ connectionId := fun same => other _ _ (by rw [same])
      have kept : handled.1.sockets = server.sockets := by cases understood <;> rfl
      exact stays.replace (by rw [← kept]; rfl) fun same => absurd same different
  | closed receiver session found =>
      exact stays.replace rfl fun same => staysIn_leave (own receiver _ found same).session
  | replied receiver session closed origin frame found =>
      exact stays.replace rfl fun same => ⟨(own receiver _ found same).session, nofun⟩
  | looked receiver session closed dispatch task found opened =>
      exact stays.replace rfl fun same =>
        ⟨(own receiver _ found same).session, (own receiver _ found same).target⟩
  | created receiver session closed dispatch found absent creates =>
      exact stays.replace rfl fun same =>
        ⟨(own receiver _ found same).session, (own receiver _ found same).target⟩
  | missed receiver session closed dispatch activity found absent creates left =>
      refine stays.replace rfl fun same => ⟨(own receiver _ found same).session, ?_⟩
      subst left
      cases dispatch.notFound with
      | none => exact nofun
      | some frame => exact nofun
  | enqueued receiver session closed target command task found opened room =>
      exact stays.replace rfl fun same => ⟨(own receiver _ found same).session, nofun⟩

theorem received_sockets {session : ConnectionSession} {message : SocketMessage}
    {unixTimeMs : Nat}
    (found : server.sockets connectionId = some ⟨session, .waiting, false⟩) :
    (server.step (.receive connectionId message unixTimeMs)).1.sockets connectionId =
      some ⟨(server.handleMessage session message unixTimeMs).2.1,
        (server.handleMessage session message unixTimeMs).2.2, false⟩ := by
  simp [Server.step, found]

/-- A message leaves the session in the room it names, or else where it was. -/
theorem staysIn_received_iff {session : ConnectionSession} {message : SocketMessage}
    {unixTimeMs : Nat}
    (found : server.sockets connectionId = some ⟨session, .waiting, false⟩) :
    StaysIn connectionId roomId
        (server.step (.receive connectionId message unixTimeMs)).1 ↔
      message.namedRoom.or session.currentRoomId = some roomId := by
  obtain ⟨moved, targeted⟩ := server.handleMessage_session session message unixTimeMs
  rw [staysIn_of_found (received_sockets found), ← moved]
  constructor
  · exact fun staying => staying.session
  · exact fun stayed => ⟨stayed, fun other same =>
      Option.some.inj ((targeted other same).symm.trans stayed)⟩

/-- One step keeps the session in its room exactly when it names no other. -/
theorem staysIn_step_iff (fresh : Fresh server) (stays : StaysIn connectionId roomId server)
    (event : Event) :
    StaysIn connectionId roomId (server.step event).1 ↔
      NamesNoOther connectionId roomId server event := by
  have stepped := server.stepped event
  cases event with
  | receive receiver message unixTimeMs =>
      by_cases same : receiver = connectionId
      · subst same
        obtain ⟨socket, found, staying⟩ := stays
        by_cases reading : ∃ session, socket = ⟨session, .waiting, false⟩
        · obtain ⟨session, rfl⟩ := reading
          rw [staysIn_received_iff found, staying.session]
          have names : NamesNoOther receiver roomId server
              (.receive receiver message unixTimeMs) ↔
              ∀ other, message.namedRoom = some other → other = roomId :=
            ⟨fun names => names rfl ⟨session, found⟩, fun noOther _ _ => noOther⟩
          rw [names]
          cases message.namedRoom with
          | none => simp
          | some other => simp
        · have unread : (server.step (.receive receiver message unixTimeMs)).1 = server := by
            simp only [Server.step, found]
            split
            · rename_i session same
              exact absurd ⟨session, Option.some.inj same⟩ reading
            · rfl
          rw [unread]
          refine iff_of_true ⟨socket, found, staying⟩ fun _ waiting => ?_
          obtain ⟨session, same⟩ := waiting
          exact absurd ⟨session, Option.some.inj (found.symm.trans same)⟩ reading
      · refine iff_of_true (staysIn_of_other fresh stays stepped fun _ _ own => ?_)
          fun own => absurd own same
        cases own
        exact same rfl
  | accept | close | advance | process | emit =>
      exact iff_of_true
        (staysIn_of_other fresh stays stepped fun _ _ same => by cases same) trivial

end Step

/-! ## Runs -/

theorem fresh_run (events : List Event) : Fresh (gateway.exec .new events) :=
  (accounted_run events).fresh

theorem always_staysIn_iff {server : Server} {connectionId roomId : String}
    (fresh : Fresh server) (stays : StaysIn connectionId roomId server) (events : List Event) :
    gateway.Always (StaysIn connectionId roomId) server events ↔
      gateway.Throughout (NamesNoOther connectionId roomId) server events := by
  have keeps : ∀ server event, Fresh server → Fresh (gateway.step server event).1 :=
    fun server event fresh => fresh.step (server.stepped event)
  have exactly : ∀ server event, Fresh server → StaysIn connectionId roomId server →
      (StaysIn connectionId roomId (gateway.step server event).1 ↔
        NamesNoOther connectionId roomId server event) :=
    fun server event fresh stays => staysIn_step_iff fresh stays event
  exact gateway.always_iff_throughout keeps exactly fresh stays events

/-- From the frame that asks for a room on, the session stays in that room, and so does
all that its task does, exactly as long as no frame that it reads names another. -/
theorem staysIn_iff_namesNoOther (before after : List Event) (connectionId roomId : String)
    (message : SocketMessage) (unixTimeMs : Nat) (session : ConnectionSession)
    (reading : (gateway.exec .new before).sockets connectionId =
      some ⟨session, .waiting, false⟩)
    (binds : Binds roomId message) :
    let entered := gateway.exec .new (before ++ [.receive connectionId message unixTimeMs])
    gateway.Always (StaysIn connectionId roomId) entered after ↔
      gateway.Throughout (NamesNoOther connectionId roomId) entered after := by
  intro entered
  have stays : StaysIn connectionId roomId entered := by
    rw [show entered = _ from gateway.exec_concat ..]
    refine (staysIn_received_iff reading).mpr ?_
    rw [binds.namedRoom, Option.some_or]
  exact always_staysIn_iff (fresh_run _) stays after

/-- One more frame of a session of the room, and what comes until its next one is read: the
session stays exactly when the frame names no other room. The verdict on the frame is among
what comes, and a refusal changes nothing. -/
theorem frame_staysIn_iff (before after : List Event) (connectionId roomId : String)
    (message : SocketMessage) (unixTimeMs : Nat) (session : ConnectionSession)
    (reading : (gateway.exec .new before).sockets connectionId =
      some ⟨session, .waiting, false⟩)
    (current : session.currentRoomId = some roomId)
    (last : ∀ event ∈ after, ∀ message unixTimeMs,
      event ≠ .receive connectionId message unixTimeMs) :
    gateway.Always (StaysIn connectionId roomId) (gateway.exec .new before)
        (.receive connectionId message unixTimeMs :: after) ↔
      ∀ other, message.namedRoom = some other → other = roomId := by
  have stays : StaysIn connectionId roomId (gateway.exec .new before) :=
    ⟨_, reading, current, nofun⟩
  rw [always_staysIn_iff (fresh_run before) stays]
  constructor
  · intro throughout
    exact throughout.1 rfl ⟨session, reading⟩
  · intro noOther
    refine ⟨fun _ _ => noOther, gateway.throughout_of_forall fun server event member => ?_⟩
    cases event with
    | receive receiver message unixTimeMs =>
        intro own
        exact absurd (own ▸ rfl) (last _ member message unixTimeMs)
    | accept | close | advance | process | emit => trivial

/-! ## Where the commands go -/

/-- A session that stays puts no command on the queue of another room. -/
theorem commandsOf_step_elsewhere {server next : Server} {event : Event}
    {log seen : List Observation} {connectionId roomId other : String}
    (sound : SocketsSound server) (stays : StaysIn connectionId roomId server)
    (stepped : server.Stepped event next seen) (elsewhere : other ≠ roomId) :
    commandsOf connectionId next (log ++ seen) other =
      commandsOf connectionId server log other := by
  have kept : SameCommands server next seen →
      commandsOf connectionId next (log ++ seen) other =
        commandsOf connectionId server log other :=
    fun same => congrFun (same.commandsOf_eq log connectionId) other
  cases stepped with
  | idle | accepted | closed | looked | missed => exact kept (sameCommands_of_rooms rfl)
  | received receiver message unixTimeMs session handled found understood =>
      exact kept (sameCommands_of_rooms (by cases understood <;> rfl))
  | replied => exact kept (sameCommands_replied rfl _ _)
  | created receiver session closed dispatch found absent creates =>
      exact kept (sameCommands_created absent rfl)
  | enqueued receiver session closed target command task found opened room =>
      rw [commandsOf_enqueued opened rfl, if_neg, List.append_nil]
      intro own
      obtain ⟨here, named⟩ := own
      have owner : command.connectionId = receiver := (sound receiver _ found).activity.1
      rw [named] at owner
      have staying := (staysIn_of_found (owner ▸ found)).mp stays
      exact elsewhere (here.trans (staying.target target rfl))
  | processed target around state command rest opened =>
      exact kept (sameCommands_processed opened (Server.setRoom_rooms ..) rfl around)
  | emitted target state queue delivery rest opened =>
      exact kept (sameCommands_emitted opened rfl rfl _ _)

/-- Over a run in which the session stays, the other rooms get nothing from it. -/
theorem commandsOf_elsewhere {connectionId roomId other : String} {events : List Event}
    {server : Server} {log : List Observation} (sound : SocketsSound server)
    (stays : gateway.Always (StaysIn connectionId roomId) server events)
    (elsewhere : other ≠ roomId) :
    commandsOf connectionId (gateway.exec server events)
        (log ++ gateway.trace server events) other =
      commandsOf connectionId server log other := by
  induction events generalizing server log with
  | nil => rw [Machine.trace_nil, List.append_nil, Machine.exec_nil]
  | cons event rest ih =>
      have stepped := server.stepped event
      have once := @commandsOf_step_elsewhere _ _ _ log _ _ _ _ sound stays.1 stepped elsewhere
      have later := @ih _ (log ++ (server.step event).2) (sound.step stepped) stays.2
      rw [List.append_assoc] at later
      exact later.trans once

/-! ## Two runs of a connection -/

/-- The first connection's join reaches its room, which seats and answers it. -/
def joinSettles : List Event :=
  [.advance "conn-1", .advance "conn-1", .process "room" Surroundings.noop,
    .emit "room", .emit "room", .emit "room"]

/-- It then sends an action to its room and closes. -/
def actThenClose : List Event :=
  joinSettles ++
    [.receive "conn-1" (.clientFrame
      ⟨"act", some (.playerAction ⟨"room", "", "", 0, 0, none⟩)⟩) 0,
      .advance "conn-1", .advance "conn-1", .close "conn-1", .advance "conn-1",
      .advance "conn-1"]

theorem staysIn_iff_namesNoOther_alice :
    gateway.Always (StaysIn "conn-1" "room")
      (gateway.exec .new [.accept, .receive "conn-1" (aliceJoins "room") 0]) actThenClose := by
  have binds : Binds "room" (aliceJoins "room") := ⟨_, rfl, .inl ⟨_, rfl, rfl⟩⟩
  refine (staysIn_iff_namesNoOther [.accept] actThenClose "conn-1" "room" (aliceJoins "room") 0
    (.new "conn-1") rfl binds).mpr ?_
  refine ⟨trivial, trivial, trivial, trivial, trivial, trivial, fun _ _ other named => ?_,
    trivial, trivial, trivial, trivial, trivial, trivial⟩
  exact (Option.some.inj named).symm

def strayAction : List Event :=
  [.receive "conn-1" (.clientFrame
    ⟨"stray", some (.playerAction ⟨"elsewhere", "", "", 0, 0, none⟩)⟩) 0,
    .advance "conn-1", .advance "conn-1"]

/-- Alice is seated in her room; an action for a room that does not exist is answered with
a reject and nothing else, and her session has moved there. Her next ready and her
disconnect are looked up there too. -/
theorem strayAction_moves_session :
    let joined := gateway.exec .new
      ([.accept, .receive "conn-1" (aliceJoins "room") 0] ++ joinSettles)
    let strayed := gateway.exec joined strayAction
    let session : ConnectionSession := ⟨"conn-1", ⟨"conn-1"⟩, some "elsewhere"⟩
    (∃ task player, joined.rooms "room" = some task ∧
      task.state.playersBySeat .east = some player ∧
      player.connected = true ∧ player.connectionId = some "conn-1") ∧
    gateway.trace joined strayAction = [.sent .manager ⟨.requester "conn-1", ⟨"conn-1"⟩,
      Room.buildActionRejected 0 "stray" .roomNotFound
        "room task not found for PlayerActionRequest" 0 0⟩] ∧
    strayed.sockets "conn-1" = some ⟨session, .waiting, false⟩ ∧
    (gateway.exec strayed [.receive "conn-1"
        (.clientFrame ⟨"ready", some (.ready ⟨true⟩)⟩) 0]).sockets "conn-1" =
      some ⟨session, .looking (dispatchReady "elsewhere" "ready" session.handle ⟨true⟩),
        false⟩ ∧
    (gateway.exec strayed [.close "conn-1"]).sockets "conn-1" =
      some ⟨session, .looking (disconnect "elsewhere" "conn-1"), true⟩ ∧
    ¬ gateway.Always (StaysIn "conn-1" "room") joined strayAction := by
  refine ⟨⟨_, _, rfl, rfl, rfl, rfl⟩, rfl, rfl, rfl, rfl, fun always => ?_⟩
  obtain ⟨socket, found, staying⟩ := always.last
  cases found
  exact absurd (Option.some.inj staying.session) (by decide)

end GbMahjong.Gateway
