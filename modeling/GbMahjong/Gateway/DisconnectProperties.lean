import GbMahjong.Gateway.Sockets
import GbMahjong.Room.HolderProperties

/-! What a closed connection leaves behind. Its socket task sends one disconnect,
to the room that the session named last; the other rooms hear nothing of the
close. -/

set_option autoImplicit false

namespace GbMahjong.Gateway

open GbMahjong.Library GbMahjong.Client GbMahjong.Room

/-! ## The commands of a room -/

def Observation.processed? (roomId : String) : Observation → Option RoomInput
  | .sent _ _ => none
  | .processed other input => if other = roomId then some input else none

/-- The commands that a room has processed, in order. -/
def history (roomId : String) (log : List Observation) : List RoomInput :=
  log.filterMap (Observation.processed? roomId)

@[simp] theorem history_nil (roomId : String) : history roomId [] = [] := rfl

@[simp] theorem history_append (roomId : String) (first second : List Observation) :
    history roomId (first ++ second) = history roomId first ++ history roomId second :=
  List.filterMap_append

@[simp] theorem history_sent (roomId : String) (origin : Origin) (delivery : Delivery) :
    history roomId [.sent origin delivery] = [] := rfl

@[simp] theorem history_processed (roomId other : String) (input : RoomInput) :
    history roomId [.processed other input] = if other = roomId then [input] else [] := by
  by_cases same : other = roomId <;> simp [history, Observation.processed?, same]

def Server.queueOf (server : Server) (roomId : String) : List RoomCommand :=
  match server.rooms roomId with
  | none => []
  | some task => task.commandQueue

/-- Everything that was put on a room's command channel, in order. -/
def commandsTo (server : Server) (log : List Observation) (roomId : String) :
    List RoomCommand :=
  (history roomId log).map (·.1) ++ server.queueOf roomId

def commandsOf (connectionId : String) (server : Server) (log : List Observation)
    (roomId : String) : List RoomCommand :=
  (commandsTo server log roomId).filter (·.connectionId = connectionId)

/-- The state of a room is what its history makes of a new room. -/
structure Replayed (server : Server) (log : List Observation) : Prop where
  opened : ∀ roomId task, server.rooms roomId = some task →
    task.state = roomTask.exec (RoomState.new roomId) (history roomId log)
  absent : ∀ roomId, server.rooms roomId = none → history roomId log = []

private theorem Replayed.keep {server next : Server} {log seen : List Observation}
    (replayed : Replayed server log) (rooms : next.rooms = server.rooms)
    (silent : ∀ roomId, history roomId seen = []) : Replayed next (log ++ seen) := by
  constructor
  · intro roomId task found
    rw [history_append, silent, List.append_nil]
    exact replayed.opened roomId task (rooms ▸ found)
  · intro roomId missing
    rw [history_append, silent, List.append_nil]
    exact replayed.absent roomId (rooms ▸ missing)

private theorem Replayed.replace {server next : Server} {log seen : List Observation}
    (replayed : Replayed server log) {roomId : String} {task : RoomTask}
    (rooms : next.rooms = Function.update server.rooms roomId (some task))
    (own : task.state =
      roomTask.exec (RoomState.new roomId) (history roomId (log ++ seen)))
    (silent : ∀ other, other ≠ roomId → history other seen = []) :
    Replayed next (log ++ seen) := by
  constructor
  · intro other found lookup
    rw [rooms, update_some_eq_some_iff] at lookup
    rcases lookup with ⟨rfl, rfl⟩ | ⟨different, lookup⟩
    · exact own
    · rw [history_append, silent other different, List.append_nil]
      exact replayed.opened other found lookup
  · intro other missing
    rw [rooms] at missing
    by_cases same : other = roomId
    · rw [same, Function.update_self] at missing
      cases missing
    · rw [history_append, silent other same, List.append_nil]
      exact replayed.absent other (by simpa [same] using missing)

theorem Replayed.step {server next : Server} {event : Event} {log seen : List Observation}
    (replayed : Replayed server log) (stepped : server.Stepped event next seen) :
    Replayed next (log ++ seen) := by
  cases stepped with
  | idle | accepted | closed | replied | looked | missed =>
      exact replayed.keep rfl fun _ => rfl
  | received connectionId message unixTimeMs session handled found understood =>
      exact replayed.keep (by cases understood <;> rfl) fun _ => rfl
  | created connectionId session closed dispatch found absent creates =>
      refine replayed.replace rfl ?_ fun _ _ => rfl
      rw [List.append_nil, replayed.absent dispatch.roomId absent]
      rfl
  | enqueued connectionId session closed roomId command task found opened room =>
      refine replayed.replace rfl ?_ fun _ _ => rfl
      rw [List.append_nil]
      exact replayed.opened roomId task opened
  | processed roomId around state command rest opened =>
      have earlier := replayed.opened roomId _ opened
      refine replayed.replace rfl ?_ fun other different => ?_
      · simp only [history_append, history_processed, ↓reduceIte, Machine.exec_concat,
          ← earlier]
        rfl
      · simp [different.symm]
  | emitted roomId state queue delivery rest opened =>
      have earlier := replayed.opened roomId _ opened
      refine replayed.replace rfl ?_ fun _ _ => rfl
      rw [history_append, history_sent, List.append_nil]
      exact earlier

theorem queueOf_update {server next : Server} {roomId : String} {task : RoomTask}
    (rooms : next.rooms = Function.update server.rooms roomId (some task))
    (other : String) :
    next.queueOf other = if other = roomId then task.commandQueue else server.queueOf other := by
  by_cases same : other = roomId
  · subst same
    simp [Server.queueOf, rooms]
  · simp [Server.queueOf, rooms, same]

/-- The step puts nothing on a command channel; it may take a command off it. -/
def SameCommands (server next : Server) (seen : List Observation) : Prop :=
  ∀ roomId, (history roomId seen).map (·.1) ++ next.queueOf roomId = server.queueOf roomId

theorem SameCommands.commandsOf_eq {server next : Server} {seen : List Observation}
    (same : SameCommands server next seen) (log : List Observation)
    (connectionId : String) :
    commandsOf connectionId next (log ++ seen) = commandsOf connectionId server log := by
  funext roomId
  simp only [commandsOf, commandsTo, history_append, List.map_append, List.append_assoc,
    same roomId]

theorem sameCommands_of_rooms {server next : Server} (rooms : next.rooms = server.rooms) :
    SameCommands server next [] := by
  intro roomId
  simp [Server.queueOf, rooms]

theorem sameCommands_replied {server next : Server} (rooms : next.rooms = server.rooms)
    (origin : Origin) (delivery : Delivery) :
    SameCommands server next [.sent origin delivery] := by
  intro roomId
  simp [Server.queueOf, rooms]

theorem sameCommands_created {server next : Server} {roomId : String}
    (absent : server.rooms roomId = none)
    (rooms : next.rooms = Function.update server.rooms roomId (some (.new roomId))) :
    SameCommands server next [] := by
  intro other
  rw [queueOf_update rooms]
  by_cases same : other = roomId
  · subst same
    simp [Server.queueOf, absent, RoomTask.new]
  · simp [same]

theorem sameCommands_processed {server next : Server} {roomId : String} {state : RoomState}
    {command : RoomCommand} {rest : List RoomCommand} {task : RoomTask}
    (opened : server.rooms roomId = some ⟨state, command :: rest, []⟩)
    (rooms : next.rooms = Function.update server.rooms roomId (some task))
    (queue : task.commandQueue = rest) (around : Surroundings) :
    SameCommands server next [.processed roomId (command, around)] := by
  intro other
  rw [queueOf_update rooms]
  by_cases same : other = roomId
  · subst same
    simp [Server.queueOf, opened, queue]
  · have apart : roomId ≠ other := fun equal => same equal.symm
    simp [same, apart]

theorem sameCommands_emitted {server next : Server} {roomId : String} {state : RoomState}
    {queue : List RoomCommand} {unsent : List Delivery} {task : RoomTask}
    (opened : server.rooms roomId = some ⟨state, queue, unsent⟩)
    (rooms : next.rooms = Function.update server.rooms roomId (some task))
    (kept : task.commandQueue = queue) (origin : Origin) (delivery : Delivery) :
    SameCommands server next [.sent origin delivery] := by
  intro other
  rw [queueOf_update rooms]
  by_cases same : other = roomId
  · subst same
    simp [Server.queueOf, opened, kept]
  · simp [same]

theorem commandsOf_enqueued {server next : Server} {roomId : String} {task : RoomTask}
    {command : RoomCommand} (opened : server.rooms roomId = some task)
    (rooms : next.rooms = Function.update server.rooms roomId
      (some { task with commandQueue := task.commandQueue ++ [command] }))
    (log : List Observation) (connectionId other : String) :
    commandsOf connectionId next (log ++ []) other =
      commandsOf connectionId server log other ++
        if other = roomId ∧ command.connectionId = connectionId then [command] else [] := by
  simp only [commandsOf, commandsTo, List.append_nil, queueOf_update rooms]
  by_cases same : other = roomId
  · subst same
    have queue : server.queueOf other = task.commandQueue := by
      simp [Server.queueOf, opened]
    by_cases own : command.connectionId = connectionId <;> simp [queue, own]
  · simp [same]

/-! ## The life of a connection -/

/-- The session's task is not about to send a disconnect. -/
def Activity.Stays : Activity → Prop
  | .waiting | .replying _ _ => True
  | .looking dispatch => ∀ connectionId, dispatch.command ≠ .disconnect connectionId
  | .sending _ command => ∀ connectionId, command ≠ .disconnect connectionId

/-- Where a connection is in its life, and what the rooms have got from it: no
disconnect before the socket closes, and after that one, as its last command, in
the room that the session named last. -/
inductive Phase (connectionId : String) (commands : String → List RoomCommand) :
    Option SocketTask → Prop where
  | absent (silent : ∀ roomId, commands roomId = []) : Phase connectionId commands none
  | connected (session : ConnectionSession) (activity : Activity)
      (staying : ∀ roomId, .disconnect connectionId ∉ commands roomId)
      (kind : activity.Stays) :
      Phase connectionId commands (some ⟨session, activity, false⟩)
  | looking (session : ConnectionSession) (roomId : String)
      (staying : ∀ roomId, .disconnect connectionId ∉ commands roomId)
      (named : session.currentRoomId = some roomId) :
      Phase connectionId commands
        (some ⟨session, .looking (disconnect roomId connectionId), true⟩)
  | sending (session : ConnectionSession) (roomId : String)
      (staying : ∀ roomId, .disconnect connectionId ∉ commands roomId)
      (named : session.currentRoomId = some roomId) :
      Phase connectionId commands
        (some ⟨session, .sending roomId (.disconnect connectionId), true⟩)
  | gone (session : ConnectionSession)
      (elsewhere : ∀ roomId, session.currentRoomId ≠ some roomId →
        .disconnect connectionId ∉ commands roomId)
      (left : ∀ roomId, session.currentRoomId = some roomId → commands roomId = [] ∨
        ∃ earlier, commands roomId = earlier ++ [.disconnect connectionId] ∧
          .disconnect connectionId ∉ earlier) :
      Phase connectionId commands (some ⟨session, .waiting, true⟩)

def Phases (server : Server) (log : List Observation) : Prop :=
  ∀ connectionId,
    Phase connectionId (commandsOf connectionId server log) (server.sockets connectionId)

/-- Connections that are accepted later have no task yet. -/
def Fresh (server : Server) : Prop :=
  ∀ number, server.nextConnectionId ≤ number → server.sockets s!"conn-{number}" = none

theorem connectionName_injective {first second : Nat}
    (same : s!"conn-{first}" = s!"conn-{second}") : first = second := by
  have repr : first.repr = second.repr := (String.append_right_inj "conn-").mp same
  have digits := congrArg String.toList repr
  rw [Nat.toList_repr, Nat.toList_repr] at digits
  have value := @Nat.ofDigitChars_ten_toDigits first
  rw [digits, Nat.ofDigitChars_ten_toDigits] at value
  exact value.symm

private theorem Fresh.replace {server next : Server} (fresh : Fresh server)
    {connectionId : String} {before after : SocketTask}
    (found : server.sockets connectionId = some before)
    (sockets : next.sockets = Function.update server.sockets connectionId (some after))
    (counter : next.nextConnectionId = server.nextConnectionId) : Fresh next := by
  intro number later
  rw [sockets]
  have free := fresh number (counter ▸ later)
  have different : s!"conn-{number}" ≠ connectionId := by
    intro same
    rw [same, found] at free
    cases free
  rw [Function.update_of_ne different]
  exact free

theorem Fresh.step {server next : Server} {event : Event} {seen : List Observation}
    (fresh : Fresh server) (stepped : server.Stepped event next seen) : Fresh next := by
  cases stepped with
  | idle => exact fresh
  | accepted =>
      intro number later
      have different : s!"conn-{number}" ≠ server.nextConnection := by
        intro same
        have equal := connectionName_injective same
        simp only [Server.accept_nextConnectionId] at later
        omega
      rw [Server.accept_sockets, Function.update_of_ne different]
      exact fresh number (by simp only [Server.accept_nextConnectionId] at later; omega)
  | received connectionId message unixTimeMs session handled found understood =>
      cases understood with
      | answered => exact fresh.replace found (Server.setSocket_sockets ..) rfl
      | dispatched => exact fresh.replace found (Server.setSocket_sockets ..) rfl
  | closed connectionId session found => exact fresh.replace found rfl rfl
  | replied connectionId session closed origin frame found => exact fresh.replace found rfl rfl
  | looked connectionId session closed dispatch task found => exact fresh.replace found rfl rfl
  | created connectionId session closed dispatch found => exact fresh.replace found rfl rfl
  | missed connectionId session closed dispatch activity found =>
      exact fresh.replace found rfl rfl
  | enqueued connectionId session closed roomId command task found =>
      exact fresh.replace found rfl rfl
  | processed => exact fresh
  | emitted => exact fresh

private theorem Phases.keep {server next : Server} {log seen : List Observation}
    (phases : Phases server log) (sockets : next.sockets = server.sockets)
    (same : SameCommands server next seen) : Phases next (log ++ seen) := by
  intro connectionId
  rw [same.commandsOf_eq, sockets]
  exact phases connectionId

private theorem Phases.replace {server next : Server} {log seen : List Observation}
    (phases : Phases server log) {connectionId : String} {socket : SocketTask}
    (sockets : next.sockets = Function.update server.sockets connectionId (some socket))
    (same : SameCommands server next seen)
    (own : Phase connectionId (commandsOf connectionId server log) (some socket)) :
    Phases next (log ++ seen) := by
  intro other
  rw [same.commandsOf_eq, sockets]
  by_cases equal : other = connectionId
  · subst equal
    rw [Function.update_self]
    exact own
  · rw [Function.update_of_ne equal]
    exact phases other

private theorem Phases.found {server : Server} {log : List Observation}
    (phases : Phases server log) {connectionId : String} {socket : SocketTask}
    (found : server.sockets connectionId = some socket) :
    Phase connectionId (commandsOf connectionId server log) (some socket) :=
  found ▸ phases connectionId

/-- The step by which a socket task puts its command on the channel. -/
private theorem Phases.enqueue {server next : Server} {log : List Observation}
    (phases : Phases server log) (sound : SocketsSound server) {connectionId : String}
    {session : ConnectionSession} {closed : Bool} {roomId : String} {command : RoomCommand}
    {task : RoomTask}
    (found : server.sockets connectionId = some ⟨session, .sending roomId command, closed⟩)
    (opened : server.rooms roomId = some task)
    (rooms : next.rooms = Function.update server.rooms roomId
      (some { task with commandQueue := task.commandQueue ++ [command] }))
    (sockets : next.sockets = Function.update server.sockets connectionId
      (some ⟨session, .waiting, closed⟩)) : Phases next (log ++ []) := by
  have named : command.connectionId = connectionId := (sound connectionId _ found).activity.1
  have commands := commandsOf_enqueued opened rooms log
  intro other
  rw [sockets]
  by_cases equal : other = connectionId
  · subst equal
    rw [Function.update_self]
    have own := phases.found found
    cases own with
    | connected _ _ staying kind =>
        refine .connected session .waiting (fun target member => ?_) trivial
        rw [commands other target, List.mem_append] at member
        rcases member with earlier | now
        · exact staying target earlier
        · by_cases here : target = roomId <;> simp [here, named] at now
          exact kind other now.symm
    | sending _ _ staying current =>
        refine .gone session (fun target elsewhere => ?_) (fun target here => ?_)
        · have apart : target ≠ roomId := fun same => elsewhere (same ▸ current)
          rw [commands other target]
          simpa [apart] using staying target
        · rw [current, Option.some.injEq] at here
          subst here
          refine .inr ⟨_, ?_, staying roomId⟩
          rw [commands other roomId]
          simp [RoomCommand.connectionId]
  · rw [Function.update_of_ne equal]
    have apart : command.connectionId ≠ other := fun same => equal (same ▸ named)
    have kept : commandsOf other next (log ++ []) = commandsOf other server log := by
      funext target
      rw [commands other target]
      simp [apart]
    rw [kept]
    exact phases other

theorem Phases.step {server next : Server} {event : Event} {log seen : List Observation}
    (phases : Phases server log) (sound : SocketsSound server) (fresh : Fresh server)
    (replayed : Replayed server log) (stepped : server.Stepped event next seen) :
    Phases next (log ++ seen) := by
  cases stepped with
  | idle => exact phases.keep rfl (sameCommands_of_rooms rfl)
  | accepted =>
      refine phases.replace (Server.accept_sockets server) (sameCommands_of_rooms rfl) ?_
      have own := phases server.nextConnection
      have free : server.sockets server.nextConnection = none :=
        fresh server.nextConnectionId (Nat.le_refl _)
      rw [free] at own
      cases own with
      | absent silent =>
          exact .connected _ _ (fun roomId => by rw [silent roomId]; exact List.not_mem_nil)
            trivial
  | received connectionId message unixTimeMs session handled found understood =>
      have own := phases.found found
      cases own with
      | connected _ _ staying kind =>
          cases understood with
          | answered frame =>
              exact phases.replace (Server.setSocket_sockets ..) (sameCommands_of_rooms rfl)
                (.connected _ _ staying trivial)
          | dispatched next dispatch names named kind =>
              exact phases.replace (Server.setSocket_sockets ..) (sameCommands_of_rooms rfl)
                (.connected _ _ staying kind)
  | closed connectionId session found =>
      have name : session.connectionId = connectionId := (sound connectionId _ found).name
      refine phases.replace (Server.setSocket_sockets ..) (sameCommands_of_rooms rfl) ?_
      have own := phases.found found
      cases own with
      | connected _ _ staying kind =>
          unfold Server.leave
          cases current : session.currentRoomId with
          | none =>
              exact .gone session (fun roomId _ => staying roomId)
                fun roomId here => by rw [current] at here; cases here
          | some roomId =>
              simp only [name]
              exact .looking session roomId staying current
  | replied connectionId session closed origin frame found =>
      refine phases.replace (Server.setSocket_sockets ..) (sameCommands_replied rfl _ _) ?_
      have own := phases.found found
      cases own with
      | connected _ _ staying kind => exact .connected session .waiting staying trivial
  | looked connectionId session closed dispatch task found opened =>
      refine phases.replace (Server.setSocket_sockets ..) (sameCommands_of_rooms rfl) ?_
      have own := phases.found found
      cases own with
      | connected _ _ staying kind => exact .connected session _ staying kind
      | looking _ roomId staying named => exact .sending session roomId staying named
  | created connectionId session closed dispatch found absent creates =>
      refine phases.replace (Server.setSocket_sockets ..) (sameCommands_created absent rfl) ?_
      have own := phases.found found
      cases own with
      | connected _ _ staying kind => exact .connected session _ staying kind
      | looking _ roomId staying named => cases creates
  | missed connectionId session closed dispatch activity found absent creates left =>
      refine phases.replace (Server.setSocket_sockets ..) (sameCommands_of_rooms rfl) ?_
      have own := phases.found found
      subst left
      cases own with
      | connected _ _ staying kind =>
          cases dispatch.notFound with
          | none => exact .connected session _ staying trivial
          | some frame => exact .connected session _ staying trivial
      | looking _ roomId staying named =>
          -- Where the room does not exist, it has never got a command.
          refine .gone session (fun target _ => staying target) fun target here => .inl ?_
          rw [named, Option.some.injEq] at here
          subst here
          have missing : server.rooms roomId = none := absent
          simp [commandsOf, commandsTo, replayed.absent roomId missing, Server.queueOf, missing]
  | enqueued connectionId session closed roomId command task found opened room =>
      exact phases.enqueue sound found opened rfl rfl
  | processed roomId around state command rest opened =>
      exact phases.keep rfl (sameCommands_processed opened (Server.setRoom_rooms ..) rfl around)
  | emitted roomId state queue delivery rest opened =>
      exact phases.keep rfl (sameCommands_emitted opened (by rfl) (by rfl) _ _)

/-! ## Runs -/

/-- What a run keeps about histories and connections. -/
structure Accounted (server : Server) (log : List Observation) : Prop where
  sockets : SocketsSound server
  fresh : Fresh server
  replayed : Replayed server log
  phases : Phases server log

theorem accounted_run (events : List Event) :
    Accounted (gateway.exec .new events) (gateway.trace .new events) := by
  have start : Accounted .new [] :=
    ⟨.new, fun _ _ => rfl, ⟨fun _ _ found => (nomatch found), fun _ _ => rfl⟩,
      fun _ => .absent fun _ => rfl⟩
  exact gateway.trace_invariant (fun server log event kept =>
    have stepped := server.stepped event
    ⟨kept.sockets.step stepped, kept.fresh.step stepped, kept.replayed.step stepped,
      kept.phases.step kept.sockets kept.fresh kept.replayed stepped⟩) start events

/-- No room holds a live slot of this connection. -/
def Released (connectionId : String) (server : Server) : Prop :=
  ∀ roomId task, server.rooms roomId = some task → ∀ seat player,
    task.state.playersBySeat seat = some player →
    ¬ (player.connected = true ∧ player.connectionId = some connectionId)

/-- All that the rooms have still to process comes from other connections. -/
def Drained (connectionId : String) (server : Server) : Prop :=
  ∀ roomId task, server.rooms roomId = some task →
    ∀ command ∈ task.commandQueue, command.connectionId ≠ connectionId

def RegistersOnce (connectionId : String) (inputs : List RoomInput) : Prop :=
  ∃ userId, ∀ input ∈ inputs, input.1.connectionId = connectionId →
    ∀ user, input.1.registersAs = some user → user = userId

theorem commandsOf_drained {connectionId : String} {server : Server}
    (drained : Drained connectionId server) (log : List Observation) (roomId : String) :
    commandsOf connectionId server log roomId =
      ((history roomId log).map (·.1)).filter (·.connectionId = connectionId) := by
  have queue : (server.queueOf roomId).filter (·.connectionId = connectionId) = [] := by
    rw [List.filter_eq_nil_iff]
    intro command member
    unfold Server.queueOf at member
    cases opened : server.rooms roomId with
    | none => simp [opened] at member
    | some task =>
        simp only [opened] at member
        simpa using drained roomId task opened command member
  rw [commandsOf, commandsTo, List.filter_append, queue, List.append_nil]

/-- A history whose commands from the connection end with its disconnect. -/
theorem history_split {connectionId : String} {inputs : List RoomInput}
    {earlier : List RoomCommand}
    (commands : (inputs.map (·.1)).filter (·.connectionId = connectionId) =
      earlier ++ [.disconnect connectionId])
    (fresh : .disconnect connectionId ∉ earlier) :
    ∃ before around after, inputs = before ++ (.disconnect connectionId, around) :: after ∧
      (∀ input ∈ before, input.1 ≠ .disconnect connectionId) ∧
      ∀ input ∈ after, input.1.connectionId ≠ connectionId := by
  obtain ⟨front, back, split, frontKept, backKept⟩ := List.filter_eq_append_iff.mp commands
  obtain ⟨skipped, tail, backSplit, foreign, _, tailKept⟩ := List.filter_eq_cons_iff.mp backKept
  rw [backSplit, ← List.append_assoc] at split
  obtain ⟨before, rest, inputsSplit, beforeMap, restMap⟩ := List.map_eq_append_iff.mp split
  obtain ⟨⟨command, around⟩, after, rfl, rfl, afterMap⟩ := List.map_eq_cons_iff.mp restMap
  refine ⟨before, around, after, inputsSplit, fun input member leaves => ?_,
    fun input member own => ?_⟩
  · have present : RoomCommand.disconnect connectionId ∈ front ++ skipped := by
      rw [← beforeMap, ← leaves]
      exact List.mem_map_of_mem member
    rcases List.mem_append.mp present with inFront | inSkipped
    · refine fresh ?_
      rw [← frontKept, List.mem_filter]
      exact ⟨inFront, by simp [RoomCommand.connectionId]⟩
    · exact foreign _ inSkipped (by simp [RoomCommand.connectionId])
  · have present : input.1 ∈ tail := by
      rw [← afterMap]
      exact List.mem_map_of_mem member
    have kept := List.filter_eq_nil_iff.mp tailKept input.1 present
    exact kept (by simpa using own)

theorem released_iff_unnamed {connectionId : String} {server : Server}
    {log : List Observation} (replayed : Replayed server log) :
    Released connectionId server ↔ ∀ roomId task, server.rooms roomId = some task →
      ∀ seat, ¬ (roomTask.exec (RoomState.new roomId) (history roomId log)).NamedAt seat
        connectionId := by
  constructor
  · intro released roomId task opened seat named
    obtain ⟨player, found, holds⟩ := named
    have consistent := (RoomState.Consistent.new roomId).exec (history roomId log)
    have connected : player.connected = true := by
      rw [(consistent.wired found).1, holds]
      rfl
    rw [← replayed.opened roomId task opened] at found
    exact released roomId task opened seat player found ⟨connected, holds⟩
  · intro unnamed roomId task opened seat player found live
    obtain ⟨_, holds⟩ := live
    rw [replayed.opened roomId task opened] at found
    exact unnamed roomId task opened seat ⟨player, found, holds⟩

section Closed

variable {connectionId roomId : String} {server : Server} {log : List Observation}
  (drained : Drained connectionId server)

include drained

/-- A room that hears nothing of the close keeps what the last binder left. -/
theorem namedAt_iff_lastBinder
    (absent : .disconnect connectionId ∉ commandsOf connectionId server log roomId)
    (seat : Seat) :
    (roomTask.exec (RoomState.new roomId) (history roomId log)).NamedAt seat connectionId ↔
      RoomState.lastBinder seat (.new roomId) none (history roomId log) = some connectionId := by
  rw [commandsOf_drained drained] at absent
  refine (RoomState.Consistent.new roomId).namedAt_exec _ (fun input member leaves => ?_)
    seat ⟨fun named => absurd named (RoomState.new_unnamed _ _ _), nofun⟩
  refine absent (List.mem_filter.mpr ⟨?_, by simp [RoomCommand.connectionId]⟩)
  rw [← leaves]
  exact List.mem_map_of_mem member

/-- A room that the disconnect reaches, or that never got a command, has no seat of it. -/
theorem unnamed_of_left (once : RegistersOnce connectionId (history roomId log))
    (left : commandsOf connectionId server log roomId = [] ∨
      ∃ earlier, commandsOf connectionId server log roomId =
        earlier ++ [.disconnect connectionId] ∧ .disconnect connectionId ∉ earlier)
    (seat : Seat) :
    ¬ (roomTask.exec (RoomState.new roomId) (history roomId log)).NamedAt seat connectionId := by
  obtain ⟨userId, single⟩ := once
  rw [commandsOf_drained drained] at left
  cases left with
  | inl none =>
      rw [List.filter_eq_nil_iff] at none
      refine (RoomState.Consistent.new roomId).unnamed_exec _ (fun input member own => ?_)
        seat (RoomState.new_unnamed _ _ _)
      exact none input.1 (List.mem_map_of_mem member) (by simpa using own)
  | inr last =>
      obtain ⟨earlier, commands, fresh⟩ := last
      obtain ⟨before, around, after, split, stays, others⟩ := history_split commands fresh
      rw [split] at single ⊢
      exact RoomState.unnamed_of_departed roomId connectionId userId around before after
        stays (fun input member => single input (List.mem_append_left _ member)) others seat

end Closed

/-- Once a connection is closed and its commands are processed, it is released
from every room exactly when, in each room other than the one it named last,
every seat it was accepted to has since been resumed from another connection. -/
theorem released_iff_rebound_elsewhere (events : List Event) (connectionId : String)
    (session : ConnectionSession)
    (closed : (gateway.exec .new events).sockets connectionId =
      some ⟨session, .waiting, true⟩)
    (drained : Drained connectionId (gateway.exec .new events))
    (once : ∀ roomId,
      RegistersOnce connectionId (history roomId (gateway.trace .new events))) :
    Released connectionId (gateway.exec .new events) ↔
      ∀ roomId, session.currentRoomId ≠ some roomId → ∀ seat,
        RoomState.lastBinder seat (.new roomId) none
          (history roomId (gateway.trace .new events)) ≠ some connectionId := by
  have accounted := accounted_run events
  revert accounted closed drained once
  generalize gateway.exec .new events = server
  generalize gateway.trace .new events = log
  intro closed drained once accounted
  have phase := accounted.phases.found closed
  rw [released_iff_unnamed accounted.replayed]
  cases phase with
  | gone _ elsewhere left =>
      constructor
      · intro unnamed roomId other seat bound
        cases opened : server.rooms roomId with
        | none =>
            rw [accounted.replayed.absent roomId opened] at bound
            cases bound
        | some task =>
            have rebound := namedAt_iff_lastBinder drained (elsewhere roomId other) seat
            exact unnamed roomId task opened seat (rebound.mpr bound)
      · intro unbound roomId task opened seat named
        by_cases current : session.currentRoomId = some roomId
        · exact unnamed_of_left drained (once roomId) (left roomId current) seat named
        · have rebound := namedAt_iff_lastBinder drained (elsewhere roomId current) seat
          exact unbound roomId current seat (rebound.mp named)

/-- What the connection asks for in the command, if anything, it asks as this user. -/
def Observation.registersOnly (connectionId userId : String) : Observation → Bool
  | .sent _ _ => true
  | .processed _ input =>
      input.1.connectionId != connectionId || input.1.registersAs.all (· == userId)

theorem registersOnce_of_log {connectionId : String} {log : List Observation} (userId : String)
    (only : log.all (·.registersOnly connectionId userId) = true) (roomId : String) :
    RegistersOnce connectionId (history roomId log) := by
  refine ⟨userId, fun input member own user registers => ?_⟩
  obtain ⟨observation, seen, kept⟩ := List.mem_filterMap.mp member
  have single := List.all_eq_true.mp only observation seen
  cases observation with
  | sent => cases kept
  | processed other processed =>
      obtain ⟨_, same⟩ := Option.ite_none_right_eq_some.mp kept
      cases Option.some.inj same
      simp only [Observation.registersOnly, own, bne_self_eq_false, Bool.false_or, registers,
        Option.all_some, beq_iff_eq] at single
      exact single

def aliceJoins (roomId : String) : SocketMessage :=
  .clientFrame ⟨"join", some (.joinRoom ⟨roomId, "alice", "", "Alice", "1.0"⟩)⟩

/-- The first connection joins two rooms, one after the other. Her seat in the first is
resumed from another connection, and then it closes. -/
def resumedThenClosed : List Event :=
  [.accept, .accept,
    .receive "conn-1" (aliceJoins "first") 0,
    .advance "conn-1", .advance "conn-1", .process "first" Surroundings.noop,
    .emit "first", .emit "first", .emit "first",
    .receive "conn-1" (aliceJoins "second") 0,
    .advance "conn-1", .advance "conn-1", .process "second" Surroundings.noop,
    .emit "second", .emit "second", .emit "second",
    .receive "conn-2" (.clientFrame ⟨"resume",
      some (.resumeSession ⟨"first", "alice", "resume-first-alice", 0⟩)⟩) 0,
    .advance "conn-2", .advance "conn-2", .process "first" Surroundings.noop,
    .close "conn-1", .advance "conn-1", .advance "conn-1",
    .process "second" Surroundings.noop]

private theorem resumedThenClosed_rooms {roomId : String} {task : RoomTask}
    (opened : (gateway.exec .new resumedThenClosed).rooms roomId = some task) :
    roomId = "first" ∨ roomId = "second" := by
  by_contra other
  obtain ⟨first, second⟩ := not_or.mp other
  repeat
    first
    | change Function.update _ "first" _ roomId = _ at opened
      rw [Function.update_of_ne first] at opened
    | change Function.update _ "second" _ roomId = _ at opened
      rw [Function.update_of_ne second] at opened
  cases opened

/-- Both rooms have let go of her connection: the second because it closed, the first
because her seat is another connection's. -/
theorem released_iff_rebound_elsewhere_alice :
    Released "conn-1" (gateway.exec .new resumedThenClosed) ∧
      ∃ task player, (gateway.exec .new resumedThenClosed).rooms "first" = some task ∧
        task.state.playersBySeat .east = some player ∧ player.connected = true ∧
        player.connectionId = some "conn-2" := by
  have single := @registersOnce_of_log "conn-1" (gateway.trace .new resumedThenClosed) "alice"
    (by decide +kernel)
  refine ⟨(released_iff_rebound_elsewhere resumedThenClosed "conn-1"
    ⟨"conn-1", ⟨"conn-1"⟩, some "second"⟩ rfl ?_ single).mpr ?_, _, _, rfl, rfl, rfl, rfl⟩
  · intro roomId task opened command member
    cases resumedThenClosed_rooms opened with
    | inl first =>
        subst first
        cases opened
        cases member
    | inr second =>
        subst second
        cases opened
        cases member
  · intro roomId other seat
    have accounted := accounted_run resumedThenClosed
    cases opened : (gateway.exec .new resumedThenClosed).rooms roomId with
    | none =>
        rw [accounted.replayed.absent roomId opened]
        exact nofun
    | some task =>
        cases resumedThenClosed_rooms opened with
        | inl first =>
            subst first
            cases seat <;> decide +kernel
        | inr second => exact absurd (second ▸ rfl) other

/-- The first connection joins a room, sends an action that names a room that
does not exist, and closes. -/
def joinStrayClose : List Event :=
  [.accept,
    .receive "conn-1" (aliceJoins "room") 0,
    .advance "conn-1", .advance "conn-1", .process "room" Surroundings.noop,
    .receive "conn-1" (.clientFrame
      ⟨"stray", some (.playerAction ⟨"elsewhere", "", "", 0, 0, none⟩)⟩) 0,
    .advance "conn-1", .advance "conn-1", .close "conn-1", .advance "conn-1"]

theorem joinStrayClose_not_released :
    (gateway.exec .new joinStrayClose).sockets "conn-1" =
      some ⟨⟨"conn-1", ⟨"conn-1"⟩, some "elsewhere"⟩, .waiting, true⟩ ∧
    Drained "conn-1" (gateway.exec .new joinStrayClose) ∧
    (∀ roomId, RegistersOnce "conn-1" (history roomId (gateway.trace .new joinStrayClose))) ∧
    ¬ Released "conn-1" (gateway.exec .new joinStrayClose) := by
  refine ⟨rfl, ?_, registersOnce_of_log "alice" (by decide +kernel), fun released => ?_⟩
  · intro roomId task opened command member
    by_cases same : roomId = "room"
    · subst same
      cases opened
      cases member
    · iterate 3
        change Function.update _ "room" _ roomId = _ at opened
        rw [Function.update_of_ne same] at opened
      cases opened
  · exact released "room" _ rfl .east _ rfl ⟨rfl, rfl⟩

end GbMahjong.Gateway
