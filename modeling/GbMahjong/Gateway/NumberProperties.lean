import GbMahjong.Gateway.Sockets
import GbMahjong.Room.SequenceProperties

/-! The numbers on one outbound channel. Three sources number the frames there:
the process-wide counter, the room manager and the counters of the rooms. Each
source is in order by itself. -/

set_option autoImplicit false

namespace GbMahjong.Gateway

open GbMahjong.Library GbMahjong.Client GbMahjong.Room

/-! ## What a log says about channels -/

def Observation.sentBy? (origin : Origin) : Observation → Option Delivery
  | .sent other delivery => if other = origin then some delivery else none
  | .processed _ _ => none

def sentBy (origin : Origin) (log : List Observation) : List Delivery :=
  log.filterMap (Observation.sentBy? origin)

/-- The frames that one source put on one channel, in order. -/
def framesOn (channel : ConnectionSender) (origin : Origin) (log : List Observation) :
    List ServerFrame :=
  ((sentBy origin log).filter (·.channel = channel)).map (·.frame)

@[simp] theorem sentBy_nil (origin : Origin) : sentBy origin [] = [] := rfl

@[simp] theorem sentBy_append (origin : Origin) (first second : List Observation) :
    sentBy origin (first ++ second) = sentBy origin first ++ sentBy origin second :=
  List.filterMap_append

@[simp] theorem sentBy_sent (origin other : Origin) (delivery : Delivery) :
    sentBy origin [.sent other delivery] = if other = origin then [delivery] else [] := by
  by_cases same : other = origin <;> simp [sentBy, Observation.sentBy?, same]

@[simp] theorem sentBy_processed (origin : Origin) (roomId : String) (input : RoomInput) :
    sentBy origin [.processed roomId input] = [] := rfl

@[simp] theorem framesOn_append (channel : ConnectionSender) (origin : Origin)
    (first second : List Observation) :
    framesOn channel origin (first ++ second) =
      framesOn channel origin first ++ framesOn channel origin second := by
  simp [framesOn]

theorem mem_framesOn {channel : ConnectionSender} {origin : Origin}
    {log : List Observation} {frame : ServerFrame}
    (member : frame ∈ framesOn channel origin log) :
    ∃ delivery ∈ sentBy origin log, delivery.frame = frame := by
  obtain ⟨delivery, kept, same⟩ := List.mem_map.mp member
  exact ⟨delivery, (List.mem_filter.mp kept).1, same⟩

/-! ## Rooms -/

/-- What a room has sent and has still to send uses its counter in order. -/
structure RoomsNumbered (server : Server) (log : List Observation) : Prop where
  opened : ∀ roomId task, server.rooms roomId = some task → task.state.Consistent ∧
    Sequenced 1 task.state.nextEventSeq (sentBy (.room roomId) log ++ task.unsent)
  absent : ∀ roomId, server.rooms roomId = none → sentBy (.room roomId) log = []

private theorem RoomsNumbered.keep {server next : Server} {log seen : List Observation}
    (numbered : RoomsNumbered server log) (rooms : next.rooms = server.rooms)
    (silent : ∀ roomId, sentBy (.room roomId) seen = []) :
    RoomsNumbered next (log ++ seen) := by
  constructor
  · intro roomId task found
    rw [sentBy_append, silent, List.append_nil]
    exact numbered.opened roomId task (rooms ▸ found)
  · intro roomId missing
    rw [sentBy_append, silent, List.append_nil]
    exact numbered.absent roomId (rooms ▸ missing)

private theorem RoomsNumbered.replace {server next : Server} {log seen : List Observation}
    (numbered : RoomsNumbered server log) {roomId : String} {task : RoomTask}
    (rooms : next.rooms = Function.update server.rooms roomId (some task))
    (own : task.state.Consistent ∧ Sequenced 1 task.state.nextEventSeq
      (sentBy (.room roomId) (log ++ seen) ++ task.unsent))
    (silent : ∀ other, other ≠ roomId → sentBy (.room other) seen = []) :
    RoomsNumbered next (log ++ seen) := by
  constructor
  · intro other found lookup
    rw [rooms, update_some_eq_some_iff] at lookup
    rcases lookup with ⟨rfl, rfl⟩ | ⟨different, lookup⟩
    · exact own
    · rw [sentBy_append, silent other different, List.append_nil]
      exact numbered.opened other found lookup
  · intro other missing
    rw [rooms] at missing
    by_cases same : other = roomId
    · rw [same, Function.update_self] at missing
      cases missing
    · rw [sentBy_append, silent other same, List.append_nil]
      exact numbered.absent other (by simpa [same] using missing)

theorem RoomsNumbered.step {server next : Server} {event : Event}
    {log seen : List Observation} (numbered : RoomsNumbered server log)
    (sound : SocketsSound server) (stepped : server.Stepped event next seen) :
    RoomsNumbered next (log ++ seen) := by
  cases stepped with
  | idle | accepted | closed | looked | missed => exact numbered.keep rfl fun _ => rfl
  | received connectionId message unixTimeMs session handled found understood =>
      exact numbered.keep (by cases understood <;> rfl) fun _ => rfl
  | replied connectionId session closed origin frame found =>
      refine numbered.keep rfl fun roomId => ?_
      rcases (sound connectionId _ found).activity with ⟨rfl, _⟩ | ⟨rfl, _⟩ <;> simp
  | created connectionId session closed dispatch found absent creates =>
      refine numbered.replace rfl ⟨.new dispatch.roomId, ?_⟩ fun _ _ => rfl
      rw [List.append_nil, numbered.absent dispatch.roomId absent]
      exact .nil 1
  | enqueued connectionId session closed roomId command task found opened room =>
      refine numbered.replace rfl ?_ fun _ _ => rfl
      rw [List.append_nil]
      exact numbered.opened roomId task opened
  | processed roomId around state command rest opened =>
      obtain ⟨consistent, sequenced⟩ := numbered.opened roomId _ opened
      have consistentNext : (state.handleCommand command around).1.Consistent :=
        consistent.exec [(command, around)]
      refine numbered.replace rfl ⟨consistentNext, ?_⟩ fun _ _ => rfl
      rw [sentBy_append, sentBy_processed, List.append_nil]
      rw [List.append_nil] at sequenced
      exact sequenced.append (consistent.handled command around).sequenced
  | emitted roomId state queue delivery rest opened =>
      obtain ⟨consistent, sequenced⟩ := numbered.opened roomId _ opened
      refine numbered.replace rfl ⟨consistent, ?_⟩ ?_
      · simpa using sequenced
      · intro other different
        simp [different.symm]

/-! ## The gateway -/

/-- The gateway frame that a socket task has built and not yet sent. -/
def SocketTask.pendingReply (socket : SocketTask) : List ServerFrame :=
  match socket.activity with
  | .replying .gateway frame => [frame]
  | _ => []

def Server.pendingReply (server : Server) (connectionId : String) : List ServerFrame :=
  match server.sockets connectionId with
  | none => []
  | some socket => socket.pendingReply

theorem Server.pendingReply_update {server next : Server} {connectionId : String}
    {socket : SocketTask}
    (sockets : next.sockets = Function.update server.sockets connectionId (some socket))
    (other : String) :
    next.pendingReply other =
      if other = connectionId then socket.pendingReply else server.pendingReply other := by
  by_cases same : other = connectionId
  · subst same
    simp [Server.pendingReply, sockets]
  · simp [Server.pendingReply, sockets, same]

/-- On every channel the frames of the gateway, the one in progress included, use
the process-wide counter in order. -/
def GatewayNumbered (server : Server) (log : List Observation) : Prop :=
  ∀ connectionId,
    let frames := framesOn ⟨connectionId⟩ .gateway log ++ server.pendingReply connectionId
    Numbered ServerFrame.eventSeq (fun _ _ => False) 1 server.nextEventSeq frames ∧
      ∀ frame ∈ frames, OwnPong frame

private theorem GatewayNumbered.keep {server next : Server} {log seen : List Observation}
    (numbered : GatewayNumbered server log)
    (counter : next.nextEventSeq = server.nextEventSeq)
    (moved : ∀ connectionId,
      (framesOn ⟨connectionId⟩ .gateway seen ++ next.pendingReply connectionId).Sublist
        (server.pendingReply connectionId)) :
    GatewayNumbered next (log ++ seen) := by
  intro connectionId
  obtain ⟨ordered, own⟩ := numbered connectionId
  have sublist := (moved connectionId).append_left (framesOn ⟨connectionId⟩ .gateway log)
  rw [← List.append_assoc, ← framesOn_append] at sublist
  rw [counter]
  exact ⟨ordered.sublist sublist, fun frame member => own frame (sublist.subset member)⟩

private theorem GatewayNumbered.silent {server next : Server} {log : List Observation}
    (numbered : GatewayNumbered server log)
    (counter : next.nextEventSeq = server.nextEventSeq) {connectionId : String}
    {socket : SocketTask}
    (sockets : next.sockets = Function.update server.sockets connectionId (some socket))
    (none : socket.pendingReply = []) : GatewayNumbered next (log ++ []) := by
  apply numbered.keep counter
  intro other
  rw [Server.pendingReply_update sockets other]
  by_cases same : other = connectionId
  · simp [same, none, framesOn]
  · simp [same, framesOn]

theorem GatewayNumbered.step {server next : Server} {event : Event}
    {log seen : List Observation} (numbered : GatewayNumbered server log)
    (sound : SocketsSound server) (stepped : server.Stepped event next seen) :
    GatewayNumbered next (log ++ seen) := by
  cases stepped with
  | idle => exact numbered.keep rfl fun _ => by simp [framesOn]
  | accepted => exact numbered.silent rfl (Server.accept_sockets server) rfl
  | received connectionId message unixTimeMs session handled found understood =>
      cases understood with
      | dispatched next dispatch =>
          exact numbered.silent rfl (Server.setSocket_sockets ..) rfl
      | answered frame stamped ownPong =>
          intro other
          obtain ⟨ordered, own⟩ := numbered other
          simp only [List.append_nil, Server.setSocket_nextEventSeq,
            Server.takeEventSeq_nextEventSeq]
          rw [Server.pendingReply_update (Server.setSocket_sockets ..)]
          by_cases same : other = connectionId
          · subst same
            have idle : server.pendingReply other = [] := by
              simp [Server.pendingReply, found, SocketTask.pendingReply]
            rw [idle, List.append_nil] at ordered own
            simp only [↓reduceIte, SocketTask.pendingReply]
            refine ⟨ordered.append (.single stamped), fun later member => ?_⟩
            rcases List.mem_append.mp member with sent | pending
            · exact own later sent
            · rw [List.mem_singleton.mp pending]
              exact ownPong
          · simp only [same, ↓reduceIte]
            exact ⟨ordered.widen (Nat.le_succ _), own⟩
  | closed connectionId session found =>
      refine numbered.silent rfl (Server.setSocket_sockets ..) ?_
      unfold Server.leave
      cases session.currentRoomId <;> rfl
  | replied connectionId session closed origin frame found =>
      have own := sound connectionId _ found
      have channel : session.outboundTx = ⟨connectionId⟩ := own.channel
      refine numbered.keep rfl fun other => ?_
      rw [Server.pendingReply_update (Server.setSocket_sockets ..), channel]
      by_cases same : other = connectionId
      · subst same
        rcases own.activity with ⟨rfl, _⟩ | ⟨rfl, _⟩
        · simp [framesOn, Server.pendingReply, found, SocketTask.pendingReply]
        · simp [framesOn, SocketTask.pendingReply]
      · have apart : connectionId ≠ other := fun equal => same equal.symm
        by_cases fromGateway : origin = .gateway <;>
          simp [framesOn, same, apart, fromGateway]
  | looked => exact numbered.silent rfl (Server.setSocket_sockets ..) rfl
  | created => exact numbered.silent rfl (Server.setSocket_sockets ..) rfl
  | missed connectionId session closed dispatch activity found absent creates left =>
      refine numbered.silent rfl (Server.setSocket_sockets ..) ?_
      subst left
      cases dispatch.notFound <;> rfl
  | enqueued => exact numbered.silent rfl (Server.setSocket_sockets ..) rfl
  | processed => exact numbered.keep rfl fun _ => by simp [framesOn, Server.pendingReply]
  | emitted => exact numbered.keep rfl fun _ => by simp [framesOn, Server.pendingReply]

/-! ## The room manager -/

def ManagerUnnumbered (log : List Observation) : Prop :=
  ∀ delivery ∈ sentBy .manager log, delivery.frame.eventSeq = 0

theorem ManagerUnnumbered.step {server next : Server} {event : Event}
    {log seen : List Observation} (unnumbered : ManagerUnnumbered log)
    (sound : SocketsSound server) (stepped : server.Stepped event next seen) :
    ManagerUnnumbered (log ++ seen) := by
  intro delivery member
  rw [sentBy_append, List.mem_append] at member
  rcases member with earlier | now
  · exact unnumbered delivery earlier
  · cases stepped with
    | replied connectionId session closed origin frame found =>
        rcases (sound connectionId _ found).activity with ⟨rfl, _⟩ | ⟨rfl, zero⟩
        · simp at now
        · simp only [sentBy_sent, ↓reduceIte, List.mem_singleton] at now
          subst now
          exact zero
    | emitted => simp at now
    | _ => cases now

/-! ## Runs -/

/-- The three sources of numbers along a run. -/
structure ChannelsNumbered (server : Server) (log : List Observation) : Prop where
  sockets : SocketsSound server
  rooms : RoomsNumbered server log
  gateway : GatewayNumbered server log
  manager : ManagerUnnumbered log

theorem channelsNumbered_run (events : List Event) :
    ChannelsNumbered (gateway.exec .new events) (gateway.trace .new events) := by
  have start : ChannelsNumbered .new [] :=
    ⟨.new, ⟨fun _ _ found => (nomatch found), fun _ _ => rfl⟩,
      fun _ => ⟨.nil 1, fun _ member => (nomatch member)⟩, fun _ member => (nomatch member)⟩
  exact gateway.trace_invariant (fun server log event numbered =>
    have stepped := server.stepped event
    ⟨numbered.sockets.step stepped, numbered.rooms.step numbered.sockets stepped,
      numbered.gateway.step numbered.sockets stepped,
      numbered.manager.step numbered.sockets stepped⟩) start events

/-- On every channel and under every schedule, the frames of one room never
decrease and stay within that room's counter, the gateway's own frames strictly
increase on the process-wide counter, which is all a pong reports, and the
manager's rejects carry 0. -/
theorem channel_numbers_of_run (events : List Event) (channel : ConnectionSender) :
    let server := gateway.exec .new events
    let log := gateway.trace .new events
    (∀ roomId,
      ((framesOn channel (.room roomId) log).map (·.eventSeq)).Pairwise (· ≤ ·) ∧
      ∀ frame ∈ framesOn channel (.room roomId) log, ∃ task,
        server.rooms roomId = some task ∧ 1 ≤ frame.eventSeq ∧
          frame.eventSeq ≤ task.state.currentEventSeq) ∧
    ((framesOn channel .gateway log).map (·.eventSeq)).Pairwise (· < ·) ∧
    (∀ frame ∈ framesOn channel .gateway log, frame.eventSeq < server.nextEventSeq ∧
      ∀ pong, frame.payload = .pong pong → pong.latestEventSeq = frame.eventSeq) ∧
    ∀ frame ∈ framesOn channel .manager log, frame.eventSeq = 0 := by
  intro server log
  have numbered : ChannelsNumbered server log := channelsNumbered_run events
  obtain ⟨ordered, ownPong⟩ := numbered.gateway channel.channel
  refine ⟨fun roomId => ⟨?_, ?_⟩, ?_, ?_, ?_⟩
  · cases opened : server.rooms roomId with
    | none => simp [framesOn, numbered.rooms.absent roomId opened]
    | some task =>
        have onChannel : ((sentBy (.room roomId) log).filter (·.channel = channel)).Sublist
            (sentBy (.room roomId) log ++ task.unsent) :=
          List.filter_sublist.trans (List.sublist_append_left _ _)
        have sequenced := (numbered.rooms.opened roomId task opened).2.sublist onChannel
        simpa [framesOn, Function.comp_def] using sequenced.nondecreasing
  · intro frame member
    obtain ⟨delivery, sent, rfl⟩ := mem_framesOn member
    cases opened : server.rooms roomId with
    | none =>
        rw [numbered.rooms.absent roomId opened] at sent
        cases sent
    | some task =>
        have range := (numbered.rooms.opened roomId task opened).2.within delivery
          (List.mem_append_left _ sent)
        exact ⟨task, rfl, range.1, by unfold RoomState.currentEventSeq; omega⟩
  · exact ordered.strictly_increasing (List.sublist_append_left _ _)
      fun _ _ _ _ => not_false
  · intro frame member
    have present := List.mem_append_left (server.pendingReply channel.channel) member
    exact ⟨(ordered.within frame present).2, ownPong frame present⟩
  · intro frame member
    obtain ⟨delivery, sent, rfl⟩ := mem_framesOn member
    exact numbered.manager delivery sent

def channelFrames (channel : ConnectionSender) (log : List Observation) :
    List ServerFrame :=
  log.filterMap fun observation => match observation with
    | .sent _ delivery => if delivery.channel = channel then some delivery.frame else none
    | .processed _ _ => none

/-- The first connection joins a room, gets the three frames of the join and then
sends a heartbeat. -/
def joinThenHeartbeat : List Event :=
  [.accept,
    .receive "conn-1" (.clientFrame
      ⟨"join", some (.joinRoom ⟨"room", "alice", "", "Alice", "1.0"⟩)⟩) 0,
    .advance "conn-1", .advance "conn-1", .process "room" Surroundings.noop,
    .emit "room", .emit "room", .emit "room",
    .receive "conn-1" (.clientFrame ⟨"beat", some (.heartbeat ⟨0, 3⟩)⟩) 0,
    .advance "conn-1"]

def pongNumber? (frame : ServerFrame) : Option Nat :=
  match frame.payload with
  | .pong pong => some pong.latestEventSeq
  | _ => none

/-- The pong comes last and reports 1 where the room has sent up to 3. -/
theorem joinThenHeartbeat_pong_is_behind :
    let frames := channelFrames ⟨"conn-1"⟩ (gateway.trace .new joinThenHeartbeat)
    ¬ (frames.map (·.eventSeq)).Pairwise (· ≤ ·) ∧
      frames.map (fun frame => (frame.eventSeq, pongNumber? frame)) =
        [(1, none), (2, none), (3, none), (1, some 1)] := by
  intro frames
  have numbers : frames.map (·.eventSeq) = [1, 2, 3, 1] := by rfl
  refine ⟨?_, rfl⟩
  rw [numbers]
  decide

end GbMahjong.Gateway
