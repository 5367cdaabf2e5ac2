import GbMahjong.Gateway.Server
import GbMahjong.Library.PartialMap

/-! The room manager at the grain of its lock. Any number of dispatch calls run at
the same time; each read-locked lookup and each write-locked section is one step,
and the scheduler chooses their order. `Server` takes the lookup of a call as one
step; here it is up to two, and the two levels are connected at the end. -/

set_option autoImplicit false

namespace GbMahjong.Gateway

open GbMahjong.Library GbMahjong.Client GbMahjong.Room

/-- The sending end of a room's command channel. Clones of one sender are one
channel, so only its identity matters. -/
structure CommandSender where
  channel : Nat
  deriving DecidableEq, Repr

inductive ManagerCall where
  | join (requestId : String) (connection : ConnectionHandle) (request : JoinRoomRequest)
  | ready (roomId requestId : String) (connection : ConnectionHandle)
      (request : ReadyRequest)
  | resume (requestId : String) (connection : ConnectionHandle)
      (request : ResumeSessionRequest)
  | playerAction (requestId : String) (connection : ConnectionHandle)
      (request : PlayerActionRequest)
  | disconnect (roomId connectionId : String)
  deriving DecidableEq, Repr

def ManagerCall.dispatch : ManagerCall → Dispatch
  | .join requestId connection request => dispatchJoin requestId connection request
  | .ready roomId requestId connection request =>
      dispatchReady roomId requestId connection request
  | .resume requestId connection request => dispatchResume requestId connection request
  | .playerAction requestId connection request =>
      dispatchPlayerAction requestId connection request
  | .disconnect roomId connectionId => Gateway.disconnect roomId connectionId

def ManagerCall.roomId (call : ManagerCall) : String := call.dispatch.roomId

/-- Where a call stands: about to take the read lock, or, after a miss, about to
take the write lock. -/
inductive CallPhase where
  | lookup (call : ManagerCall)
  | create (call : ManagerCall)
  deriving DecidableEq, Repr

structure RoomManager where
  rooms : String → Option CommandSender
  nextChannel : Nat
  calls : Nat → Option CallPhase

inductive ManagerEvent where
  | start (callId : Nat) (call : ManagerCall)
  | readSection (callId : Nat)
  | writeSection (callId : Nat)
  deriving DecidableEq, Repr

/-- What can be seen of a run: a channel made and a room task spawned on it, and
what each lookup returns. -/
inductive ManagerObservation where
  | spawned (call : ManagerCall) (sender : CommandSender)
  | returned (call : ManagerCall) (sender : CommandSender)
  | missing (call : ManagerCall)
  deriving DecidableEq, Repr

namespace RoomManager

def new : RoomManager := ⟨fun _ => none, 0, fun _ => none⟩

def enter (manager : RoomManager) (callId : Nat) (phase : CallPhase) : RoomManager :=
  { manager with calls := Function.update manager.calls callId (some phase) }

def leave (manager : RoomManager) (callId : Nat) : RoomManager :=
  { manager with calls := Function.update manager.calls callId none }

/-- `get_room_sender` under the read lock, and what its caller makes of a miss. -/
def getRoomSender (manager : RoomManager) (callId : Nat) (call : ManagerCall) :
    RoomManager × List ManagerObservation :=
  match manager.rooms call.roomId with
  | some sender => (manager.leave callId, [.returned call sender])
  | none =>
      if call.dispatch.create then (manager.enter callId (.create call), [])
      else (manager.leave callId, [.missing call])

/-- The part of `get_or_create_room_sender` under the write lock. -/
def getOrCreateRoomSender (manager : RoomManager) (callId : Nat) (call : ManagerCall) :
    RoomManager × List ManagerObservation :=
  match manager.rooms call.roomId with
  | some sender => (manager.leave callId, [.returned call sender])
  | none =>
      let sender : CommandSender := ⟨manager.nextChannel⟩
      ({ manager with
          rooms := Function.update manager.rooms call.roomId (some sender)
          nextChannel := manager.nextChannel + 1 }.leave callId,
        [.spawned call sender, .returned call sender])

def step (manager : RoomManager) : ManagerEvent → RoomManager × List ManagerObservation
  | .start callId call =>
      match manager.calls callId with
      | some _ => (manager, [])
      | none => (manager.enter callId (.lookup call), [])
  | .readSection callId =>
      match manager.calls callId with
      | some (.lookup call) => manager.getRoomSender callId call
      | _ => (manager, [])
  | .writeSection callId =>
      match manager.calls callId with
      | some (.create call) => manager.getOrCreateRoomSender callId call
      | _ => (manager, [])

end RoomManager

def roomManager : Machine RoomManager ManagerEvent ManagerObservation where
  step := RoomManager.step

namespace RoomManager

/-! ## One step, inverted -/

inductive Stepped (manager : RoomManager) : RoomManager → List ManagerObservation → Prop
    where
  | idle : Stepped manager manager []
  | started (callId : Nat) (call : ManagerCall) :
      Stepped manager (manager.enter callId (.lookup call)) []
  | found (callId : Nat) (call : ManagerCall) (sender : CommandSender)
      (present : manager.rooms call.roomId = some sender) :
      Stepped manager (manager.leave callId) [.returned call sender]
  | missed (callId : Nat) (call : ManagerCall) (creates : call.dispatch.create = true)
      (vacant : manager.rooms call.roomId = none) :
      Stepped manager (manager.enter callId (.create call)) []
  | refused (callId : Nat) (call : ManagerCall)
      (vacant : manager.rooms call.roomId = none) :
      Stepped manager (manager.leave callId) [.missing call]
  | created (callId : Nat) (call : ManagerCall) (next : RoomManager)
      (missed : manager.calls callId = some (.create call))
      (vacant : manager.rooms call.roomId = none)
      (inserted : next = { manager with
        rooms := Function.update manager.rooms call.roomId (some ⟨manager.nextChannel⟩)
        nextChannel := manager.nextChannel + 1
        calls := Function.update manager.calls callId none }) :
      Stepped manager next
        [.spawned call ⟨manager.nextChannel⟩, .returned call ⟨manager.nextChannel⟩]

theorem getRoomSender_stepped (manager : RoomManager) (callId : Nat) (call : ManagerCall) :
    manager.Stepped (manager.getRoomSender callId call).1
      (manager.getRoomSender callId call).2 := by
  simp only [getRoomSender]
  cases found : manager.rooms call.roomId with
  | some sender => exact .found callId call sender found
  | none =>
      cases creates : call.dispatch.create with
      | true => exact .missed callId call creates found
      | false => exact .refused callId call found

theorem getOrCreateRoomSender_stepped {manager : RoomManager} {callId : Nat}
    {call : ManagerCall} (missed : manager.calls callId = some (.create call)) :
    manager.Stepped (manager.getOrCreateRoomSender callId call).1
      (manager.getOrCreateRoomSender callId call).2 := by
  simp only [getOrCreateRoomSender]
  cases found : manager.rooms call.roomId with
  | some sender => exact .found callId call sender found
  | none => exact .created callId call _ missed found rfl

theorem step_stepped (manager : RoomManager) (event : ManagerEvent) :
    manager.Stepped (manager.step event).1 (manager.step event).2 := by
  cases event with
  | start callId call =>
      simp only [step]
      cases manager.calls callId with
      | some phase => exact .idle
      | none => exact .started callId call
  | readSection callId =>
      simp only [step]
      cases manager.calls callId with
      | none => exact .idle
      | some phase =>
          cases phase with
          | lookup call => exact getRoomSender_stepped manager callId call
          | create call => exact .idle
  | writeSection callId =>
      simp only [step]
      cases phase : manager.calls callId with
      | none => exact .idle
      | some current =>
          cases current with
          | lookup call => exact .idle
          | create call => exact getOrCreateRoomSender_stepped phase

theorem Stepped.rooms {manager next : RoomManager} {log : List ManagerObservation}
    (stepped : manager.Stepped next log) {roomId : String} {sender : CommandSender}
    (present : manager.rooms roomId = some sender) : next.rooms roomId = some sender := by
  cases stepped with
  | idle | started | found | missed | refused => exact present
  | created callId call next missed vacant inserted =>
      have different : roomId ≠ call.roomId := by
        intro same
        rw [same, vacant] at present
        cases present
      rw [inserted]
      exact (Function.update_of_ne different ..).trans present

theorem exec_rooms {manager : RoomManager} {roomId : String} {sender : CommandSender}
    (present : manager.rooms roomId = some sender) (events : List ManagerEvent) :
    (roomManager.exec manager events).rooms roomId = some sender := by
  induction events generalizing manager with
  | nil => exact present
  | cons event rest ih => exact ih ((step_stepped manager event).rooms present)

/-! ## Whole runs -/

def creates (roomId : String) : ManagerObservation → Bool
  | .spawned call _ => call.roomId == roomId
  | .returned _ _ | .missing _ => false

/-- How the manager's entries and the run so far belong together. -/
structure Recorded (manager : RoomManager) (log : List ManagerObservation) : Prop where
  entry : ∀ {roomId sender}, manager.rooms roomId = some sender →
    ∃ call, .spawned call sender ∈ log ∧ call.roomId = roomId
  spawned : ∀ {call sender}, .spawned call sender ∈ log →
    manager.rooms call.roomId = some sender ∧ call.dispatch.create = true
  returned : ∀ {call sender}, .returned call sender ∈ log →
    manager.rooms call.roomId = some sender
  single : ∀ roomId, (log.filter (creates roomId)).length ≤ 1
  creating : ∀ {callId call}, manager.calls callId = some (.create call) →
    call.dispatch.create = true
  fresh : ∀ {roomId sender}, manager.rooms roomId = some sender →
    sender.channel < manager.nextChannel
  separate : ∀ {first second sender}, manager.rooms first = some sender →
    manager.rooms second = some sender → first = second

theorem Recorded.new : Recorded new [] where
  entry found := by cases found
  spawned member := by cases member
  returned member := by cases member
  single _ := Nat.zero_le 1
  creating phase := by cases phase
  fresh found := by cases found
  separate found := by cases found

private theorem Recorded.keep {manager next : RoomManager}
    {log out : List ManagerObservation} (recorded : manager.Recorded log)
    (rooms : next.rooms = manager.rooms) (channel : next.nextChannel = manager.nextChannel)
    (calls : ∀ {callId call}, next.calls callId = some (.create call) →
      call.dispatch.create = true)
    (quiet : ∀ call sender, .spawned call sender ∉ out)
    (known : ∀ call sender, .returned call sender ∈ out →
      manager.rooms call.roomId = some sender) : next.Recorded (log ++ out) := by
  have none : ∀ roomId, out.filter (creates roomId) = [] := by
    intro roomId
    rw [List.filter_eq_nil_iff]
    intro observation member
    cases observation with
    | spawned call sender => exact absurd member (quiet call sender)
    | returned | missing => exact Bool.false_ne_true
  refine ⟨?_, ?_, ?_, ?_, calls, ?_, ?_⟩
  · intro roomId sender found
    rw [rooms] at found
    obtain ⟨call, member, named⟩ := recorded.entry found
    exact ⟨call, List.mem_append_left _ member, named⟩
  · intro call sender member
    rw [rooms]
    rcases List.mem_append.mp member with earlier | now
    · exact recorded.spawned earlier
    · exact absurd now (quiet call sender)
  · intro call sender member
    rw [rooms]
    rcases List.mem_append.mp member with earlier | now
    · exact recorded.returned earlier
    · exact known call sender now
  · intro roomId
    rw [List.filter_append, none, List.append_nil]
    exact recorded.single roomId
  · rw [rooms, channel]
    exact recorded.fresh
  · rw [rooms]
    exact recorded.separate

private theorem Recorded.create {manager : RoomManager} {log : List ManagerObservation}
    (recorded : manager.Recorded log) {callId : Nat} {call : ManagerCall}
    (missed : manager.calls callId = some (.create call))
    (vacant : manager.rooms call.roomId = none) :
    Recorded { manager with
        rooms := Function.update manager.rooms call.roomId (some ⟨manager.nextChannel⟩)
        nextChannel := manager.nextChannel + 1
        calls := Function.update manager.calls callId none }
      (log ++ [.spawned call ⟨manager.nextChannel⟩,
        .returned call ⟨manager.nextChannel⟩]) := by
  have unused : ∀ {roomId}, manager.rooms roomId ≠ some ⟨manager.nextChannel⟩ := by
    intro roomId found
    exact absurd (recorded.fresh found) (Nat.lt_irrefl _)
  have older : ∀ {roomId sender}, manager.rooms roomId = some sender →
      roomId ≠ call.roomId := by
    intro roomId sender found same
    rw [same, vacant] at found
    cases found
  refine ⟨?_, ?_, ?_, ?_, ?_, ?_, ?_⟩
  · intro roomId sender found
    simp only [update_some_eq_some_iff] at found
    rcases found with ⟨rfl, rfl⟩ | ⟨_, found⟩
    · exact ⟨call, List.mem_append_right _ (.head _), rfl⟩
    · obtain ⟨creator, member, named⟩ := recorded.entry found
      exact ⟨creator, List.mem_append_left _ member, named⟩
  · intro creator sender member
    simp only [update_some_eq_some_iff]
    rcases List.mem_append.mp member with earlier | now
    · obtain ⟨found, joins⟩ := recorded.spawned earlier
      exact ⟨.inr ⟨older found, found⟩, joins⟩
    · rcases List.mem_pair.mp now with same | other
      · cases same
        exact ⟨.inl ⟨rfl, rfl⟩, recorded.creating missed⟩
      · cases other
  · intro caller sender member
    simp only [update_some_eq_some_iff]
    rcases List.mem_append.mp member with earlier | now
    · have found := recorded.returned earlier
      exact .inr ⟨older found, found⟩
    · rcases List.mem_pair.mp now with other | same
      · cases other
      · cases same
        exact .inl ⟨rfl, rfl⟩
  · intro roomId
    rw [List.filter_append, List.length_append]
    by_cases own : call.roomId = roomId
    · have before : log.filter (creates roomId) = [] := by
        rw [List.filter_eq_nil_iff]
        intro observation member
        cases observation with
        | spawned creator sender =>
            have different := older (recorded.spawned member).1
            simpa [creates, ← own] using different
        | returned | missing => exact Bool.false_ne_true
      simp [before, creates, own]
    · simpa [creates, own] using recorded.single roomId
  · intro other pending phase
    rw [update_none_eq_some_iff] at phase
    exact recorded.creating phase.2
  · intro roomId sender found
    simp only [update_some_eq_some_iff] at found
    rcases found with ⟨rfl, rfl⟩ | ⟨_, found⟩
    · exact Nat.lt_succ_self _
    · exact Nat.lt_succ_of_lt (recorded.fresh found)
  · intro first second sender left right
    simp only [update_some_eq_some_iff] at left right
    rcases left with ⟨rfl, rfl⟩ | ⟨_, left⟩
    · rcases right with ⟨rfl, _⟩ | ⟨_, right⟩
      · rfl
      · exact absurd right unused
    · rcases right with ⟨rfl, rfl⟩ | ⟨_, right⟩
      · exact absurd left unused
      · exact recorded.separate left right

theorem Recorded.step {manager next : RoomManager} {log out : List ManagerObservation}
    (recorded : manager.Recorded log) (stepped : manager.Stepped next out) :
    next.Recorded (log ++ out) := by
  cases stepped with
  | idle =>
      exact recorded.keep rfl rfl recorded.creating (fun _ _ member => by cases member)
        (fun _ _ member => by cases member)
  | started callId call =>
      refine recorded.keep rfl rfl ?_ (fun _ _ member => by cases member)
        (fun _ _ member => by cases member)
      intro other pending phase
      rcases update_some_eq_some_iff.mp phase with ⟨_, same⟩ | ⟨_, phase⟩
      · cases same
      · exact recorded.creating phase
  | found callId call sender present =>
      refine recorded.keep rfl rfl ?_ (fun _ _ member => by simp at member) ?_
      · intro other pending phase
        exact recorded.creating (update_none_eq_some_iff.mp phase).2
      · intro caller holder member
        cases List.mem_singleton.mp member
        exact present
  | missed callId call joins vacant =>
      refine recorded.keep rfl rfl ?_ (fun _ _ member => by cases member)
        (fun _ _ member => by cases member)
      intro other pending phase
      rcases update_some_eq_some_iff.mp phase with ⟨_, same⟩ | ⟨_, phase⟩
      · cases same
        exact joins
      · exact recorded.creating phase
  | refused callId call vacant =>
      refine recorded.keep rfl rfl ?_ (fun _ _ member => by simp at member)
        (fun _ _ member => by simp at member)
      intro other pending phase
      exact recorded.creating (update_none_eq_some_iff.mp phase).2
  | created callId call next missed vacant inserted =>
      rw [inserted]
      exact recorded.create missed vacant

theorem recorded_of_run (events : List ManagerEvent) :
    (roomManager.exec new events).Recorded (roomManager.trace new events) :=
  @Machine.trace_invariant _ _ _ roomManager Recorded
    (fun manager _ event recorded => recorded.step (step_stepped manager event)) new []
    .new events

theorem join_of_create {call : ManagerCall} (creates : call.dispatch.create = true) :
    ∃ requestId connection request, call = .join requestId connection request := by
  cases call with
  | join requestId connection request => exact ⟨requestId, connection, request, rfl⟩
  | ready | resume | playerAction | disconnect => cases creates

/-- Under every schedule of the calls' lock sections: a room id gets at most one
channel and one task, made by a join; every sender returned for it is that
channel's; channels of different ids are different; and entries stay. -/
theorem one_channel_per_room (events : List ManagerEvent) :
    let log := roomManager.trace new events
    (∀ roomId, (log.filter (creates roomId)).length ≤ 1) ∧
    (∀ call sender, .returned call sender ∈ log →
      ∃ creator, .spawned creator sender ∈ log ∧ creator.roomId = call.roomId) ∧
    (∀ creator sender, .spawned creator sender ∈ log →
      ∃ requestId connection request, creator = .join requestId connection request) ∧
    (∀ creator other sender, .spawned creator sender ∈ log →
      .spawned other sender ∈ log → creator.roomId = other.roomId) ∧
    ∀ seen rest, events = seen ++ rest → ∀ roomId sender,
      (roomManager.exec new seen).rooms roomId = some sender →
      (roomManager.exec new events).rooms roomId = some sender := by
  intro log
  have recorded := recorded_of_run events
  refine ⟨recorded.single, ?_, ?_, ?_, ?_⟩
  · intro call sender returned
    exact recorded.entry (recorded.returned returned)
  · intro creator sender spawned
    exact join_of_create (recorded.spawned spawned).2
  · intro creator other sender first second
    exact recorded.separate (recorded.spawned first).1 (recorded.spawned second).1
  · intro seen rest split roomId sender present
    rw [split, roomManager.exec_append]
    exact exec_rooms present rest

/-! ## The lookup as one step -/

/-- The two levels know the same rooms. -/
def Corresponds (manager : RoomManager) (server : Server) : Prop :=
  ∀ roomId, (manager.rooms roomId).isSome = (server.rooms roomId).isSome

/-- A lock section that ends a lookup, and the server after the same lookup as one
step: the same rooms, and the socket task goes on with what the lookup returned. -/
structure Matches (call : ManagerCall) (connectionId : String)
    (ended : RoomManager × List ManagerObservation) (server : Server) : Prop where
  rooms : ended.1.Corresponds server
  outcome : ∃ socket, server.sockets connectionId = some socket ∧
    (((∃ sender, .returned call sender ∈ ended.2) ∧
        socket.activity = .sending call.roomId call.dispatch.command) ∨
      (.missing call ∈ ended.2 ∧
        socket.activity = match call.dispatch.notFound with
          | none => .waiting
          | some frame => .replying .manager frame))

theorem Corresponds.present {manager : RoomManager} {server : Server}
    (corresponds : manager.Corresponds server) {roomId : String} {sender : CommandSender}
    (found : manager.rooms roomId = some sender) :
    ∃ task, server.rooms roomId = some task := by
  have same := corresponds roomId
  rw [found] at same
  exact Option.isSome_iff_exists.mp same.symm

theorem Corresponds.absent {manager : RoomManager} {server : Server}
    (corresponds : manager.Corresponds server) {roomId : String}
    (vacant : manager.rooms roomId = none) : server.rooms roomId = none := by
  have same := corresponds roomId
  rw [vacant] at same
  exact Option.isNone_iff_eq_none.mp (by simpa using same)

theorem Corresponds.found_matches {manager : RoomManager} {server : Server}
    (corresponds : manager.Corresponds server) (callId : Nat) {call : ManagerCall}
    {sender : CommandSender} (found : manager.rooms call.roomId = some sender)
    (connectionId : String) {socket : SocketTask}
    (looking : socket.activity = .looking call.dispatch) :
    Matches call connectionId (manager.leave callId, [.returned call sender])
      (server.advance connectionId socket).1 := by
  obtain ⟨task, present⟩ := corresponds.present found
  have advanced : server.advance connectionId socket =
      (server.setSocket connectionId { socket with
        activity := .sending call.roomId call.dispatch.command }, []) := by
    rw [ManagerCall.roomId] at present
    simp only [Server.advance, looking, present, ManagerCall.roomId]
  rw [advanced]
  exact ⟨corresponds, _, Function.update_self .., .inl ⟨⟨sender, .head _⟩, rfl⟩⟩

/-- The read section ends the lookup as the server does, unless a join misses; then
it changes no room. -/
theorem getRoomSender_refines {manager : RoomManager} {server : Server}
    (corresponds : manager.Corresponds server) (callId : Nat) (call : ManagerCall)
    (connectionId : String) {socket : SocketTask}
    (looking : socket.activity = .looking call.dispatch) :
    manager.getRoomSender callId call = (manager.enter callId (.create call), []) ∨
      Matches call connectionId (manager.getRoomSender callId call)
        (server.advance connectionId socket).1 := by
  simp only [getRoomSender]
  cases found : manager.rooms call.roomId with
  | some sender => exact .inr (corresponds.found_matches callId found connectionId looking)
  | none =>
      cases creates : call.dispatch.create with
      | true => exact .inl rfl
      | false =>
          have absent := corresponds.absent found
          rw [ManagerCall.roomId] at absent
          simp only [Server.advance, looking, absent, creates]
          exact .inr ⟨corresponds, _, Function.update_self .., .inr ⟨.head _, rfl⟩⟩

theorem getOrCreateRoomSender_refines {manager : RoomManager} {server : Server}
    (corresponds : manager.Corresponds server) (callId : Nat) {call : ManagerCall}
    (joins : call.dispatch.create = true) (connectionId : String) {socket : SocketTask}
    (looking : socket.activity = .looking call.dispatch) :
    Matches call connectionId (manager.getOrCreateRoomSender callId call)
      (server.advance connectionId socket).1 := by
  simp only [getOrCreateRoomSender]
  cases found : manager.rooms call.roomId with
  | some sender => exact corresponds.found_matches callId found connectionId looking
  | none =>
      have advanced : server.advance connectionId socket =
          ((server.setSocket connectionId { socket with
            activity := .sending call.roomId call.dispatch.command }).setRoom call.roomId
              (.new call.roomId), []) := by
        have absent := corresponds.absent found
        rw [ManagerCall.roomId] at absent
        simp only [Server.advance, looking, absent, joins, ManagerCall.roomId, if_true]
      rw [advanced]
      refine ⟨?_, _, Function.update_self .., .inl ⟨⟨_, .tail _ (.head _)⟩, rfl⟩⟩
      intro roomId
      change (Function.update manager.rooms call.roomId (some _) roomId).isSome =
        (Function.update server.rooms call.roomId (some _) roomId).isSome
      rw [Bool.eq_iff_iff, update_some_isSome, update_some_isSome, corresponds roomId]

end RoomManager

end GbMahjong.Gateway
