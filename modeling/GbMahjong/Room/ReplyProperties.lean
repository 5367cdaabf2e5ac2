import GbMahjong.Room.ReconnectProperties

/-! Which requests are answered. Every reply to a registered connection goes
through its slot; a connection that is not registered has a channel of its own
only in a join or a resume. -/

set_option autoImplicit false

namespace GbMahjong.Room

open GbMahjong.Library GbMahjong.Client

/-- The frames that answer a request. -/
def AnswersRequest (requestId : String) (frame : ServerFrame) : Prop :=
  match frame.payload with
  | .joinRoom response => response.requestId = requestId
  | .actionRejected rejected => rejected.requestId = requestId
  | .syncState _ => True
  | .playerConnectionChanged _ | .pong _ => False

/-- A frame that rejects a request with this code. -/
def RejectsRequest (requestId : String) (rejectCode : RejectCode) (frame : ServerFrame) :
    Prop :=
  ∃ rejected, frame.payload = .actionRejected rejected ∧ rejected.requestId = requestId ∧
    rejected.rejectCode = ProtoEnum.asI32 rejectCode

namespace RoomState

/-- The request gets a frame on its connection's channel, and a request that
needs a registered connection and has none is told so. -/
structure Answered (room : RoomState) (channel : ConnectionSender) (command : RoomCommand)
    (requestId : String) (sent : List Delivery) : Prop where
  reply : ∃ delivery ∈ sent, delivery.channel = channel ∧
    AnswersRequest requestId delivery.frame
  notInRoom : ¬ command.Registers →
    room.connectionToUser command.connectionId = none →
    ∃ delivery ∈ sent, delivery.channel = channel ∧
      RejectsRequest requestId .notInRoom delivery.frame

theorem Wired.bound_channel {channelOf : String → ConnectionSender} {room : RoomState}
    (wired : room.Wired channelOf) {connectionId : String} {seat : Seat}
    {player : PlayerSlot} (bound : room.seatForConnection connectionId = some seat)
    (found : room.playersBySeat seat = some player) :
    player.connected = true ∧ player.outboundTx = some (channelOf connectionId) := by
  have mapped := wired.1.user_of_connection bound found
  obtain ⟨home, named, known, occupied, _, connected, _, sender⟩ := wired.bound_slot mapped
  rw [wired.1.user_of_slot found] at known
  cases known
  rw [found] at occupied
  cases occupied
  exact ⟨connected, sender⟩

theorem Consistent.syncDeliveries_answers {room : RoomState} (consistent : room.Consistent)
    {seat : Seat} {player : PlayerSlot} {channel : ConnectionSender}
    (found : room.playersBySeat seat = some player) (connected : player.connected = true)
    (sender : player.outboundTx = some channel) (requestId : String) (eventSeq : Nat)
    (reason : SyncReason) (around : Surroundings) :
    ∃ delivery ∈ room.syncDeliveries eventSeq reason around, delivery.channel = channel ∧
      AnswersRequest requestId delivery.frame := by
  obtain ⟨live, held, through⟩ :=
    consistent.syncDeliveries_through found connected eventSeq reason around
  rw [sender] at held
  cases held
  exact ⟨_, through, rfl, trivial⟩

theorem seatForConnection_registered {room : RoomState} {connectionId : String}
    {seat : Seat} (bound : room.seatForConnection connectionId = some seat) :
    (room.connectionToUser connectionId).isSome := by
  unfold seatForConnection at bound
  cases mapped : room.connectionToUser connectionId with
  | none => simp [mapped] at bound
  | some userId => rfl

/-- A request is answered exactly when it is a join or a resume or comes from a
connection that is registered in the room. -/
theorem Wired.answered_iff {channelOf : String → ConnectionSender} {room : RoomState}
    (wired : room.Wired channelOf) {command : RoomCommand} {requestId : String}
    (request : command.requestId = some requestId)
    (uses : command.UsesChannel channelOf) (around : Surroundings) :
    room.Answered (channelOf command.connectionId) command requestId
        (deliveries (room.handleCommand command around).2) ↔
      command.Registers ∨ (room.connectionToUser command.connectionId).isSome := by
  have replied : ∀ {sent : List Delivery},
      (command.Registers ∨ (room.connectionToUser command.connectionId).isSome) →
      (∃ delivery ∈ sent, delivery.channel = channelOf command.connectionId ∧
        AnswersRequest requestId delivery.frame) →
      (room.Answered (channelOf command.connectionId) command requestId sent ↔
        command.Registers ∨ (room.connectionToUser command.connectionId).isSome) := by
    intro sent condition reply
    refine ⟨fun _ => condition, fun _ => ⟨reply, fun stays unmapped => ?_⟩⟩
    rw [unmapped] at condition
    exact absurd condition (by simp [stays])
  obtain ⟨next, sent, _, frames, later, handled⟩ := wired.1.exists_handled command around
  rw [frames]
  cases handled with
  | ignored _ unbound unregistered kind kind' =>
      have stays : ¬ command.Registers := by
        cases command with
        | join requestId connection request => exact absurd rfl (kind _ _ _)
        | resumeSession requestId connection request => exact absurd rfl (kind' _ _ _)
        | ready | playerAction | disconnect => exact fun registers => registers
      refine ⟨fun answered => ?_, fun condition => ?_⟩
      · obtain ⟨delivery, member, _⟩ := answered.reply
        cases member
      · rw [unregistered] at condition
        exact absurd condition (by simp [stays])
  | joinRefused =>
      cases request
      exact replied (.inl trivial) ⟨_, .head _, uses, rfl⟩
  | resumeRefused =>
      cases request
      exact replied (.inl trivial) ⟨_, .head _, uses, rfl⟩
  | actionRejected _ _ _ seat player outboundTx _ _ bound found sender =>
      cases request
      have own := (wired.bound_channel bound found).2
      rw [sender, Option.some.injEq] at own
      exact replied (.inr (seatForConnection_registered bound)) ⟨_, .head _, own, rfl⟩
  | joined =>
      cases request
      exact replied (.inl trivial) ⟨_, .head _, uses, rfl⟩
  | readied _ _ readyRequest seat player next bound found books =>
      obtain ⟨connected, sender⟩ := wired.bound_channel bound found
      have after : next.playersBySeat seat = some { player with
          status := if readyRequest.ready then .ready else .joined } := by
        rw [books]
        exact Function.update_self ..
      exact replied (.inr (seatForConnection_registered bound))
        (later.syncDeliveries_answers after connected sender ..)
  | resumed =>
      cases request
      exact replied (.inl trivial) ⟨_, .head _, uses, trivial⟩
  | toggled _ _ actionRequest seat player enabled next bound found books =>
      obtain ⟨connected, sender⟩ := wired.bound_channel bound found
      have after : next.playersBySeat seat = some { player with
          autoPlayEnabled := enabled } := by
        rw [books]
        exact Function.update_self ..
      exact replied (.inr (seatForConnection_registered bound))
        (later.syncDeliveries_answers after connected sender ..)
  | disconnected => cases request

/-- In every reachable room the requests that are answered are the joins, the
resumes and those of registered connections. -/
theorem request_answered_iff_registered (channelOf : String → ConnectionSender)
    (roomId : String) (inputs : List RoomInput)
    (usesRun : ∀ input ∈ inputs, input.1.UsesChannel channelOf) (command : RoomCommand)
    (requestId : String) (request : command.requestId = some requestId)
    (uses : command.UsesChannel channelOf) (around : Surroundings) :
    let room := roomTask.exec (RoomState.new roomId) inputs
    room.Answered (channelOf command.connectionId) command requestId
        (deliveries (room.handleCommand command around).2) ↔
      command.Registers ∨ (room.connectionToUser command.connectionId).isSome :=
  ((Wired.new channelOf roomId).exec inputs usesRun).answered_iff request uses around

theorem request_answered_iff_registered_alice :
    let room := roomTask.exec (RoomState.new "room") [aliceJoins]
    room.Answered ⟨"conn-1"⟩ (.ready "ready" "conn-1" ⟨true⟩) "ready"
        (deliveries (room.handleCommand (.ready "ready" "conn-1" ⟨true⟩)
          Surroundings.noop).2) ↔
      (RoomCommand.ready "ready" "conn-1" ⟨true⟩).Registers ∨
        (room.connectionToUser "conn-1").isSome := by
  refine request_answered_iff_registered ConnectionSender.mk "room" [aliceJoins] ?_
    (.ready "ready" "conn-1" ⟨true⟩) "ready" rfl trivial Surroundings.noop
  rintro input (_ | ⟨_, _ | _⟩)
  exact rfl

/-- A ready request from an unregistered connection is dropped. -/
theorem unregistered_ready_unanswered :
    ¬ (RoomState.new "room").Answered ⟨"conn-1"⟩ (.ready "ready" "conn-1" ⟨true⟩) "ready"
      (deliveries ((RoomState.new "room").handleCommand
        (.ready "ready" "conn-1" ⟨true⟩) Surroundings.noop).2) := by
  intro answered
  obtain ⟨delivery, sent, _⟩ := answered.reply
  cases sent

/-! ## Where replies and tokens go -/

/-- A command has at most one reply, with its own request id, on the channel of
its connection, and a token goes to the connection that joined with it only. -/
structure RepliesHome (channel : ConnectionSender) (command : RoomCommand)
    (sent : List Delivery) : Prop where
  single : (sent.filter fun delivery => (frameRequestId? delivery.frame).isSome).length ≤ 1
  own : ∀ delivery ∈ sent, ∀ requestId, frameRequestId? delivery.frame = some requestId →
    command.requestId = some requestId ∧ delivery.channel = channel
  token : ∀ delivery ∈ sent, ∀ token, frameResumeToken? delivery.frame = some token →
    token ≠ "" → ∃ requestId connection request response,
      command = .join requestId connection request ∧
      delivery.frame.payload = .joinRoom response ∧ response.accepted = true ∧
      delivery.channel = channel ∧ delivery.channel = connection.outboundTx

private theorem filter_replies_notices {sent : List Delivery}
    (broadcast : ∀ delivery ∈ sent, IsNotice delivery.frame) :
    sent.filter (fun delivery => (frameRequestId? delivery.frame).isSome) = [] := by
  rw [List.filter_eq_nil_iff]
  intro delivery member
  rw [(broadcast delivery member).1]
  exact Bool.false_ne_true

theorem RepliesHome.of_notices {channel : ConnectionSender} {command : RoomCommand}
    {sent : List Delivery} (broadcast : ∀ delivery ∈ sent, IsNotice delivery.frame) :
    RepliesHome channel command sent := by
  refine ⟨?_, ?_, ?_⟩
  · rw [filter_replies_notices broadcast]
    exact Nat.zero_le 1
  · intro delivery member requestId carried
    rw [(broadcast delivery member).1] at carried
    cases carried
  · intro delivery member token carried
    rw [(broadcast delivery member).2] at carried
    cases carried

theorem RepliesHome.cons {channel : ConnectionSender} {command : RoomCommand}
    {first : Delivery} {rest : List Delivery}
    (own : ∀ requestId, frameRequestId? first.frame = some requestId →
      command.requestId = some requestId ∧ first.channel = channel)
    (token : ∀ token, frameResumeToken? first.frame = some token → token ≠ "" →
      ∃ requestId connection request response,
        command = .join requestId connection request ∧
        first.frame.payload = .joinRoom response ∧ response.accepted = true ∧
        first.channel = channel ∧ first.channel = connection.outboundTx)
    (broadcast : ∀ delivery ∈ rest, IsNotice delivery.frame) :
    RepliesHome channel command (first :: rest) := by
  have others := @RepliesHome.of_notices channel command rest broadcast
  refine ⟨?_, ?_, ?_⟩
  · rw [List.filter_cons, filter_replies_notices broadcast]
    split <;> simp
  · intro delivery member
    rcases List.mem_cons.mp member with rfl | later
    · exact own
    · exact others.own delivery later
  · intro delivery member
    rcases List.mem_cons.mp member with rfl | later
    · exact token
    · exact others.token delivery later

theorem Wired.repliesHome {channelOf : String → ConnectionSender} {room : RoomState}
    (wired : room.Wired channelOf) {command : RoomCommand}
    (uses : command.UsesChannel channelOf) (around : Surroundings) :
    RepliesHome (channelOf command.connectionId) command
      (deliveries (room.handleCommand command around).2) := by
  obtain ⟨next, sent, _, frames, _, handled⟩ := wired.1.exists_handled command around
  rw [frames]
  cases handled with
  | ignored => exact .of_notices fun _ member => by cases member
  | joinRefused =>
      refine .cons ?_ ?_ fun _ member => by cases member
      · intro requestId carried
        cases carried
        exact ⟨rfl, uses⟩
      · intro token carried given
        cases carried
        exact absurd rfl given
  | resumeRefused =>
      refine .cons ?_ ?_ fun _ member => by cases member
      · intro requestId carried
        cases carried
        exact ⟨rfl, uses⟩
      · intro token carried
        cases carried
  | actionRejected _ _ _ seat player outboundTx _ _ bound found sender =>
      have home := (wired.bound_channel bound found).2
      rw [sender, Option.some.injEq] at home
      refine .cons ?_ ?_ fun _ member => by cases member
      · intro requestId carried
        cases carried
        exact ⟨rfl, home⟩
      · intro token carried
        cases carried
  | joined requestId connection request =>
      refine .cons ?_ ?_ ?_
      · intro requestId carried
        cases carried
        exact ⟨rfl, uses⟩
      · intro token carried given
        exact ⟨requestId, connection, request, _, rfl, rfl, rfl, uses, rfl⟩
      · intro delivery member
        rcases List.mem_append.mp member with synced | changed
        · exact syncDeliveries_isNotice delivery synced
        · exact changedDeliveries_isNotice delivery changed
  | readied => exact .of_notices syncDeliveries_isNotice
  | resumed =>
      refine .cons ?_ ?_ changedDeliveries_isNotice
      · intro requestId carried
        cases carried
      · intro token carried
        cases carried
  | toggled => exact .of_notices syncDeliveries_isNotice
  | disconnected =>
      refine .of_notices fun delivery member => ?_
      rcases List.mem_append.mp member with synced | changed
      · exact syncDeliveries_isNotice delivery synced
      · exact changedDeliveries_isNotice delivery changed

/-- In every run whose connections keep their channels, each command gets at most
one reply, which goes home, and tokens go to the connections that join. -/
theorem replies_go_home (channelOf : String → ConnectionSender) (roomId : String)
    (inputs : List RoomInput) (usesRun : ∀ input ∈ inputs, input.1.UsesChannel channelOf)
    (command : RoomCommand) (uses : command.UsesChannel channelOf)
    (around : Surroundings) :
    RepliesHome (channelOf command.connectionId) command
      (deliveries ((roomTask.exec (RoomState.new roomId) inputs).handleCommand command
        around).2) :=
  ((Wired.new channelOf roomId).exec inputs usesRun).repliesHome uses around

theorem replies_go_home_alice :
    RepliesHome ⟨"conn-1"⟩ aliceJoins.1
      (deliveries ((roomTask.exec (RoomState.new "room") [aliceJoins]).handleCommand
        aliceJoins.1 Surroundings.noop).2) := by
  refine replies_go_home ConnectionSender.mk "room" [aliceJoins] ?_ aliceJoins.1 rfl
    Surroundings.noop
  intro input member
  rw [List.mem_singleton.mp member]
  exact rfl

end RoomState

end GbMahjong.Room
