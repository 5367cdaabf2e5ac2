import GbMahjong.Room.Handled

/-! What a command may touch: the slot of the user it acts for, the entries of
that user and of the connections involved, and nothing at all when it is refused. -/

set_option autoImplicit false

namespace GbMahjong.Room

open GbMahjong.Library GbMahjong.Client

namespace RoomState

/-! ## One slot at a time -/

def actingUser? (room : RoomState) : RoomCommand → Option String
  | .join _ _ request => some request.userId
  | .resumeSession _ _ request => some request.userId
  | .ready _ connectionId _ => room.connectionToUser connectionId
  | .playerAction _ connectionId _ => room.connectionToUser connectionId
  | .disconnect connectionId => room.connectionToUser connectionId

def heldConnection? (room : RoomState) (userId : String) : Option String :=
  match room.userToSeat userId with
  | none => none
  | some seat => (room.playersBySeat seat).bind (·.connectionId)

/-- The step changes the seat of the acting user, the entries of that user, of
the command's connection and of the connection the slot held before, the phase
if it is a ready request, and the next event number. -/
structure Confined (room : RoomState) (command : RoomCommand) (next : RoomState) :
    Prop where
  slot : ∀ seat, next.playersBySeat seat ≠ room.playersBySeat seat →
    ∃ userId player, room.actingUser? command = some userId ∧
      next.userToSeat userId = some seat ∧ next.playersBySeat seat = some player ∧
      player.userId = userId
  user : ∀ userId, next.userToSeat userId ≠ room.userToSeat userId →
    room.actingUser? command = some userId
  connection : ∀ connectionId,
    next.connectionToUser connectionId ≠ room.connectionToUser connectionId →
    ∃ userId, room.actingUser? command = some userId ∧
      (connectionId = command.connectionId ∨
        room.heldConnection? userId = some connectionId)
  phase : next.phase ≠ room.phase →
    ∃ requestId connectionId request, command = .ready requestId connectionId request
  rest : next = { room with
    phase := next.phase
    nextEventSeq := next.nextEventSeq
    playersBySeat := next.playersBySeat
    userToSeat := next.userToSeat
    connectionToUser := next.connectionToUser }

theorem Confined.withEventSeq {room next : RoomState} {command : RoomCommand}
    (confined : room.Confined command next) (eventSeq : Nat) :
    room.Confined command { next with nextEventSeq := eventSeq } := by
  refine ⟨confined.slot, confined.user, confined.connection, confined.phase, ?_⟩
  rw [confined.rest]

theorem slot_of_update {room next : RoomState} {userId : String} {seat : Seat}
    {after : PlayerSlot} {acting : Option String} (acts : acting = some userId)
    (slots : next.playersBySeat = Function.update room.playersBySeat seat (some after))
    (seated : next.userToSeat userId = some seat) (named : after.userId = userId) :
    ∀ other, next.playersBySeat other ≠ room.playersBySeat other →
      ∃ userId player, acting = some userId ∧ next.userToSeat userId = some other ∧
        next.playersBySeat other = some player ∧ player.userId = userId := by
  intro other changed
  rw [slots] at changed ⊢
  by_cases same : other = seat
  · subst same
    exact ⟨userId, after, acts, seated, Function.update_self .., named⟩
  · exact absurd (Function.update_of_ne same ..) changed

private theorem Confined.unchanged (room : RoomState) (command : RoomCommand) :
    room.Confined command room :=
  ⟨fun _ changed => absurd rfl changed, fun _ changed => absurd rfl changed,
    fun _ changed => absurd rfl changed, fun changed => absurd rfl changed, rfl⟩

theorem connection_of_rebind {map : String → Option String} {old : Option String}
    {fresh userId connectionId : String}
    (changed : Function.update (match old with
      | none => map
      | some oldConnectionId => Function.update map oldConnectionId none) fresh
        (some userId) connectionId ≠ map connectionId) :
    connectionId = fresh ∨ old = some connectionId := by
  by_cases same : connectionId = fresh
  · exact .inl same
  · rw [Function.update_of_ne same] at changed
    cases old with
    | none => exact absurd rfl changed
    | some oldConnectionId =>
        by_cases held : connectionId = oldConnectionId
        · exact .inr (congrArg some held.symm)
        · exact absurd (Function.update_of_ne held ..) changed

theorem Consistent.confined_settle {room : RoomState} (consistent : room.Consistent)
    (command : RoomCommand) : room.Confined command (room.settle command) := by
  obtain ⟨next, books, _, step⟩ := consistent.exists_settled command
  rw [books]
  cases step with
  | refused => exact .unchanged room command
  | joined requestId connection request seat unknown opened =>
      refine ⟨slot_of_update rfl rfl (Function.update_self ..) rfl, ?_, ?_,
        fun changed => absurd rfl changed, rfl⟩
      · intro userId changed
        by_cases same : userId = request.userId
        · rw [same]
          rfl
        · exact absurd (Function.update_of_ne same ..) changed
      · intro connectionId changed
        by_cases same : connectionId = connection.connectionId
        · exact ⟨request.userId, rfl, .inl same⟩
        · exact absurd (Function.update_of_ne same ..) changed
  | readied requestId connectionId request seat player bound found =>
      have mapped := consistent.user_of_connection bound found
      exact ⟨slot_of_update mapped rfl (consistent.user_of_slot found) rfl,
        fun _ changed => absurd rfl changed, fun _ changed => absurd rfl changed,
        fun _ => ⟨requestId, connectionId, request, rfl⟩, rfl⟩
  | resumed requestId connection request seat player known found token =>
      have named := consistent.owner_of_seat known found
      refine ⟨slot_of_update rfl rfl known named, fun _ changed => absurd rfl changed, ?_,
        fun changed => absurd rfl changed, rfl⟩
      intro connectionId changed
      refine ⟨request.userId, rfl, ?_⟩
      have held : room.heldConnection? request.userId = player.connectionId := by
        simp only [heldConnection?, known, found, Option.bind_some]
      rw [held]
      exact connection_of_rebind changed
  | toggled requestId connectionId request seat player enabled bound found =>
      have mapped := consistent.user_of_connection bound found
      exact ⟨slot_of_update mapped rfl (consistent.user_of_slot found) rfl,
        fun _ changed => absurd rfl changed, fun _ changed => absurd rfl changed,
        fun changed => absurd rfl changed, rfl⟩
  | disconnected connectionId userId seat player bound known found =>
      have named := consistent.owner_of_seat known found
      refine ⟨slot_of_update bound rfl known named, fun _ changed => absurd rfl changed, ?_,
        fun changed => absurd rfl changed, rfl⟩
      intro other changed
      by_cases same : other = connectionId
      · exact ⟨userId, bound, .inl same⟩
      · exact absurd (Function.update_of_ne same ..) changed

/-! ## Refused and unanswered commands -/

/-- The step uses up event numbers and does nothing else. -/
def OnlySeqChanged (room next : RoomState) : Prop :=
  next = { room with nextEventSeq := next.nextEventSeq }

def IsRejection (frame : ServerFrame) : Prop :=
  (∃ response, frame.payload = .joinRoom response ∧ response.accepted = false) ∨
    ∃ rejected, frame.payload = .actionRejected rejected

/-- The delivery goes to this connection: through its own handle or through a slot
that names it. -/
def ReachesConnection (room : RoomState) (connectionId : String) (delivery : Delivery) :
    Prop :=
  delivery.via = .requester connectionId ∨
    ∃ seat player, delivery.via = .slot seat ∧ room.playersBySeat seat = some player ∧
      player.connectionId = some connectionId ∧
      player.outboundTx = some delivery.channel

/-- A request that is rejected or left without a frame to its own connection, and
the close of an unregistered connection, do nothing to the room. -/
structure RefusalsInert (room : RoomState) (command : RoomCommand) (next : RoomState)
    (sent : List Delivery) : Prop where
  rejected : (∃ delivery ∈ sent, IsRejection delivery.frame) → room.OnlySeqChanged next
  unanswered : command.requestId.isSome →
    (∀ delivery ∈ sent, ¬ next.ReachesConnection command.connectionId delivery) →
    room.OnlySeqChanged next
  unregistered : ∀ connectionId, command = .disconnect connectionId →
    room.connectionToUser connectionId = none → room.OnlySeqChanged next

theorem IsNotice.not_rejection {frame : ServerFrame} (broadcast : IsNotice frame) :
    ¬ IsRejection frame := by
  intro rejection
  have unnumbered := broadcast.1
  rcases rejection with ⟨response, payload, _⟩ | ⟨rejected, payload⟩
  · simp [frameRequestId?, payload] at unnumbered
  · simp [frameRequestId?, payload] at unnumbered

/-- A rejection is the only frame of a command that changes nothing. -/
theorem Handled.rejected_inert {room next : RoomState} {around : Surroundings}
    {command : RoomCommand} {sent : List Delivery}
    (handled : room.Handled around command next sent)
    (rejected : ∃ delivery ∈ sent, IsRejection delivery.frame) :
    room.OnlySeqChanged next := by
  obtain ⟨delivery, member, rejection⟩ := rejected
  cases handled with
  | ignored => cases member
  | joinRefused | resumeRefused | actionRejected => exact rfl
  | joined =>
      rcases List.mem_append.mp member with earlier | changed
      · rcases List.mem_cons.mp earlier with rfl | synced
        · rcases rejection with ⟨response, payload, refused⟩ | ⟨rejected, payload⟩
          · cases payload
            cases refused
          · cases payload
        · exact absurd rejection (syncDeliveries_isNotice delivery synced).not_rejection
      · exact absurd rejection (changedDeliveries_isNotice delivery changed).not_rejection
  | readied | toggled =>
      exact absurd rejection (syncDeliveries_isNotice delivery member).not_rejection
  | resumed =>
      rcases List.mem_cons.mp member with rfl | changed
      · exact absurd rejection (IsNotice.not_rejection ⟨rfl, rfl⟩)
      · exact absurd rejection (changedDeliveries_isNotice delivery changed).not_rejection
  | disconnected =>
      rcases List.mem_append.mp member with synced | changed
      · exact absurd rejection (syncDeliveries_isNotice delivery synced).not_rejection
      · exact absurd rejection (changedDeliveries_isNotice delivery changed).not_rejection

/-- A request that changes the room reaches its own connection. -/
theorem Handled.unanswered_inert {room next : RoomState} {around : Surroundings}
    {command : RoomCommand} {sent : List Delivery} (consistent : room.Consistent)
    (later : next.Consistent) (handled : room.Handled around command next sent)
    (asks : command.requestId.isSome)
    (silent : ∀ delivery ∈ sent,
      ¬ next.ReachesConnection command.connectionId delivery) :
    room.OnlySeqChanged next := by
  -- A registered connection gets the broadcast through the slot it holds.
  have synced : ∀ {connectionId : String} {seat : Seat} {before after : PlayerSlot},
      room.seatForConnection connectionId = some seat →
      room.playersBySeat seat = some before → next.playersBySeat seat = some after →
      after.connectionId = before.connectionId → ∀ eventSeq reason,
      ∃ delivery ∈ next.syncDeliveries eventSeq reason around,
        next.ReachesConnection connectionId delivery := by
    intro connectionId seat before after bound found replaced same eventSeq reason
    have mapped := consistent.user_of_connection bound found
    have holds : after.connectionId = some connectionId := by
      rw [same]
      exact consistent.bound_slot mapped found rfl
    have live : after.connected = true := by
      rw [(later.wired replaced).1, holds]
      rfl
    obtain ⟨channel, sender, member⟩ :=
      later.syncDeliveries_through replaced live eventSeq reason around
    exact ⟨_, member, .inr ⟨seat, after, rfl, replaced, holds, sender⟩⟩
  cases handled with
  | ignored | joinRefused | resumeRefused | actionRejected => exact rfl
  | joined => exact absurd (.inl rfl) (silent _ (.head _))
  | resumed => exact absurd (.inl rfl) (silent _ (.head _))
  | readied requestId connectionId request seat player books bound found updated =>
      have replaced : (books.advanceSeq 1).playersBySeat seat = some { player with
          status := if request.ready then .ready else .joined } := by
        rw [updated]
        exact Function.update_self ..
      obtain ⟨delivery, member, reaches⟩ := synced bound found replaced rfl
        room.nextEventSeq (if books.allReady then .roundStart else .serverResync)
      exact absurd reaches (silent delivery member)
  | toggled requestId connectionId request seat player enabled books bound found updated =>
      have replaced : (books.advanceSeq 1).playersBySeat seat = some { player with
          autoPlayEnabled := enabled } := by
        rw [updated]
        exact Function.update_self ..
      obtain ⟨delivery, member, reaches⟩ := synced bound found replaced rfl
        room.nextEventSeq .serverResync
      exact absurd reaches (silent delivery member)
  | disconnected => cases asks

/-- In every run each command is confined to the user it acts for, and those that
are refused or unanswered do nothing but use up event numbers. -/
theorem command_confined (roomId : String) (inputs : List RoomInput)
    (command : RoomCommand) (around : Surroundings) :
    let room := roomTask.exec (RoomState.new roomId) inputs
    let next := (room.handleCommand command around).1
    room.Confined command next ∧
      room.RefusalsInert command next
        (deliveries (room.handleCommand command around).2) := by
  intro room next
  have reachable : room.Reachable := ⟨roomId, inputs, rfl⟩
  have consistent := reachable.consistent
  have later : next.Consistent := consistent.step (command, around)
  have handled := consistent.handled command around
  refine ⟨?_, handled.rejected_inert, handled.unanswered_inert consistent later, ?_⟩
  · obtain ⟨eventSeq, books⟩ := handleCommand_settle room command around
    change room.Confined command (room.handleCommand command around).1
    rw [books]
    exact (consistent.confined_settle command).withEventSeq eventSeq
  · intro connectionId closes unmapped
    subst closes
    change room.OnlySeqChanged (room.handleDisconnect connectionId around).1
    simp only [handleDisconnect, unmapped]
    exact rfl

end RoomState

end GbMahjong.Room
