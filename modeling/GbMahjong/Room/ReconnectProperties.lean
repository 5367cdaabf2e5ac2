import GbMahjong.Room.ConnectionProperties
import GbMahjong.Room.Handled

/-! Reconnecting: what a connection may do for a user, what becomes of the
connection that a resume replaces, and the race between the close of the old
socket and the resume of the new one. -/

set_option autoImplicit false

namespace GbMahjong.Room

open GbMahjong.Library GbMahjong.Client

namespace RoomState

/-! ## Channels -/

/-- Every slot sends to the channel of the connection it names. -/
def ChannelsKept (channelOf : String → ConnectionSender) (room : RoomState) : Prop :=
  ∀ seat player, room.playersBySeat seat = some player →
    player.outboundTx = player.connectionId.map channelOf

private theorem ChannelsKept.replace {channelOf : String → ConnectionSender}
    {room next : RoomState} (kept : room.ChannelsKept channelOf) {seat : Seat}
    {after : PlayerSlot}
    (slots : next.playersBySeat = Function.update room.playersBySeat seat (some after))
    (sender : after.outboundTx = after.connectionId.map channelOf) :
    next.ChannelsKept channelOf := by
  intro other player occupied
  rw [slots, update_some_eq_some_iff] at occupied
  rcases occupied with ⟨rfl, rfl⟩ | ⟨_, occupied⟩
  · exact sender
  · exact kept other player occupied

theorem ChannelsKept.settle {channelOf : String → ConnectionSender} {room : RoomState}
    (kept : room.ChannelsKept channelOf) (consistent : room.Consistent)
    {command : RoomCommand} (uses : command.UsesChannel channelOf) :
    (room.settle command).ChannelsKept channelOf := by
  obtain ⟨next, books, _, step⟩ := consistent.exists_settled command
  rw [books]
  cases step with
  | refused => exact kept
  | joined => exact kept.replace rfl (congrArg some uses)
  | readied requestId connectionId request seat player bound found =>
      exact kept.replace rfl (kept seat player found)
  | resumed => exact kept.replace rfl (congrArg some uses)
  | toggled requestId connectionId request seat player enabled bound found =>
      exact kept.replace rfl (kept seat player found)
  | disconnected => exact kept.replace rfl rfl

/-- Consistent books whose slots keep the channels of their connections. -/
def Wired (channelOf : String → ConnectionSender) (room : RoomState) : Prop :=
  room.Consistent ∧ room.ChannelsKept channelOf

theorem Wired.new (channelOf : String → ConnectionSender) (roomId : String) :
    (RoomState.new roomId).Wired channelOf :=
  ⟨.new roomId, fun _ _ found => by cases found⟩

theorem Wired.step {channelOf : String → ConnectionSender} {room : RoomState}
    (wired : room.Wired channelOf) {command : RoomCommand}
    (uses : command.UsesChannel channelOf) (around : Surroundings) :
    (room.handleCommand command around).1.Wired channelOf := by
  obtain ⟨eventSeq, books⟩ := handleCommand_settle room command around
  rw [books]
  exact ⟨(wired.1.settle command).withEventSeq eventSeq, wired.2.settle wired.1 uses⟩

theorem Wired.exec {channelOf : String → ConnectionSender} {room : RoomState}
    (wired : room.Wired channelOf) (inputs : List RoomInput)
    (uses : ∀ input ∈ inputs, input.1.UsesChannel channelOf) :
    (roomTask.exec room inputs).Wired channelOf :=
  roomTask.exec_invariant (fun _ input allowed holds => holds.step allowed input.2)
    wired inputs uses

/-- A mapped connection holds the live slot of its user. -/
theorem Wired.bound_slot {channelOf : String → ConnectionSender} {room : RoomState}
    (wired : room.Wired channelOf) {connectionId userId : String}
    (mapped : room.connectionToUser connectionId = some userId) :
    ∃ seat player, room.userToSeat userId = some seat ∧
      room.playersBySeat seat = some player ∧ player.userId = userId ∧
      player.connected = true ∧ player.connectionId = some connectionId ∧
      player.outboundTx = some (channelOf connectionId) := by
  obtain ⟨seat, player, found, rfl, holds⟩ := wired.1.bound mapped
  refine ⟨seat, player, wired.1.user_of_slot found, found, rfl, ?_, holds, ?_⟩
  · rw [(wired.1.wired found).1, holds]
    rfl
  · rw [wired.2 seat player found, holds]
    rfl

/-! ## The replaced connection -/

/-- The connection is not registered and does not hold the slot at this seat. -/
structure Displaced (connectionId : String) (seat : Seat) (room : RoomState) : Prop where
  unmapped : room.connectionToUser connectionId = none
  elsewhere : ∀ player, room.playersBySeat seat = some player →
    player.connectionId ≠ some connectionId

theorem Consistent.ignores_unmapped {room : RoomState} (consistent : room.Consistent)
    {command : RoomCommand} (unmapped : room.connectionToUser command.connectionId = none)
    (stays : ¬ command.Registers) (around : Surroundings) :
    (room.handleCommand command around).1 = room ∧
      deliveries (room.handleCommand command around).2 = [] := by
  have unbound : ∀ {connectionId seat}, room.connectionToUser connectionId = none →
      room.seatForConnection connectionId ≠ some seat := by
    intro connectionId seat free
    simp [seatForConnection, free]
  obtain ⟨next, sent, state, frames, _, handled⟩ :=
    consistent.exists_handled command around
  rw [state, frames]
  cases handled with
  | ignored => exact ⟨rfl, rfl⟩
  | joinRefused | resumeRefused | joined | resumed => exact absurd trivial stays
  | actionRejected _ _ _ _ _ _ _ _ bound | readied _ _ _ _ _ _ bound
  | toggled _ _ _ _ _ _ _ bound => exact absurd bound (unbound unmapped)
  | disconnected _ _ _ _ _ bound =>
      simp only [RoomCommand.connectionId] at unmapped
      rw [unmapped] at bound
      cases bound

private theorem Displaced.replace {room next : RoomState} {connectionId : String}
    {seat target : Seat} {after : PlayerSlot} (displaced : room.Displaced connectionId seat)
    (unmapped : next.connectionToUser connectionId = none)
    (slots : next.playersBySeat = Function.update room.playersBySeat target (some after))
    (other : target = seat → after.connectionId ≠ some connectionId) :
    next.Displaced connectionId seat := by
  refine ⟨unmapped, fun player found => ?_⟩
  rw [slots, update_some_eq_some_iff] at found
  rcases found with ⟨rfl, rfl⟩ | ⟨_, found⟩
  · exact other rfl
  · exact displaced.elsewhere player found

theorem Displaced.settle {room : RoomState} {connectionId : String} {seat : Seat}
    (displaced : room.Displaced connectionId seat) (consistent : room.Consistent)
    {command : RoomCommand} (stays : command.connectionId = connectionId → ¬ command.Registers) :
    (room.settle command).Displaced connectionId seat := by
  obtain ⟨next, books, _, step⟩ := consistent.exists_settled command
  rw [books]
  cases step with
  | refused => exact displaced
  | joined requestId connection request target unknown opened =>
      have different : connectionId ≠ connection.connectionId :=
        fun same => stays same.symm trivial
      refine displaced.replace ?_ rfl fun _ same => different (Option.some.inj same).symm
      simpa [RoomState.seatPlayer, different] using displaced.unmapped
  | readied requestId source request target player bound found =>
      refine displaced.replace displaced.unmapped rfl ?_
      intro same
      subst same
      exact displaced.elsewhere player found
  | resumed requestId connection request target player known found token =>
      have different : connectionId ≠ connection.connectionId :=
        fun same => stays same.symm trivial
      refine displaced.replace ?_ rfl fun _ same => different (Option.some.inj same).symm
      simp only [RoomState.rebindPlayer, Function.update_of_ne different]
      cases old : player.connectionId with
      | none => exact displaced.unmapped
      | some oldConnectionId =>
          simp only [Function.update_apply, displaced.unmapped, ite_self]
  | toggled requestId source request target player enabled bound found =>
      refine displaced.replace displaced.unmapped rfl ?_
      intro same
      subst same
      exact displaced.elsewhere player found
  | disconnected source userId target player bound known found =>
      refine displaced.replace ?_ rfl fun _ => by simp [PlayerSlot.released]
      simp only [RoomState.disconnectPlayer, RoomState.setPlayer, forgetConnection,
        Function.update_apply, displaced.unmapped, ite_self]

/-- A wired room in which the connection is displaced from the seat. -/
def Follows (channelOf : String → ConnectionSender) (connectionId : String) (seat : Seat)
    (room : RoomState) : Prop :=
  room.Wired channelOf ∧ room.Displaced connectionId seat

/-- A command that keeps the displacement: the connection registers nowhere. -/
def KeepsAway (channelOf : String → ConnectionSender) (connectionId : String)
    (command : RoomCommand) : Prop :=
  command.UsesChannel channelOf ∧
    (command.connectionId = connectionId → ¬ command.Registers)

theorem Follows.step {channelOf : String → ConnectionSender} {connectionId : String}
    {seat : Seat} {room : RoomState} (follows : room.Follows channelOf connectionId seat)
    {command : RoomCommand} (away : KeepsAway channelOf connectionId command)
    (around : Surroundings) :
    (room.handleCommand command around).1.Follows channelOf connectionId seat := by
  refine ⟨follows.1.step away.1 around, ?_⟩
  obtain ⟨eventSeq, books⟩ := handleCommand_settle room command around
  have displaced := follows.2.settle follows.1.1 away.2
  rw [books]
  exact ⟨displaced.unmapped, displaced.elsewhere⟩

theorem Follows.exec {channelOf : String → ConnectionSender} {connectionId : String}
    {seat : Seat} {room : RoomState} (follows : room.Follows channelOf connectionId seat)
    (inputs : List RoomInput)
    (away : ∀ input ∈ inputs, KeepsAway channelOf connectionId input.1) :
    (roomTask.exec room inputs).Follows channelOf connectionId seat :=
  roomTask.exec_invariant (fun _ input allowed holds => holds.step allowed input.2)
    follows inputs away

theorem Displaced.channel_ne {channelOf : String → ConnectionSender}
    (separate : Function.Injective channelOf) {room : RoomState} {connectionId : String}
    {seat : Seat} (displaced : room.Displaced connectionId seat)
    (kept : room.ChannelsKept channelOf) {player : PlayerSlot} {channel : ConnectionSender}
    (found : room.playersBySeat seat = some player)
    (sender : player.outboundTx = some channel) : channel ≠ channelOf connectionId := by
  intro same
  subst same
  rw [kept seat player found, Option.map_eq_some_iff] at sender
  obtain ⟨holder, holds, same⟩ := sender
  rw [separate same] at holds
  exact displaced.elsewhere player found holds

/-- A step that ends with the connection displaced sent nothing to its channel
through the slot. -/
theorem Follows.sent_elsewhere {channelOf : String → ConnectionSender}
    (separate : Function.Injective channelOf) {room : RoomState} {connectionId : String}
    {seat : Seat} (consistent : room.Consistent) {command : RoomCommand}
    {around : Surroundings}
    (next : (room.handleCommand command around).1.Follows channelOf connectionId seat)
    {delivery : Delivery}
    (member : delivery ∈ deliveries (room.handleCommand command around).2)
    (via : delivery.via = .slot seat) : delivery.channel ≠ channelOf connectionId := by
  obtain ⟨holder, found, sender⟩ :=
    (consistent.handled command around).slot_channel member via
  exact next.2.channel_ne separate next.1.2 found sender

theorem Follows.trace_elsewhere {channelOf : String → ConnectionSender}
    (separate : Function.Injective channelOf) {room : RoomState} {connectionId : String}
    {seat : Seat} (follows : room.Follows channelOf connectionId seat)
    (inputs : List RoomInput)
    (away : ∀ input ∈ inputs, KeepsAway channelOf connectionId input.1)
    {delivery : Delivery} (member : delivery ∈ deliveries (roomTask.trace room inputs))
    (via : delivery.via = .slot seat) : delivery.channel ≠ channelOf connectionId := by
  refine @Machine.forall_mem_trace _ _ _ roomTask (Follows channelOf connectionId seat)
    (fun input => KeepsAway channelOf connectionId input.1)
    (fun effect => ∀ delivery, effect = .send delivery → delivery.via = .slot seat →
      delivery.channel ≠ channelOf connectionId) ?_ ?_ _ follows inputs away _
    (mem_deliveries.mp member) delivery rfl via
  · exact fun state input allowed holds => holds.step allowed input.2
  · rintro state input allowed holds effect sent delivery rfl throughSlot
    exact (holds.step allowed input.2).sent_elsewhere separate holds.1.1
      (mem_deliveries.mpr sent) throughSlot

theorem Wired.follows_of_resume {channelOf : String → ConnectionSender} {room : RoomState}
    (wired : room.Wired channelOf) {requestId : String} {connection : ConnectionHandle}
    {request : ResumeSessionRequest} {seat : Seat} {player : PlayerSlot}
    {connectionId : String} (accepted : room.resumeSlot? request = some (seat, player))
    (holds : player.connectionId = some connectionId)
    (different : connection.connectionId ≠ connectionId)
    (uses : connection.outboundTx = channelOf connection.connectionId)
    (around : Surroundings) :
    (room.handleCommand (.resumeSession requestId connection request) around).1.Follows
      channelOf connectionId seat := by
  refine ⟨wired.step (by exact uses) around, ?_⟩
  obtain ⟨eventSeq, books⟩ :=
    handleCommand_settle room (.resumeSession requestId connection request) around
  rw [books]
  simp only [RoomState.settle, accepted]
  refine ⟨?_, fun after found => ?_⟩
  · simp [RoomState.rebindPlayer, holds, different.symm]
  · simp only [RoomState.rebindPlayer, Function.update_self, Option.some.injEq] at found
    subst found
    exact fun same => different (Option.some.inj same)

theorem Seating.resumed_user {room : RoomState} (seating : room.Seating)
    {request : ResumeSessionRequest} {seat : Seat} {player : PlayerSlot}
    (accepted : room.resumeSlot? request = some (seat, player)) :
    player.userId = request.userId := by
  obtain ⟨known, found, _⟩ := resumeSlot?_eq_some_iff.mp accepted
  exact seating.owner_of_seat known found

/-- A mapped connection holds its user's live slot, and no other connection acts
for that user. After an accepted resume from another connection, the replaced
one changes the slot no more and receives nothing through it, whatever the
other connections do, until it joins or resumes itself. -/
theorem connection_acts_for_its_user (channelOf : String → ConnectionSender)
    (separate : Function.Injective channelOf) (roomId : String) (inputs : List RoomInput)
    (uses : ∀ input ∈ inputs, input.1.UsesChannel channelOf) :
    let room := roomTask.exec (RoomState.new roomId) inputs
    (∀ connectionId userId, room.connectionToUser connectionId = some userId →
      ∃ seat player, room.userToSeat userId = some seat ∧
        room.playersBySeat seat = some player ∧ player.userId = userId ∧
        player.connected = true ∧ player.connectionId = some connectionId ∧
        player.outboundTx = some (channelOf connectionId)) ∧
    (∀ first second userId, room.connectionToUser first = some userId →
      room.connectionToUser second = some userId → first = second) ∧
    ∀ requestId connection request around seat player connectionId later,
      room.resumeSlot? request = some (seat, player) →
      player.connectionId = some connectionId →
      connection.connectionId ≠ connectionId →
      connection.outboundTx = channelOf connection.connectionId →
      (∀ input ∈ later, input.1.UsesChannel channelOf) →
      (∀ input ∈ later, input.1.connectionId = connectionId → ¬ input.1.Registers) →
      let resumed := (RoomCommand.resumeSession requestId connection request, around)
      (∀ seen input rest, later = seen ++ input :: rest →
        let before := roomTask.exec room (resumed :: seen)
        before.userToSeat request.userId = some seat ∧
          (input.1.connectionId = connectionId →
            (roomTask.step before input).1.playersBySeat seat =
              before.playersBySeat seat)) ∧
      ∀ delivery ∈ deliveries (roomTask.trace room (resumed :: later)),
        delivery.via = .slot seat → delivery.channel ≠ channelOf connectionId := by
  intro room
  have wired : room.Wired channelOf := (Wired.new channelOf roomId).exec inputs uses
  refine ⟨fun connectionId userId mapped => wired.bound_slot mapped, ?_, ?_⟩
  · intro first second userId mapped mappedOther
    obtain ⟨seat, player, _, found, named, _, holds, _⟩ := wired.bound_slot mapped
    have holdsOther := wired.1.bound_slot mappedOther found named
    rw [holds] at holdsOther
    exact Option.some.inj holdsOther
  · intro requestId connection request around seat player connectionId later accepted
      holds different own usesLater stays resumed
    have away : ∀ input ∈ later, KeepsAway channelOf connectionId input.1 :=
      fun input member => ⟨usesLater input member, stays input member⟩
    have follows : (roomTask.step room resumed).1.Follows channelOf connectionId seat :=
      wired.follows_of_resume accepted holds different own around
    refine ⟨?_, ?_⟩
    · intro seen input rest split before
      have followsBefore : before.Follows channelOf connectionId seat :=
        follows.exec seen fun other member => away other (by simp [split, member])
      refine ⟨?_, fun source => ?_⟩
      · obtain ⟨after, occupied, owner⟩ := wired.1.exec_sameOwner (resumed :: seen)
          (resumeSlot?_eq_some_iff.mp accepted).2.1
        rw [← wired.1.resumed_user accepted, ← owner.userId]
        exact followsBefore.1.1.user_of_slot occupied
      · have silent := followsBefore.1.1.ignores_unmapped
          (source ▸ followsBefore.2.unmapped)
          ((away input (by simp [split])).2 source) input.2
        exact congrArg (·.playersBySeat seat) silent.1
    · intro delivery member via
      rw [Machine.trace_cons, deliveries_append, List.mem_append] at member
      rcases member with now | afterwards
      · exact follows.sent_elsewhere separate wired.1 now via
      · exact follows.trace_elsewhere separate later away afterwards via

def aliceJoins : RoomInput :=
  (.join "join" ⟨"conn-1", ⟨"conn-1"⟩⟩ ⟨"room", "alice", "", "Alice", "1.0"⟩,
    Surroundings.noop)

def aliceResumes : ResumeSessionRequest :=
  ⟨"room", "alice", "resume-room-alice", 3⟩

theorem connection_acts_for_its_user_alice :
    let room := roomTask.exec (RoomState.new "room") [aliceJoins]
    let resumed : RoomInput :=
      (.resumeSession "resume" ⟨"conn-2", ⟨"conn-2"⟩⟩ aliceResumes, Surroundings.noop)
    let closed : RoomInput := (.disconnect "conn-1", Surroundings.noop)
    room.connectionToUser "conn-1" = some "alice" ∧
      ∀ delivery ∈ deliveries (roomTask.trace room [resumed, closed]),
        delivery.via = .slot .east → delivery.channel ≠ ⟨"conn-1"⟩ := by
  refine ⟨rfl, ?_⟩
  refine ((connection_acts_for_its_user ConnectionSender.mk
    (fun _ _ same => ConnectionSender.mk.inj same) "room" [aliceJoins] ?_).2.2 "resume"
    ⟨"conn-2", ⟨"conn-2"⟩⟩ aliceResumes Surroundings.noop .east _ "conn-1"
    [(.disconnect "conn-1", Surroundings.noop)] rfl rfl (by decide) rfl ?_ ?_).2
  · rintro input (_ | ⟨_, _ | _⟩)
    exact rfl
  · rintro input (_ | ⟨_, _ | _⟩)
    exact trivial
  · rintro input (_ | ⟨_, _ | _⟩) _
    exact fun registers => registers

/-! ## The reconnect race -/

/-- The books of a slot that has moved to a new connection. -/
def movedTo (room : RoomState) (oldConnectionId : String) (seat : Seat)
    (player : PlayerSlot) (connection : ConnectionHandle) : RoomState :=
  { room with
    connectionToUser := Function.update
      (Function.update room.connectionToUser oldConnectionId none)
      connection.connectionId (some player.userId)
    playersBySeat := Function.update room.playersBySeat seat
      (some { player with
        connectionId := some connection.connectionId
        connected := true
        outboundTx := some connection.outboundTx }) }

/-- Disconnect first: the resume finds a released slot. -/
theorem settle_disconnect_resume {room : RoomState} {connectionId : String} {seat : Seat}
    {player : PlayerSlot} (mapped : room.connectionToUser connectionId = some player.userId)
    {request : ResumeSessionRequest}
    (accepted : room.resumeSlot? request = some (seat, player))
    (user : player.userId = request.userId) (requestId : String)
    (connection : ConnectionHandle) :
    (room.settle (.disconnect connectionId)).settle
        (.resumeSession requestId connection request) =
      room.movedTo connectionId seat player connection := by
  obtain ⟨known, found, token⟩ := resumeSlot?_eq_some_iff.mp accepted
  rw [← user] at known
  have closed : room.settle (.disconnect connectionId) =
      (room.forgetConnection connectionId).disconnectPlayer seat player := by
    simp only [settle, mapped, known, found]
  have reopened : ((room.forgetConnection connectionId).disconnectPlayer seat
      player).resumeSlot? request = some (seat, player.released) :=
    resumeSlot?_eq_some_iff.mpr ⟨user ▸ known, Function.update_self .., token⟩
  rw [closed]
  simp only [settle, reopened]
  simp only [rebindPlayer, disconnectPlayer, RoomState.setPlayer, forgetConnection,
    PlayerSlot.released, PlayerSlot.reboundTo, Function.update_idem, movedTo]

/-- Resume first: the disconnect finds its connection forgotten. -/
theorem settle_resume_disconnect {room : RoomState} {connectionId : String} {seat : Seat}
    {player : PlayerSlot} (holds : player.connectionId = some connectionId)
    {request : ResumeSessionRequest}
    (accepted : room.resumeSlot? request = some (seat, player)) (requestId : String)
    {connection : ConnectionHandle} (different : connectionId ≠ connection.connectionId) :
    (room.settle (.resumeSession requestId connection request)).settle
        (.disconnect connectionId) =
      room.movedTo connectionId seat player connection := by
  have moved : room.settle (.resumeSession requestId connection request) =
      room.movedTo connectionId seat player connection := by
    simp only [settle, accepted, rebindPlayer, holds, PlayerSlot.reboundTo, movedTo]
  have forgotten : (room.movedTo connectionId seat player connection).connectionToUser
      connectionId = none := by
    simp [movedTo, different]
  rw [moved]
  simp only [settle, forgotten]

/-- The close of the old socket and the resume from a new one commute: both
orders move the user's slot to the new connection, change nothing else and
differ in the event numbers they use up. -/
theorem reconnect_race {room : RoomState} (reachable : room.Reachable)
    {connectionId userId : String}
    (mapped : room.connectionToUser connectionId = some userId)
    (connection : ConnectionHandle)
    (fresh : room.connectionToUser connection.connectionId = none)
    (request : ResumeSessionRequest) (user : request.userId = userId)
    (token : ∀ seat player, room.userToSeat userId = some seat →
      room.playersBySeat seat = some player → request.resumeToken = player.resumeToken)
    (requestId : String) (closing closed resuming resumed : Surroundings) :
    ∃ seat player closedSeq resumedSeq,
      room.userToSeat userId = some seat ∧ room.playersBySeat seat = some player ∧
      player.userId = userId ∧
      roomTask.exec room [(.disconnect connectionId, closing),
          (.resumeSession requestId connection request, resuming)] =
        { room.movedTo connectionId seat player connection with
          nextEventSeq := closedSeq } ∧
      roomTask.exec room [(.resumeSession requestId connection request, resumed),
          (.disconnect connectionId, closed)] =
        { room.movedTo connectionId seat player connection with
          nextEventSeq := resumedSeq } := by
  have consistent := reachable.consistent
  obtain ⟨seat, player, found, rfl, holds⟩ := consistent.bound mapped
  have known := consistent.user_of_slot found
  have accepted : room.resumeSlot? request = some (seat, player) :=
    resumeSlot?_eq_some_iff.mpr ⟨user ▸ known, found, (token seat player known found).symm⟩
  have different : connectionId ≠ connection.connectionId := by
    intro same
    subst same
    rw [mapped] at fresh
    cases fresh
  obtain ⟨closedSeq, closedFirst⟩ := exec_settleAll room
    [(.disconnect connectionId, closing),
      (.resumeSession requestId connection request, resuming)]
  obtain ⟨resumedSeq, resumedFirst⟩ := exec_settleAll room
    [(.resumeSession requestId connection request, resumed),
      (.disconnect connectionId, closed)]
  refine ⟨seat, player, closedSeq, resumedSeq, known, found, rfl, ?_, ?_⟩
  · rw [closedFirst]
    simp only [settleAll, List.foldl_cons, List.foldl_nil,
      settle_disconnect_resume mapped accepted user.symm]
  · rw [resumedFirst]
    simp only [settleAll, List.foldl_cons, List.foldl_nil,
      settle_resume_disconnect holds accepted requestId different]

theorem reconnect_race_alice :
    ∃ seat player closedSeq resumedSeq,
      let room := roomTask.exec (RoomState.new "room") [aliceJoins]
      let connection : ConnectionHandle := ⟨"conn-2", ⟨"conn-2"⟩⟩
      room.userToSeat "alice" = some seat ∧ room.playersBySeat seat = some player ∧
      player.userId = "alice" ∧
      roomTask.exec room [(.disconnect "conn-1", Surroundings.noop),
          (.resumeSession "resume" connection aliceResumes, Surroundings.noop)] =
        { room.movedTo "conn-1" seat player connection with
          nextEventSeq := closedSeq } ∧
      roomTask.exec room [(.resumeSession "resume" connection aliceResumes,
          Surroundings.noop), (.disconnect "conn-1", Surroundings.noop)] =
        { room.movedTo "conn-1" seat player connection with
          nextEventSeq := resumedSeq } := by
  refine reconnect_race ⟨"room", [aliceJoins], rfl⟩ rfl ⟨"conn-2", ⟨"conn-2"⟩⟩ rfl
    aliceResumes rfl ?_ "resume" Surroundings.noop Surroundings.noop Surroundings.noop
    Surroundings.noop
  intro seat player known found
  cases known
  cases found
  rfl

end RoomState

end GbMahjong.Room
