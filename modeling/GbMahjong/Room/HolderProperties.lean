import GbMahjong.Room.ReconnectProperties

/-! Which slots name one given connection along a run: the last accepted join or
resume of a seat decides, until the connection disconnects. -/

set_option autoImplicit false

namespace GbMahjong.Room

open GbMahjong.Library GbMahjong.Client

/-- The user as whom a command registers its connection. -/
def RoomCommand.registersAs : RoomCommand → Option String
  | .join _ _ request => some request.userId
  | .resumeSession _ _ request => some request.userId
  | .ready _ _ _ | .playerAction _ _ _ | .disconnect _ => none

namespace RoomState

def NamedAt (room : RoomState) (seat : Seat) (connectionId : String) : Prop :=
  ∃ player, room.playersBySeat seat = some player ∧
    player.connectionId = some connectionId

/-- The connection of the last accepted join or resume of this seat in a run;
`binder` is the one before the run. -/
def lastBinder (seat : Seat) (room : RoomState) (binder : Option String) :
    List RoomInput → Option String
  | [] => binder
  | input :: rest =>
      lastBinder seat (roomTask.step room input).1
        (if room.boundSeat? input.1 = some seat then some input.1.connectionId else binder)
        rest

private theorem namedAt_update {room next : RoomState} {target seat : Seat}
    {after : PlayerSlot} {connectionId : String}
    (slots : next.playersBySeat = Function.update room.playersBySeat target (some after)) :
    next.NamedAt seat connectionId ↔
      if seat = target then after.connectionId = some connectionId
      else room.NamedAt seat connectionId := by
  by_cases same : seat = target
  · subst same
    simp [NamedAt, slots]
  · simp [NamedAt, slots, same]

private theorem namedAt_replace {room next : RoomState} {target : Seat}
    {before after : PlayerSlot}
    (slots : next.playersBySeat = Function.update room.playersBySeat target (some after))
    (found : room.playersBySeat target = some before)
    (kept : after.connectionId = before.connectionId) (seat : Seat)
    (connectionId : String) :
    next.NamedAt seat connectionId ↔ room.NamedAt seat connectionId := by
  rw [namedAt_update slots]
  by_cases same : seat = target
  · subst same
    simp [NamedAt, found, kept]
  · simp [same]

theorem Consistent.namedAt_settle {room : RoomState} (consistent : room.Consistent)
    {command : RoomCommand} {connectionId : String}
    (stays : command ≠ .disconnect connectionId) (seat : Seat) :
    (room.settle command).NamedAt seat connectionId ↔
      if room.boundSeat? command = some seat then command.connectionId = connectionId
      else room.NamedAt seat connectionId := by
  have bound : ∀ {next : RoomState} {target : Seat} {after : PlayerSlot} {source : String},
      next.playersBySeat = Function.update room.playersBySeat target (some after) →
      after.connectionId = some source →
      (next.NamedAt seat connectionId ↔
        if some target = some seat then source = connectionId
        else room.NamedAt seat connectionId) := by
    intro next target after source slots named
    rw [namedAt_update slots, named]
    by_cases same : seat = target
    · simp [same]
    · have apart : target ≠ seat := fun equal => same equal.symm
      simp [same, apart]
  obtain ⟨next, books, _, step⟩ := consistent.exists_settled command
  rw [books]
  cases step with
  | refused _ unbound => simp [unbound]
  | joined requestId connection request target unknown opened =>
      simp only [boundSeat?, joinSeat?_eq_some_iff.mpr ⟨unknown, opened⟩,
        RoomCommand.connectionId]
      exact bound rfl rfl
  | readied requestId source request target player mapped found =>
      simp only [boundSeat?, reduceCtorEq, ↓reduceIte]
      exact namedAt_replace (by rfl) found (by rfl) seat connectionId
  | resumed requestId connection request target player known found token =>
      simp only [boundSeat?, resumeSlot?_eq_some_iff.mpr ⟨known, found, token⟩,
        Option.map_some, RoomCommand.connectionId]
      exact bound rfl rfl
  | toggled requestId source request target player enabled mapped found =>
      simp only [boundSeat?, reduceCtorEq, ↓reduceIte]
      exact namedAt_replace (by rfl) found (by rfl) seat connectionId
  | disconnected source userId target player mapped known found =>
      simp only [boundSeat?, reduceCtorEq, ↓reduceIte]
      have slots : ((room.forgetConnection source).disconnectPlayer target
          player).playersBySeat =
          Function.update room.playersBySeat target (some player.released) := rfl
      rw [namedAt_update slots]
      by_cases same : seat = target
      · -- The released slot named the connection that left, not this one.
        subst same
        have owner := consistent.owner_of_seat known found
        have holds := consistent.bound_slot mapped found owner
        have other : source ≠ connectionId := fun equal => stays (equal ▸ rfl)
        simp [NamedAt, found, holds, other, PlayerSlot.released]
      · simp [same]

theorem Consistent.namedAt_step {room : RoomState} (consistent : room.Consistent)
    {input : RoomInput} {connectionId : String}
    (stays : input.1 ≠ .disconnect connectionId) (seat : Seat) :
    (roomTask.step room input).1.NamedAt seat connectionId ↔
      if room.boundSeat? input.1 = some seat then input.1.connectionId = connectionId
      else room.NamedAt seat connectionId := by
  obtain ⟨eventSeq, books⟩ := handleCommand_settle room input.1 input.2
  rw [← consistent.namedAt_settle stays seat]
  change (room.handleCommand input.1 input.2).1.NamedAt seat connectionId ↔ _
  rw [books]
  exact .rfl

/-- Along a run without its disconnect, a slot names the connection exactly when
the connection is the last binder of the seat. -/
theorem Consistent.namedAt_exec {room : RoomState} (consistent : room.Consistent)
    {connectionId : String} (inputs : List RoomInput)
    (stays : ∀ input ∈ inputs, input.1 ≠ .disconnect connectionId) (seat : Seat)
    {binder : Option String}
    (start : room.NamedAt seat connectionId ↔ binder = some connectionId) :
    (roomTask.exec room inputs).NamedAt seat connectionId ↔
      lastBinder seat room binder inputs = some connectionId := by
  induction inputs generalizing room binder with
  | nil => exact start
  | cons input rest ih =>
      refine ih (consistent.step input) (fun later member => stays later (.tail _ member)) ?_
      rw [consistent.namedAt_step (stays input (.head _)) seat]
      by_cases bound : room.boundSeat? input.1 = some seat
      · simp [bound]
      · simp [bound, start]

theorem Consistent.unnamed_exec {room : RoomState} (consistent : room.Consistent)
    {connectionId : String} (inputs : List RoomInput)
    (others : ∀ input ∈ inputs, input.1.connectionId ≠ connectionId) (seat : Seat)
    (unnamed : ¬ room.NamedAt seat connectionId) :
    ¬ (roomTask.exec room inputs).NamedAt seat connectionId := by
  induction inputs generalizing room with
  | nil => exact unnamed
  | cons input rest ih =>
      have other := others input (.head _)
      refine ih (consistent.step input) (fun later member => others later (.tail _ member)) ?_
      have stays : input.1 ≠ .disconnect connectionId := by
        intro leaves
        rw [leaves] at other
        exact other rfl
      rw [consistent.namedAt_step stays seat]
      by_cases bound : room.boundSeat? input.1 = some seat
      · simpa [bound] using other
      · simpa [bound] using unnamed

theorem new_unnamed (roomId : String) (seat : Seat) (connectionId : String) :
    ¬ (RoomState.new roomId).NamedAt seat connectionId := by
  intro named
  obtain ⟨player, found, _⟩ := named
  cases found

/-! ## A connection that registers as one user -/

/-- Every slot that names the connection is this user's, and the connection is
mapped to the user. -/
def OwnsAs (connectionId userId : String) (room : RoomState) : Prop :=
  ∀ seat player, room.playersBySeat seat = some player →
    player.connectionId = some connectionId →
    player.userId = userId ∧ room.connectionToUser connectionId = some userId

private theorem OwnsAs.setPlayer {room : RoomState} {connectionId userId : String}
    (owns : room.OwnsAs connectionId userId) {target : Seat} {before after : PlayerSlot}
    (found : room.playersBySeat target = some before)
    (owner : after.userId = before.userId)
    (kept : after.connectionId = before.connectionId) :
    (room.setPlayer target after).OwnsAs connectionId userId := by
  intro seat player occupied holds
  simp only [RoomState.setPlayer, update_some_eq_some_iff] at occupied
  rcases occupied with ⟨rfl, rfl⟩ | ⟨_, occupied⟩
  · rw [owner]
    exact owns seat before found (kept ▸ holds)
  · exact owns seat player occupied holds

private theorem OwnsAs.seatPlayer {room : RoomState} {connectionId userId : String}
    (owns : room.OwnsAs connectionId userId) (consistent : room.Consistent)
    {target : Seat} {connection : ConnectionHandle} {request : JoinRoomRequest}
    (unknown : room.userToSeat request.userId = none)
    (single : connection.connectionId = connectionId → request.userId = userId) :
    (room.seatPlayer target connection request).OwnsAs connectionId userId := by
  intro seat player occupied holds
  simp only [RoomState.seatPlayer, update_some_eq_some_iff] at occupied ⊢
  rcases occupied with ⟨rfl, rfl⟩ | ⟨_, occupied⟩
  · have source : connection.connectionId = connectionId := Option.some.inj holds
    exact ⟨single source, .inl ⟨source.symm, single source⟩⟩
  · obtain ⟨named, mapped⟩ := owns seat player occupied holds
    refine ⟨named, .inr ⟨fun source => ?_, mapped⟩⟩
    rw [single source.symm, ← named, consistent.user_of_slot occupied] at unknown
    cases unknown

private theorem OwnsAs.rebindPlayer {room : RoomState} {connectionId userId : String}
    (owns : room.OwnsAs connectionId userId) (consistent : room.Consistent)
    {target : Seat} {before : PlayerSlot} {connection : ConnectionHandle}
    (found : room.playersBySeat target = some before)
    (single : connection.connectionId = connectionId → before.userId = userId) :
    (room.rebindPlayer target before connection).OwnsAs connectionId userId := by
  intro seat player occupied holds
  simp only [RoomState.rebindPlayer, update_some_eq_some_iff] at occupied ⊢
  rcases occupied with ⟨rfl, rfl⟩ | ⟨different, occupied⟩
  · have source : connection.connectionId = connectionId := Option.some.inj holds
    exact ⟨single source, .inl ⟨source.symm, single source⟩⟩
  · obtain ⟨named, mapped⟩ := owns seat player occupied holds
    refine ⟨named, .inr ⟨fun source => ?_, ?_⟩⟩
    · exact different (consistent.seat_unique occupied found
        (named.trans (single source.symm).symm))
    · cases old : before.connectionId with
      | none => exact mapped
      | some oldConnectionId =>
          simp only [update_none_eq_some_iff]
          refine ⟨?_, mapped⟩
          intro same
          subst same
          exact different (consistent.seat_unique occupied found
            (named.trans (owns target before found old).1.symm))

theorem OwnsAs.settle {room : RoomState} {connectionId userId : String}
    (owns : room.OwnsAs connectionId userId) (consistent : room.Consistent)
    {command : RoomCommand} (stays : command ≠ .disconnect connectionId)
    (single : command.connectionId = connectionId →
      ∀ user, command.registersAs = some user → user = userId) :
    (room.settle command).OwnsAs connectionId userId := by
  obtain ⟨next, books, _, step⟩ := consistent.exists_settled command
  rw [books]
  cases step with
  | refused => exact owns
  | joined requestId connection request target unknown opened =>
      exact owns.seatPlayer consistent unknown fun source => single source _ rfl
  | readied requestId source request target player mapped found =>
      exact owns.setPlayer found rfl rfl
  | resumed requestId connection request target player known found token =>
      have user := consistent.resumed_user (resumeSlot?_eq_some_iff.mpr ⟨known, found, token⟩)
      exact owns.rebindPlayer consistent found
        fun source => user.trans (single source _ rfl)
  | toggled requestId source request target player enabled mapped found =>
      exact owns.setPlayer found rfl rfl
  | disconnected source user target player mapped known found =>
      intro seat holder occupied holds
      simp only [RoomState.disconnectPlayer, RoomState.setPlayer, forgetConnection,
        update_some_eq_some_iff, update_none_eq_some_iff] at occupied ⊢
      rcases occupied with ⟨rfl, rfl⟩ | ⟨_, occupied⟩
      · cases holds
      · obtain ⟨named, bound⟩ := owns seat holder occupied holds
        exact ⟨named, fun same => stays (same ▸ rfl), bound⟩

theorem OwnsAs.exec {room : RoomState} {connectionId userId : String}
    (owns : room.OwnsAs connectionId userId) (consistent : room.Consistent)
    (inputs : List RoomInput)
    (stays : ∀ input ∈ inputs, input.1 ≠ .disconnect connectionId)
    (single : ∀ input ∈ inputs, input.1.connectionId = connectionId →
      ∀ user, input.1.registersAs = some user → user = userId) :
    (roomTask.exec room inputs).OwnsAs connectionId userId := by
  induction inputs generalizing room with
  | nil => exact owns
  | cons input rest ih =>
      refine ih ?_ (consistent.step input) (fun later member => stays later (.tail _ member))
        fun later member => single later (.tail _ member)
      obtain ⟨eventSeq, books⟩ := handleCommand_settle room input.1 input.2
      have settled := owns.settle consistent (stays input (.head _)) (single input (.head _))
      change (room.handleCommand input.1 input.2).1.OwnsAs connectionId userId
      rw [books]
      exact settled

theorem OwnsAs.unnamed_after_disconnect {room : RoomState} {connectionId userId : String}
    (owns : room.OwnsAs connectionId userId) (consistent : room.Consistent)
    (around : Surroundings) (seat : Seat) :
    ¬ (roomTask.step room (.disconnect connectionId, around)).1.NamedAt seat
      connectionId := by
  obtain ⟨eventSeq, books⟩ := handleCommand_settle room (.disconnect connectionId) around
  change ¬ (room.handleCommand (.disconnect connectionId) around).1.NamedAt seat connectionId
  rw [books]
  change ¬ (room.settle (.disconnect connectionId)).NamedAt seat connectionId
  intro named
  obtain ⟨holder, occupied, holds⟩ := named
  cases mapped : room.connectionToUser connectionId with
  | none =>
      simp only [RoomState.settle, mapped] at occupied
      have bound := (owns seat holder occupied holds).2
      rw [mapped] at bound
      cases bound
  | some user =>
      obtain ⟨target, player, found, rfl, _⟩ := consistent.bound mapped
      simp only [RoomState.settle, mapped, consistent.user_of_slot found, found,
        RoomState.disconnectPlayer, RoomState.setPlayer, forgetConnection,
        update_some_eq_some_iff] at occupied
      rcases occupied with ⟨rfl, rfl⟩ | ⟨different, occupied⟩
      · cases holds
      · obtain ⟨named, bound⟩ := owns seat holder occupied holds
        rw [mapped, ← named, Option.some.injEq] at bound
        exact different (consistent.seat_unique occupied found bound.symm)

/-- A connection that registers as one user, disconnects and then stays away is
named by no slot. -/
theorem unnamed_of_departed (roomId connectionId userId : String) (around : Surroundings)
    (before after : List RoomInput)
    (stays : ∀ input ∈ before, input.1 ≠ .disconnect connectionId)
    (single : ∀ input ∈ before, input.1.connectionId = connectionId →
      ∀ user, input.1.registersAs = some user → user = userId)
    (others : ∀ input ∈ after, input.1.connectionId ≠ connectionId) (seat : Seat) :
    ¬ (roomTask.exec (RoomState.new roomId)
      (before ++ (.disconnect connectionId, around) :: after)).NamedAt seat connectionId := by
  have consistent := (Consistent.new roomId).exec before
  have start : (RoomState.new roomId).OwnsAs connectionId userId :=
    fun _ _ found => by cases found
  have owns := start.exec (.new roomId) before stays single
  rw [Machine.exec_append]
  exact (consistent.step _).unnamed_exec after others seat
    (owns.unnamed_after_disconnect consistent around seat)

end RoomState

end GbMahjong.Room
