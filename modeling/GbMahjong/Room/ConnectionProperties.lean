import GbMahjong.Room.SeatingProperties

/-! Which connection holds which slot. A slot names its connection and the
connection map names the user; the two agree as long as no connection that
already sits in a slot is bound to a second one. -/

set_option autoImplicit false

namespace GbMahjong.Room

open GbMahjong.Library GbMahjong.Client

namespace RoomState

/-! ## One slot for each connection -/

/-- Every connection that a slot names is mapped to the user of that slot. -/
def Exclusive (room : RoomState) : Prop :=
  ∀ seat player connectionId, room.playersBySeat seat = some player →
    player.connectionId = some connectionId →
    room.connectionToUser connectionId = some player.userId

/-- The slots and the connection map describe one set of live connections. -/
structure ConnectionsExact (room : RoomState) : Prop where
  flags : ∀ {seat player}, room.playersBySeat seat = some player →
    (player.connected = true ↔ player.connectionId.isSome) ∧
      (player.connectionId.isSome ↔ player.outboundTx.isSome)
  mapped : ∀ {seat player connectionId}, room.playersBySeat seat = some player →
    player.connectionId = some connectionId →
    room.connectionToUser connectionId = some player.userId
  unshared : ∀ {first second holder other connectionId},
    room.playersBySeat first = some holder → room.playersBySeat second = some other →
    holder.connectionId = some connectionId → other.connectionId = some connectionId →
    first = second
  released : ∀ connectionId around seat player,
    (room.handleDisconnect connectionId around).1.playersBySeat seat = some player →
    player.connectionId ≠ some connectionId

/-- An accepted join or resume comes from a connection that is not bound to the
user of another seat. -/
def BindsOwnConnection (room : RoomState) (command : RoomCommand) : Prop :=
  ∀ seat, room.boundSeat? command = some seat →
    ∀ userId, room.connectionToUser command.connectionId = some userId →
      room.userToSeat userId = some seat

theorem Seating.seat_unique {room : RoomState} (seating : room.Seating)
    {first second : Seat} {holder other : PlayerSlot}
    (found : room.playersBySeat first = some holder)
    (foundOther : room.playersBySeat second = some other)
    (owner : holder.userId = other.userId) : first = second := by
  have home := seating.user_of_slot found
  rw [owner, seating.user_of_slot foundOther] at home
  exact (Option.some.inj home).symm

private theorem Exclusive.setPlayer {room : RoomState} (exclusive : room.Exclusive)
    {seat : Seat} {before after : PlayerSlot}
    (found : room.playersBySeat seat = some before) (owner : after.userId = before.userId)
    (connectionId : after.connectionId = before.connectionId) :
    (room.setPlayer seat after).Exclusive := by
  intro other player named occupied holds
  simp only [RoomState.setPlayer, update_some_eq_some_iff] at occupied
  rcases occupied with ⟨rfl, rfl⟩ | ⟨_, occupied⟩
  · rw [owner]
    exact exclusive _ _ _ found (connectionId ▸ holds)
  · exact exclusive _ _ _ occupied holds

private theorem Consistent.exclusive_seatPlayer_iff {room : RoomState}
    (consistent : room.Consistent) (exclusive : room.Exclusive) {seat : Seat}
    {connection : ConnectionHandle} {request : JoinRoomRequest}
    (unknown : room.userToSeat request.userId = none)
    (opened : room.nextOpenSeat = some seat) :
    (room.seatPlayer seat connection request).Exclusive ↔
      ∀ userId, room.connectionToUser connection.connectionId = some userId →
        room.userToSeat userId = some seat := by
  have vacant := nextOpenSeat_vacant opened
  constructor
  · intro exclusiveNext userId bound
    obtain ⟨home, holder, found, _, holds⟩ := consistent.bound bound
    have different : home ≠ seat := by
      intro same
      subst same
      rw [vacant] at found
      cases found
    -- The slot keeps naming the connection, which now belongs to the new user.
    have mapped := exclusiveNext home holder _
      (by simp [RoomState.seatPlayer, different, found]) holds
    simp only [RoomState.seatPlayer, Function.update_self, Option.some.injEq] at mapped
    rw [mapped, consistent.user_of_slot found] at unknown
    cases unknown
  · intro own other player connectionId occupied holds
    simp only [RoomState.seatPlayer, update_some_eq_some_iff] at occupied ⊢
    rcases occupied with ⟨rfl, rfl⟩ | ⟨_, occupied⟩
    · exact .inl ⟨(Option.some.inj holds).symm, rfl⟩
    · have mapped := exclusive _ _ _ occupied holds
      refine .inr ⟨?_, mapped⟩
      intro same
      subst same
      obtain ⟨holder, found, _⟩ := consistent.slot_of_user (own _ mapped)
      rw [vacant] at found
      cases found

private theorem Consistent.exclusive_rebindPlayer_iff {room : RoomState}
    (consistent : room.Consistent) (exclusive : room.Exclusive) {seat : Seat}
    {player : PlayerSlot} {connection : ConnectionHandle}
    (found : room.playersBySeat seat = some player) :
    (room.rebindPlayer seat player connection).Exclusive ↔
      ∀ userId, room.connectionToUser connection.connectionId = some userId →
        room.userToSeat userId = some seat := by
  constructor
  · intro exclusiveNext userId bound
    obtain ⟨home, holder, occupied, rfl, holds⟩ := consistent.bound bound
    rw [consistent.user_of_slot occupied, Option.some.injEq]
    by_cases same : home = seat
    · exact same
    · have mapped := exclusiveNext home holder _
        (by simp [RoomState.rebindPlayer, same, occupied]) holds
      simp only [RoomState.rebindPlayer, Function.update_self, Option.some.injEq] at mapped
      exact consistent.seat_unique occupied found mapped.symm
  · intro own other holder connectionId occupied holds
    simp only [RoomState.rebindPlayer, update_some_eq_some_iff] at occupied ⊢
    rcases occupied with ⟨rfl, rfl⟩ | ⟨different, occupied⟩
    · exact .inl ⟨(Option.some.inj holds).symm, rfl⟩
    · have mapped := exclusive _ _ _ occupied holds
      refine .inr ⟨?_, ?_⟩
      · intro same
        subst same
        have home := own _ mapped
        rw [consistent.user_of_slot occupied] at home
        exact different (Option.some.inj home)
      · cases old : player.connectionId with
        | none => exact mapped
        | some oldConnectionId =>
            simp only [update_none_eq_some_iff]
            refine ⟨?_, mapped⟩
            intro same
            subst same
            have current := exclusive _ _ _ found old
            rw [mapped, Option.some.injEq] at current
            exact different (consistent.seat_unique occupied found current)

private theorem Consistent.exclusive_disconnectPlayer {room : RoomState}
    (consistent : room.Consistent) (exclusive : room.Exclusive) {connectionId : String}
    {seat : Seat} {player : PlayerSlot}
    (bound : room.connectionToUser connectionId = some player.userId)
    (found : room.playersBySeat seat = some player) :
    ((room.forgetConnection connectionId).disconnectPlayer seat player).Exclusive := by
  intro other holder named occupied holds
  simp only [RoomState.disconnectPlayer, RoomState.setPlayer, forgetConnection,
    update_some_eq_some_iff, update_none_eq_some_iff] at occupied ⊢
  rcases occupied with ⟨rfl, rfl⟩ | ⟨different, occupied⟩
  · cases holds
  · have mapped := exclusive _ _ _ occupied holds
    refine ⟨?_, mapped⟩
    intro same
    subst same
    rw [bound, Option.some.injEq] at mapped
    exact different (consistent.seat_unique occupied found mapped.symm)

/-- A command keeps connections exclusive exactly when it binds its own. -/
theorem Consistent.exclusive_settle_iff {room : RoomState} (consistent : room.Consistent)
    (exclusive : room.Exclusive) (command : RoomCommand) :
    (room.settle command).Exclusive ↔ room.BindsOwnConnection command := by
  obtain ⟨next, books, _, step⟩ := consistent.exists_settled command
  rw [books]
  cases step with
  | refused _ unbound => simp [BindsOwnConnection, unbound, exclusive]
  | joined requestId connection request seat unknown opened =>
      simp only [BindsOwnConnection, boundSeat?, joinSeat?_eq_some_iff.mpr ⟨unknown, opened⟩,
        Option.some.injEq, forall_eq', RoomCommand.connectionId]
      exact consistent.exclusive_seatPlayer_iff exclusive unknown opened
  | readied requestId connectionId request seat player bound found =>
      simp only [BindsOwnConnection, boundSeat?, reduceCtorEq, false_implies, implies_true,
        iff_true]
      exact exclusive.setPlayer found rfl rfl
  | resumed requestId connection request seat player known found token =>
      simp only [BindsOwnConnection, boundSeat?,
        resumeSlot?_eq_some_iff.mpr ⟨known, found, token⟩, Option.map_some,
        Option.some.injEq, forall_eq', RoomCommand.connectionId]
      exact consistent.exclusive_rebindPlayer_iff exclusive found
  | toggled requestId connectionId request seat player enabled bound found =>
      simp only [BindsOwnConnection, boundSeat?, reduceCtorEq, false_implies, implies_true,
        iff_true]
      exact exclusive.setPlayer found rfl rfl
  | disconnected connectionId userId seat player bound known found =>
      simp only [BindsOwnConnection, boundSeat?, reduceCtorEq, false_implies, implies_true,
        iff_true]
      have owner := consistent.owner_of_seat known found
      subst owner
      exact consistent.exclusive_disconnectPlayer exclusive bound found

theorem settle_disconnect_unmapped (room : RoomState) (connectionId : String) :
    (room.settle (.disconnect connectionId)).connectionToUser connectionId = none := by
  simp only [settle]
  cases mapped : room.connectionToUser connectionId with
  | none => exact mapped
  | some userId =>
      simp only []
      split
      · exact Function.update_self ..
      · split <;> exact Function.update_self ..

/-- In a consistent room the one inclusion that `Consistent` leaves open decides
the rest. -/
theorem Consistent.connectionsExact_iff {room : RoomState} (consistent : room.Consistent) :
    room.ConnectionsExact ↔ room.Exclusive := by
  refine ⟨fun exact _ _ _ => exact.mapped,
    fun exclusive => ⟨?_, fun found => exclusive _ _ _ found, ?_, ?_⟩⟩
  · intro seat player found
    obtain ⟨connected, sender⟩ := consistent.wired found
    rw [connected, sender]
    exact ⟨.rfl, .rfl⟩
  · intro first second holder other connectionId found foundOther holds holdsOther
    have mapped := exclusive _ _ _ found holds
    rw [exclusive _ _ _ foundOther holdsOther, Option.some.injEq] at mapped
    exact consistent.seat_unique found foundOther mapped.symm
  · intro connectionId around seat player found holds
    obtain ⟨eventSeq, books⟩ :=
      handleCommand_settle room (.disconnect connectionId) around
    have exclusiveNext : (room.settle (.disconnect connectionId)).Exclusive :=
      (consistent.exclusive_settle_iff exclusive _).mpr (fun _ bound => nomatch bound)
    change (room.handleCommand (.disconnect connectionId) around).1.playersBySeat seat =
      some player at found
    rw [books] at found
    have mapped := exclusiveNext _ _ _ found holds
    rw [settle_disconnect_unmapped] at mapped
    cases mapped

/-- The slots and the connection map agree in every state of a run exactly when
every accepted join or resume of the run binds its own connection. -/
theorem connectionsExact_iff_bindsOwn (roomId : String) (inputs : List RoomInput) :
    roomTask.Always ConnectionsExact (RoomState.new roomId) inputs ↔
      roomTask.Throughout (fun room input => room.BindsOwnConnection input.1)
        (RoomState.new roomId) inputs := by
  refine @Machine.always_iff_throughout _ _ _ roomTask Consistent _ _ ?_ ?_ _
    (Consistent.new roomId) ?_ inputs
  · intro room input consistent
    exact consistent.exec [input]
  · intro room input consistent exact
    obtain ⟨eventSeq, books⟩ := handleCommand_settle room input.1 input.2
    have next : ((roomTask.step room input).1).Consistent := consistent.exec [input]
    rw [next.connectionsExact_iff, ← consistent.exclusive_settle_iff
      (consistent.connectionsExact_iff.mp exact) input.1]
    change Exclusive (room.handleCommand input.1 input.2).1 ↔ _
    rw [books]
    exact .rfl
  · rw [(Consistent.new roomId).connectionsExact_iff]
    intro seat player connectionId found
    cases found

def twoUserRun : List RoomInput :=
  ["alice", "bob"].map fun userId =>
    (.join "request" ⟨"conn-1", ⟨"conn-1"⟩⟩ ⟨"room", userId, "", userId, "1.0"⟩,
      Surroundings.noop)

theorem twoUserRun_shares_connection :
    ¬ roomTask.Always ConnectionsExact (RoomState.new "room") twoUserRun := by
  intro always
  have shared := @always.last.unshared .east .south _ _ "conn-1" rfl rfl rfl rfl
  cases shared

end RoomState

end GbMahjong.Room
