import GbMahjong.Room.CommandProperties

/-! The invariant of every reachable room: the seat and user maps describe one
set of players, and the connection map only names connections that sit in the
slot of their user. -/

set_option autoImplicit false

namespace GbMahjong.Room

open GbMahjong.Library GbMahjong.Client

/-- The fields of a slot that belong to the player and never change. -/
structure PlayerSlot.SameOwner (before after : PlayerSlot) : Prop where
  userId : after.userId = before.userId
  displayName : after.displayName = before.displayName
  seat : after.seat = before.seat
  score : after.score = before.score
  resumeToken : after.resumeToken = before.resumeToken

theorem PlayerSlot.SameOwner.refl (player : PlayerSlot) : player.SameOwner player :=
  ⟨rfl, rfl, rfl, rfl, rfl⟩

theorem PlayerSlot.SameOwner.trans {first second third : PlayerSlot}
    (before : first.SameOwner second) (after : second.SameOwner third) :
    first.SameOwner third :=
  ⟨after.userId.trans before.userId, after.displayName.trans before.displayName,
    after.seat.trans before.seat, after.score.trans before.score,
    after.resumeToken.trans before.resumeToken⟩

theorem PlayerSlot.sameOwner_reboundTo (player : PlayerSlot)
    (connection : ConnectionHandle) : player.SameOwner (player.reboundTo connection) :=
  ⟨rfl, rfl, rfl, rfl, rfl⟩

theorem PlayerSlot.sameOwner_released (player : PlayerSlot) :
    player.SameOwner player.released :=
  ⟨rfl, rfl, rfl, rfl, rfl⟩

namespace RoomState

/-- The two seat maps agree and the seats fill up in order. -/
structure Seating (room : RoomState) : Prop where
  seat_of_slot : ∀ {seat player}, room.playersBySeat seat = some player →
    player.seat = seat
  user_of_slot : ∀ {seat player}, room.playersBySeat seat = some player →
    room.userToSeat player.userId = some seat
  slot_of_user : ∀ {userId seat}, room.userToSeat userId = some seat →
    ∃ player, room.playersBySeat seat = some player ∧ player.userId = userId
  filled : ∃ count ≤ 4, ∀ seat,
    (room.playersBySeat seat).isSome ↔ seat ∈ seatOrder.take count
  seatCount : room.roomConfig.seatCount = 4

/-- What holds in every reachable room. `bound` reads from the connection to
the slot only: a slot may still name a connection that has moved on. -/
structure Consistent (room : RoomState) : Prop extends Seating room where
  wired : ∀ {seat player}, room.playersBySeat seat = some player →
    player.connected = player.connectionId.isSome ∧
      player.outboundTx.isSome = player.connectionId.isSome
  bound : ∀ {connectionId userId}, room.connectionToUser connectionId = some userId →
    ∃ seat player, room.playersBySeat seat = some player ∧ player.userId = userId ∧
      player.connectionId = some connectionId

theorem Seating.mem_seatOrder {room : RoomState} (seating : room.Seating) {seat : Seat}
    {player : PlayerSlot} (found : room.playersBySeat seat = some player) :
    seat ∈ seatOrder := by
  obtain ⟨count, _, filled⟩ := seating.filled
  exact List.mem_of_mem_take ((filled seat).mp (by rw [found]; rfl))

theorem playerCount_of_filled {room : RoomState} {count : Nat} (bounded : count ≤ 4)
    (filled : ∀ seat, (room.playersBySeat seat).isSome ↔ seat ∈ seatOrder.take count) :
    room.playerCount = count := by
  have same : (ProtoEnum.values : List Seat).filter
      (fun seat => (room.playersBySeat seat).isSome) =
      (ProtoEnum.values : List Seat).filter
        (fun seat => decide (seat ∈ seatOrder.take count)) := by
    apply List.filter_congr
    intro seat _
    rw [Bool.eq_iff_iff, filled seat, decide_eq_true_iff]
  rw [playerCount, same]
  revert bounded
  match count with
  | 0 | 1 | 2 | 3 | 4 => intro; decide
  | count + 5 => intro bounded; omega

/-! ## One step, inverted -/

/-- What a command does to the books of a consistent room. -/
inductive Settled (room : RoomState) : RoomCommand → RoomState → Prop where
  | refused (command : RoomCommand) (unbound : room.boundSeat? command = none) :
      Settled room command room
  | joined (requestId : String) (connection : ConnectionHandle)
      (request : JoinRoomRequest) (seat : Seat)
      (unknown : room.userToSeat request.userId = none)
      (opened : room.nextOpenSeat = some seat) :
      Settled room (.join requestId connection request)
        (room.seatPlayer seat connection request)
  | readied (requestId connectionId : String) (request : ReadyRequest) (seat : Seat)
      (player : PlayerSlot) (bound : room.seatForConnection connectionId = some seat)
      (found : room.playersBySeat seat = some player) :
      Settled room (.ready requestId connectionId request)
        (room.setPlayer seat
          { player with status := if request.ready then .ready else .joined }).updatePhase
  | resumed (requestId : String) (connection : ConnectionHandle)
      (request : ResumeSessionRequest) (seat : Seat) (player : PlayerSlot)
      (known : room.userToSeat request.userId = some seat)
      (found : room.playersBySeat seat = some player)
      (token : player.resumeToken = request.resumeToken) :
      Settled room (.resumeSession requestId connection request)
        (room.rebindPlayer seat player connection)
  | toggled (requestId connectionId : String) (request : PlayerActionRequest)
      (seat : Seat) (player : PlayerSlot) (enabled : Bool)
      (bound : room.seatForConnection connectionId = some seat)
      (found : room.playersBySeat seat = some player) :
      Settled room (.playerAction requestId connectionId request)
        (room.setPlayer seat { player with autoPlayEnabled := enabled })
  | disconnected (connectionId userId : String) (seat : Seat) (player : PlayerSlot)
      (bound : room.connectionToUser connectionId = some userId)
      (known : room.userToSeat userId = some seat)
      (found : room.playersBySeat seat = some player) :
      Settled room (.disconnect connectionId)
        ((room.forgetConnection connectionId).disconnectPlayer seat player)

theorem resumeSlot?_eq_some_iff {room : RoomState} {request : ResumeSessionRequest}
    {seat : Seat} {player : PlayerSlot} :
    room.resumeSlot? request = some (seat, player) ↔
      room.userToSeat request.userId = some seat ∧
        room.playersBySeat seat = some player ∧
        player.resumeToken = request.resumeToken := by
  unfold resumeSlot?
  cases known : room.userToSeat request.userId with
  | none => simp
  | some home =>
      cases found : room.playersBySeat home with
      | none =>
          simp only [found, reduceCtorEq, Option.some.injEq, false_iff, not_and]
          rintro rfl occupied
          rw [found] at occupied
          cases occupied
      | some existing =>
          by_cases token : existing.resumeToken = request.resumeToken
          · simp only [found, token, ne_eq, not_true_eq_false, ↓reduceIte,
              Option.some.injEq, Prod.mk.injEq]
            constructor
            · intro same
              obtain ⟨rfl, rfl⟩ := same
              exact ⟨rfl, found, token⟩
            · intro accepted
              obtain ⟨rfl, occupied, _⟩ := accepted
              rw [found] at occupied
              exact ⟨rfl, Option.some.inj occupied⟩
          · simp only [found, token, ne_eq, not_false_eq_true, ↓reduceIte, reduceCtorEq,
              Option.some.injEq, false_iff, not_and]
            rintro rfl occupied same
            rw [found] at occupied
            cases occupied
            exact token same

theorem joinSeat?_eq_some_iff {room : RoomState} {userId : String} {seat : Seat} :
    room.joinSeat? userId = some seat ↔
      room.userToSeat userId = none ∧ room.nextOpenSeat = some seat := by
  unfold joinSeat?
  cases room.userToSeat userId <;> simp

theorem toggleSeat?_bound {room : RoomState} {connectionId : String}
    {request : PlayerActionRequest} {seat : Seat} {enabled : Bool}
    (passed : room.toggleSeat? connectionId request = some (seat, enabled)) :
    room.seatForConnection connectionId = some seat := by
  unfold toggleSeat? at passed
  cases found : room.seatForConnection connectionId with
  | none => simp [found] at passed
  | some known =>
      simp only [found] at passed
      split at passed
      · cases passed
      · split at passed
        · cases passed
        · split at passed
          · simp only [Option.some.injEq, Prod.mk.injEq] at passed
            rw [passed.1]
          · cases passed

theorem Seating.seatForConnection_slot {room : RoomState} (seating : room.Seating)
    {connectionId : String} {seat : Seat}
    (bound : room.seatForConnection connectionId = some seat) :
    ∃ player, room.playersBySeat seat = some player ∧
      room.connectionToUser connectionId = some player.userId := by
  unfold seatForConnection at bound
  cases known : room.connectionToUser connectionId with
  | none => simp [known] at bound
  | some userId =>
      simp only [known] at bound
      obtain ⟨player, found, owner⟩ := seating.slot_of_user bound
      exact ⟨player, found, by rw [owner]⟩

theorem Seating.user_of_connection {room : RoomState} (seating : room.Seating)
    {connectionId : String} {seat : Seat} {player : PlayerSlot}
    (bound : room.seatForConnection connectionId = some seat)
    (found : room.playersBySeat seat = some player) :
    room.connectionToUser connectionId = some player.userId := by
  obtain ⟨holder, occupied, mapped⟩ := seating.seatForConnection_slot bound
  rw [found] at occupied
  cases occupied
  exact mapped

theorem Seating.owner_of_seat {room : RoomState} (seating : room.Seating)
    {userId : String} {seat : Seat} {player : PlayerSlot}
    (known : room.userToSeat userId = some seat)
    (found : room.playersBySeat seat = some player) : player.userId = userId := by
  obtain ⟨holder, occupied, named⟩ := seating.slot_of_user known
  rw [found] at occupied
  cases occupied
  exact named

/-- `settle`, inverted. -/
theorem Consistent.settled {room : RoomState} (consistent : room.Consistent)
    (command : RoomCommand) : room.Settled command (room.settle command) := by
  cases command with
  | join requestId connection request =>
      simp only [settle]
      cases seated : room.joinSeat? request.userId with
      | none => exact .refused _ seated
      | some seat =>
          obtain ⟨unknown, opened⟩ := joinSeat?_eq_some_iff.mp seated
          exact .joined requestId connection request seat unknown opened
  | ready requestId connectionId request =>
      simp only [settle]
      cases bound : room.seatForConnection connectionId with
      | none => exact .refused _ rfl
      | some seat =>
          obtain ⟨player, found, _⟩ := consistent.seatForConnection_slot bound
          simpa only [setReady, found] using
            Settled.readied requestId connectionId request seat player bound found
  | resumeSession requestId connection request =>
      simp only [settle]
      cases accepted : room.resumeSlot? request with
      | none => exact .refused _ (by simp [boundSeat?, accepted])
      | some slot =>
          obtain ⟨seat, player⟩ := slot
          obtain ⟨known, found, token⟩ := resumeSlot?_eq_some_iff.mp accepted
          exact .resumed requestId connection request seat player known found token
  | playerAction requestId connectionId request =>
      simp only [settle]
      cases passed : room.toggleSeat? connectionId request with
      | none => exact .refused _ rfl
      | some target =>
          obtain ⟨seat, enabled⟩ := target
          have bound := toggleSeat?_bound passed
          obtain ⟨player, found, _⟩ := consistent.seatForConnection_slot bound
          simp only [found]
          exact .toggled requestId connectionId request seat player enabled bound found
  | disconnect connectionId =>
      simp only [settle]
      cases bound : room.connectionToUser connectionId with
      | none => exact .refused _ rfl
      | some userId =>
          obtain ⟨seat, player, found, owner, _⟩ := consistent.bound bound
          have known : room.userToSeat userId = some seat :=
            owner ▸ consistent.user_of_slot found
          simp only [known, found]
          exact .disconnected connectionId userId seat player bound known found

/-! ## Preservation -/

theorem nextOpenSeat_of_filled {room : RoomState} {count : Nat} (bounded : count ≤ 4)
    (filled : ∀ seat, (room.playersBySeat seat).isSome ↔ seat ∈ seatOrder.take count) :
    room.nextOpenSeat = seatOrder[count]? := by
  have open_iff : ∀ seat, (room.playersBySeat seat).isNone =
      !decide (seat ∈ seatOrder.take count) := by
    intro seat
    have present := filled seat
    cases occupied : room.playersBySeat seat with
    | none => simpa [occupied] using present
    | some player => simpa [occupied] using present
  unfold nextOpenSeat
  simp only [open_iff]
  revert bounded
  match count with
  | 0 | 1 | 2 | 3 | 4 => intro; decide
  | count + 5 => intro bounded; omega

theorem nextOpenSeat_vacant {room : RoomState} {seat : Seat}
    (opened : room.nextOpenSeat = some seat) : room.playersBySeat seat = none := by
  simpa using List.find?_some opened

theorem Seating.replace {room next : RoomState} {seat : Seat} {before after : PlayerSlot}
    (seating : room.Seating) (found : room.playersBySeat seat = some before)
    (owner : before.SameOwner after)
    (slots : next.playersBySeat = Function.update room.playersBySeat seat (some after))
    (users : next.userToSeat = room.userToSeat)
    (config : next.roomConfig = room.roomConfig) : next.Seating := by
  constructor
  · intro other player occupied
    rw [slots, update_some_eq_some_iff] at occupied
    rcases occupied with ⟨rfl, rfl⟩ | ⟨_, occupied⟩
    · rw [owner.seat]
      exact seating.seat_of_slot found
    · exact seating.seat_of_slot occupied
  · intro other player occupied
    rw [slots, update_some_eq_some_iff] at occupied
    rw [users]
    rcases occupied with ⟨rfl, rfl⟩ | ⟨_, occupied⟩
    · rw [owner.userId]
      exact seating.user_of_slot found
    · exact seating.user_of_slot occupied
  · intro userId other known
    rw [users] at known
    obtain ⟨player, occupied, named⟩ := seating.slot_of_user known
    simp only [slots, update_some_eq_some_iff]
    by_cases same : other = seat
    · subst same
      rw [found] at occupied
      cases occupied
      exact ⟨after, .inl ⟨rfl, rfl⟩, owner.userId.trans named⟩
    · exact ⟨player, .inr ⟨same, occupied⟩, named⟩
  · obtain ⟨count, bounded, filled⟩ := seating.filled
    refine ⟨count, bounded, fun other => ?_⟩
    rw [slots, update_some_isSome_of_some found, filled]
  · rw [config]
    exact seating.seatCount

theorem Seating.seatPlayer {room : RoomState} (seating : room.Seating) {seat : Seat}
    {connection : ConnectionHandle} {request : JoinRoomRequest}
    (unknown : room.userToSeat request.userId = none)
    (opened : room.nextOpenSeat = some seat) :
    (room.seatPlayer seat connection request).Seating := by
  constructor
  · intro other player occupied
    simp only [RoomState.seatPlayer, update_some_eq_some_iff] at occupied
    rcases occupied with ⟨rfl, rfl⟩ | ⟨_, occupied⟩
    · rfl
    · exact seating.seat_of_slot occupied
  · intro other player occupied
    simp only [RoomState.seatPlayer, update_some_eq_some_iff] at occupied ⊢
    rcases occupied with ⟨rfl, rfl⟩ | ⟨_, occupied⟩
    · exact .inl ⟨rfl, rfl⟩
    · have known := seating.user_of_slot occupied
      refine .inr ⟨fun same => ?_, known⟩
      rw [same, unknown] at known
      cases known
  · intro userId other known
    simp only [RoomState.seatPlayer, update_some_eq_some_iff] at known ⊢
    rcases known with ⟨rfl, rfl⟩ | ⟨_, known⟩
    · exact ⟨_, .inl ⟨rfl, rfl⟩, rfl⟩
    · obtain ⟨player, occupied, named⟩ := seating.slot_of_user known
      refine ⟨player, .inr ⟨fun same => ?_, occupied⟩, named⟩
      rw [same, nextOpenSeat_vacant opened] at occupied
      cases occupied
  · obtain ⟨count, bounded, filled⟩ := seating.filled
    have position : seatOrder[count]? = some seat :=
      (nextOpenSeat_of_filled bounded filled).symm.trans opened
    have below : count < 4 := (List.getElem?_eq_some_iff.mp position).1
    refine ⟨count + 1, below, fun other => ?_⟩
    simp only [RoomState.seatPlayer, update_some_isSome, filled, List.take_add_one, position,
      Option.toList_some, List.mem_append, List.mem_singleton]
    exact or_comm
  · exact seating.seatCount

theorem Consistent.updatePhase {room : RoomState} (consistent : room.Consistent) :
    room.updatePhase.Consistent :=
  { consistent with }

theorem Consistent.setPlayer {room : RoomState} (consistent : room.Consistent)
    {seat : Seat} {before after : PlayerSlot}
    (found : room.playersBySeat seat = some before) (owner : before.SameOwner after)
    (connected : after.connected = before.connected)
    (connectionId : after.connectionId = before.connectionId)
    (outboundTx : after.outboundTx = before.outboundTx) :
    (room.setPlayer seat after).Consistent := by
  refine ⟨consistent.toSeating.replace found owner rfl rfl rfl, ?_, ?_⟩
  · intro other player occupied
    simp only [RoomState.setPlayer, update_some_eq_some_iff] at occupied
    rcases occupied with ⟨rfl, rfl⟩ | ⟨_, occupied⟩
    · rw [connected, connectionId, outboundTx]
      exact consistent.wired found
    · exact consistent.wired occupied
  · intro connection userId mapped
    obtain ⟨other, player, occupied, named, holds⟩ := consistent.bound mapped
    simp only [RoomState.setPlayer, update_some_eq_some_iff]
    by_cases same : other = seat
    · subst same
      rw [found] at occupied
      cases occupied
      exact ⟨other, after, .inl ⟨rfl, rfl⟩, owner.userId.trans named,
        connectionId.trans holds⟩
    · exact ⟨other, player, .inr ⟨same, occupied⟩, named, holds⟩

theorem Consistent.seatPlayer {room : RoomState} (consistent : room.Consistent)
    {seat : Seat} {connection : ConnectionHandle} {request : JoinRoomRequest}
    (unknown : room.userToSeat request.userId = none)
    (opened : room.nextOpenSeat = some seat) :
    (room.seatPlayer seat connection request).Consistent := by
  refine ⟨consistent.toSeating.seatPlayer unknown opened, ?_, ?_⟩
  · intro other player occupied
    simp only [RoomState.seatPlayer, update_some_eq_some_iff] at occupied
    rcases occupied with ⟨rfl, rfl⟩ | ⟨_, occupied⟩
    · exact ⟨rfl, rfl⟩
    · exact consistent.wired occupied
  · intro connectionId userId mapped
    simp only [RoomState.seatPlayer, update_some_eq_some_iff] at mapped ⊢
    rcases mapped with ⟨rfl, rfl⟩ | ⟨_, mapped⟩
    · exact ⟨seat, _, .inl ⟨rfl, rfl⟩, rfl, rfl⟩
    · obtain ⟨other, player, occupied, named, holds⟩ := consistent.bound mapped
      refine ⟨other, player, .inr ⟨fun same => ?_, occupied⟩, named, holds⟩
      rw [same, nextOpenSeat_vacant opened] at occupied
      cases occupied

theorem Consistent.bound_slot {room : RoomState} (consistent : room.Consistent)
    {connectionId userId : String} {seat : Seat} {player : PlayerSlot}
    (mapped : room.connectionToUser connectionId = some userId)
    (found : room.playersBySeat seat = some player) (named : player.userId = userId) :
    player.connectionId = some connectionId := by
  obtain ⟨other, holder, occupied, holderNamed, holds⟩ := consistent.bound mapped
  have home := consistent.user_of_slot occupied
  rw [holderNamed, ← named, consistent.user_of_slot found] at home
  cases home
  rw [found] at occupied
  cases occupied
  exact holds

theorem Consistent.rebindPlayer {room : RoomState} (consistent : room.Consistent)
    {seat : Seat} {player : PlayerSlot} {connection : ConnectionHandle}
    (found : room.playersBySeat seat = some player) :
    (room.rebindPlayer seat player connection).Consistent := by
  refine ⟨consistent.toSeating.replace found (player.sameOwner_reboundTo connection)
    rfl rfl rfl, ?_, ?_⟩
  · intro other holder occupied
    simp only [RoomState.rebindPlayer, update_some_eq_some_iff] at occupied
    rcases occupied with ⟨rfl, rfl⟩ | ⟨_, occupied⟩
    · exact ⟨rfl, rfl⟩
    · exact consistent.wired occupied
  · intro connectionId userId mapped
    simp only [RoomState.rebindPlayer, update_some_eq_some_iff] at mapped ⊢
    rcases mapped with ⟨rfl, rfl⟩ | ⟨_, mapped⟩
    · exact ⟨seat, _, .inl ⟨rfl, rfl⟩, rfl, rfl⟩
    · -- A surviving mapping is not the one that was released, so its slot is another.
      have earlier : player.connectionId ≠ some connectionId ∧
          room.connectionToUser connectionId = some userId := by
        cases old : player.connectionId with
        | none => exact ⟨by simp, by simpa [old] using mapped⟩
        | some oldConnectionId =>
            simp only [old, update_none_eq_some_iff] at mapped
            exact ⟨fun same => mapped.1 (Option.some.inj same).symm, mapped.2⟩
      obtain ⟨other, holder, occupied, named, holds⟩ := consistent.bound earlier.2
      refine ⟨other, holder, .inr ⟨fun same => ?_, occupied⟩, named, holds⟩
      rw [same, found] at occupied
      cases occupied
      exact earlier.1 holds

theorem Consistent.disconnectPlayer {room : RoomState} (consistent : room.Consistent)
    {connectionId : String} {seat : Seat} {player : PlayerSlot}
    (mapped : room.connectionToUser connectionId = some player.userId)
    (found : room.playersBySeat seat = some player) :
    ((room.forgetConnection connectionId).disconnectPlayer seat player).Consistent := by
  refine ⟨consistent.toSeating.replace found player.sameOwner_released rfl rfl rfl, ?_, ?_⟩
  · intro other holder occupied
    simp only [RoomState.disconnectPlayer, RoomState.setPlayer, forgetConnection,
      update_some_eq_some_iff] at occupied
    rcases occupied with ⟨rfl, rfl⟩ | ⟨_, occupied⟩
    · exact ⟨rfl, rfl⟩
    · exact consistent.wired occupied
  · intro other userId otherMapped
    simp only [RoomState.disconnectPlayer, RoomState.setPlayer, forgetConnection,
      update_none_eq_some_iff, update_some_eq_some_iff] at otherMapped ⊢
    obtain ⟨different, otherMapped⟩ := otherMapped
    obtain ⟨otherSeat, holder, occupied, named, holds⟩ := consistent.bound otherMapped
    refine ⟨otherSeat, holder, .inr ⟨fun same => ?_, occupied⟩, named, holds⟩
    rw [same, found] at occupied
    cases occupied
    have current := consistent.bound_slot mapped found rfl
    rw [holds] at current
    exact different (Option.some.inj current)

theorem Consistent.settle {room : RoomState} (consistent : room.Consistent)
    (command : RoomCommand) : (room.settle command).Consistent := by
  have step := consistent.settled command
  revert step
  generalize room.settle command = next
  intro step
  cases step with
  | refused => exact consistent
  | joined requestId connection request seat unknown opened =>
      exact consistent.seatPlayer unknown opened
  | readied requestId connectionId request seat player bound found =>
      refine Consistent.updatePhase ?_
      exact consistent.setPlayer found ⟨rfl, rfl, rfl, rfl, rfl⟩ rfl rfl rfl
  | resumed requestId connection request seat player known found token =>
      exact consistent.rebindPlayer found
  | toggled requestId connectionId request seat player enabled bound found =>
      exact consistent.setPlayer found ⟨rfl, rfl, rfl, rfl, rfl⟩ rfl rfl rfl
  | disconnected connectionId userId seat player bound known found =>
      have named := consistent.owner_of_seat known found
      exact consistent.disconnectPlayer (named ▸ bound) found

/-- A command leaves a consistent room in one of the ways of `Settled`. -/
theorem Consistent.exists_settled {room : RoomState} (consistent : room.Consistent)
    (command : RoomCommand) :
    ∃ next, room.settle command = next ∧ next.Consistent ∧ room.Settled command next :=
  ⟨_, rfl, consistent.settle command, consistent.settled command⟩

theorem Consistent.new (roomId : String) : (RoomState.new roomId).Consistent where
  seat_of_slot found := by cases found
  user_of_slot found := by cases found
  slot_of_user known := by cases known
  filled := ⟨0, by omega, fun _ => by simp [RoomState.new]⟩
  seatCount := rfl
  wired found := by cases found
  bound mapped := by cases mapped

theorem Consistent.withEventSeq {room : RoomState} (consistent : room.Consistent)
    (eventSeq : Nat) : { room with nextEventSeq := eventSeq }.Consistent :=
  { consistent with }

theorem Consistent.exec {room : RoomState} (consistent : room.Consistent)
    (inputs : List RoomInput) : (roomTask.exec room inputs).Consistent :=
  exec_of_settle (fun _ eventSeq holds => holds.withEventSeq eventSeq)
    (fun _ command holds => holds.settle command) consistent inputs

theorem Consistent.step {room : RoomState} (consistent : room.Consistent)
    (input : RoomInput) : (roomTask.step room input).1.Consistent :=
  consistent.exec [input]

theorem Reachable.consistent {room : RoomState} (reachable : room.Reachable) :
    room.Consistent := by
  obtain ⟨roomId, inputs, rfl⟩ := reachable
  exact (Consistent.new roomId).exec inputs

theorem Reachable.exec {room : RoomState} (reachable : room.Reachable)
    (inputs : List RoomInput) : (roomTask.exec room inputs).Reachable := by
  obtain ⟨roomId, earlier, rfl⟩ := reachable
  exact ⟨roomId, earlier ++ inputs, (roomTask.exec_append _ _ _).symm⟩

end RoomState

end GbMahjong.Room
