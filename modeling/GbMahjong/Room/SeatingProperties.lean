import GbMahjong.Room.Broadcast
import GbMahjong.Room.Consistency

/-! Who sits where, over whole runs. -/

set_option autoImplicit false

namespace GbMahjong.Room

open GbMahjong.Library GbMahjong.Client

/-- The effects answer a join with a refusal that carries this code. -/
def RefusesJoin (rejectCode : RejectCode) (effects : List Effect) : Prop :=
  ∃ delivery ∈ deliveries effects, ∃ response,
    delivery.frame.payload = .joinRoom response ∧ response.accepted = false ∧
      response.rejectCode = ProtoEnum.asI32 rejectCode

namespace RoomState

theorem Consistent.settle_sameOwner {room : RoomState} (consistent : room.Consistent)
    (command : RoomCommand) {seat : Seat} {player : PlayerSlot}
    (found : room.playersBySeat seat = some player) :
    ∃ later, (room.settle command).playersBySeat seat = some later ∧
      player.SameOwner later := by
  have unchanged : ∃ later, room.playersBySeat seat = some later ∧
      player.SameOwner later := ⟨player, found, .refl player⟩
  have replaced : ∀ (target : Seat) (before after : PlayerSlot),
      room.playersBySeat target = some before → before.SameOwner after →
      ∃ later, Function.update room.playersBySeat target (some after) seat = some later ∧
        player.SameOwner later := by
    intro target before after occupied owner
    simp only [update_some_eq_some_iff]
    by_cases same : seat = target
    · subst same
      rw [found] at occupied
      cases occupied
      exact ⟨after, .inl ⟨rfl, rfl⟩, owner⟩
    · exact ⟨player, .inr ⟨same, found⟩, .refl player⟩
  obtain ⟨next, books, _, step⟩ := consistent.exists_settled command
  rw [books]
  cases step with
  | refused => exact unchanged
  | joined requestId connection request target unknown opened =>
      have different : seat ≠ target := by
        intro same
        subst same
        rw [nextOpenSeat_vacant opened] at found
        cases found
      exact ⟨player, by simp [RoomState.seatPlayer, different, found], .refl player⟩
  | readied requestId connectionId request target before bound occupied =>
      exact replaced target before _ occupied ⟨rfl, rfl, rfl, rfl, rfl⟩
  | resumed requestId connection request target before known occupied token =>
      exact replaced target before _ occupied (before.sameOwner_reboundTo connection)
  | toggled requestId connectionId request target before enabled bound occupied =>
      exact replaced target before _ occupied ⟨rfl, rfl, rfl, rfl, rfl⟩
  | disconnected connectionId userId target before bound known occupied =>
      exact replaced target before _ occupied before.sameOwner_released

theorem Consistent.exec_sameOwner {room : RoomState} (consistent : room.Consistent)
    (inputs : List RoomInput) {seat : Seat} {player : PlayerSlot}
    (found : room.playersBySeat seat = some player) :
    ∃ later, (roomTask.exec room inputs).playersBySeat seat = some later ∧
      player.SameOwner later := by
  have holds : (roomTask.exec room inputs).Consistent ∧
      ∃ later, (roomTask.exec room inputs).playersBySeat seat = some later ∧
        player.SameOwner later := by
    refine @exec_of_settle (fun state => state.Consistent ∧
      ∃ later, state.playersBySeat seat = some later ∧ player.SameOwner later)
      ?_ ?_ _ ⟨consistent, player, found, .refl player⟩ inputs
    · intro state eventSeq holds
      obtain ⟨kept, later⟩ := holds
      exact ⟨kept.withEventSeq eventSeq, later⟩
    · intro state command holds
      obtain ⟨kept, middle, occupied, owner⟩ := holds
      obtain ⟨later, occupiedLater, ownerLater⟩ := kept.settle_sameOwner command occupied
      exact ⟨kept.settle command, later, occupiedLater, owner.trans ownerLater⟩
  exact holds.2

theorem nextOpenSeat_eq_none_iff {room : RoomState} :
    room.nextOpenSeat = none ↔ ∀ seat ∈ seatOrder, (room.playersBySeat seat).isSome := by
  simp [nextOpenSeat, Option.isSome_iff_ne_none]

theorem Seating.playerCount_le {room : RoomState} (seating : room.Seating) :
    room.playerCount ≤ room.roomConfig.seatCount := by
  obtain ⟨count, bounded, filled⟩ := seating.filled
  rw [seating.seatCount, playerCount_of_filled bounded filled]
  exact bounded

theorem handleJoin_refused_iff (room : RoomState) (requestId : String)
    (connection : ConnectionHandle) (request : JoinRoomRequest) (around : Surroundings) :
    RefusesJoin .seatUnavailable (room.handleJoin requestId connection request around).2 ↔
      room.userToSeat request.userId = none ∧
        ∀ seat ∈ seatOrder, (room.playersBySeat seat).isSome := by
  rw [← nextOpenSeat_eq_none_iff]
  simp only [handleJoin]
  cases known : room.userToSeat request.userId with
  | some existingSeat =>
      simp [RefusesJoin, ConnectionHandle.sendFrame, buildJoinRoomResponse,
        ProtoEnum.asI32]
  | none =>
      cases opened : room.nextOpenSeat with
      | none => simp [RefusesJoin, ConnectionHandle.sendFrame, buildJoinRoomResponse]
      | some seat =>
          simp only [reduceCtorEq, and_false, iff_false]
          intro refuses
          obtain ⟨delivery, sent, response, payload, refused, _⟩ := refuses
          have seated : (room.seatPlayer seat connection request).playersBySeat seat =
              some (room.joinedPlayer seat connection request) := by
            simp [RoomState.seatPlayer]
          rw [List.cons_append, ConnectionHandle.sendFrame, deliveries_send,
            deliveries_append, deliveries_broadcastSyncState,
            deliveries_broadcastConnectionChanged (by exact seated)] at sent
          simp only [List.mem_cons, List.mem_append, mem_fanOut] at sent
          rcases sent with rfl | ⟨_, _, _, _, rfl⟩ | ⟨_, _, _, _, rfl⟩
          · cases payload
            cases refused
          · cases payload
          · cases payload

/-- In every reachable room the two seat maps are inverse to each other, the
occupied seats are a prefix of East, South, West, North, and a seat once taken
stays with its user, display name, score and token for the rest of the run. -/
theorem seating_of_run (roomId : String) (inputs : List RoomInput) :
    let room := roomTask.exec (RoomState.new roomId) inputs
    (∀ userId seat, room.userToSeat userId = some seat ↔
      ∃ player, room.playersBySeat seat = some player ∧ player.userId = userId) ∧
    (∀ seat player, room.playersBySeat seat = some player → player.seat = seat) ∧
    (∃ count ≤ 4, ∀ seat,
      (room.playersBySeat seat).isSome ↔ seat ∈ seatOrder.take count) ∧
    room.playerCount ≤ room.roomConfig.seatCount ∧
    (∀ requestId connection request around,
      RefusesJoin .seatUnavailable
          (room.handleCommand (.join requestId connection request) around).2 ↔
        room.userToSeat request.userId = none ∧
          ∀ seat ∈ seatOrder, (room.playersBySeat seat).isSome) ∧
    ∀ later seat player, room.playersBySeat seat = some player →
      ∃ same, (roomTask.exec room later).playersBySeat seat = some same ∧
        player.SameOwner same := by
  intro room
  have consistent : room.Consistent := (Consistent.new roomId).exec inputs
  refine ⟨fun userId seat => ⟨consistent.slot_of_user, ?_⟩,
    fun _ _ found => consistent.seat_of_slot found, consistent.filled,
    consistent.playerCount_le, handleJoin_refused_iff room, ?_⟩
  · intro seated
    obtain ⟨player, found, rfl⟩ := seated
    exact consistent.user_of_slot found
  · intro later seat player found
    exact consistent.exec_sameOwner later found

end RoomState

end GbMahjong.Room
