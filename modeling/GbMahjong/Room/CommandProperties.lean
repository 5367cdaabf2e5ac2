import GbMahjong.Library.PartialMap
import GbMahjong.Room.Commands

/-! What a command does to the room's books, apart from the event numbers it
uses up. `settle` says it in one equation per command; `Settled` is the
inversion of `settle` in a consistent room, the invariant of every reachable
state. -/

set_option autoImplicit false

namespace GbMahjong.Room

open GbMahjong.Library GbMahjong.Client

namespace RoomState

/-! ## Accepted commands -/

/-- The seat a join of this user gets, when it is accepted. -/
def joinSeat? (room : RoomState) (userId : String) : Option Seat :=
  match room.userToSeat userId with
  | some _ => none
  | none => room.nextOpenSeat

/-- The slot a resume gets, when it is accepted. -/
def resumeSlot? (room : RoomState) (request : ResumeSessionRequest) :
    Option (Seat × PlayerSlot) :=
  match room.userToSeat request.userId with
  | none => none
  | some seat =>
      match room.playersBySeat seat with
      | none => none
      | some player =>
          if player.resumeToken ≠ request.resumeToken then none else some (seat, player)

/-- The seat and the new setting of an auto-play toggle that passes the gates. -/
def toggleSeat? (room : RoomState) (connectionId : String) (request : PlayerActionRequest) :
    Option (Seat × Bool) :=
  match room.seatForConnection connectionId with
  | none => none
  | some seat =>
      if request.matchId ≠ room.matchId then none
      else if request.roundId ≠ room.roundId then none
      else match request.action with
        | some (.autoPlayToggle toggle) => some (seat, toggle.enabled)
        | _ => none

/-- The seat to which an accepted Join or Resume binds its connection. -/
def boundSeat? (room : RoomState) : RoomCommand → Option Seat
  | .join _ _ request => room.joinSeat? request.userId
  | .resumeSession _ _ request => (room.resumeSlot? request).map (·.1)
  | .ready _ _ _ | .playerAction _ _ _ | .disconnect _ => none

def settle (room : RoomState) : RoomCommand → RoomState
  | .join _ connection request =>
      match room.joinSeat? request.userId with
      | none => room
      | some seat => room.seatPlayer seat connection request
  | .ready _ connectionId request =>
      match room.seatForConnection connectionId with
      | none => room
      | some seat => (room.setReady seat request.ready).updatePhase
  | .resumeSession _ connection request =>
      match room.resumeSlot? request with
      | none => room
      | some (seat, player) => room.rebindPlayer seat player connection
  | .playerAction _ connectionId request =>
      match room.toggleSeat? connectionId request with
      | none => room
      | some (seat, enabled) =>
          match room.playersBySeat seat with
          | none => room
          | some player => room.setPlayer seat { player with autoPlayEnabled := enabled }
  | .disconnect connectionId =>
      match room.connectionToUser connectionId with
      | none => room
      | some userId =>
          match room.userToSeat userId with
          | none => room.forgetConnection connectionId
          | some seat =>
              match room.playersBySeat seat with
              | none => room.forgetConnection connectionId
              | some player => (room.forgetConnection connectionId).disconnectPlayer seat player

/-! ## The handlers keep the books of `settle` -/

@[simp] theorem broadcastSyncState_fst (room : RoomState) (reason : SyncReason)
    (around : Surroundings) :
    (room.broadcastSyncState reason around).1 =
      { room with nextEventSeq := room.nextEventSeq + 1 } := rfl

theorem broadcastConnectionChanged_fst {room : RoomState} {seat : Seat}
    {player : PlayerSlot} (found : room.playersBySeat seat = some player)
    (connected : Bool) (around : Surroundings) :
    (room.broadcastConnectionChanged seat connected around).1 =
      { room with nextEventSeq := room.nextEventSeq + 1 } := by
  simp only [broadcastConnectionChanged, found, allocateEventSeq]

theorem sendRejectToConnection_fst (room : RoomState) (connectionId requestId : String)
    (rejectCode : RejectCode) (message : String) (expectedEventSeq actionWindowId : Nat) :
    ∃ eventSeq, (room.sendRejectToConnection connectionId requestId rejectCode message
      expectedEventSeq actionWindowId).1 = { room with nextEventSeq := eventSeq } := by
  unfold sendRejectToConnection
  repeat' split
  all_goals exact ⟨_, rfl⟩

private theorem handleJoin_settle (room : RoomState) (requestId : String)
    (connection : ConnectionHandle) (request : JoinRoomRequest) (around : Surroundings) :
    ∃ eventSeq, (room.handleJoin requestId connection request around).1 =
      { room.settle (.join requestId connection request) with nextEventSeq := eventSeq } := by
  simp only [handleJoin, settle, joinSeat?]
  cases known : room.userToSeat request.userId with
  | some existingSeat => exact ⟨_, rfl⟩
  | none =>
      cases opened : room.nextOpenSeat with
      | none => exact ⟨_, rfl⟩
      | some seat =>
          have seated : (room.seatPlayer seat connection request).playersBySeat seat =
              some (room.joinedPlayer seat connection request) := by
            simp [seatPlayer]
          exact ⟨_, broadcastConnectionChanged_fst (by exact seated) true around⟩

private theorem handleReady_settle (room : RoomState) (requestId connectionId : String)
    (request : ReadyRequest) (around : Surroundings) :
    ∃ eventSeq, (room.handleReady requestId connectionId request around).1 =
      { room.settle (.ready requestId connectionId request) with
        nextEventSeq := eventSeq } := by
  simp only [handleReady, settle]
  cases found : room.seatForConnection connectionId with
  | none => exact sendRejectToConnection_fst ..
  | some seat => exact ⟨_, rfl⟩

private theorem handleResume_settle (room : RoomState) (requestId : String)
    (connection : ConnectionHandle) (request : ResumeSessionRequest)
    (around : Surroundings) :
    ∃ eventSeq, (room.handleResume requestId connection request around).1 =
      { room.settle (.resumeSession requestId connection request) with
        nextEventSeq := eventSeq } := by
  simp only [handleResume, settle, resumeSlot?]
  cases known : room.userToSeat request.userId with
  | none => exact ⟨_, rfl⟩
  | some seat =>
      cases found : room.playersBySeat seat with
      | none => exact ⟨_, by simp only [found]; rfl⟩
      | some player =>
          by_cases token : player.resumeToken = request.resumeToken
          · have rebound : (room.rebindPlayer seat player connection).playersBySeat seat =
                some (player.reboundTo connection) := by
              simp [rebindPlayer]
            simp only [found, token, ne_eq, not_true_eq_false, ↓reduceIte]
            exact ⟨_, broadcastConnectionChanged_fst (by exact rebound) true around⟩
          · exact ⟨_, by simp only [found, token, ne_eq, not_false_eq_true, ↓reduceIte]; rfl⟩

private theorem handlePlayerAction_settle (room : RoomState)
    (requestId connectionId : String) (request : PlayerActionRequest)
    (around : Surroundings) :
    ∃ eventSeq, (room.handlePlayerAction requestId connectionId request around).1 =
      { room.settle (.playerAction requestId connectionId request) with
        nextEventSeq := eventSeq } := by
  simp only [handlePlayerAction, settle, toggleSeat?]
  cases found : room.seatForConnection connectionId with
  | none => exact sendRejectToConnection_fst ..
  | some seat =>
      by_cases sameMatch : request.matchId = room.matchId
      · by_cases sameRound : request.roundId = room.roundId
        · simp only [sameMatch, sameRound, ne_eq, not_true_eq_false, ↓reduceIte]
          cases request.action with
          | none => exact sendRejectToConnection_fst ..
          | some action =>
              cases action with
              | autoPlayToggle toggle =>
                  simp only [handleAutoPlayToggle]
                  cases room.playersBySeat seat with
                  | none => exact ⟨_, rfl⟩
                  | some player => exact ⟨_, rfl⟩
              | discard | claim | declareWin | pass | supplementalKong =>
                  cases room.buildValidateActionRequest seat request with
                  | error error => exact sendRejectToConnection_fst ..
                  | ok validateRequest =>
                      cases answer : around.validateAction validateRequest with
                      | error error =>
                          simp only [answer]
                          exact sendRejectToConnection_fst ..
                      | ok response =>
                          simp only [answer]
                          split <;> exact sendRejectToConnection_fst ..
        · simp only [sameMatch, sameRound, ne_eq, not_true_eq_false, not_false_eq_true,
            ↓reduceIte]
          exact sendRejectToConnection_fst ..
      · simp only [sameMatch, ne_eq, not_false_eq_true, ↓reduceIte]
        exact sendRejectToConnection_fst ..

private theorem handleDisconnect_settle (room : RoomState) (connectionId : String)
    (around : Surroundings) :
    ∃ eventSeq, (room.handleDisconnect connectionId around).1 =
      { room.settle (.disconnect connectionId) with nextEventSeq := eventSeq } := by
  simp only [handleDisconnect, settle]
  cases known : room.connectionToUser connectionId with
  | none => exact ⟨_, rfl⟩
  | some userId =>
      cases seated : room.userToSeat userId with
      | none => exact ⟨_, by simp only [forgetConnection, seated]; rfl⟩
      | some seat =>
          cases found : room.playersBySeat seat with
          | none => exact ⟨_, by simp only [forgetConnection, seated, found]; rfl⟩
          | some player =>
              have cleared : ((room.forgetConnection connectionId).disconnectPlayer seat
                  player).playersBySeat seat = some player.released := by
                simp [disconnectPlayer, setPlayer]
              simp only [forgetConnection, seated, found]
              exact ⟨_, broadcastConnectionChanged_fst (by exact cleared) false around⟩

theorem handleCommand_settle (room : RoomState) (command : RoomCommand)
    (around : Surroundings) :
    ∃ eventSeq, (room.handleCommand command around).1 =
      { room.settle command with nextEventSeq := eventSeq } := by
  cases command with
  | join requestId connection request => exact handleJoin_settle ..
  | ready requestId connectionId request => exact handleReady_settle ..
  | resumeSession requestId connection request => exact handleResume_settle ..
  | playerAction requestId connectionId request => exact handlePlayerAction_settle ..
  | disconnect connectionId => exact handleDisconnect_settle ..

theorem settle_withEventSeq (room : RoomState) (eventSeq : Nat) (command : RoomCommand) :
    settle { room with nextEventSeq := eventSeq } command =
      { room.settle command with nextEventSeq := eventSeq } := by
  cases command with
  | join requestId connection request =>
      change (match room.joinSeat? request.userId with | none => _ | some seat => _) = _
      simp only [settle]
      cases room.joinSeat? request.userId <;> rfl
  | ready requestId connectionId request =>
      change (match room.seatForConnection connectionId with | none => _ | some seat => _) = _
      simp only [settle]
      cases room.seatForConnection connectionId with
      | none => rfl
      | some seat =>
          simp only [setReady]
          cases room.playersBySeat seat <;> rfl
  | resumeSession requestId connection request =>
      change (match room.resumeSlot? request with | none => _ | some (seat, player) => _) = _
      simp only [settle]
      cases room.resumeSlot? request <;> rfl
  | playerAction requestId connectionId request =>
      change (match room.toggleSeat? connectionId request with
        | none => _ | some (seat, enabled) => _) = _
      simp only [settle]
      cases room.toggleSeat? connectionId request with
      | none => rfl
      | some target =>
          simp only []
          cases room.playersBySeat target.1 <;> rfl
  | disconnect connectionId =>
      simp only [settle]
      cases room.connectionToUser connectionId with
      | none => rfl
      | some userId =>
          simp only []
          cases room.userToSeat userId with
          | none => rfl
          | some seat =>
              simp only []
              cases room.playersBySeat seat <;> rfl

/-- The books after a run, without its event numbers. -/
def settleAll (room : RoomState) (inputs : List RoomInput) : RoomState :=
  inputs.foldl (fun books input => books.settle input.1) room

theorem settleAll_withEventSeq (room : RoomState) (eventSeq : Nat)
    (inputs : List RoomInput) :
    settleAll { room with nextEventSeq := eventSeq } inputs =
      { room.settleAll inputs with nextEventSeq := eventSeq } := by
  induction inputs generalizing room with
  | nil => rfl
  | cons input rest ih =>
      simp only [settleAll, List.foldl_cons, settle_withEventSeq] at ih ⊢
      exact ih (room.settle input.1)

theorem exec_settleAll (room : RoomState) (inputs : List RoomInput) :
    ∃ eventSeq, roomTask.exec room inputs =
      { room.settleAll inputs with nextEventSeq := eventSeq } := by
  induction inputs generalizing room with
  | nil => exact ⟨_, rfl⟩
  | cons input rest ih =>
      obtain ⟨eventSeq, books⟩ := handleCommand_settle room input.1 input.2
      obtain ⟨last, later⟩ := ih (room.handleCommand input.1 input.2).1
      refine ⟨last, later.trans ?_⟩
      rw [books, settleAll_withEventSeq]
      rfl

/-- Facts about the books that every allowed command keeps hold after every run
of allowed commands. -/
theorem exec_of_settle_guarded {property : RoomState → Prop} {guard : RoomCommand → Prop}
    (seqFree : ∀ room eventSeq, property room →
      property { room with nextEventSeq := eventSeq })
    (kept : ∀ room command, guard command → property room → property (room.settle command))
    {room : RoomState} (start : property room) (inputs : List RoomInput)
    (guarded : ∀ input ∈ inputs, guard input.1) :
    property (roomTask.exec room inputs) := by
  refine roomTask.exec_invariant ?_ start inputs guarded
  intro state input allowed holds
  obtain ⟨eventSeq, books⟩ := handleCommand_settle state input.1 input.2
  change property (state.handleCommand input.1 input.2).1
  rw [books]
  exact seqFree _ _ (kept state input.1 allowed holds)

theorem exec_of_settle {property : RoomState → Prop}
    (seqFree : ∀ room eventSeq, property room →
      property { room with nextEventSeq := eventSeq })
    (kept : ∀ room command, property room → property (room.settle command))
    {room : RoomState} (start : property room) (inputs : List RoomInput) :
    property (roomTask.exec room inputs) :=
  @exec_of_settle_guarded _ (fun _ => True) seqFree
    (fun room command _ holds => kept room command holds) room start inputs
    (fun _ _ => trivial)

end RoomState

end GbMahjong.Room
