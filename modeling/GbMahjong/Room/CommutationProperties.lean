import GbMahjong.Library.Interleaving
import GbMahjong.Room.PhaseProperties

/-! Ready requests and auto-play toggles of different connections commute. Each
edits the slot of its own connection; the phase is a function of the slots, so the
last command computes it from all of them. -/

set_option autoImplicit false

namespace GbMahjong.Room

open GbMahjong.Library GbMahjong.Client

/-- The commands by which a player sets something in the own slot. -/
def RoomCommand.IsSetting : RoomCommand → Prop
  | .ready _ _ _ => True
  | .playerAction _ _ request =>
      ∃ toggle, request.action = some (.autoPlayToggle toggle)
  | .join _ _ _ | .resumeSession _ _ _ | .disconnect _ => False

namespace RoomState

/-- The change to the slot that a setting makes. A toggle that names another match
or round is rejected and leaves the slot alone. -/
def slotChange (room : RoomState) : RoomCommand → PlayerSlot → PlayerSlot
  | .ready _ _ request => fun player =>
      { player with status := if request.ready then .ready else .joined }
  | .playerAction _ connectionId request => fun player =>
      match room.toggleSeat? connectionId request with
      | none => player
      | some (_, enabled) => { player with autoPlayEnabled := enabled }
  | .join _ _ _ | .resumeSession _ _ _ | .disconnect _ => id

def modifySlot (room : RoomState) (seat : Seat) (change : PlayerSlot → PlayerSlot) :
    RoomState :=
  { room with playersBySeat :=
      Function.update room.playersBySeat seat ((room.playersBySeat seat).map change) }

/-- The state after a setting, whatever the surroundings. -/
def afterSetting (room : RoomState) (command : RoomCommand) : RoomState :=
  match room.seatForConnection command.connectionId with
  | none => room
  | some seat =>
      ((room.modifySlot seat (room.slotChange command)).updatePhase).advanceSeq 1

theorem modifySlot_comm (room : RoomState) {first second : Seat}
    (different : first ≠ second) (left right : PlayerSlot → PlayerSlot) :
    (room.modifySlot first left).modifySlot second right =
      (room.modifySlot second right).modifySlot first left := by
  simp only [modifySlot, Function.update_of_ne different,
    Function.update_of_ne different.symm]
  rw [Function.update_comm different]

theorem modifySlot_some {room : RoomState} {seat : Seat} {player : PlayerSlot}
    (found : room.playersBySeat seat = some player) (change : PlayerSlot → PlayerSlot) :
    room.modifySlot seat change = room.setPlayer seat (change player) := by
  simp only [modifySlot, setPlayer, found, Option.map_some]

/-- The phase is computed from the slots, so only its last computation counts. -/
theorem updatePhase_modifySlot (room : RoomState) (seat : Seat)
    (change : PlayerSlot → PlayerSlot) :
    ((room.updatePhase.advanceSeq 1).modifySlot seat change).updatePhase.advanceSeq 1 =
      (room.modifySlot seat change).updatePhase.advanceSeq 2 := rfl

theorem updatePhase_of_kept {room : RoomState} (kept : room.PhaseKept) :
    room.updatePhase = room := by
  unfold PhaseKept at kept
  simp only [updatePhase, ← kept]

theorem seatForConnection_afterSetting (room : RoomState) (command : RoomCommand)
    (connectionId : String) :
    (room.afterSetting command).seatForConnection connectionId =
      room.seatForConnection connectionId := by
  simp only [afterSetting]
  cases room.seatForConnection command.connectionId <;> rfl

theorem slotChange_afterSetting (room : RoomState) (command other : RoomCommand) :
    (room.afterSetting command).slotChange other = room.slotChange other := by
  simp only [afterSetting]
  cases room.seatForConnection command.connectionId with
  | none => rfl
  | some seat => cases other <;> rfl

/-! ## The handlers do what `afterSetting` says -/

theorem updatePhase_toggled {room : RoomState} (kept : room.PhaseKept) {seat : Seat}
    {player : PlayerSlot} (found : room.playersBySeat seat = some player)
    (enabled : Bool) :
    (room.setPlayer seat { player with autoPlayEnabled := enabled }).updatePhase =
      room.setPlayer seat { player with autoPlayEnabled := enabled } :=
  updatePhase_of_kept (kept.replace found rfl rfl rfl rfl)

theorem setPlayer_same {room : RoomState} {seat : Seat} {player : PlayerSlot}
    (found : room.playersBySeat seat = some player) : room.setPlayer seat player = room := by
  simp only [setPlayer, ← found, Function.update_eq_self]

theorem afterSetting_rejected {room : RoomState} (kept : room.PhaseKept)
    {requestId connectionId : String} {request : PlayerActionRequest} {seat : Seat}
    {player : PlayerSlot} (bound : room.seatForConnection connectionId = some seat)
    (found : room.playersBySeat seat = some player)
    (refused : room.toggleSeat? connectionId request = none) :
    room.afterSetting (.playerAction requestId connectionId request) =
      room.advanceSeq 1 := by
  have change : room.slotChange (.playerAction requestId connectionId request) player =
      player := by
    simp only [slotChange, refused]
  simp only [afterSetting, RoomCommand.connectionId, bound, modifySlot_some found, change,
    setPlayer_same found, updatePhase_of_kept kept]

theorem Consistent.handleCommand_setting {room : RoomState} (consistent : room.Consistent)
    (kept : room.PhaseKept) {command : RoomCommand} (setting : command.IsSetting)
    (around : Surroundings) :
    (room.handleCommand command around).1 = room.afterSetting command := by
  cases command with
  | join | resumeSession | disconnect => cases setting
  | ready requestId connectionId request =>
      simp only [handleCommand, handleReady, afterSetting, RoomCommand.connectionId]
      cases bound : room.seatForConnection connectionId with
      | none =>
          have unregistered := consistent.seatForConnection_eq_none bound
          simp only [sendRejectToConnection_unregistered unregistered]
      | some seat =>
          obtain ⟨player, found, _⟩ := consistent.seatForConnection_slot bound
          simp only [setReady, found, modifySlot_some found, slotChange,
            broadcastSyncState_fst, advanceSeq]
  | playerAction requestId connectionId request =>
      obtain ⟨toggle, action⟩ := setting
      simp only [handleCommand, handlePlayerAction]
      cases bound : room.seatForConnection connectionId with
      | none =>
          have unregistered := consistent.seatForConnection_eq_none bound
          simp only [sendRejectToConnection_unregistered unregistered, afterSetting,
            RoomCommand.connectionId, bound]
      | some seat =>
          obtain ⟨player, outboundTx, found, _, sender⟩ := consistent.bound_sender bound
          simp only [sendRejectToConnection_bound bound found sender]
          by_cases sameMatch : request.matchId = room.matchId
          · by_cases sameRound : request.roundId = room.roundId
            · have passed : room.toggleSeat? connectionId request =
                  some (seat, toggle.enabled) := by
                simp [toggleSeat?, bound, sameMatch, sameRound, action]
              simp only [sameMatch, sameRound, action, ne_eq, not_true_eq_false,
                ↓reduceIte, handleAutoPlayToggle, found, broadcastSyncState_fst]
              simp only [afterSetting, RoomCommand.connectionId, bound,
                modifySlot_some found, slotChange, passed,
                updatePhase_toggled kept found]
              rfl
            · have refused : room.toggleSeat? connectionId request = none := by
                simp [toggleSeat?, bound, sameMatch, sameRound]
              rw [afterSetting_rejected kept bound found refused]
              simp only [sameMatch, sameRound, ne_eq, not_true_eq_false,
                not_false_eq_true, ↓reduceIte]
          · have refused : room.toggleSeat? connectionId request = none := by
              simp [toggleSeat?, bound, sameMatch]
            rw [afterSetting_rejected kept bound found refused]
            simp only [sameMatch, ne_eq, not_false_eq_true, ↓reduceIte]

/-! ## Interleavings -/

theorem Consistent.seatForConnection_ne {room : RoomState} (consistent : room.Consistent)
    {first second : String} (different : first ≠ second) {left right : Seat}
    (leftBound : room.seatForConnection first = some left)
    (rightBound : room.seatForConnection second = some right) : left ≠ right := by
  intro same
  subst same
  obtain ⟨player, found, mapped⟩ := consistent.seatForConnection_slot leftBound
  have holds := consistent.bound_slot mapped found rfl
  have others := consistent.bound_slot
    (consistent.user_of_connection rightBound found) found rfl
  rw [holds] at others
  exact different (Option.some.inj others)

theorem Consistent.afterSetting_comm {room : RoomState} (consistent : room.Consistent)
    {first second : RoomCommand} (different : first.connectionId ≠ second.connectionId) :
    (room.afterSetting first).afterSetting second =
      (room.afterSetting second).afterSetting first := by
  have unfolded : ∀ earlier later : RoomCommand,
      (room.afterSetting earlier).afterSetting later =
        match room.seatForConnection later.connectionId with
        | none => room.afterSetting earlier
        | some seat => (((room.afterSetting earlier).modifySlot seat
            (room.slotChange later)).updatePhase).advanceSeq 1 := by
    intro earlier later
    rw [← slotChange_afterSetting room earlier later,
      ← seatForConnection_afterSetting room earlier later.connectionId]
    rfl
  rw [unfolded first second, unfolded second first]
  simp only [afterSetting]
  cases leftBound : room.seatForConnection first.connectionId with
  | none => cases room.seatForConnection second.connectionId <;> rfl
  | some left =>
      cases rightBound : room.seatForConnection second.connectionId with
      | none => rfl
      | some right =>
          have apart := consistent.seatForConnection_ne different leftBound rightBound
          calc _ = (((room.modifySlot left (room.slotChange first)).modifySlot right
                (room.slotChange second)).updatePhase).advanceSeq 2 :=
                updatePhase_modifySlot ..
            _ = (((room.modifySlot right (room.slotChange second)).modifySlot left
                (room.slotChange first)).updatePhase).advanceSeq 2 := by
                rw [modifySlot_comm room apart]
            _ = _ := (updatePhase_modifySlot ..).symm

/-- The books that settings keep. -/
def PhasedBooks (room : RoomState) : Prop := room.Consistent ∧ room.PhaseKept

theorem PhasedBooks.step {room : RoomState} (books : room.PhasedBooks)
    (command : RoomCommand) (around : Surroundings) :
    (room.handleCommand command around).1.PhasedBooks :=
  ⟨books.1.step (command, around), books.2.exec books.1 [(command, around)]⟩

theorem settings_independent :
    Independent RoomCommand.connectionId afterSetting PhasedBooks RoomCommand.IsSetting where
  kept := by
    intro room command setting books
    rw [← books.1.handleCommand_setting books.2 setting Surroundings.noop]
    exact books.step command Surroundings.noop
  commute := by
    intro room first second _ _ different books
    exact books.1.afterSetting_comm different

/-- A run of settings is the fold of what each does, whatever the surroundings. -/
theorem PhasedBooks.exec_settings {room : RoomState} (books : room.PhasedBooks)
    (inputs : List RoomInput) (settings : ∀ input ∈ inputs, input.1.IsSetting) :
    roomTask.exec room inputs = (inputs.map Prod.fst).foldl afterSetting room := by
  induction inputs generalizing room with
  | nil => rfl
  | cons input rest ih =>
      have now := books.1.handleCommand_setting books.2 (settings input (.head _)) input.2
      have later := ih (books.step input.1 input.2)
        (fun next member => settings next (.tail _ member))
      calc roomTask.exec room (input :: rest)
          = (rest.map Prod.fst).foldl afterSetting
              (room.handleCommand input.1 input.2).1 := later
        _ = (rest.map Prod.fst).foldl afterSetting (room.afterSetting input.1) := by
              rw [now]

/-- From every reachable room, all interleavings of sequences of ready requests
and auto-play toggles, one for each connection, end in one state. -/
theorem settings_commute (roomId : String) (earlier : List RoomInput)
    (family : String → List RoomCommand)
    (settings : ∀ connectionId, ∀ command ∈ family connectionId, command.IsSetting)
    (first second : List RoomInput)
    (left : Interleaves RoomCommand.connectionId family (first.map Prod.fst))
    (right : Interleaves RoomCommand.connectionId family (second.map Prod.fst)) :
    let room := roomTask.exec (RoomState.new roomId) earlier
    roomTask.exec room first = roomTask.exec room second := by
  intro room
  have reachable : room.Reachable := ⟨roomId, earlier, rfl⟩
  have books : room.PhasedBooks := ⟨reachable.consistent, reachable.phaseKept⟩
  have permitted : ∀ {inputs : List RoomInput},
      Interleaves RoomCommand.connectionId family (inputs.map Prod.fst) →
      ∀ input ∈ inputs, input.1.IsSetting := by
    intro inputs interleaves input member
    exact settings _ _ (interleaves.mem (List.mem_map_of_mem member))
  rw [books.exec_settings first (permitted left), books.exec_settings second (permitted right)]
  exact settings_independent.interleavings left right settings books

def twoPlayerFamily : String → List RoomCommand := fun connectionId =>
  if connectionId = "conn-1" then
    [.ready "a1" "conn-1" ⟨true⟩, .playerAction "a2" "conn-1"
      ⟨"room", "match-room", "hand-1", 0, 0, some (.autoPlayToggle ⟨true⟩)⟩]
  else if connectionId = "conn-2" then
    [.ready "b1" "conn-2" ⟨true⟩, .ready "b2" "conn-2" ⟨false⟩]
  else []

theorem settings_commute_twoPlayers :
    let room := roomTask.exec (RoomState.new "room") fourJoin
    let input : RoomCommand → RoomInput := fun command => (command, Surroundings.noop)
    roomTask.exec room
        ((twoPlayerFamily "conn-1" ++ twoPlayerFamily "conn-2").map input) =
      roomTask.exec room
        ((twoPlayerFamily "conn-2" ++ twoPlayerFamily "conn-1").map input) := by
  intro room input
  refine settings_commute "room" fourJoin twoPlayerFamily ?_ _ _ ?_ ?_
  · intro connectionId command member
    simp only [twoPlayerFamily] at member
    split at member
    · rcases List.mem_pair.mp member with rfl | rfl
      · exact trivial
      · exact ⟨⟨true⟩, rfl⟩
    · split at member
      · rcases List.mem_pair.mp member with rfl | rfl
        · exact trivial
        · exact trivial
      · cases member
  · intro owner
    by_cases alice : owner = "conn-1"
    · subst alice
      decide
    · by_cases bob : owner = "conn-2"
      · subst bob
        decide
      · simp [twoPlayerFamily, alice, bob, Ne.symm alice, Ne.symm bob,
          RoomCommand.connectionId, input]
  · intro owner
    by_cases alice : owner = "conn-1"
    · subst alice
      decide
    · by_cases bob : owner = "conn-2"
      · subst bob
        decide
      · simp [twoPlayerFamily, alice, bob, Ne.symm alice, Ne.symm bob,
          RoomCommand.connectionId, input]

end RoomState

end GbMahjong.Room
