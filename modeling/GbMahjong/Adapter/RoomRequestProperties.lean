import GbMahjong.Adapter.SettlementProperties
import GbMahjong.Adapter.ValidationProperties
import GbMahjong.Room.Consistency
import GbMahjong.Room.TranslationProperties

/-! The requests of a room before the adapter. The room fills every field the
adapter checks, but takes its own name from the first join as it is. -/

set_option autoImplicit false

namespace GbMahjong.Adapter

open GbMahjong.Library GbMahjong.Library.Checked GbMahjong.Mahjong GbMahjong.Engine
open GbMahjong.Room
open GbMahjong.Library.ProtoEnum (asI32)

/-! ## The names a room goes by -/

/-- A room is named after the first join, and its match after the room. -/
def NamedAfter (roomId : String) (room : RoomState) : Prop :=
  room.roomId = roomId ∧ room.matchId = s!"match-{roomId}"

theorem NamedAfter.settle {roomId : String} {room : RoomState}
    (named : NamedAfter roomId room) (consistent : room.Consistent)
    (command : RoomCommand) : NamedAfter roomId (room.settle command) := by
  obtain ⟨next, settled, _, step⟩ := consistent.exists_settled command
  rw [settled]
  cases step with
  | refused | joined | readied | resumed | toggled | disconnected => exact named

theorem namedAfter_exec (roomId : String) (inputs : List RoomInput) :
    NamedAfter roomId (roomTask.exec (RoomState.new roomId) inputs) := by
  have kept := @RoomState.exec_of_settle
    (fun room => room.Consistent ∧ NamedAfter roomId room)
    (fun _ eventSeq holds => ⟨holds.1.withEventSeq eventSeq, holds.2⟩)
    (fun _ command holds => ⟨holds.1.settle command, holds.2.settle holds.1 command⟩)
    (RoomState.new roomId) ⟨.new roomId, rfl, rfl⟩ inputs
  exact kept.2

/-! ## What the adapter makes of a request of the room -/

/-- A declared win, or a claim to win on a discard or on a robbed kong. -/
def IsWin : Client.Action → Prop
  | .declareWin _ => True
  | .claim claim =>
      claim.claimKind = asI32 Client.ClaimKind.discardWin ∨
        claim.claimKind = asI32 Client.ClaimKind.robKongWin
  | .discard _ | .pass _ | .supplementalKong _ | .autoPlayToggle _ => False

theorem isWinningAction_iff {action : Client.Action} {candidate : Candidate}
    (same : SameNumbers action candidate) :
    isWinningAction ⟨some candidate⟩ = true ↔ IsWin action := by
  cases action with
  | discard discard =>
      cases candidate with
      | discard candidate => simp [isWinningAction, IsWin]
      | claim | declareWin | pass | kong | replaceFlower => exact same.elim
  | claim claim =>
      cases candidate with
      | claim candidate =>
          obtain ⟨kind, _⟩ := same
          refine (isWinningClaimKind_iff candidate.claimKind).trans ?_
          rw [kind]
          rfl
      | discard | declareWin | pass | kong | replaceFlower => exact same.elim
  | declareWin declareWin =>
      cases candidate with
      | declareWin candidate => simp [isWinningAction, IsWin]
      | discard | claim | pass | kong | replaceFlower => exact same.elim
  | pass pass =>
      cases candidate with
      | pass candidate => simp [isWinningAction, IsWin]
      | discard | claim | declareWin | kong | replaceFlower => exact same.elim
  | supplementalKong kong =>
      cases candidate with
      | kong candidate => simp [isWinningAction, IsWin]
      | discard | claim | declareWin | pass | replaceFlower => exact same.elim
  | autoPlayToggle toggle => cases candidate <;> exact same.elim

section Checks

variable {library : FanLibrary} {request : ValidateActionRequest}

/-- The outcome of a candidate that is no win. -/
def passedOn (candidateAction : CandidateAction) : ValidateOutcome :=
  validateOtherAction candidateAction { ValidateOutcome.new with
    legal := true
    derivedActionType := deduceActionKind candidateAction }

theorem validateAction_of_other {candidateAction : CandidateAction}
    (checked : checkRequest request = .ok candidateAction)
    (other : ¬ isWinningAction candidateAction = true) :
    validateAction library request = .ok (passedOn candidateAction) := by
  unfold validateAction tryBlock
  rw [checked]
  simp only [if_neg other]
  rfl

theorem validateAction_of_unchecked {what : String}
    (unchecked : checkRequest request = .error (.invalidArgument what)) :
    validateAction library request = .ok { ValidateOutcome.new with
      rejectCode := asI32 ValidationRejectCode.invalidContext
      explanation := what } := by
  unfold validateAction tryBlock
  rw [unchecked]
  rfl

end Checks

/-! ## When they are judged legal -/

/-- Of the fields that every candidate has to bring, the room leaves its own name
to the players. -/
theorem checkRequest_engineRequest {roomId : String} {room : RoomState}
    (named : NamedAfter roomId room) {seat : Client.Seat}
    (placed : seat ≠ .unspecified) (candidate : Candidate)
    (recent : RecentActionContext) (claimWindow : Option ClaimWindowContext) :
    checkRequest (room.engineRequest seat candidate recent claimWindow) =
      if roomId = "" then
        invalidArgument "room_id, match_id, and round_id must all be present"
      else
        .ok ⟨some candidate⟩ := by
  obtain ⟨roomName, matchName⟩ := named
  have seated : asI32 (mapSeatToEngine seat) ≠ asI32 Seat.unspecified := by
    rw [asI32_mapSeatToEngine]
    cases seat with
    | unspecified => exact absurd rfl placed
    | east | south | west | north => decide
  have matched : toString "match-" ≠ "" := by decide
  unfold checkRequest
  simp [RoomState.engineRequest, roomName, matchName, RoomState.roundId, isBlank, seated,
    matched]

/-- In every reachable room with a name, the actions of a seated player that translate
and are no wins pass the adapter; a room without a name gets none past it. -/
theorem roomRequest_legal_iff_named (library : FanLibrary) (roomId : String)
    (inputs : List RoomInput) {seat : Client.Seat} {player : PlayerSlot}
    (seated : (roomTask.exec (RoomState.new roomId) inputs).playersBySeat seat =
      some player)
    {request : Client.PlayerActionRequest} {action : Client.Action}
    (requested : request.action = some action) (noWin : ¬ IsWin action)
    {translated : ValidateActionRequest}
    (built : (roomTask.exec (RoomState.new roomId) inputs).buildValidateActionRequest seat
      request = .ok translated) :
    (∃ outcome, validateAction library translated = .ok outcome ∧
        outcome.legal = true ∧
        outcome.rejectCode ≠ asI32 ValidationRejectCode.invalidContext) ↔
      roomId ≠ "" := by
  have consistent := (RoomState.Consistent.new roomId).exec inputs
  have placed : seat ≠ .unspecified := by
    have member := consistent.mem_seatOrder seated
    rintro rfl
    revert member
    decide
  have noToggle : ∀ toggle, action ≠ .autoPlayToggle toggle := by
    rintro toggle rfl
    unfold RoomState.buildValidateActionRequest at built
    rw [requested] at built
    cases built
  obtain ⟨candidate, recent, claimWindow, same, _, _, _, parsed⟩ :=
    RoomState.buildValidateActionRequest_eq _ seat requested noToggle
  rw [built] at parsed
  obtain ⟨_, rfl⟩ := afterParsing_eq_ok_iff.mp parsed.symm
  have checks := checkRequest_engineRequest (namedAfter_exec roomId inputs) placed candidate
    recent claimWindow
  have other := mt (isWinningAction_iff same).mp noWin
  by_cases unnamed : roomId = ""
  · rw [if_pos unnamed] at checks
    refine iff_of_false (fun passes => ?_) (not_not_intro unnamed)
    obtain ⟨outcome, validated, legal, _⟩ := passes
    rw [validateAction_of_unchecked checks] at validated
    cases validated
    cases legal
  · rw [if_neg unnamed] at checks
    refine iff_of_true ?_ unnamed
    obtain ⟨legal, unmarked, _⟩ := @validateOtherAction_frame ⟨some candidate⟩
      { ValidateOutcome.new with
        legal := true
        derivedActionType := deduceActionKind ⟨some candidate⟩ }
    refine ⟨_, validateAction_of_other checks other, legal, fun marked => ?_⟩
    cases unmarked.symm.trans marked

/-! ## Two rooms -/

/-- The first player joins a room of this name. -/
def firstJoin (roomId : String) : RoomInput :=
  (.join "join" ⟨"conn-1", ⟨"conn-1"⟩⟩ ⟨roomId, "alice", "", "Alice", "1.0"⟩,
    Surroundings.noop)

def firstDiscard (roomId : String) : Client.PlayerActionRequest where
  roomId := roomId
  matchId := s!"match-{roomId}"
  roundId := "hand-1"
  expectedEventSeq := 3
  actionWindowId := 0
  action := some (.discard ⟨asI32 Client.Tile.character1, false⟩)

theorem roomRequest_legal_iff_named_room :
    ∃ translated,
      (roomTask.exec (RoomState.new "room") [firstJoin "room"]).buildValidateActionRequest
        .east (firstDiscard "room") = .ok translated ∧
      ∃ outcome, validateAction thirteenOrphansLibrary translated = .ok outcome ∧
        outcome.legal = true ∧
        outcome.rejectCode ≠ asI32 ValidationRejectCode.invalidContext :=
  ⟨_, rfl, (@roomRequest_legal_iff_named thirteenOrphansLibrary "room" [firstJoin "room"]
    .east _ rfl (firstDiscard "room") _ rfl id _ rfl).mpr (by decide)⟩

/-- A join that names no room opens one, and no discard in it is judged. -/
theorem unnamedRoom_refused :
    ∃ player translated outcome,
      (roomTask.exec (RoomState.new "") [firstJoin ""]).playersBySeat .east = some player ∧
      (roomTask.exec (RoomState.new "") [firstJoin ""]).buildValidateActionRequest .east
        (firstDiscard "") = .ok translated ∧
      validateAction thirteenOrphansLibrary translated = .ok outcome ∧
      outcome.legal = false ∧
      outcome.rejectCode = asI32 ValidationRejectCode.invalidContext :=
  ⟨_, _, _, rfl, rfl, validateAction_of_unchecked rfl, rfl, rfl⟩

end GbMahjong.Adapter
