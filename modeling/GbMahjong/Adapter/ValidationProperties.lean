import GbMahjong.Adapter.RangeProperties

/-! The outcomes of a validation: for every request that converts without an overflow,
and whatever the library answers, the fields of the outcome agree with each other and
with the candidate. -/

set_option autoImplicit false

namespace GbMahjong.Adapter

open GbMahjong.Library GbMahjong.Library.Checked GbMahjong.Mahjong GbMahjong.Engine
open GbMahjong.Library.ProtoEnum (asI32)

/-! ## Parts that are always defined -/

theorem extractWinType_defined (candidateAction : CandidateAction) :
    Defined (extractWinType candidateAction) := by
  unfold extractWinType
  repeat' split
  · exact defined_ok _
  · exact defined_ok _
  · exact defined_ok _
  · exact defined_invalidArgument _
  · exact defined_invalidArgument _

theorem extractWinningTile_defined (candidateAction : CandidateAction) :
    Defined (extractWinningTile candidateAction) := by
  unfold extractWinningTile
  split
  · exact defined_ok _
  · exact defined_ok _
  · exact defined_invalidArgument _

theorem buildWinningContext_defined (candidateAction : CandidateAction) (fan : Fan) :
    Defined (buildWinningContext candidateAction fan) := by
  apply (extractWinType_defined candidateAction).bind
  intro winType _
  exact (extractWinningTile_defined candidateAction).bind fun winningTile _ => defined_ok _

theorem buildWinningContext_eq_ok {candidateAction : CandidateAction} {fan : Fan}
    {winningContext : WinningContext}
    (evaluated : buildWinningContext candidateAction fan = .ok winningContext) :
    extractWinType candidateAction = .ok winningContext.winType ∧
      extractWinningTile candidateAction = .ok winningContext.winningTile ∧
      winningContext.tentativeTotalFan = fan.totFanRes := by
  simp only [buildWinningContext, bind_eq_ok_iff] at evaluated
  obtain ⟨winType, typed, winningTile, named, same⟩ := evaluated
  cases same
  exact ⟨typed, named, rfl⟩

theorem checkRequest_defined (request : ValidateActionRequest) :
    Defined (checkRequest request) := by
  unfold checkRequest
  repeat' split
  · exact defined_invalidArgument _
  · exact defined_invalidArgument _
  · exact defined_invalidArgument _
  · exact defined_ok _
  · exact defined_invalidArgument _

/-- What `checkRequest` asks for. -/
def PassesChecks (request : ValidateActionRequest) : Prop :=
  request.roomId ≠ "" ∧ request.matchId ≠ "" ∧ request.roundId ≠ "" ∧
    request.ruleConfig.isSome ∧ request.roundContext.isSome ∧
    request.actorSeat ≠ asI32 Seat.unspecified ∧
    ∃ candidate, request.candidateAction = some ⟨some candidate⟩

theorem exists_checkRequest_iff {request : ValidateActionRequest} :
    (∃ candidateAction, checkRequest request = .ok candidateAction) ↔ PassesChecks request := by
  have blank (value : String) : isBlank value = true ↔ value = "" := String.isEmpty_iff
  unfold checkRequest PassesChecks
  constructor
  · intro checked
    obtain ⟨candidateAction, checked⟩ := checked
    split at checked
    · cases checked
    · rename_i named
      simp only [Bool.or_eq_true, blank, not_or] at named
      obtain ⟨⟨room, game⟩, round⟩ := named
      split at checked
      · rename_i candidate ruled placed requested
        split at checked
        · cases checked
        · rename_i seated
          split at checked
          · cases checked
          · rename_i action set
            refine ⟨room, game, round, by simp [ruled], by simp [placed], seated, action, ?_⟩
            rw [requested, ← set]
      · cases checked
  · intro passes
    obtain ⟨room, game, round, ruled, placed, seated, action, requested⟩ := passes
    obtain ⟨rules, ruled⟩ := Option.isSome_iff_exists.mp ruled
    obtain ⟨context, placed⟩ := Option.isSome_iff_exists.mp placed
    refine ⟨⟨some action⟩, ?_⟩
    rw [if_neg (by simp [blank, room, game, round]), ruled, placed, requested]
    exact if_neg seated

/-! ## What the try block goes through -/

section TryBlock

variable {library : FanLibrary} {request : ValidateActionRequest}
  {candidateAction : CandidateAction} {started outcome : ValidateOutcome} {thrown : Thrown}

theorem checkRequest_eq_ok (checked : checkRequest request = .ok candidateAction) :
    request.candidateAction = some candidateAction ∧ request.ruleConfig.isSome ∧
      request.roundContext.isSome ∧ request.actorSeat ≠ asI32 Seat.unspecified := by
  unfold checkRequest at checked
  split at checked
  · cases checked
  · split at checked
    · rename_i candidate ruled placed requested
      split at checked
      · cases checked
      · rename_i seated
        split at checked
        · cases checked
        · cases checked
          exact ⟨requested, by simp [ruled], by simp [placed], seated⟩
    · cases checked

theorem validateWinningAction_eq_ok
    (validated : validateWinningAction library request candidateAction started =
      .ok outcome) :
    ∃ handtiles, buildWinningHandtilesForValidation request = .ok handtiles ∧
      outcome.legal = library.judgeHu handtiles ∧
      outcome.derivedActionType = asI32 ActionKind.declareWin ∧
      outcome.meldResult = started.meldResult ∧
      (outcome.legal = true → outcome.rejectCode = started.rejectCode ∧
        ∃ winningContext, outcome.winningContext = some winningContext ∧
          buildWinningContext candidateAction (library.countFan handtiles) =
            .ok winningContext) ∧
      (outcome.legal = false →
        outcome.rejectCode = asI32 ValidationRejectCode.handNotComplete ∧
          outcome.winningContext = started.winningContext) := by
  unfold validateWinningAction at validated
  split at validated
  · cases validated
  · rename_i handtiles built
    refine ⟨handtiles, built, ?_⟩
    cases judged : library.judgeHu handtiles with
    | true =>
        simp only [judged, if_true] at validated
        split at validated
        · cases validated
        · rename_i winningContext evaluated
          cases validated
          exact ⟨rfl, rfl, rfl, fun _ => ⟨rfl, winningContext, rfl, evaluated⟩, nofun⟩
    | false =>
        simp only [judged, Bool.false_eq_true, if_false] at validated
        cases validated
        exact ⟨rfl, rfl, rfl, nofun, fun _ => ⟨rfl, rfl⟩⟩

/-- The winning branch writes its context last, after everything that fails. -/
theorem validateWinningAction_eq_error
    (failed : validateWinningAction library request candidateAction started =
      .error thrown) :
    (thrown.failure = .undefinedBehavior →
        ¬ Defined (buildWinningHandtilesForValidation request)) ∧
      thrown.outcome.meldResult = started.meldResult ∧
      thrown.outcome.winningContext = started.winningContext := by
  unfold validateWinningAction at failed
  split at failed
  · rename_i failure refused
    cases failed
    refine ⟨fun undefined defined => defined ?_, rfl, rfl⟩
    rw [refused]
    exact congrArg Except.error undefined
  · rename_i handtiles _
    cases judged : library.judgeHu handtiles with
    | true =>
        simp only [judged, if_true] at failed
        split at failed
        · rename_i failure refused
          cases failed
          obtain ⟨what, thrown⟩ := (buildWinningContext_defined _ _).thrown refused
          rw [thrown]
          exact ⟨nofun, rfl, rfl⟩
        · cases failed
    | false =>
        simp only [judged, Bool.false_eq_true, if_false] at failed
        cases failed

theorem tryBlock_eq_ok (tried : tryBlock library request = .ok outcome) :
    ∃ candidateAction started, checkRequest request = .ok candidateAction ∧
      started = { ValidateOutcome.new with
        legal := true
        derivedActionType := deduceActionKind candidateAction } ∧
      (isWinningAction candidateAction = true ∧
          validateWinningAction library request candidateAction started = .ok outcome ∨
        ¬ isWinningAction candidateAction = true ∧
          outcome = validateOtherAction candidateAction started) := by
  unfold tryBlock at tried
  split at tried
  · cases tried
  · rename_i candidateAction checked
    refine ⟨candidateAction, _, checked, rfl, ?_⟩
    split at tried
    · rename_i winning
      exact .inl ⟨winning, tried⟩
    · rename_i other
      cases tried
      exact .inr ⟨other, rfl⟩

theorem tryBlock_eq_error (failed : tryBlock library request = .error thrown) :
    (thrown.failure = .undefinedBehavior → ∃ candidateAction,
        checkRequest request = .ok candidateAction ∧ isWinningAction candidateAction = true ∧
          ¬ Defined (buildWinningHandtilesForValidation request)) ∧
      thrown.outcome.meldResult = none ∧ thrown.outcome.winningContext = none := by
  unfold tryBlock at failed
  split at failed
  · rename_i failure refused
    cases failed
    obtain ⟨what, thrown⟩ := (checkRequest_defined request).thrown refused
    rw [thrown]
    exact ⟨nofun, rfl, rfl⟩
  · rename_i candidateAction checked
    split at failed
    · rename_i winning
      obtain ⟨undefined, same⟩ := validateWinningAction_eq_error failed
      exact ⟨fun reached => ⟨candidateAction, checked, winning, undefined reached⟩, same⟩
    · cases failed

/-- An undefined conversion is not caught. -/
theorem tryBlock_of_undefined (checked : checkRequest request = .ok candidateAction)
    (winning : isWinningAction candidateAction = true)
    (undefined : ¬ Defined (buildWinningHandtilesForValidation request)) :
    ∃ outcome, tryBlock library request = .error ⟨.undefinedBehavior, outcome⟩ := by
  have built := not_not.mp undefined
  unfold tryBlock validateWinningAction
  simp only [checked, winning, if_true, built]
  exact ⟨_, rfl⟩

end TryBlock

/-! ## Consistent outcomes -/

/-- A declared win, or a claim to win on a discard or on a robbed kong. -/
def RequestsWin (request : ValidateActionRequest) : Prop :=
  (∃ declareWin,
    request.candidateAction = some ⟨some (.declareWin declareWin)⟩) ∨
  ∃ claim, request.candidateAction = some ⟨some (.claim claim)⟩ ∧
    (claim.claimKind = asI32 ClaimKind.discardWin ∨
      claim.claimKind = asI32 ClaimKind.robKongWin)

/-- Any other claim. -/
def RequestsMeld (request : ValidateActionRequest) : Prop :=
  ∃ claim, request.candidateAction = some ⟨some (.claim claim)⟩ ∧
    ¬ (claim.claimKind = asI32 ClaimKind.discardWin ∨
      claim.claimKind = asI32 ClaimKind.robKongWin)

/-- The fields of an outcome agree with each other and with the candidate. -/
structure ConsistentOutcome (request : ValidateActionRequest)
    (outcome : ValidateOutcome) : Prop where
  verdict : outcome.legal = true ↔
    outcome.rejectCode = asI32 ValidationRejectCode.unspecified
  refused : outcome.legal = false →
    outcome.meldResult = none ∧ outcome.winningContext = none
  won : outcome.legal = true →
    (outcome.winningContext.isSome = true ↔ RequestsWin request)
  declared : outcome.legal = true → RequestsWin request →
    outcome.derivedActionType = asI32 ActionKind.declareWin
  melded : outcome.legal = true →
    (outcome.meldResult.isSome = true ↔ RequestsMeld request)

section Consistent

variable {library : FanLibrary} {request : ValidateActionRequest}
  {candidateAction : CandidateAction} {outcome : ValidateOutcome} {thrown : Thrown}

theorem isWinningClaimKind_iff (claimKind : Int) :
    isWinningClaimKind claimKind = true ↔
      claimKind = asI32 ClaimKind.discardWin ∨
        claimKind = asI32 ClaimKind.robKongWin := by
  simp [isWinningClaimKind]

theorem requestsWin_iff (requested : request.candidateAction = some candidateAction) :
    RequestsWin request ↔ isWinningAction candidateAction = true := by
  obtain ⟨action⟩ := candidateAction
  unfold RequestsWin
  cases action with
  | none => simp [requested, isWinningAction]
  | some candidate =>
      cases candidate <;>
        simp [requested, isWinningAction, isWinningClaimKind_iff]

theorem not_requestsMeld_of_win (win : RequestsWin request) : ¬ RequestsMeld request := by
  intro meld
  obtain ⟨claim, claimed, other⟩ := meld
  cases win with
  | inl declared =>
      obtain ⟨declareWin, requested⟩ := declared
      rw [claimed] at requested
      cases requested
  | inr winning =>
      obtain ⟨_, requested, kind⟩ := winning
      rw [claimed] at requested
      cases requested
      exact other kind

theorem validateOtherAction_meldResult (started : ValidateOutcome)
    (requested : request.candidateAction = some candidateAction)
    (noMeld : started.meldResult = none) :
    (validateOtherAction candidateAction started).meldResult.isSome = true ↔
      RequestsMeld request := by
  obtain ⟨action⟩ := candidateAction
  unfold validateOtherAction RequestsMeld
  cases action with
  | none => simp [requested, noMeld]
  | some candidate =>
      cases candidate with
      | claim claim =>
          simp only [requested, ← isWinningClaimKind_iff]
          cases winning : isWinningClaimKind claim.claimKind <;> simp [noMeld, winning]
      | _ => simp [requested, noMeld]

theorem validateOtherAction_frame (started : ValidateOutcome) :
    (validateOtherAction candidateAction started).legal = started.legal ∧
      (validateOtherAction candidateAction started).rejectCode = started.rejectCode ∧
      (validateOtherAction candidateAction started).winningContext =
        started.winningContext := by
  unfold validateOtherAction
  dsimp only
  split
  · split
    · exact ⟨rfl, rfl, rfl⟩
    · exact ⟨rfl, rfl, rfl⟩
  · exact ⟨rfl, rfl, rfl⟩

theorem consistent_of_win (requested : request.candidateAction = some candidateAction)
    (winning : isWinningAction candidateAction = true) {started : ValidateOutcome}
    (unmarked : started.rejectCode = asI32 ValidationRejectCode.unspecified)
    (noMeld : started.meldResult = none) (noContext : started.winningContext = none)
    (validated : validateWinningAction library request candidateAction started =
      .ok outcome) : ConsistentOutcome request outcome := by
  have win := (requestsWin_iff requested).mpr winning
  obtain ⟨handtiles, _, judged, declared, meld, accepted, refused⟩ :=
    validateWinningAction_eq_ok validated
  rw [noMeld] at meld
  cases legal : outcome.legal with
  | true =>
      obtain ⟨code, winningContext, context, _⟩ := accepted legal
      rw [unmarked] at code
      refine ⟨?_, ?_, ?_, ?_, ?_⟩
      · simp [legal, code]
      · simp [legal]
      · simp [context, win]
      · simp [declared]
      · simp [meld, not_requestsMeld_of_win win]
  | false =>
      obtain ⟨code, context⟩ := refused legal
      rw [noContext] at context
      refine ⟨?_, ?_, ?_, ?_, ?_⟩
      · rw [legal, code]
        decide
      · simp [meld, context]
      · simp [legal]
      · simp [legal]
      · simp [legal]

theorem consistent_of_other (requested : request.candidateAction = some candidateAction)
    (other : ¬ isWinningAction candidateAction = true) {started : ValidateOutcome}
    (legal : started.legal = true)
    (unmarked : started.rejectCode = asI32 ValidationRejectCode.unspecified)
    (noMeld : started.meldResult = none) (noContext : started.winningContext = none) :
    ConsistentOutcome request (validateOtherAction candidateAction started) := by
  have noWin := mt (requestsWin_iff requested).mp other
  obtain ⟨sameLegal, sameCode, sameContext⟩ :=
    @validateOtherAction_frame candidateAction started
  rw [legal] at sameLegal
  rw [unmarked] at sameCode
  rw [noContext] at sameContext
  refine ⟨?_, ?_, ?_, ?_, ?_⟩
  · simp [sameLegal, sameCode]
  · simp [sameLegal]
  · simp [sameContext, noWin]
  · exact fun _ win => absurd win noWin
  · exact fun _ => validateOtherAction_meldResult started requested noMeld

theorem consistent_of_caught (noMeld : outcome.meldResult = none)
    (noContext : outcome.winningContext = none) (what : String) :
    ConsistentOutcome request { outcome with
      legal := false
      rejectCode := asI32 ValidationRejectCode.invalidContext
      explanation := what } where
  verdict := by
    constructor
    · nofun
    · intro code
      cases code
  refused := fun _ => ⟨noMeld, noContext⟩
  won := nofun
  declared := nofun
  melded := nofun

/-- A legal outcome was not repaired by the handler. -/
theorem tryBlock_of_legal (validated : validateAction library request = .ok outcome)
    (legal : outcome.legal = true) : tryBlock library request = .ok outcome := by
  unfold validateAction at validated
  split at validated
  · rename_i tried
    cases validated
    exact tried
  · cases validated
    cases legal
  · cases validated

/-- A legal outcome with a context comes from a hand the library judged a win. -/
theorem validateAction_eq_win {winningContext : WinningContext}
    (validated : validateAction library request = .ok outcome)
    (legal : outcome.legal = true) (context : outcome.winningContext = some winningContext) :
    ∃ candidateAction handtiles, checkRequest request = .ok candidateAction ∧
      buildWinningHandtilesForValidation request = .ok handtiles ∧
      library.judgeHu handtiles = true ∧
      buildWinningContext candidateAction (library.countFan handtiles) =
        .ok winningContext := by
  have tried := tryBlock_of_legal validated legal
  obtain ⟨candidateAction, started, checked, rfl, ended⟩ := tryBlock_eq_ok tried
  cases ended with
  | inl win =>
      obtain ⟨handtiles, built, judged, _, _, accepted, _⟩ :=
        validateWinningAction_eq_ok win.2
      obtain ⟨_, _, same, evaluated⟩ := accepted legal
      rw [context] at same
      cases same
      exact ⟨candidateAction, handtiles, checked, built, judged ▸ legal, evaluated⟩
  | inr rest =>
      obtain ⟨_, rfl⟩ := rest
      rw [(validateOtherAction_frame _).2.2] at context
      cases context

theorem serveValidateAction_eq_ok
    (validated : validateAction library request = .ok outcome) :
    serveValidateAction library request = .ok {
      isLegal := outcome.legal
      rejectCode := outcome.rejectCode
      derivedActionType := outcome.derivedActionType
      meldResult := outcome.meldResult
      winningContext := outcome.winningContext
      suggestedFollowUps := outcome.followUps
      explanation := outcome.explanation } := by
  unfold serveValidateAction
  rw [validated]
  rfl

/-- A request with a winning candidate is evaluated. -/
theorem typed_of_requestsWin (win : RequestsWin request) :
    ∃ winType, extractWinType (candidateActionOf request) = .ok winType := by
  unfold candidateActionOf
  cases win with
  | inl declared =>
      obtain ⟨declareWin, requested⟩ := declared
      rw [requested]
      exact ⟨_, rfl⟩
  | inr winning =>
      obtain ⟨claim, requested, kind⟩ := winning
      rw [requested]
      unfold extractWinType
      dsimp only [Option.getD_some]
      split
      · exact ⟨_, rfl⟩
      · rename_i other
        rw [if_pos (kind.resolve_right other)]
        exact ⟨_, rfl⟩

/-- The one thing that the handler cannot catch. -/
theorem validateAction_defined_iff : Defined (validateAction library request) ↔
    (PassesChecks request → RequestsWin request →
      ∀ win, EvaluatesWin request win → win.InRange) := by
  have evaluated (win : RequestsWin request) :=
    buildWinningHandtilesForValidation_defined_iff (typed_of_requestsWin win)
  constructor
  · intro defined passes win
    rw [← evaluated win]
    by_contra undefined
    obtain ⟨candidateAction, checked⟩ := exists_checkRequest_iff.mpr passes
    have winning := (requestsWin_iff (checkRequest_eq_ok checked).1).mp win
    obtain ⟨outcome, failed⟩ := @tryBlock_of_undefined library _ _ checked winning undefined
    unfold validateAction at defined
    rw [failed] at defined
    exact defined rfl
  · intro inRange undefined
    unfold validateAction at undefined
    split at undefined
    · cases undefined
    · cases undefined
    · rename_i outcome failed
      obtain ⟨reached, _⟩ := tryBlock_eq_error failed
      obtain ⟨candidateAction, checked, winning, overflow⟩ := reached rfl
      have win := (requestsWin_iff (checkRequest_eq_ok checked).1).mpr winning
      have passes := exists_checkRequest_iff.mp ⟨candidateAction, checked⟩
      exact overflow ((evaluated win).mpr (inRange passes win))

/-- A candidate that wins names a win type and a tile. -/
theorem exists_winningContext
    (winning : isWinningAction candidateAction = true) (fan : Fan) :
    ∃ winningContext, buildWinningContext candidateAction fan = .ok winningContext := by
  unfold isWinningAction at winning
  unfold buildWinningContext
  simp only [bind_eq_ok_iff]
  split at winning
  · rename_i declareWin declared
    simp only [extractWinType, extractWinningTile, declared]
    exact ⟨_, _, rfl, _, rfl, rfl⟩
  · rename_i claim claimed
    rcases (isWinningClaimKind_iff _).mp winning with discard | robbed
    · have different : asI32 ClaimKind.discardWin ≠ asI32 ClaimKind.robKongWin := by decide
      simp only [extractWinType, extractWinningTile, claimed, discard, if_neg different, if_true]
      exact ⟨_, _, rfl, _, rfl, rfl⟩
    · simp only [extractWinType, extractWinningTile, claimed, robbed, if_true]
      exact ⟨_, _, rfl, _, rfl, rfl⟩
  · cases winning

/-- Whatever the request holds and the library answers, and wherever a conversion throws,
the handler returns a consistent outcome and the response carries it, exactly if no tile
number that the conversion of a win comes to overflows. -/
theorem validateAction_consistent (library : FanLibrary) (request : ValidateActionRequest) :
    (∃ outcome, validateAction library request = .ok outcome ∧
      ConsistentOutcome request outcome ∧
      ∃ response, serveValidateAction library request = .ok response ∧
        response.isLegal = outcome.legal ∧ response.rejectCode = outcome.rejectCode ∧
        response.derivedActionType = outcome.derivedActionType ∧
        response.meldResult = outcome.meldResult ∧
        response.winningContext = outcome.winningContext) ↔
    (PassesChecks request → RequestsWin request →
      ∀ win, EvaluatesWin request win → win.InRange) := by
  rw [← @validateAction_defined_iff library request]
  constructor
  · intro returned
    obtain ⟨outcome, validated, _⟩ := returned
    rw [validated]
    exact defined_ok outcome
  · intro defined
    have returned : ∃ outcome, validateAction library request = .ok outcome ∧
        ConsistentOutcome request outcome := by
      unfold validateAction at defined ⊢
      cases tried : tryBlock library request with
      | ok outcome =>
          refine ⟨outcome, rfl, ?_⟩
          obtain ⟨candidateAction, started, checked, rfl, ended⟩ := tryBlock_eq_ok tried
          obtain ⟨requested, _⟩ := checkRequest_eq_ok checked
          cases ended with
          | inl win =>
              obtain ⟨winning, validated⟩ := win
              exact consistent_of_win requested winning rfl rfl rfl validated
          | inr rest =>
              obtain ⟨other, rfl⟩ := rest
              exact consistent_of_other requested other rfl rfl rfl rfl
      | error thrown =>
          obtain ⟨_, noMeld, noContext⟩ := tryBlock_eq_error tried
          obtain ⟨failure, outcome⟩ := thrown
          cases failure with
          | invalidArgument what =>
              exact ⟨_, rfl, consistent_of_caught noMeld noContext what⟩
          | undefinedBehavior =>
              rw [tried] at defined
              exact absurd rfl defined
    obtain ⟨outcome, validated, consistent⟩ := returned
    have served := serveValidateAction_eq_ok validated
    exact ⟨outcome, validated, consistent, _, served, rfl, rfl, rfl, rfl, rfl⟩

end Consistent

/-- East declares a win on a drawn tile of the smallest number. -/
def smallestDrawRequest : ValidateActionRequest where
  roomId := "room"
  matchId := "match-room"
  roundId := "hand-1"
  serverEventSeq := 1
  ruleConfig := some ⟨"gb", 4, true, true, true, true, 1⟩
  roundContext := some { defaultRoundContext with prevailingWind := asI32 Seat.east }
  actorSeat := asI32 Seat.east
  candidateAction := some ⟨some (.declareWin {
    winType := asI32 WinType.selfDraw
    winningTile := -2 ^ 31
    sourceSeat := asI32 Seat.east
    sourceEventSeq := 1 })⟩
  recentAction := none
  players := [{
    seat := asI32 Seat.east
    currentScore := 0
    concealedTileCount := 14
    melds := []
    discards := []
    flowers := [] }]
  actorPrivateHand := some { concealedTiles := [], drawnTile := -2 ^ 31 }
  claimWindow := none

/-- No library gets to answer it. -/
theorem smallestDraw_undefined :
    ¬ ∃ library outcome, validateAction library smallestDrawRequest = .ok outcome := by
  intro returned
  obtain ⟨library, outcome, validated⟩ := returned
  cases validated

end GbMahjong.Adapter
