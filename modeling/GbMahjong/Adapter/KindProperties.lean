import GbMahjong.Adapter.AgreementProperties
import GbMahjong.Adapter.RoomRequestProperties

/-! The action a legal outcome names. The kinds of a candidate are open numbers
that no check reads, so a legal outcome names a real action only when the
candidate does. -/

set_option autoImplicit false

namespace GbMahjong.Adapter

open GbMahjong.Library GbMahjong.Library.Checked GbMahjong.Mahjong GbMahjong.Engine
open GbMahjong.Room
open GbMahjong.Library.ProtoEnum (asI32 tryFrom)

/-! ## Kinds -/

def claimKinds : List ClaimKind :=
  [.chi, .peng, .exposedKong, .discardWin, .robKongWin]

def winTypes : List WinType :=
  [.selfDraw, .discard, .robKong, .kongDraw]

def kongKinds : List ActionKind :=
  [.exposedKong, .concealedKong, .supplementalKong]

/-- The candidate's kind is one of its category. -/
def KindNamed : Candidate → Prop
  | .claim claim => claim.claimKind ∈ claimKinds.map asI32
  | .declareWin declareWin => declareWin.winType ∈ winTypes.map asI32
  | .kong kong => kong.kongKind ∈ kongKinds.map asI32
  | .discard _ | .pass _ | .replaceFlower _ => True

/-- The kinds of action that a candidate of each case can be. -/
def actionKindsOf : Candidate → List ActionKind
  | .discard _ => [.discard]
  | .claim _ => [.chi, .peng, .exposedKong, .declareWin]
  | .declareWin _ => [.declareWin]
  | .pass _ => [.pass]
  | .kong _ => kongKinds
  | .replaceFlower _ => [.replaceFlower]

/-- The outcome names an action of the candidate's case, a meld and a way to win. -/
structure NamesAction (candidate : Candidate) (outcome : ValidateOutcome) : Prop where
  named : outcome.derivedActionType ≠ asI32 ActionKind.unspecified
  fits : outcome.derivedActionType ∈ (actionKindsOf candidate).map asI32
  meld : ∀ meldResult meld, outcome.meldResult = some meldResult →
    meldResult.meld = some meld → meld.kind ≠ asI32 MeldKind.unspecified
  context : ∀ winningContext, outcome.winningContext = some winningContext →
    winningContext.winType ∈ winTypes.map asI32

theorem unspecified_not_mem (candidate : Candidate) :
    asI32 ActionKind.unspecified ∉ (actionKindsOf candidate).map asI32 := by
  cases candidate <;> simp [actionKindsOf, kongKinds, asI32]

/-! ## Legal outcomes -/

variable {library : FanLibrary} {request : ValidateActionRequest}
  {outcome : ValidateOutcome}

theorem checkRequest_action {candidateAction : CandidateAction}
    (checked : checkRequest request = .ok candidateAction) :
    ∃ candidate, candidateAction = ⟨some candidate⟩ := by
  unfold checkRequest at checked
  split at checked
  · cases checked
  · split at checked
    · split at checked
      · cases checked
      · split at checked
        · cases checked
        · rename_i candidate named
          cases checked
          exact ⟨candidate, congrArg CandidateAction.mk named⟩
    · cases checked

/-- A legal outcome is a win with its context, or passes the candidate on. -/
theorem validateAction_eq_legal (validated : validateAction library request = .ok outcome)
    (legal : outcome.legal = true) :
    ∃ candidate, request.candidateAction = some ⟨some candidate⟩ ∧
      (isWinningAction ⟨some candidate⟩ = true ∧
          outcome.derivedActionType = asI32 ActionKind.declareWin ∧
          outcome.meldResult = none ∧
          (∃ winningContext, outcome.winningContext = some winningContext ∧
            extractWinType ⟨some candidate⟩ = .ok winningContext.winType) ∨
        ¬ isWinningAction ⟨some candidate⟩ = true ∧
          outcome = passedOn ⟨some candidate⟩) := by
  have tried := tryBlock_of_legal validated legal
  obtain ⟨candidateAction, started, checked, rfl, ended⟩ := tryBlock_eq_ok tried
  obtain ⟨candidate, rfl⟩ := checkRequest_action checked
  refine ⟨candidate, (checkRequest_eq_ok checked).1, ?_⟩
  cases ended with
  | inl win =>
      obtain ⟨winning, validated⟩ := win
      obtain ⟨_, _, _, declared, meld, accepted, _⟩ := validateWinningAction_eq_ok validated
      obtain ⟨_, winningContext, context, evaluated⟩ := accepted legal
      exact .inl ⟨winning, declared, meld, winningContext, context,
        (buildWinningContext_eq_ok evaluated).1⟩
  | inr rest => exact .inr rest

/-! ## When they name an action -/

theorem mem_kinds_iff {Value : Type} [ProtoEnum Value] {number : Int} {kinds : List Value} :
    number ∈ kinds.map asI32 ↔ ∃ kind ∈ kinds, tryFrom number = some kind := by
  simp only [List.mem_map, ProtoEnum.tryFrom_eq_some_iff, @eq_comm _ number]

theorem extractWinType_named {candidate : Candidate} {winType : Int}
    (winning : isWinningAction ⟨some candidate⟩ = true)
    (typed : extractWinType ⟨some candidate⟩ = .ok winType) :
    winType ∈ winTypes.map asI32 ↔ KindNamed candidate := by
  cases candidate with
  | declareWin declareWin =>
      cases typed
      rfl
  | claim claim =>
      obtain ⟨kind, _⟩ := claim
      cases (isWinningClaimKind_iff kind).mp winning with
      | inl discarded =>
          subst discarded
          cases typed
          exact iff_of_true (by decide) (List.mem_map_of_mem (by decide))
      | inr robbed =>
          subst robbed
          cases typed
          exact iff_of_true (by decide) (List.mem_map_of_mem (by decide))
  | discard | pass | kong | replaceFlower => cases winning

/-- The win of a legal outcome is a real one exactly when its type is. -/
theorem namesAction_of_win {candidate : Candidate} {winningContext : WinningContext}
    (winning : isWinningAction ⟨some candidate⟩ = true)
    (declared : outcome.derivedActionType = asI32 ActionKind.declareWin)
    (noMeld : outcome.meldResult = none)
    (context : outcome.winningContext = some winningContext)
    (typed : extractWinType ⟨some candidate⟩ = .ok winningContext.winType) :
    NamesAction candidate outcome ↔ KindNamed candidate := by
  rw [← extractWinType_named winning typed]
  constructor
  · exact fun names => names.context winningContext context
  · intro named
    refine ⟨?_, ?_, ?_, ?_⟩
    · rw [declared]
      decide
    · rw [declared]
      cases candidate with
      | claim | declareWin => simp [actionKindsOf]
      | discard | pass | kong | replaceFlower => cases winning
    · intro meldResult _ melded
      rw [noMeld] at melded
      cases melded
    · intro other reported
      rw [context] at reported
      cases reported
      exact named

theorem namesAction_iff_fits {candidate : Candidate} (noMeld : outcome.meldResult = none)
    (noContext : outcome.winningContext = none) :
    NamesAction candidate outcome ↔
      outcome.derivedActionType ∈ (actionKindsOf candidate).map asI32 := by
  constructor
  · exact fun names => names.fits
  · intro fits
    refine ⟨fun unnamed => ?_, fits, by simp [noMeld], by simp [noContext]⟩
    exact unspecified_not_mem candidate (unnamed ▸ fits)

theorem namesAction_passedOn_claim {claim : ClaimAction}
    (noWin : isWinningClaimKind claim.claimKind = false) :
    NamesAction (.claim claim) (passedOn ⟨some (.claim claim)⟩) ↔
      claim.claimKind ∈ claimKinds.map asI32 := by
  have reported : passedOn ⟨some (.claim claim)⟩ = { passedOn ⟨some (.claim claim)⟩ with
      derivedActionType := deduceActionKind ⟨some (.claim claim)⟩
      meldResult := some (claimMeldResult claim)
      winningContext := none } := by
    simp [passedOn, validateOtherAction, noWin, ValidateOutcome.new]
  rw [reported]
  cases kind : (tryFrom claim.claimKind : Option ClaimKind) with
  | none =>
      refine iff_of_false (fun names => names.named ?_) fun named => ?_
      · simp [deduceActionKind, kind]
      · obtain ⟨value, _, read⟩ := mem_kinds_iff.mp named
        rw [kind] at read
        cases read
  | some value =>
      have number := ProtoEnum.asI32_of_tryFrom kind
      cases value with
      | unspecified =>
          refine iff_of_false (fun names => names.named ?_) ?_
          · simp [deduceActionKind, kind]
          · rw [← number]
            decide
      | chi | peng | exposedKong =>
          refine iff_of_true ⟨?_, ?_, ?_, nofun⟩ ?_
          · simp [deduceActionKind, kind, asI32]
          · simp [deduceActionKind, kind, actionKindsOf]
          · intro _ _ melded same
            cases melded
            cases same
            simp [deduceMeldKind, kind, asI32]
          · rw [← number]
            decide
      | discardWin | robKongWin =>
          rw [← number] at noWin
          cases noWin

/-- A candidate that is no win is passed on under the kind it names. -/
theorem namesAction_passedOn {candidate : Candidate}
    (other : ¬ isWinningAction ⟨some candidate⟩ = true) :
    NamesAction candidate (passedOn ⟨some candidate⟩) ↔ KindNamed candidate := by
  cases candidate with
  | claim => exact namesAction_passedOn_claim (Bool.eq_false_iff.mpr other)
  | declareWin => exact absurd rfl other
  | kong => exact namesAction_iff_fits rfl rfl
  | discard | pass | replaceFlower =>
      rw [namesAction_iff_fits rfl rfl]
      exact iff_of_true (List.mem_map_of_mem List.mem_cons_self) trivial

/-- A legal outcome names a real action exactly when the candidate's kind is one of its
category. -/
theorem namesAction_iff_kindNamed (validated : validateAction library request = .ok outcome)
    (legal : outcome.legal = true) :
    ∃ candidate, request.candidateAction = some ⟨some candidate⟩ ∧
      (NamesAction candidate outcome ↔ KindNamed candidate) := by
  obtain ⟨candidate, requested, ended⟩ := validateAction_eq_legal validated legal
  refine ⟨candidate, requested, ?_⟩
  rcases ended with ⟨winning, declared, noMeld, winningContext, context, typed⟩ | ⟨other, rfl⟩
  · exact namesAction_of_win winning declared noMeld context typed
  · exact namesAction_passedOn other

theorem namesAction_iff_kindNamed_orphans :
    ∃ candidate, (orphansRequest .character1).candidateAction = some ⟨some candidate⟩ ∧
      NamesAction candidate (orphansOutcome .character1) := by
  have validated : validateAction drawnOrphansLibrary (orphansRequest .character1) =
      .ok (orphansOutcome .character1) := by decide +kernel
  obtain ⟨candidate, requested, names⟩ := namesAction_iff_kindNamed validated rfl
  cases requested
  exact ⟨_, rfl, names.mpr (List.mem_map_of_mem (by decide))⟩

/-- East claims South's tile and leaves the kind of the claim unset. -/
def unsetClaim : Client.PlayerActionRequest :=
  { firstDiscard "room" with
    action := some (.claim ⟨0, asI32 Client.Tile.character1, [], asI32 Client.Seat.south, 3⟩) }

/-- The room forwards a claim without a kind, and it is judged legal as no action. -/
theorem unsetClaim_judged_legal :
    ∃ candidate translated outcome,
      (roomTask.exec (RoomState.new "room") [firstJoin "room"]).buildValidateActionRequest
        .east unsetClaim = .ok translated ∧
      translated.candidateAction = some ⟨some candidate⟩ ∧
      validateAction drawnOrphansLibrary translated = .ok outcome ∧
      outcome.legal = true ∧
      outcome.derivedActionType = asI32 ActionKind.unspecified ∧
      (∃ meldResult meld, outcome.meldResult = some meldResult ∧
        meldResult.meld = some meld ∧ meld.kind = asI32 MeldKind.unspecified) ∧
      ¬ NamesAction candidate outcome :=
  ⟨_, _, _, rfl, rfl, validateAction_of_other rfl (by decide), rfl, rfl,
    ⟨_, _, rfl, rfl, rfl⟩, fun names => names.named rfl⟩

end GbMahjong.Adapter
