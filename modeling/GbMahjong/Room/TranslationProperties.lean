import GbMahjong.Room.EngineRequest

/-! The translation of a client action into an engine request. Three builders
parse the same fields; the first of them fixes which numbers are refused, and
what the three build from the others agrees. -/

set_option autoImplicit false

namespace GbMahjong.Room

open GbMahjong.Library GbMahjong.Client
open GbMahjong.Library.ProtoEnum (asI32 Declared)

/-! ## The two protocols number their values alike -/

theorem asI32_mapSeatToEngine (seat : Seat) : asI32 (mapSeatToEngine seat) = asI32 seat := by
  cases seat <;> decide

theorem asI32_mapTileToEngine (tile : Tile) : asI32 (mapTileToEngine tile) = asI32 tile := by
  cases tile <;> decide

theorem asI32_mapClaimKindToEngine (claimKind : ClaimKind) :
    asI32 (mapClaimKindToEngine claimKind) = asI32 claimKind := by
  cases claimKind <;> decide

theorem asI32_mapWinTypeToEngine (winType : WinType) :
    asI32 (mapWinTypeToEngine winType) = asI32 winType := by
  cases winType <;> decide

/-! ## Parsing one field -/

/-- An enumeration field of a client action, with the number it holds. -/
inductive EnumField where
  | seat (number : Int)
  | tile (number : Int)
  | claimKind (number : Int)
  | winType (number : Int)
  deriving DecidableEq, Repr

namespace EnumField

def IsDeclared : EnumField → Prop
  | .seat number => Declared Seat number
  | .tile number => Declared Tile number
  | .claimKind number => Declared ClaimKind number
  | .winType number => Declared WinType number

instance (field : EnumField) : Decidable field.IsDeclared :=
  match field with
  | .seat number => inferInstanceAs (Decidable (Declared Seat number))
  | .tile number => inferInstanceAs (Decidable (Declared Tile number))
  | .claimKind number => inferInstanceAs (Decidable (Declared ClaimKind number))
  | .winType number => inferInstanceAs (Decidable (Declared WinType number))

/-- How an undeclared number is refused. -/
def refusal : EnumField → ActionValidationError
  | .seat number => ⟨.invalidRequest, s!"unknown seat enum value {number}"⟩
  | .tile number => ⟨.invalidTile, s!"unknown tile enum value {number}"⟩
  | .claimKind number => ⟨.invalidRequest, s!"unknown claim kind enum value {number}"⟩
  | .winType number => ⟨.invalidRequest, s!"unknown win type enum value {number}"⟩

end EnumField

/-! ## Parsing several fields -/

def firstUndeclared (fields : List EnumField) : Option EnumField :=
  fields.find? fun field => ¬ field.IsDeclared

/-- The value, unless one of the fields that are parsed for it is refused. -/
def afterParsing {Value : Type} (fields : List EnumField) (value : Value) :
    Except ActionValidationError Value :=
  (firstUndeclared fields).elim (.ok value) fun field => .error field.refusal

section Parsing

variable {Value Result : Type} {fields rest : List EnumField} {value : Value}
  {result : Result}

theorem firstUndeclared_eq_none_iff :
    firstUndeclared fields = none ↔ ∀ field ∈ fields, field.IsDeclared := by
  simp [firstUndeclared]

/-- Parsing a field again refuses nothing new. -/
theorem firstUndeclared_append_of_subset (repeated : rest ⊆ fields) :
    firstUndeclared (fields ++ rest) = firstUndeclared fields := by
  cases first : firstUndeclared fields with
  | none =>
      have declared := firstUndeclared_eq_none_iff.mp first
      apply firstUndeclared_eq_none_iff.mpr
      intro field member
      cases List.mem_append.mp member with
      | inl parsed => exact declared field parsed
      | inr again => exact declared field (repeated again)
  | some field =>
      unfold firstUndeclared at first ⊢
      rw [List.find?_append, first]
      rfl

theorem afterParsing_bind {first : Except ActionValidationError Value}
    {next : Value → Except ActionValidationError Result}
    (parsed : first = afterParsing fields value)
    (continued : next value = afterParsing rest result) :
    first >>= next = afterParsing (fields ++ rest) result := by
  subst parsed
  unfold afterParsing firstUndeclared
  rw [List.find?_append]
  cases fields.find? fun field => ¬ field.IsDeclared with
  | none => exact continued
  | some field => rfl

theorem afterParsing_eq_ok_iff {parsed : Value} :
    afterParsing fields value = .ok parsed ↔
      (∀ field ∈ fields, field.IsDeclared) ∧ value = parsed := by
  rw [← firstUndeclared_eq_none_iff, afterParsing]
  cases firstUndeclared fields with
  | none => simp
  | some field => simp

theorem afterParsing_eq_error_iff {error : ActionValidationError} :
    afterParsing fields value = .error error ↔
      ∃ field, firstUndeclared fields = some field ∧ error = field.refusal := by
  unfold afterParsing
  cases firstUndeclared fields with
  | none => simp
  | some field => simp [eq_comm]

end Parsing

/-- A declared number is kept: the protocols number their values alike. -/
theorem parsedNumber_eq {Source Target : Type} [ProtoEnum Source] [ProtoEnum Target]
    {map : Source → Target} (same : ∀ value, asI32 (map value) = asI32 value)
    {field : EnumField} {number : Int} (declared : field.IsDeclared ↔ Declared Source number)
    {rejectCode : RejectCode} {kind : String}
    (refused : field.refusal = ⟨rejectCode, s!"unknown {kind} enum value {number}"⟩) :
    (do return asI32 (map (← parseClient rejectCode kind number))) =
      afterParsing [field] number := by
  unfold parseClient afterParsing firstUndeclared
  cases read : (ProtoEnum.tryFrom number : Option Source) with
  | none =>
      have undeclared : ¬ field.IsDeclared := by
        intro known
        obtain ⟨value, found⟩ := ProtoEnum.declared_iff_tryFrom.mp (declared.mp known)
        rw [read] at found
        cases found
      simp [undeclared, refused, bind, Except.bind]
  | some value =>
      have number_eq := ProtoEnum.asI32_of_tryFrom read
      have known := declared.mpr ⟨value, number_eq⟩
      simp [known, same, number_eq, bind, Except.bind, pure, Except.pure]

theorem parseClientSeatValue_eq (seat : Int) :
    parseClientSeatValue seat = afterParsing [.seat seat] seat :=
  parsedNumber_eq asI32_mapSeatToEngine .rfl rfl

theorem parseClientTileValue_eq (tile : Int) :
    parseClientTileValue tile = afterParsing [.tile tile] tile :=
  parsedNumber_eq asI32_mapTileToEngine .rfl rfl

theorem parseClientClaimKindValue_eq (claimKind : Int) :
    parseClientClaimKindValue claimKind = afterParsing [.claimKind claimKind] claimKind :=
  parsedNumber_eq asI32_mapClaimKindToEngine .rfl rfl

theorem parseClientWinTypeValue_eq (winType : Int) :
    parseClientWinTypeValue winType = afterParsing [.winType winType] winType :=
  parsedNumber_eq asI32_mapWinTypeToEngine .rfl rfl

/-- What a parser returns is what its caller falls back from. -/
theorem parseClient_eq {Value : Type} [ProtoEnum Value] {field : EnumField} {number : Int}
    (declared : field.IsDeclared ↔ Declared Value number)
    {rejectCode : RejectCode} {kind : String}
    (refused : field.refusal = ⟨rejectCode, s!"unknown {kind} enum value {number}"⟩)
    (default : Value) :
    parseClient rejectCode kind number =
      afterParsing [field] (unwrapOr (parseClient rejectCode kind number) default) := by
  unfold parseClient afterParsing firstUndeclared
  cases read : (ProtoEnum.tryFrom number : Option Value) with
  | none =>
      have undeclared : ¬ field.IsDeclared := by
        rw [declared, ProtoEnum.declared_iff_tryFrom, read]
        simp
      simp [undeclared, refused]
  | some value =>
      have known := declared.mpr ⟨value, ProtoEnum.asI32_of_tryFrom read⟩
      simp [known, unwrapOr]

theorem parseClientClaimKind_eq (claimKind : Int) :
    parseClientClaimKind claimKind =
      afterParsing [.claimKind claimKind]
        (unwrapOr (parseClientClaimKind claimKind) .unspecified) :=
  @parseClient_eq ClaimKind _ (.claimKind claimKind) _ .rfl _ "claim kind" rfl .unspecified

theorem parseClientWinType_eq (winType : Int) :
    parseClientWinType winType =
      afterParsing [.winType winType]
        (unwrapOr (parseClientWinType winType) .unspecified) :=
  @parseClient_eq WinType _ (.winType winType) _ .rfl _ "win type" rfl .unspecified

theorem mapM_parseClientTileValue (tiles : List Int) :
    tiles.mapM parseClientTileValue = afterParsing (tiles.map .tile) tiles := by
  induction tiles with
  | nil => rfl
  | cons tile rest ih =>
      rw [List.mapM_cons, List.map_cons, ← List.singleton_append,
        ← List.append_nil (rest.map EnumField.tile)]
      exact afterParsing_bind (parseClientTileValue_eq tile) (afterParsing_bind ih rfl)

/-! ## What the builders should agree on -/

/-- The enumeration fields of an action, in the order the candidate is built. -/
def enumFields : Action → List EnumField
  | .discard discard => [.tile discard.tile]
  | .claim claim =>
      .claimKind claim.claimKind :: .tile claim.targetTile ::
        (claim.consumeTiles.map .tile ++ [.seat claim.sourceSeat])
  | .declareWin declareWin =>
      [.winType declareWin.winType, .tile declareWin.winningTile,
        .seat declareWin.sourceSeat]
  | .pass _ => []
  | .supplementalKong kong => [.tile kong.tile]
  | .autoPlayToggle _ => []

/-- The engine candidate has the numbers, flags and tiles of the client action. -/
def SameNumbers : Action → Engine.Candidate → Prop
  | .discard discard, .discard candidate =>
      candidate.tile = discard.tile ∧ candidate.tsumogiri = discard.tsumogiri
  | .claim claim, .claim candidate =>
      candidate.claimKind = claim.claimKind ∧ candidate.targetTile = claim.targetTile ∧
        candidate.consumeTiles = claim.consumeTiles ∧
        candidate.sourceSeat = claim.sourceSeat ∧
        candidate.sourceEventSeq = claim.sourceEventSeq
  | .declareWin declareWin, .declareWin candidate =>
      candidate.winType = declareWin.winType ∧
        candidate.winningTile = declareWin.winningTile ∧
        candidate.sourceSeat = declareWin.sourceSeat ∧
        candidate.sourceEventSeq = declareWin.sourceEventSeq
  | .pass pass, .pass candidate => candidate.sourceEventSeq = pass.sourceEventSeq
  | .supplementalKong kong, .kong candidate =>
      candidate.kongKind = asI32 Engine.ActionKind.supplementalKong ∧
        candidate.tile = kong.tile
  | _, _ => False

/-- The recent action and the claim window tell of one event. A discard window
leaves the tile open. -/
structure SameTrigger (action : Action) (recent : Engine.RecentActionContext)
    (window : Engine.ClaimWindowContext) : Prop where
  sourceEventSeq : window.sourceEventSeq = recent.sourceEventSeq
  sourceSeat : window.sourceSeat = recent.sourceSeat
  actionKind : window.triggerActionKind = recent.sourceActionKind
  tile : (∀ discard, action ≠ .discard discard) → window.targetTile = recent.sourceTile

/-- The flags of a recent action fit its kind. -/
structure FlagsFit (recent : Engine.RecentActionContext) : Prop where
  robKong : recent.robKongCandidate = true →
    recent.sourceActionKind = asI32 Engine.ActionKind.supplementalKong
  replacementDraw : recent.replacementDraw = true →
    recent.sourceActionKind = asI32 Engine.ActionKind.draw

theorem deriveClaimTriggerAction_of_robKong {claimKind : Int}
    (robs : unwrapOr (parseClientClaimKind claimKind) .unspecified = .robKongWin) :
    deriveClaimTriggerAction claimKind = .supplementalKong := by
  rw [deriveClaimTriggerAction, robs]

theorem deriveWinTriggerAction_of_robKong {winType : Int}
    (robs : unwrapOr (parseClientWinType winType) .unspecified = .robKong) :
    deriveWinTriggerAction winType = .supplementalKong := by
  rw [deriveWinTriggerAction, robs]

theorem deriveWinTriggerAction_of_kongDraw {winType : Int}
    (draws : unwrapOr (parseClientWinType winType) .unspecified = .kongDraw) :
    deriveWinTriggerAction winType = .draw := by
  rw [deriveWinTriggerAction, draws]

/-! ## The three builders -/

namespace RoomState

variable (room : RoomState) (actorSeat : Seat)

theorem buildCandidateAction_eq {action : Action}
    (other : ∀ toggle, action ≠ .autoPlayToggle toggle) :
    ∃ candidate, SameNumbers action candidate ∧
      room.buildCandidateAction actorSeat action =
        afterParsing (enumFields action) candidate := by
  cases action with
  | discard discard =>
      exact ⟨.discard _, ⟨rfl, rfl⟩, afterParsing_bind (parseClientTileValue_eq _) rfl⟩
  | claim claim =>
      exact ⟨.claim _, ⟨rfl, rfl, rfl, rfl, rfl⟩,
        afterParsing_bind (parseClientClaimKindValue_eq _)
          (afterParsing_bind (parseClientTileValue_eq _)
            (afterParsing_bind (mapM_parseClientTileValue _)
              (afterParsing_bind (parseClientSeatValue_eq _) rfl)))⟩
  | declareWin declareWin =>
      exact ⟨.declareWin _, ⟨rfl, rfl, rfl, rfl⟩,
        afterParsing_bind (parseClientWinTypeValue_eq _)
          (afterParsing_bind (parseClientTileValue_eq _)
            (afterParsing_bind (parseClientSeatValue_eq _) rfl))⟩
  | pass pass => exact ⟨.pass ⟨pass.sourceEventSeq⟩, rfl, rfl⟩
  | supplementalKong kong =>
      exact ⟨.kong _, ⟨rfl, rfl⟩, afterParsing_bind (parseClientTileValue_eq _) rfl⟩
  | autoPlayToggle toggle => exact absurd rfl (other toggle)

theorem buildClaimWindowContext_closed {request : PlayerActionRequest}
    (closed : request.actionWindowId = 0) (action : Action) :
    room.buildClaimWindowContext actorSeat request action = .ok none := by
  unfold buildClaimWindowContext
  rw [if_pos closed]
  rfl

/-- Both contexts parse fields of the candidate only, and agree where both are built. -/
theorem contexts_eq {request : PlayerActionRequest} (opened : request.actionWindowId ≠ 0)
    {action : Action} (other : ∀ toggle, action ≠ .autoPlayToggle toggle) :
    ∃ recent window recentFields windowFields,
      recentFields ⊆ enumFields action ∧ windowFields ⊆ enumFields action ∧
      room.buildRecentActionContext actorSeat action =
        afterParsing recentFields (some recent) ∧
      room.buildClaimWindowContext actorSeat request action =
        afterParsing windowFields (some window) ∧
      FlagsFit recent ∧ SameTrigger action recent window := by
  unfold buildClaimWindowContext
  rw [if_neg opened]
  cases action with
  | discard discard =>
      refine ⟨_, _, [.tile discard.tile], [], List.Subset.refl _, List.nil_subset _,
        afterParsing_bind (parseClientTileValue_eq _) rfl, rfl, ⟨?_, ?_⟩, ⟨?_, ?_, ?_, ?_⟩⟩
      · nofun
      · nofun
      · rfl
      · rfl
      · rfl
      · exact fun tiled => absurd rfl (tiled discard)
  | claim claim =>
      refine ⟨_, _,
        [.seat claim.sourceSeat, .tile claim.targetTile, .claimKind claim.claimKind],
        [.seat claim.sourceSeat, .tile claim.targetTile], ?_, ?_,
        afterParsing_bind (parseClientSeatValue_eq _)
          (afterParsing_bind (parseClientTileValue_eq _)
            (afterParsing_bind (parseClientClaimKind_eq _) rfl)),
        afterParsing_bind (parseClientSeatValue_eq _)
          (afterParsing_bind (parseClientTileValue_eq _) rfl), ⟨?_, ?_⟩, ⟨?_, ?_, ?_, ?_⟩⟩
      · simp [enumFields]
      · simp [enumFields]
      · intro robs
        exact congrArg asI32 (deriveClaimTriggerAction_of_robKong (eq_of_beq robs))
      · nofun
      · rfl
      · rfl
      · rfl
      · exact fun _ => rfl
  | declareWin declareWin =>
      refine ⟨_, _,
        [.seat declareWin.sourceSeat, .tile declareWin.winningTile,
          .winType declareWin.winType],
        [.seat declareWin.sourceSeat, .tile declareWin.winningTile], ?_, ?_,
        afterParsing_bind (parseClientSeatValue_eq _)
          (afterParsing_bind (parseClientTileValue_eq _)
            (afterParsing_bind (parseClientWinType_eq _) rfl)),
        afterParsing_bind (parseClientSeatValue_eq _)
          (afterParsing_bind (parseClientTileValue_eq _) rfl), ⟨?_, ?_⟩, ⟨?_, ?_, ?_, ?_⟩⟩
      · simp [enumFields]
      · simp [enumFields]
      · intro robs
        exact congrArg asI32 (deriveWinTriggerAction_of_robKong (eq_of_beq robs))
      · intro draws
        exact congrArg asI32 (deriveWinTriggerAction_of_kongDraw (eq_of_beq draws))
      · rfl
      · rfl
      · rfl
      · exact fun _ => rfl
  | pass pass =>
      refine ⟨_, _, [], [], List.Subset.refl _, List.Subset.refl _, rfl, rfl, ⟨?_, ?_⟩,
        ⟨?_, ?_, ?_, ?_⟩⟩
      · nofun
      · nofun
      · rfl
      · rfl
      · rfl
      · exact fun _ => rfl
  | supplementalKong kong =>
      refine ⟨_, _, [.tile kong.tile], [.tile kong.tile], List.Subset.refl _,
        List.Subset.refl _, afterParsing_bind (parseClientTileValue_eq _) rfl,
        afterParsing_bind (parseClientTileValue_eq _) rfl, ⟨?_, ?_⟩, ⟨?_, ?_, ?_, ?_⟩⟩
      · exact fun _ => rfl
      · nofun
      · rfl
      · rfl
      · rfl
      · exact fun _ => rfl
  | autoPlayToggle toggle => exact absurd rfl (other toggle)

/-! ## The request -/

/-- The request around a candidate and its contexts. -/
def engineRequest (candidate : Engine.Candidate) (recent : Engine.RecentActionContext)
    (claimWindow : Option Engine.ClaimWindowContext) : Engine.ValidateActionRequest where
  roomId := room.roomId
  matchId := room.matchId
  roundId := room.roundId
  serverEventSeq := room.currentEventSeq
  ruleConfig := some room.buildEngineRuleConfig
  roundContext := some room.buildEngineRoundContext
  actorSeat := asI32 (mapSeatToEngine actorSeat)
  candidateAction := some { action := some candidate }
  recentAction := some recent
  players := room.buildEnginePlayerStates
  actorPrivateHand := some {
    concealedTiles := []
    drawnTile := asI32 Engine.Tile.unspecified }
  claimWindow

theorem buildValidateActionRequest_of_parts {request : PlayerActionRequest}
    {action : Action} (requested : request.action = some action)
    {candidate : Engine.Candidate} {recent : Engine.RecentActionContext}
    {claimWindow : Option Engine.ClaimWindowContext}
    {recentFields windowFields : List EnumField}
    (recentParsed : recentFields ⊆ enumFields action)
    (windowParsed : windowFields ⊆ enumFields action)
    (candidateBuilt : room.buildCandidateAction actorSeat action =
      afterParsing (enumFields action) candidate)
    (recentBuilt : room.buildRecentActionContext actorSeat action =
      afterParsing recentFields (some recent))
    (windowBuilt : room.buildClaimWindowContext actorSeat request action =
      afterParsing windowFields claimWindow) :
    room.buildValidateActionRequest actorSeat request =
      afterParsing (enumFields action)
        (room.engineRequest actorSeat candidate recent claimWindow) := by
  have ended : pure (room.engineRequest actorSeat candidate recent claimWindow) =
      afterParsing [] (room.engineRequest actorSeat candidate recent claimWindow) := rfl
  have again : recentFields ++ (windowFields ++ []) ⊆ enumFields action := by
    rw [List.append_nil]
    exact List.append_subset.mpr ⟨recentParsed, windowParsed⟩
  unfold buildValidateActionRequest
  rw [requested]
  refine (afterParsing_bind candidateBuilt
    (afterParsing_bind recentBuilt (afterParsing_bind windowBuilt ended))).trans ?_
  unfold afterParsing
  rw [firstUndeclared_append_of_subset again]

theorem buildValidateActionRequest_eq {request : PlayerActionRequest} {action : Action}
    (requested : request.action = some action)
    (other : ∀ toggle, action ≠ .autoPlayToggle toggle) :
    ∃ candidate recent claimWindow, SameNumbers action candidate ∧ FlagsFit recent ∧
      (claimWindow.isSome = true ↔ request.actionWindowId ≠ 0) ∧
      (∀ window, claimWindow = some window → SameTrigger action recent window) ∧
      room.buildValidateActionRequest actorSeat request =
        afterParsing (enumFields action)
          (room.engineRequest actorSeat candidate recent claimWindow) := by
  obtain ⟨candidate, same, candidateBuilt⟩ := room.buildCandidateAction_eq actorSeat other
  by_cases closed : request.actionWindowId = 0
  · -- Without a window, the recent action is the one a window would agree with.
    obtain ⟨recent, _, recentFields, _, recentParsed, _, recentBuilt, _, flags, _⟩ :=
      @contexts_eq room actorSeat { request with actionWindowId := 1 } Nat.one_ne_zero
        action other
    refine ⟨candidate, recent, none, same, flags, by simp [closed], nofun, ?_⟩
    exact room.buildValidateActionRequest_of_parts actorSeat requested recentParsed
      (List.nil_subset _) candidateBuilt recentBuilt
      (room.buildClaimWindowContext_closed actorSeat closed action)
  · obtain ⟨recent, window, recentFields, windowFields, recentParsed, windowParsed,
      recentBuilt, windowBuilt, flags, trigger⟩ := room.contexts_eq actorSeat closed other
    refine ⟨candidate, recent, some window, same, flags, by simp [closed], ?_, ?_⟩
    · intro opened found
      cases found
      exact trigger
    · exact room.buildValidateActionRequest_of_parts actorSeat requested recentParsed
        windowParsed candidateBuilt recentBuilt windowBuilt

end RoomState

/-- What a translated request says of the action it is about. -/
structure FaithfulTranslation (request : PlayerActionRequest) (action : Action)
    (translated : Engine.ValidateActionRequest) : Prop where
  candidate : ∃ candidate, translated.candidateAction = some ⟨some candidate⟩ ∧
    SameNumbers action candidate
  windowed : translated.claimWindow.isSome = true ↔ request.actionWindowId ≠ 0
  agrees : ∀ window, translated.claimWindow = some window →
    ∃ recent, translated.recentAction = some recent ∧ SameTrigger action recent window
  flags : ∀ recent, translated.recentAction = some recent → FlagsFit recent

/-- A request without an action is refused. Any other but a toggle is refused for its
first undeclared number, and otherwise translated faithfully. -/
theorem translation_faithful (room : RoomState) (actorSeat : Seat)
    (request : PlayerActionRequest)
    (other : ∀ toggle, request.action ≠ some (.autoPlayToggle toggle)) :
    (request.action = none → ∃ message,
      room.buildValidateActionRequest actorSeat request =
        .error ⟨.invalidRequest, message⟩) ∧
    ∀ action, request.action = some action →
      ((∃ error, room.buildValidateActionRequest actorSeat request = .error error) ↔
        ∃ field ∈ enumFields action, ¬ field.IsDeclared) ∧
      (∀ error, room.buildValidateActionRequest actorSeat request = .error error →
        ∃ field, firstUndeclared (enumFields action) = some field ∧
          error = field.refusal) ∧
      ∀ translated, room.buildValidateActionRequest actorSeat request = .ok translated →
        FaithfulTranslation request action translated := by
  constructor
  · intro absent
    unfold RoomState.buildValidateActionRequest
    rw [absent]
    exact ⟨_, rfl⟩
  · intro action requested
    obtain ⟨candidate, recent, claimWindow, same, flags, windowed, trigger, built⟩ :=
      room.buildValidateActionRequest_eq actorSeat requested
        fun toggle toggles => other toggle (toggles ▸ requested)
    rw [built]
    refine ⟨?_, fun error => afterParsing_eq_error_iff.mp, ?_⟩
    · simp only [afterParsing_eq_error_iff, exists_comm, exists_and_left, exists_eq,
        and_true, ← Option.ne_none_iff_exists', ne_eq, firstUndeclared_eq_none_iff,
        not_forall, exists_prop]
    · intro translated parsed
      obtain ⟨_, rfl⟩ := afterParsing_eq_ok_iff.mp parsed
      refine ⟨⟨candidate, rfl, same⟩, windowed, ?_, ?_⟩
      · exact fun window opened => ⟨recent, rfl, trigger window opened⟩
      · intro other told
        cases told
        exact flags

/-- East robs a kong of South's, in the first action window. -/
def robKongRequest (winningTile : Int) : PlayerActionRequest where
  roomId := "room"
  matchId := "match-room"
  roundId := "hand-1"
  expectedEventSeq := 1
  actionWindowId := 1
  action := some (.claim {
    claimKind := asI32 ClaimKind.robKongWin
    targetTile := winningTile
    consumeTiles := [2, 3]
    sourceSeat := asI32 Seat.south
    sourceEventSeq := 7 })

theorem translation_faithful_robKong :
    (∃ translated,
      (RoomState.new "room").buildValidateActionRequest .east (robKongRequest 4) =
        .ok translated) ∧
    ∀ translated,
      (RoomState.new "room").buildValidateActionRequest .east (robKongRequest 4) =
        .ok translated →
      FaithfulTranslation (robKongRequest 4) (.claim ⟨5, 4, [2, 3], 2, 7⟩) translated :=
  ⟨⟨_, rfl⟩, ((translation_faithful (.new "room") .east (robKongRequest 4) nofun).2 _
    rfl).2.2⟩

/-- A request without an action is refused although it holds no number at all. -/
theorem absent_action_refused :
    ¬ ((∃ error, (RoomState.new "room").buildValidateActionRequest .east
          { robKongRequest 4 with action := none } = .error error) ↔
        ∃ field ∈ ({ robKongRequest 4 with action := none } :
          PlayerActionRequest).action.elim [] enumFields, ¬ field.IsDeclared) := by
  intro refused
  obtain ⟨field, member, _⟩ := refused.mp ⟨_, rfl⟩
  cases member

end GbMahjong.Room
