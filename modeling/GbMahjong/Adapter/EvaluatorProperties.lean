import Mathlib.Algebra.BigOperators.Group.List.Basic
import GbMahjong.Adapter.RepresentationProperties
import GbMahjong.Adapter.RuleProperties

/-! The adapter with the library behind it: which wins are legal, and what a win reports. -/

set_option autoImplicit false

namespace GbMahjong.Adapter

open GbMahjong.Library GbMahjong.Library.Checked GbMahjong.Mahjong GbMahjong.Engine
open GbMahjong.Library.ProtoEnum (asI32)

/-! ## From numbers to shapes -/

namespace WinDescription

variable {win : WinDescription} {handtiles : Handtiles}

/-- The melds and the standing tiles of the win are a complete hand. -/
def Completes (win : WinDescription) : Prop :=
  Shape.Winning win.melds.length (win.standingTiles.map fun tile => tile - 1)

theorem Builds.lipai (builds : win.Builds handtiles) :
    handtiles.lipai = (sortNumbers win.concealedTiles).map tileOf ++ [win.markedTile] ∧
      handtiles.fulu.length = win.melds.length := by
  obtain ⟨quanfeng, menfeng, packs, _, _, decoded, _, _, _, _, rfl⟩ := win.builds_iff.mp builds
  rw [← sort_map_tileOf]
  exact ⟨rfl, (mapM_eq_ok_iff.mp decoded).length_eq.symm⟩

/-- The library sees the standing tiles, in another order. -/
theorem Builds.lipaiIds (builds : win.Builds handtiles) :
    handtiles.lipaiIds.Perm (win.standingTiles.map fun tile => tile - 1) := by
  rw [Handtiles.lipaiIds, builds.lipai.1, List.map_append, List.map_singleton,
    markedTile_getId, List.map_map, standingTiles]
  exact (List.perm_append_singleton _ _).trans
    ((sortNumbers_perm win.concealedTiles).map _ |>.cons _)

/-- A hand of tiles that there are is one that the library's search can take. -/
theorem Builds.whole (builds : win.Builds handtiles)
    (enumerated : ∀ tile ∈ win.standingTiles, Enumerated tile) : handtiles.Whole := by
  obtain ⟨fulu, fourteen⟩ := builds.sizes
  refine ⟨fulu, by omega, fun tile member => ?_, ?_⟩
  · have image := builds.lipaiIds.subset (List.mem_map_of_mem member)
    obtain ⟨number, held, same⟩ := List.mem_map.mp image
    obtain ⟨lower, upper⟩ := enumerated number held
    change number - 1 = tile.tile at same
    change 2 ≤ number at lower
    change number ≤ 43 at upper
    exact ⟨by omega, by omega⟩
  · rw [builds.lipai.1]
    refine ⟨win.markedTile, _, List.perm_append_singleton _ _ |>.subperm, ?_⟩
    rw [List.forall_mem_map]
    exact fun _ _ => rfl

theorem Builds.judged_iff (builds : win.Builds handtiles)
    (enumerated : ∀ tile ∈ win.standingTiles, Enumerated tile) (undefined : Fan) :
    (gbMahjong undefined).judgeHu handtiles = true ↔ win.Completes := by
  change judgeHu handtiles = true ↔ _
  rw [judgeHu_iff (builds.whole enumerated), builds.lipai.2, Completes]
  exact ⟨Shape.Winning.of_perm builds.lipaiIds, Shape.Winning.of_perm builds.lipaiIds.symm⟩

end WinDescription

/-! ## Which wins are legal -/

section Validation

variable {undefined : Fan} {request : ValidateActionRequest} {outcome : ValidateOutcome}
  {win : WinDescription}

/-- A win is legal if the request passes its checks, the hand can be built, and the tiles
are a complete hand. -/
theorem win_legal_iff (validated : validateAction (gbMahjong undefined) request = .ok outcome)
    (requests : RequestsWin request)
    (enumerated : ∀ win, EvaluatesWin request win →
      ∀ tile ∈ win.standingTiles, Enumerated tile) :
    outcome.legal = true ↔ PassesChecks request ∧
      ∃ win, EvaluatesWin request win ∧ win.Convertible ∧ win.Completes := by
  constructor
  · intro legal
    obtain ⟨candidateAction, started, checked, rfl, ended⟩ :=
      tryBlock_eq_ok (tryBlock_of_legal validated legal)
    have winning := (requestsWin_iff (checkRequest_eq_ok checked).1).mp requests
    obtain ⟨_, tried⟩ := ended.resolve_right fun other => other.1 winning
    obtain ⟨handtiles, built, judged, _⟩ := validateWinningAction_eq_ok tried
    obtain ⟨actorState, privateHand, winType, lastTile, seated, held, typed, named, builds⟩ :=
      buildWinningHandtilesForValidation_eq_ok_iff.mp built
    have evaluates : EvaluatesWin request
        (validatedWin request actorState privateHand winType lastTile) :=
      ⟨_, _, _, _, seated, held, typed, named, rfl⟩
    have convertible := WinDescription.exists_builds_iff.mp ⟨handtiles, builds⟩
    refine ⟨exists_checkRequest_iff.mp ⟨_, checked⟩, _, evaluates, convertible, ?_⟩
    rw [legal] at judged
    exact (builds.judged_iff (enumerated _ evaluates) undefined).mp judged.symm
  · intro conditions
    obtain ⟨passes, win, evaluates, convertible, completes⟩ := conditions
    have inside := enumerated win evaluates
    obtain ⟨candidateAction, checked⟩ := exists_checkRequest_iff.mpr passes
    have winning := (requestsWin_iff (checkRequest_eq_ok checked).1).mp requests
    obtain ⟨handtiles, builds⟩ := WinDescription.exists_builds_iff.mpr convertible
    obtain ⟨_, _, _, _, seated, held, typed, named, rfl⟩ := evaluates
    have built := buildWinningHandtilesForValidation_eq_ok_iff.mpr
      ⟨_, _, _, _, seated, held, typed, named, builds⟩
    have judged := (builds.judged_iff inside undefined).mpr completes
    obtain ⟨winningContext, context⟩ :=
      exists_winningContext winning ((gbMahjong undefined).countFan handtiles)
    unfold validateAction tryBlock validateWinningAction at validated
    simp only [checked, winning, built, judged, context, if_true, Except.ok.injEq] at validated
    rw [← validated]

/-- After the kong and the flower, three runs and the pair of the drawn wind are complete. -/
theorem win_legal_iff_flowerKong :
    ∃ undefined outcome, validateAction (gbMahjong undefined) flowerKongRequest = .ok outcome ∧
      outcome.legal = true ∧ flowerKongWin.Completes := by
  have accepted : (validateAction (gbMahjong ⟨fun _ => [], 0, by decide⟩)
      flowerKongRequest).map (·.legal) = .ok true := by decide +kernel
  obtain ⟨outcome, validated, legal⟩ := map_eq_ok_iff.mp accepted
  have only (win : WinDescription) (evaluates : EvaluatesWin flowerKongRequest win) :
      win = flowerKongWin := by
    obtain ⟨_, _, _, _, seated, held, typed, named, rfl⟩ := evaluates
    have player : some flowerKongPlayer = some _ := seated
    cases player
    cases held
    cases typed
    cases named
    rfl
  have enumerated : ∀ tile ∈ flowerKongWin.standingTiles, Enumerated tile := by
    unfold Enumerated
    decide +kernel
  obtain ⟨_, win, evaluates, _, completes⟩ := (win_legal_iff validated (.inl ⟨_, rfl⟩)
    fun win evaluates => only win evaluates ▸ enumerated).mp legal
  exact ⟨_, outcome, validated, legal, only win evaluates ▸ completes⟩

end Validation

/-! ## What a win reports -/

/-- What the fans listed are worth. -/
def detailsTotal (details : List FanDetail) : Nat :=
  (details.map fun detail => detail.fanValue * detail.count).sum

theorem sum_map_filterMap {Item Other : Type} (items : List Item) (select : Item → Option Other)
    (value : Other → Nat) :
    ((items.filterMap select).map value).sum =
      (items.map fun item => ((select item).map value).getD 0).sum := by
  induction items with
  | nil => rfl
  | cons item items ih =>
      rw [List.filterMap_cons, List.map_cons, List.sum_cons, ← ih]
      cases select item with
      | none => simp
      | some other => simp

/-- The list of fans is worth what the table scores, as no count leaves its 32 bits. -/
theorem detailsTotal_populateFanDetails {fan : Fan} {state : FanState} (tallied : state.Tallied)
    (table : fan.fanTableRes = state.tableRes) (total : fan.totFanRes = state.totFanRes) :
    detailsTotal (populateFanDetails fan) = fan.totFanRes := by
  have isInt := fan.isInt
  rw [total, ← tallied, FanTable.count_eq_sum, detailsTotal, populateFanDetails, sum_map_filterMap,
    FanKind.all, List.map_map, List.range'_eq_map_range, List.map_map]
  refine congrArg List.sum (List.map_congr_left fun offset member => ?_)
  have bound := List.mem_range.mp member
  have inside : 1 + offset < fanSize := by
    unfold fanSize at bound ⊢
    omega
  have score : fanScore.getD (1 + offset) 0 = (FanKind.ofNat (1 + offset)).score := by
    rw [FanKind.score, FanKind.index_ofNat _ inside]
  have among : FanKind.ofNat (1 + offset) ∈ FanKind.all := by
    rw [FanKind.all, Nat.add_comm]
    exact List.mem_map_of_mem member
  have worth := List.le_sum_of_mem (List.mem_map_of_mem
    (f := fun kind => (state.fanTableRes kind).length * kind.score) among)
  rw [← FanTable.count_eq_sum, tallied] at worth
  have positive := FanKind.score_pos (FanKind.mem_all.mp among)
  have named : FanKind.ofNat (1 + offset) = FanKind.ofNat (offset + 1) := by rw [Nat.add_comm]
  simp only [Function.comp_apply, table, FanState.tableRes, if_pos inside, score, named] at *
  generalize FanKind.ofNat (offset + 1) = kind at *
  cases entries : state.fanTableRes kind with
  | nil => simp
  | cons first rest =>
      have few : (first :: rest).length < 2 ^ 32 := by
        have single := Nat.le_mul_of_pos_right (first :: rest).length positive
        rw [entries] at worth
        omega
      simp only [List.map_cons, List.isEmpty_cons, Bool.false_eq_true, if_false, Option.map_some,
        Option.getD_some]
      rw [← List.map_cons, List.length_map, Nat.mod_eq_of_lt few, Nat.mul_comm]

/-- The report of a hand that the adapter builds: the fans listed make the total, which is
within bounds, and a complete hand has some. -/
theorem WinDescription.Builds.report {win : WinDescription} {handtiles : Handtiles}
    (builds : win.Builds handtiles)
    (enumerated : ∀ tile ∈ win.standingTiles, Enumerated tile)
    (few : win.flowers.length < 2 ^ 30) (undefined : Fan) :
    let fan := (gbMahjong undefined).countFan handtiles
    detailsTotal (populateFanDetails fan) = fan.totFanRes ∧
      fan.totFanRes ≤ 8812 + win.flowers.length ∧
      ((gbMahjong undefined).judgeHu handtiles = true → 1 ≤ fan.totFanRes) := by
  intro fan
  have counted := builds.tabled.huapaiCount
  generalize number : (handtiles.huapaiIds.countP fun id => tileMei ≤ id ∧ id ≤ tileDong) =
    cntHua at counted
  have flowers : cntHua ≤ win.flowers.length := by
    rw [← number]
    refine Nat.le_trans List.countP_le_length ?_
    obtain ⟨_, _, _, _, _, _, _, _, _, _, rfl⟩ := win.builds_iff.mp builds
    change ((win.flowers.map tileOf).map Tile.getId).length ≤ _
    rw [List.length_map, List.length_map]
  have whole := builds.whole enumerated
  have tallied := (addHua_tallied_iff .new whole cntHua).mpr (.inl rfl)
  have most := addHua_totFanRes_le .new whole cntHua
  have scores := lt_addHua_totFanRes_iff .new whole cntHua
  obtain ⟨table, total⟩ := gbMahjong_countFan undefined (countFan_of_counted counted) (by omega)
  have same : fan.totFanRes = _ := total
  refine ⟨detailsTotal_populateFanDetails tallied table total, by omega, fun judged => ?_⟩
  have some := scores.mpr (.inl judged)
  omega

theorem settledWin_flowers (score : CalculateScoreRequest) (hand : HandSnapshot) :
    (settledWin score hand).flowers = hand.flowers := by
  unfold settledWin
  split <;> rfl

/-- A settlement is for a complete hand, and the fans that it lists make its total. -/
theorem settlement_reports {undefined : Fan} {request : CalculateScoreRequest}
    {outcome : ScoreOutcome} {hand : HandSnapshot}
    (accepted : calculateScore (gbMahjong undefined) request = .ok outcome)
    (found : findWinnerHand request = .ok hand)
    (enumerated : ∀ tile ∈ (settledWin request hand).standingTiles, Enumerated tile)
    (few : hand.flowers.length < 2 ^ 30) :
    (settledWin request hand).Completes ∧
      detailsTotal outcome.fanDetails = outcome.totalFan ∧
      1 ≤ outcome.totalFan ∧ outcome.totalFan ≤ 8812 + hand.flowers.length := by
  obtain ⟨_, winner, handtiles, _, _, _, _, _, foundToo, built, judged, _, _, rfl⟩ :=
    calculateScore_eq_ok_iff.mp accepted
  rw [found] at foundToo
  cases foundToo
  have builds := buildWinningHandtilesForScoring_eq_ok built
  rw [← settledWin_flowers request hand] at few ⊢
  obtain ⟨sum, most, least⟩ := builds.report enumerated few undefined
  exact ⟨(builds.judged_iff enumerated undefined).mp judged, sum, least judged, most⟩

/-- Among the fans listed for East are the flower and the draw after the kong. -/
theorem settlement_reports_flowerKong :
    ∃ undefined outcome,
      calculateScore (gbMahjong undefined) flowerKongSettlement = .ok outcome ∧
        outcome.fanDetails ≠ [] ∧ detailsTotal outcome.fanDetails = outcome.totalFan := by
  have listed : (calculateScore (gbMahjong ⟨fun _ => [], 0, by decide⟩)
      flowerKongSettlement).map (·.fanDetails.isEmpty) = .ok false := by decide +kernel
  obtain ⟨outcome, accepted, some⟩ := map_eq_ok_iff.mp listed
  have enumerated : ∀ tile ∈ (settledWin flowerKongSettlement flowerKongSnapshot).standingTiles,
      Enumerated tile := by
    unfold Enumerated
    decide +kernel
  refine ⟨_, outcome, accepted, List.isEmpty_eq_false_iff.mp some, ?_⟩
  exact (settlement_reports accepted rfl enumerated (by decide)).2.1

end GbMahjong.Adapter
