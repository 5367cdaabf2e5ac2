import GbMahjong.Adapter.RangeProperties

/-! The two forms of a winner's snapshot. Thirteen tiles without the winning one
and fourteen with it describe one hand, in whatever order the tiles come. -/

set_option autoImplicit false

namespace GbMahjong.Adapter

open GbMahjong.Library GbMahjong.Library.Checked GbMahjong.Mahjong GbMahjong.Engine
open GbMahjong.Library.ProtoEnum (asI32)

/-! ## Setting the winning tile apart -/

theorem tileOf_same_iff {tile other : Int} :
    (tileOf tile).Same (tileOf other) ↔ tile = other := by
  change tile - 1 = other - 1 ↔ tile = other
  omega

theorem moveOneTileToBack_eq (tiles : List Int) (winningTile : Int) :
    moveOneTileToBack (tiles.map tileOf) (tileOf winningTile) =
      if winningTile ∈ tiles then
        .ok ((tiles.erase winningTile).map tileOf ++ [tileOf winningTile])
      else
        invalidArgument "winning tile is not present in concealed tiles" := by
  unfold moveOneTileToBack
  induction tiles with
  | nil => rfl
  | cons tile rest ih =>
      rw [List.map_cons, List.findIdx?_cons]
      by_cases same : tile = winningTile
      · subst same
        simp [Mahjong.Tile.Same]
      · have different : ¬ (tileOf tile).Same (tileOf winningTile) :=
          fun alike => same (tileOf_same_iff.mp alike)
        have kept : (tile :: rest).erase winningTile = tile :: rest.erase winningTile :=
          List.erase_cons_tail (by simpa using same)
        have elsewhere : winningTile ∈ tile :: rest ↔ winningTile ∈ rest := by
          simp [Ne.symm same]
        rw [if_neg (by simpa using different), kept]
        simp only [elsewhere]
        cases found : (rest.map tileOf).findIdx? fun candidate =>
            candidate.Same (tileOf winningTile) with
        | none =>
            rw [found] at ih
            by_cases present : winningTile ∈ rest
            · rw [if_pos present] at ih
              cases ih
            · rw [if_neg present]
              rfl
        | some index =>
            rw [found] at ih
            by_cases present : winningTile ∈ rest
            · rw [if_pos present] at ih ⊢
              have moved := Except.ok.inj ih
              exact congrArg (fun tiles => Except.ok (tileOf tile :: tiles)) moved
            · rw [if_neg present] at ih
              cases ih

/-! ## From the concealed tiles on -/

section Forms

variable {score : CalculateScoreRequest} {hand : HandSnapshot}

/-- The builder from the concealed tiles on. -/
def addConcealedTiles (score : CalculateScoreRequest) (hand : HandSnapshot)
    (handtiles : Handtiles) : Checked Handtiles := do
  let concealedTiles ← hand.concealedTiles.mapM protoTileToMahjongTile
  let winningTile ← protoTileToMahjongTile score.winningTile
  let concealedTiles ← winningTilesOf hand concealedTiles winningTile
  let handtiles := concealedTiles.foldl addLipaiTile handtiles
  if handtiles.fulu.length * 3 + handtiles.lipai.length ≠ 14 then
    invalidArgument "winner hand snapshot does not form 14 tiles"
  else
    .ok (finishLipai handtiles)

/-- The thirteen tiles of a snapshot, in some order and perhaps with the winning
tile among them. -/
def IsFormOf (winningTile : Int) (tiles others : List Int) : Prop :=
  others.Perm tiles ∨ others.Perm (winningTile :: tiles)

theorem winningTilesOf_form {tiles : List Int}
    (thirteen : hand.melds.length * 3 + tiles.length = 13)
    (form : IsFormOf score.winningTile tiles hand.concealedTiles) :
    ∃ others : List Int, others.Perm tiles ∧
      winningTilesOf hand (hand.concealedTiles.map tileOf) (tileOf score.winningTile) =
        .ok (others.map tileOf ++ [tileOf score.winningTile]) := by
  unfold winningTilesOf
  cases form with
  | inl same =>
      have length := same.length_eq
      exact ⟨hand.concealedTiles, same, if_pos (by omega)⟩
  | inr whole =>
      have length := whole.length_eq
      rw [List.length_cons] at length
      have present : score.winningTile ∈ hand.concealedTiles :=
        whole.mem_iff.mpr List.mem_cons_self
      have rest := (whole.erase score.winningTile)
      rw [List.erase_cons_head] at rest
      refine ⟨_, rest, ?_⟩
      dsimp only
      rw [if_neg (by omega), if_pos (by omega), moveOneTileToBack_eq, if_pos present]

/-- Every form of the thirteen tiles ends in one hand, if it can be read. -/
theorem addConcealedTiles_form {tiles : List Int}
    (thirteen : hand.melds.length * 3 + tiles.length = 13)
    (form : IsFormOf score.winningTile tiles hand.concealedTiles)
    {handtiles : Handtiles} (melded : handtiles.fulu.length = hand.melds.length)
    (empty : handtiles.lipai = []) {result : Handtiles} :
    addConcealedTiles score hand handtiles = .ok result ↔
      (∀ tile ∈ score.winningTile :: tiles, Readable tile) ∧
        finishLipai ((tiles.map tileOf ++ [tileOf score.winningTile]).foldl addLipaiTile
          handtiles) = result := by
  have covers : (∀ tile ∈ score.winningTile :: tiles, Readable tile) ↔
      (∀ tile ∈ hand.concealedTiles, Readable tile) ∧ Readable score.winningTile := by
    cases form with
    | inl same => simp [same.mem_iff, and_comm]
    | inr whole => simp [whole.mem_iff, and_comm]
  obtain ⟨others, same, apart⟩ := winningTilesOf_form thirteen form
  obtain ⟨fulu, lipai⟩ := foldl_addLipaiTile
    (others.map tileOf ++ [tileOf score.winningTile]) handtiles
  have length := same.length_eq
  have fourteen : ¬ ((others.map tileOf ++ [tileOf score.winningTile]).foldl addLipaiTile
      handtiles).fulu.length * 3 + ((others.map tileOf ++
        [tileOf score.winningTile]).foldl addLipaiTile handtiles).lipai.length ≠ 14 := by
    rw [fulu, lipai, empty, melded]
    simp only [List.nil_append, List.length_append, List.length_map, List.length_singleton]
    omega
  unfold addConcealedTiles
  simp only [bind_eq_ok_iff, mapM_protoTileToMahjongTile_eq_ok_iff,
    protoTileToMahjongTile_eq_ok_iff, covers]
  constructor
  · intro built
    obtain ⟨_, ⟨concealed, rfl⟩, _, ⟨winning, rfl⟩, tilesToo, apartToo, finished⟩ := built
    obtain rfl := Except.ok.inj (apart.symm.trans apartToo)
    rw [if_neg fourteen, finishLipai_perm empty same] at finished
    exact ⟨⟨concealed, winning⟩, Except.ok.inj finished⟩
  · intro read
    obtain ⟨⟨concealed, winning⟩, rfl⟩ := read
    refine ⟨_, ⟨concealed, rfl⟩, _, ⟨winning, rfl⟩, _, apart, ?_⟩
    rw [if_neg fourteen, finishLipai_perm empty same]

/-- Two forms of the same thirteen tiles are built alike. -/
theorem buildWinningHandtilesForScoring_form {tiles others : List Int}
    (thirteen : hand.melds.length * 3 + tiles.length = 13)
    (form : IsFormOf score.winningTile tiles others) {handtiles : Handtiles} :
    buildWinningHandtilesForScoring score { hand with concealedTiles := others } =
        .ok handtiles ↔
      buildWinningHandtilesForScoring score { hand with concealedTiles := tiles } =
        .ok handtiles := by
  refine bind_eq_ok_congr fun quanfeng _ => bind_eq_ok_congr fun menfeng _ =>
    bind_eq_ok_congr fun melded meldsAdded => bind_eq_ok_congr fun flowered flowersAdded => ?_
  obtain ⟨meldedFulu, meldedLipai⟩ := length_of_melded meldsAdded
  obtain ⟨floweredFulu, floweredLipai⟩ := length_of_flowered flowersAdded
  have count : flowered.fulu.length = hand.melds.length := by
    rw [floweredFulu, meldedFulu]
    exact Nat.zero_add _
  have empty : flowered.lipai = [] := floweredLipai.trans meldedLipai
  exact (@addConcealedTiles_form score { hand with concealedTiles := others } tiles thirteen
    form flowered count empty handtiles).trans
    (@addConcealedTiles_form score { hand with concealedTiles := tiles } tiles thirteen
      (.inl (.refl tiles)) flowered count empty handtiles).symm

/-! ## Refusals -/

/-- A snapshot that is neither form of any thirteen tiles. -/
def IsMisfit (score : CalculateScoreRequest) (hand : HandSnapshot) : Prop :=
  let visibleTileCount := hand.melds.length * 3 + hand.concealedTiles.length
  visibleTileCount = 14 ∧ score.winningTile ∉ hand.concealedTiles ∨
    visibleTileCount ≠ 13 ∧ visibleTileCount ≠ 14

theorem winningTilesOf_misfit (misfit : IsMisfit score hand) (tiles : List Mahjong.Tile) :
    winningTilesOf hand (hand.concealedTiles.map tileOf) (tileOf score.winningTile) ≠
      .ok tiles := by
  intro apart
  unfold winningTilesOf at apart
  dsimp only at apart
  split at apart
  · rename_i thirteen
    cases misfit with
    | inl whole => omega
    | inr other => exact other.1 thirteen
  · split at apart
    · rename_i fourteen
      cases misfit with
      | inl whole =>
          rw [moveOneTileToBack_eq, if_neg whole.2] at apart
          cases apart
      | inr other => exact other.2 fourteen
    · cases apart

theorem buildWinningHandtilesForScoring_misfit (misfit : IsMisfit score hand)
    (handtiles : Handtiles) : buildWinningHandtilesForScoring score hand ≠ .ok handtiles := by
  intro built
  simp only [buildWinningHandtilesForScoring, bind_eq_ok_iff] at built
  obtain ⟨_, _, _, _, _, _, _, _, _, tilesRead, _, read, tiles, apart, _⟩ := built
  obtain ⟨_, rfl⟩ := mapM_protoTileToMahjongTile_eq_ok_iff.mp tilesRead
  obtain ⟨_, rfl⟩ := protoTileToMahjongTile_eq_ok_iff.mp read
  exact winningTilesOf_misfit misfit tiles apart

/-- The win a settlement evaluates: a snapshot of fourteen holds the winning tile. -/
def settledWin (score : CalculateScoreRequest) (hand : HandSnapshot) : WinDescription :=
  if hand.melds.length * 3 + hand.concealedTiles.length = 13 then
    scoredWin score hand
  else
    { scoredWin score hand with
      concealedTiles := hand.concealedTiles.erase score.winningTile }

/-- A snapshot of either form is built into the hand of its win. -/
theorem settledWin_builds_iff (fits : ¬ IsMisfit score hand) {handtiles : Handtiles} :
    (settledWin score hand).Builds handtiles ↔
      buildWinningHandtilesForScoring score hand = .ok handtiles := by
  unfold settledWin
  by_cases thirteen : hand.melds.length * 3 + hand.concealedTiles.length = 13
  · rw [if_pos thirteen]
    exact (buildWinningHandtilesForScoring_eq_ok_iff thirteen).symm
  · rw [if_neg thirteen]
    obtain ⟨others, fourteen⟩ := not_or.mp fits
    have count := Decidable.not_not.mp fun other => fourteen ⟨thirteen, other⟩
    have present := Decidable.not_not.mp fun absent => others ⟨count, absent⟩
    have length : hand.melds.length * 3 +
        (hand.concealedTiles.erase score.winningTile).length = 13 := by
      have positive := List.length_pos_of_mem present
      rw [List.length_erase_of_mem present]
      omega
    have whole := List.perm_cons_erase present
    exact (buildWinningHandtilesForScoring_eq_ok_iff length).symm.trans
      (buildWinningHandtilesForScoring_form length (.inr whole)).symm

theorem buildWinningHandtilesForScoring_eq_ok {handtiles : Handtiles}
    (built : buildWinningHandtilesForScoring score hand = .ok handtiles) :
    (settledWin score hand).Builds handtiles :=
  (settledWin_builds_iff fun misfit =>
    buildWinningHandtilesForScoring_misfit misfit handtiles built).mpr built

end Forms

def dragonPeng : Meld where
  kind := asI32 MeldKind.peng
  tiles := List.replicate 3 (asI32 Engine.Tile.redDragon)
  fromSeat := asI32 Seat.east
  claimedTile := asI32 Engine.Tile.redDragon
  concealed := false
  sourceEventSeq := 1

/-- South has a peng and these concealed tiles. -/
def pengSnapshot (concealedTiles : List Int) : HandSnapshot :=
  ⟨asI32 Seat.south, concealedTiles, [dragonPeng], [], 0, true, false⟩

/-- South wins by a drawn character one. -/
def pengSettlement (concealedTiles : List Int) : CalculateScoreRequest where
  roomId := "room"
  matchId := "room-match"
  roundId := "room-round"
  ruleConfig := some ⟨"gb", 4, true, true, true, true, 1⟩
  roundContext := some { defaultRoundContext with prevailingWind := asI32 Seat.east }
  winType := asI32 WinType.selfDraw
  winnerSeat := asI32 Seat.south
  discarderSeat := asI32 Seat.unspecified
  winningTile := asI32 Engine.Tile.character1
  hands := [pengSnapshot concealedTiles]
  settlementFlags := []
  terminalAction := none

end GbMahjong.Adapter
