import GbMahjong.Adapter.AgreementProperties
import GbMahjong.Adapter.SnapshotProperties
import GbMahjong.Mahjong.Representation

/-! Which hands the adapter has evaluated. It fills the library's hand itself and
passes by the constructor that checks one, so what the constructor would have
refused is decided by the numbers of the request. -/

set_option autoImplicit false

namespace GbMahjong.Adapter

open GbMahjong.Library GbMahjong.Library.Checked GbMahjong.Mahjong GbMahjong.Engine
open GbMahjong.Library.ProtoEnum (asI32)

/-! ## The hands that reach the library -/

/-- A win that a request describes, with the hand the adapter evaluates for it. -/
inductive Evaluated : WinDescription → Handtiles → Prop where
  | validation (request : ValidateActionRequest) (actorState : EnginePlayerState)
      (privateHand : PrivateHandContext) (winType lastTile : Int) (handtiles : Handtiles)
      (seated : (findActorSeat request).2 = some actorState)
      (held : request.actorPrivateHand = some privateHand)
      (typed : extractWinType (candidateActionOf request) = .ok winType)
      (named : lastTileOf (candidateActionOf request) winType privateHand = .ok lastTile)
      (built : buildWinningHandtilesForValidation request = .ok handtiles) :
      Evaluated (validatedWin request actorState privateHand winType lastTile) handtiles
  | scoring (score : CalculateScoreRequest) (hand : HandSnapshot) (handtiles : Handtiles)
      (built : buildWinningHandtilesForScoring score hand = .ok handtiles) :
      Evaluated (settledWin score hand) handtiles

theorem Evaluated.builds {win : WinDescription} {handtiles : Handtiles}
    (evaluated : Evaluated win handtiles) : win.Builds handtiles := by
  cases evaluated with
  | validation request actorState privateHand winType lastTile handtiles seated held typed
      named built =>
      obtain ⟨_, _, _, _, sameState, sameHand, sameType, sameTile, builds⟩ :=
        buildWinningHandtilesForValidation_eq_ok_iff.mp built
      rw [seated] at sameState
      rw [held] at sameHand
      rw [typed] at sameType
      cases sameState
      cases sameHand
      cases sameType
      rw [named] at sameTile
      cases sameTile
      exact builds
  | scoring score hand handtiles built => exact buildWinningHandtilesForScoring_eq_ok built

/-! ## Counting tiles by their numbers -/

theorem count_ids (numbers : List Int) (id : Int) :
    ((numbers.map tileOf).map Tile.getId).count id = numbers.count (id + 1) := by
  have injective : Function.Injective fun number : Int => number - 1 := by
    intro first second same
    dsimp only at same
    omega
  have counted := List.count_map_of_injective numbers _ injective (id + 1)
  rw [show id + 1 - 1 = id by omega] at counted
  rw [List.map_map]
  exact counted

/-- The packs of a hand hold the tiles the library gets for its melds. -/
theorem packs_getAllTile {seat : Int} {melds : List Meld} {packs : List Pack}
    (decoded : melds.mapM (addedPack seat) = .ok packs) :
    packs.flatMap Pack.getAllTile = (melds.flatMap libraryTiles).map tileOf := by
  have pointwise := mapM_eq_ok_iff.mp decoded
  clear decoded
  induction pointwise with
  | nil => rfl
  | cons read _ ih =>
      obtain ⟨_, tiles, _⟩ := protoMeldToMahjongPack_eq_ok (addedPack_eq_ok_iff.mp read).1
      rw [List.flatMap_cons, List.flatMap_cons, List.map_append, tiles, ih]

namespace WinDescription

variable {win : WinDescription} {handtiles : Handtiles}

/-- The tiles the library gets for the melds. -/
def meldTiles (win : WinDescription) : List Int :=
  win.melds.flatMap libraryTiles

/-- The concealed tiles and the winning one. -/
def standingTiles (win : WinDescription) : List Int :=
  win.lastTile :: win.concealedTiles

theorem markedTile_getId (win : WinDescription) :
    win.markedTile.getId = (tileOf win.lastTile).getId := by
  unfold markedTile
  split
  · rfl
  · rfl

/-- The tiles of the hand, counted. -/
theorem Builds.counts (builds : win.Builds handtiles) (id : Int) :
    handtiles.fuluIds.count id = win.meldTiles.count (id + 1) ∧
      handtiles.lipaiIds.count id = win.standingTiles.count (id + 1) ∧
      handtiles.huapaiIds.count id = win.flowers.count (id + 1) := by
  obtain ⟨quanfeng, menfeng, packs, _, _, decoded, _, _, _, _, rfl⟩ := win.builds_iff.mp builds
  refine ⟨?_, ?_, count_ids win.flowers id⟩
  · have tiles := packs_getAllTile decoded
    change List.count id ((packs.flatMap Pack.getAllTile).map Tile.getId) = _
    rw [tiles]
    exact count_ids win.meldTiles id
  · have ids : (win.handOf quanfeng menfeng packs).lipaiIds.Perm
        ((win.standingTiles.map tileOf).map Tile.getId) := by
      change ((Tile.sort _ ++ [win.markedTile]).map Tile.getId).Perm _
      rw [List.map_append, List.map_singleton, markedTile_getId]
      exact (((Tile.sort_perm _).map Tile.getId).append_right _).trans
        (List.perm_append_singleton _ _)
    rw [ids.count_eq]
    exact count_ids win.standingTiles id

theorem emptyHandtiles_tables (win : WinDescription) (quanfeng menfeng id : Int) :
    ((win.emptyHandtiles quanfeng menfeng).fuluTable id).getD 0 = 0 ∧
      ((win.emptyHandtiles quanfeng menfeng).lipaiTable id).getD 0 = 0 := by
  simp only [emptyHandtiles, seedHandtilesTables, CountTable.seed_apply]
  constructor
  · split
    · rfl
    · rfl
  · split
    · rfl
    · split
      · rfl
      · rfl

theorem emptyHandtiles_huapaiTable (win : WinDescription) (quanfeng menfeng id : Int) :
    (win.emptyHandtiles quanfeng menfeng).huapaiTable id =
      if id ∈ idRange tileMei (tileDong + 1) then some 0 else none :=
  CountTable.seed_apply _ _ _

/-- The tables the adapter keeps by hand count the tiles of the hand. -/
theorem Builds.tabled (builds : win.Builds handtiles) : handtiles.Tabled := by
  have counted := builds.counts
  obtain ⟨quanfeng, menfeng, packs, _, _, _, _, _, _, _, rfl⟩ := win.builds_iff.mp builds
  have empty := win.emptyHandtiles_tables quanfeng menfeng
  have flowerEntry := win.emptyHandtiles_huapaiTable quanfeng menfeng
  refine ⟨fun id => ?_, fun id => ?_, fun id => ?_, fun id first last => ?_⟩
  · refine (CountTable.tally_getD _ _ _).trans ?_
    rw [(empty id).1, Nat.zero_add]
    rfl
  · refine (CountTable.tally_getD _ _ _).trans ?_
    rw [(empty id).2, Nat.zero_add, (counted id).2.1, ← List.map_singleton, ← List.map_append,
      count_ids]
    exact (List.perm_append_singleton _ _).count_eq _
  · have noFlowers : ((win.emptyHandtiles quanfeng menfeng).huapaiTable id).getD 0 = 0 := by
      rw [flowerEntry]
      split
      · rfl
      · rfl
    refine (CountTable.tally_getD _ _ _).trans ?_
    rw [noFlowers, Nat.zero_add]
    rfl
  · have entry : (win.emptyHandtiles quanfeng menfeng).huapaiTable id = some 0 := by
      rw [flowerEntry, if_pos (mem_idRange.mpr ⟨first, Int.lt_add_one_of_le last⟩)]
    exact Option.isSome_of_eq_some (CountTable.tally_of_entry entry _)

theorem Builds.handTileCount (builds : win.Builds handtiles) (tile : Mahjong.Tile) :
    handtiles.handTileCount tile =
      win.standingTiles.count (tile.getId + 1) + win.meldTiles.count (tile.getId + 1) := by
  obtain ⟨fulu, lipai, _⟩ := builds.counts tile.getId
  unfold Handtiles.handTileCount Handtiles.lipaiTileCount Handtiles.fuluTileCount
  rw [builds.tabled.lipai, builds.tabled.fulu, lipai, fulu]

end WinDescription

/-! ## Tiles in supply -/

/-- The hand passes the constructor's count of its tiles, and its flowers are flowers. -/
def Admitted (handtiles : Handtiles) : Prop :=
  handtiles.clearTables.generateTable.2 = 0 ∧
    ∀ flower ∈ handtiles.huapai, tileMei ≤ flower.getId ∧ flower.getId ≤ tileDong

instance (handtiles : Handtiles) : Decidable (Admitted handtiles) :=
  inferInstanceAs (Decidable (_ ∧ _))

/-- No kind of tile is named more than four times, no flower twice, and nothing but
flowers as a flower. -/
structure WithinSupply (win : WinDescription) : Prop where
  kinds : ∀ tile, asI32 Engine.Tile.character1 ≤ tile → tile ≤ asI32 Engine.Tile.seasonWinter →
    win.meldTiles.count tile + win.standingTiles.count tile ≤ 4
  flowers : ∀ tile, asI32 Engine.Tile.flowerPlum ≤ tile →
    tile ≤ asI32 Engine.Tile.seasonWinter →
    win.standingTiles.count tile + win.flowers.count tile ≤ 1
  onlyFlowers : ∀ tile ∈ win.flowers, asI32 Engine.Tile.flowerPlum ≤ tile ∧
    tile ≤ asI32 Engine.Tile.seasonWinter

/-- The library's id of a tile is one less than its number in a request. -/
theorem forall_number_iff {holds : Int → Prop} {first last : Int} :
    (∀ tile, first + 1 ≤ tile → tile ≤ last + 1 → holds tile) ↔
      ∀ id, first ≤ id → id ≤ last → holds (id + 1) := by
  constructor
  · intro all id lower upper
    exact all (id + 1) (by omega) (by omega)
  · intro all tile lower upper
    have held := all (tile - 1) (by omega) (by omega)
    rwa [Int.sub_add_cancel] at held

/-- The constructor would admit exactly the evaluated hands that are within supply. -/
theorem admitted_iff_withinSupply {win : WinDescription} {handtiles : Handtiles}
    (evaluated : Evaluated win handtiles) : Admitted handtiles ↔ WithinSupply win := by
  have builds := evaluated.builds
  have huapai : handtiles.huapai = win.flowers.map tileOf := by
    obtain ⟨_, _, _, _, _, _, _, _, _, _, rfl⟩ := win.builds_iff.mp builds
    rfl
  have fulu : ∀ id, handtiles.fuluIds.count id = win.meldTiles.count (id + 1) :=
    fun id => (builds.counts id).1
  have lipai : ∀ id, handtiles.lipaiIds.count id = win.standingTiles.count (id + 1) :=
    fun id => (builds.counts id).2.1
  have flowered : ∀ id, handtiles.huapaiIds.count id = win.flowers.count (id + 1) :=
    fun id => (builds.counts id).2.2
  unfold Admitted
  rw [Handtiles.generateTable_eq_zero_iff, huapai, List.forall_mem_map]
  simp only [fulu, lipai, flowered]
  have kindsShift := @forall_number_iff
    (fun tile => win.meldTiles.count tile + win.standingTiles.count tile ≤ 4) tile1m tileDong
  have flowersShift := @forall_number_iff
    (fun tile => win.standingTiles.count tile + win.flowers.count tile ≤ 1) tileMei tileDong
  constructor
  · intro admitted
    obtain ⟨⟨kinds, flowers⟩, onlyFlowers⟩ := admitted
    refine ⟨kindsShift.mpr fun id lower upper => ?_, flowersShift.mpr flowers, ?_⟩
    · exact kinds id lower (Int.lt_add_one_of_le upper)
    · intro tile member
      obtain ⟨lower, upper⟩ := onlyFlowers tile member
      exact ⟨Int.add_le_of_le_sub_right lower, Int.le_add_of_sub_right_le upper⟩
  · intro within
    obtain ⟨kinds, flowers, onlyFlowers⟩ := within
    refine ⟨⟨fun id lower upper => ?_, flowersShift.mp flowers⟩, ?_⟩
    · exact kindsShift.mp kinds id lower (Int.le_of_lt_add_one upper)
    · intro tile member
      obtain ⟨lower, upper⟩ := onlyFlowers tile member
      exact ⟨Int.le_sub_right_of_add_le lower, Int.sub_right_le_of_le_add upper⟩

/-- East has a concealed kong and a flower. -/
def flowerKongPlayer : EnginePlayerState where
  seat := asI32 Seat.east
  currentScore := 0
  concealedTileCount := 11
  melds := [{
    kind := asI32 MeldKind.concealedKong
    tiles := List.replicate 4 (asI32 Engine.Tile.bamboo5)
    fromSeat := asI32 Seat.unspecified
    claimedTile := asI32 Engine.Tile.unspecified
    concealed := true
    sourceEventSeq := 1 }]
  discards := []
  flowers := [asI32 Engine.Tile.flowerPlum]

/-- Three runs and an east wind, and the other one drawn. -/
def flowerKongHand : PrivateHandContext where
  concealedTiles := [2, 3, 4, 5, 6, 7, 26, 27, 28, 29]
  drawnTile := asI32 Engine.Tile.eastWind

/-- East wins on the tile drawn after the kong. -/
def flowerKongRequest : ValidateActionRequest :=
  { orphansRequest .eastWind with
    candidateAction := some ⟨some (.declareWin ⟨asI32 WinType.kongDraw,
      asI32 Engine.Tile.eastWind, asI32 Seat.unspecified, 0⟩)⟩
    players := [flowerKongPlayer]
    actorPrivateHand := some flowerKongHand }

def flowerKongWin : WinDescription :=
  validatedWin flowerKongRequest flowerKongPlayer flowerKongHand (asI32 WinType.kongDraw)
    (asI32 Engine.Tile.eastWind)

theorem flowerKong_built : ∃ handtiles,
    buildWinningHandtilesForValidation flowerKongRequest = .ok handtiles ∧
      handtiles.fulu.length = 1 ∧ handtiles.huapaiCount = .ok 1 ∧ handtiles.gang = true ∧
      handtiles.zimo = true := by
  have built : (buildWinningHandtilesForValidation flowerKongRequest).map
      (fun handtiles => (handtiles.fulu.length, handtiles.huapaiCount, handtiles.gang,
        handtiles.zimo)) = .ok (1, .ok 1, true, true) := by decide +kernel
  obtain ⟨handtiles, built, fields⟩ := map_eq_ok_iff.mp built
  simp only [Prod.mk.injEq] at fields
  exact ⟨handtiles, built, fields⟩

theorem flowerKong_evaluated {handtiles : Handtiles}
    (built : buildWinningHandtilesForValidation flowerKongRequest = .ok handtiles) :
    Evaluated flowerKongWin handtiles :=
  .validation _ _ _ _ _ handtiles rfl rfl rfl rfl built

theorem admitted_iff_withinSupply_flowerKong :
    ∃ handtiles, buildWinningHandtilesForValidation flowerKongRequest = .ok handtiles ∧
      handtiles.huapaiCount = .ok 1 ∧ Admitted handtiles := by
  obtain ⟨handtiles, built, _, flowers, _⟩ := flowerKong_built
  refine ⟨handtiles, built, flowers,
    (admitted_iff_withinSupply (flowerKong_evaluated built)).mpr ?_⟩
  have kinds : ∀ tile ∈ idRange 2 44, flowerKongWin.meldTiles.count tile +
      flowerKongWin.standingTiles.count tile ≤ 4 := by decide +kernel
  have single : ∀ tile ∈ idRange 36 44, flowerKongWin.standingTiles.count tile +
      flowerKongWin.flowers.count tile ≤ 1 := by decide +kernel
  exact ⟨fun tile first last => kinds tile (mem_idRange.mpr ⟨first, Int.lt_add_one_of_le last⟩),
    fun tile first last => single tile (mem_idRange.mpr ⟨first, Int.lt_add_one_of_le last⟩),
    by decide⟩

/-- East holds the concealed tiles and declares a self-drawn win on the drawn one. -/
def drawnRequest (concealedTiles : List Int) (drawnTile : Int) : ValidateActionRequest :=
  { orphansRequest .character1 with
    candidateAction := some ⟨some (.declareWin
      ⟨asI32 WinType.selfDraw, drawnTile, asI32 Seat.unspecified, 0⟩)⟩
    actorPrivateHand := some ⟨concealedTiles, drawnTile⟩ }

/-- East's hand has the character one five times: in a triplet and in two runs. -/
theorem fiveOnes_not_admitted :
    ∃ handtiles, buildWinningHandtilesForValidation
        (drawnRequest [2, 2, 2, 2, 3, 4, 2, 3, 4, 5, 6, 7, 10] 10) = .ok handtiles ∧
      ¬ Admitted handtiles := by
  have refused : (buildWinningHandtilesForValidation
      (drawnRequest [2, 2, 2, 2, 3, 4, 2, 3, 4, 5, 6, 7, 10] 10)).map
        (fun handtiles => decide (Admitted handtiles)) = .ok false := by decide +kernel
  obtain ⟨handtiles, built, refused⟩ := map_eq_ok_iff.mp refused
  exact ⟨handtiles, built, of_decide_eq_false refused⟩

/-! ## The circumstances of the win -/

/-- A win on the tile after a kong has a kong among its melds, and a kong is robbed
before the last tile, of a tile the hand does not hold. -/
structure CircumstancesFit (win : WinDescription) : Prop where
  kongDraw : win.winType = asI32 WinType.kongDraw → ∃ meld ∈ win.melds, IsKong meld
  robKong : win.winType = asI32 WinType.robKong →
    win.isLastTile = false ∧ win.lastTile ∉ win.concealedTiles ∧
      win.lastTile ∉ win.meldTiles

theorem packs_kong_iff {seat : Int} {melds : List Meld} {packs : List Pack}
    (decoded : melds.mapM (addedPack seat) = .ok packs) :
    (∃ pack ∈ packs, pack.type = .gang) ↔ ∃ meld ∈ melds, IsKong meld := by
  have pointwise := mapM_eq_ok_iff.mp decoded
  clear decoded
  induction pointwise with
  | nil => simp
  | cons read _ ih =>
      obtain ⟨_, _, _, kong⟩ := protoMeldToMahjongPack_eq_ok (addedPack_eq_ok_iff.mp read).1
      simp only [List.exists_mem_cons_iff, kong, ih]

theorem isKongWin_iff (winType : Int) :
    (isKongWin winType = true ∧ isDrawnWin winType = true ↔
        winType = asI32 WinType.kongDraw) ∧
      (isKongWin winType = true ∧ isDrawnWin winType = false ↔
        winType = asI32 WinType.robKong) := by
  have robbed : asI32 WinType.robKong = 3 := rfl
  have kongDraw : asI32 WinType.kongDraw = 4 := rfl
  have selfDraw : asI32 WinType.selfDraw = 1 := rfl
  simp only [isKongWin, isDrawnWin, robbed, kongDraw, selfDraw, Bool.or_eq_true,
    Bool.or_eq_false_iff, beq_iff_eq, beq_eq_false_iff_ne]
  omega

/-- The hand holds its last tile once when no other tile of it is alike. -/
theorem WinDescription.held_once_iff (win : WinDescription) :
    win.standingTiles.count win.lastTile + win.meldTiles.count win.lastTile ≤ 1 ↔
      win.lastTile ∉ win.concealedTiles ∧ win.lastTile ∉ win.meldTiles := by
  have standing : win.standingTiles.count win.lastTile =
      win.concealedTiles.count win.lastTile + 1 := List.count_cons_self
  rw [standing, ← List.count_eq_zero, ← List.count_eq_zero]
  omega

/-- The constructor would accept exactly the circumstances that fit the hand. -/
theorem checkWinState_iff_circumstancesFit {win : WinDescription} {handtiles : Handtiles}
    (evaluated : Evaluated win handtiles) :
    handtiles.checkWinState = 0 ↔ CircumstancesFit win := by
  have builds := evaluated.builds
  have counted := builds.handTileCount
  obtain ⟨quanfeng, menfeng, packs, _, _, decoded, _, _, _, _, rfl⟩ := win.builds_iff.mp builds
  have last : (win.handOf quanfeng menfeng packs).getLastLipai = win.markedTile := by
    unfold Handtiles.getLastLipai WinDescription.handOf
    rw [List.getLast?_concat]
    rfl
  have number : win.markedTile.getId + 1 = win.lastTile := by
    rw [win.markedTile_getId]
    exact Int.sub_add_cancel win.lastTile 1
  obtain ⟨drawn, robbed⟩ := isKongWin_iff win.winType
  rw [Handtiles.checkWinState_eq_zero_iff rfl, last, counted, number, win.held_once_iff]
  change (isKongWin win.winType = true → isDrawnWin win.winType = true →
      ∃ pack ∈ packs, pack.type = .gang) ∧
    (isKongWin win.winType = true → isDrawnWin win.winType = false →
      win.isLastTile = false ∧ _) ↔ _
  rw [← and_imp, ← and_imp, drawn, robbed, packs_kong_iff decoded]
  exact ⟨fun rules => ⟨rules.1, rules.2⟩, fun fit => ⟨fit.kongDraw, fit.robKong⟩⟩

theorem checkWinState_iff_circumstancesFit_flowerKong :
    ∃ handtiles, buildWinningHandtilesForValidation flowerKongRequest = .ok handtiles ∧
      handtiles.gang = true ∧ handtiles.zimo = true ∧ handtiles.checkWinState = 0 := by
  obtain ⟨handtiles, built, _, _, kong, drawn⟩ := flowerKong_built
  refine ⟨handtiles, built, kong, drawn,
    (checkWinState_iff_circumstancesFit (flowerKong_evaluated built)).mpr ⟨fun _ => ?_, nofun⟩⟩
  exact ⟨_, List.mem_singleton_self _, .inr (.inl rfl)⟩

/-- A win on the orphans, as if there had been a kong. -/
def kongDrawRequest : ValidateActionRequest :=
  { orphansRequest .character1 with
    candidateAction := some ⟨some (.declareWin ⟨asI32 WinType.kongDraw,
      asI32 Engine.Tile.character1, asI32 Seat.unspecified, 0⟩)⟩ }

/-- East declares the orphans won on the tile after a kong, without any kong. -/
theorem kongDraw_without_kong :
    ∃ handtiles, buildWinningHandtilesForValidation kongDrawRequest = .ok handtiles ∧
      handtiles.gang = true ∧ handtiles.zimo = true ∧ handtiles.fulu = [] ∧
      handtiles.checkWinState = -7 := by
  have refused : (buildWinningHandtilesForValidation kongDrawRequest).map
      (fun handtiles => (handtiles.gang, handtiles.zimo, handtiles.fulu,
        handtiles.checkWinState)) = .ok (true, true, [], -7) := by decide +kernel
  obtain ⟨handtiles, built, refused⟩ := map_eq_ok_iff.mp refused
  simp only [Prod.mk.injEq] at refused
  exact ⟨handtiles, built, refused⟩

end GbMahjong.Adapter
