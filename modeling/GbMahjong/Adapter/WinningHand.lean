import GbMahjong.Adapter.MeldProperties
import GbMahjong.Adapter.Validation

/-! The hand of a win. Two builders make the library's hand from two requests;
each makes the hand of one description of a win, which fixes every field of it. -/

set_option autoImplicit false

namespace GbMahjong.Adapter

open GbMahjong.Library GbMahjong.Library.Checked GbMahjong.Mahjong GbMahjong.Engine
open GbMahjong.Library.ProtoEnum (asI32 tryFrom)

/-! ## Listing the tiles of a pack -/

/-- A chi of which two tiles have the smallest id, so that its middle one does. -/
def AtFloor (meld : Meld) : Prop :=
  meld.kind = asI32 MeldKind.chi ∧ 2 ≤ meld.tiles.count (-2 ^ 31 + 1)

instance (meld : Meld) : Decidable (AtFloor meld) :=
  inferInstanceAs (Decidable (_ ∧ _))

/-- Of three tiles in order, two are the least there can be if the middle one is. -/
theorem middle_floor_iff {first middle last least : Int} (lower : first ≤ middle)
    (upper : middle ≤ last) (bound : least ≤ first) :
    2 ≤ [first, middle, last].count least ↔ middle = least := by
  simp only [List.count_cons, List.count_nil, beq_iff_eq]
  split_ifs <;> omega

/-- The tiles of a decoded meld are listed, but for the neighbour below the smallest id. -/
theorem allTileOf_of_decoded {meld : Meld} {actorSeat : Int} {pack : Pack}
    (decoded : protoMeldToMahjongPack meld actorSeat = .ok pack) :
    allTileOf pack =
      if AtFloor meld then .error .undefinedBehavior else .ok pack.getAllTile := by
  obtain ⟨shunzi, middleOf⟩ := protoMeldToMahjongPack_shunzi decoded
  unfold allTileOf
  by_cases chi : meld.kind = asI32 MeldKind.chi
  · obtain ⟨first, middle, last, sorted, tile⟩ := middleOf chi
    have readable := (protoMeldToMahjongPack_eq_ok decoded).1.2.1
    have ordered := List.pairwise_insertionSort (· ≤ ·) meld.tiles
    change (sortNumbers meld.tiles).Pairwise _ at ordered
    have same := sortNumbers_perm meld.tiles
    rw [sorted] at ordered same
    simp only [List.pairwise_cons, List.mem_cons, forall_eq_or_imp] at ordered
    obtain ⟨⟨lower, _⟩, ⟨upper, _⟩, _⟩ := ordered
    have inRange : ∀ tile ∈ [first, middle, last], Int32Range (tile - 1) :=
      fun tile member => (readable tile (same.subset member)).2.2
    have firstInRange := (inRange first (by simp)).1
    have middleInRange := (inRange middle (by simp)).2
    have floor : AtFloor meld ↔ ¬ Int32Range (middle - 1 - 1) := by
      rw [AtFloor, ← same.count_eq, middle_floor_iff lower upper (by omega)]
      refine ⟨fun least between => ?_, fun outside => ⟨chi, ?_⟩⟩
      · have := between.1
        omega
      · unfold Int32Range at outside
        omega
    rw [if_pos (shunzi.mpr chi), tile]
    change (int32 (middle - 1 - 1) >>= _) = _
    unfold int32
    by_cases below : AtFloor meld
    · rw [if_neg (floor.mp below), if_pos below]
      rfl
    · rw [if_pos (not_not.mp (mt floor.mpr below)), if_neg below]
      rfl
  · rw [if_neg fun run => chi (shunzi.mp run), if_neg fun below => chi below.1]

/-- What `AddMeld` makes of a meld, before it puts it into the hand. -/
def addedPack (actorSeat : Int) (meld : Meld) : Checked Pack := do
  let pack ← protoMeldToMahjongPack meld actorSeat
  let _ ← allTileOf pack
  .ok pack

def AddsMeld (actorSeat : Int) (meld : Meld) : Prop :=
  MeldChecked meld actorSeat ∧ ¬ AtFloor meld

theorem addedPack_eq_ok_iff {actorSeat : Int} {meld : Meld} {pack : Pack} :
    addedPack actorSeat meld = .ok pack ↔
      protoMeldToMahjongPack meld actorSeat = .ok pack ∧ ¬ AtFloor meld := by
  unfold addedPack
  rw [bind_eq_ok_iff]
  constructor
  · intro added
    obtain ⟨_, decoded, listed⟩ := added
    rw [allTileOf_of_decoded decoded] at listed
    split at listed
    · cases listed
    · rename_i above
      cases listed
      exact ⟨decoded, above⟩
  · intro decoded
    obtain ⟨decoded, above⟩ := decoded
    refine ⟨pack, decoded, ?_⟩
    rw [allTileOf_of_decoded decoded, if_neg above]
    rfl

theorem exists_addedPack_iff {actorSeat : Int} {meld : Meld} :
    (∃ pack, addedPack actorSeat meld = .ok pack) ↔ AddsMeld actorSeat meld := by
  simp only [addedPack_eq_ok_iff, exists_and_right]
  refine and_congr_left fun _ => ⟨fun decoded => ?_, protoMeldToMahjongPack_of_checked⟩
  obtain ⟨pack, decoded⟩ := decoded
  exact (protoMeldToMahjongPack_eq_ok decoded).1

/-- A meld that can be added, or is refused. -/
def MeldInRange (actorSeat : Int) (meld : Meld) : Prop :=
  StaysInt (meldNumbers meld) ∧ (MeldChecked meld actorSeat → ¬ AtFloor meld)

theorem addedPack_defined_iff {actorSeat : Int} {meld : Meld} :
    Defined (addedPack actorSeat meld) ↔ MeldInRange actorSeat meld := by
  unfold addedPack MeldInRange
  rw [defined_bind_iff, protoMeldToMahjongPack_defined_iff]
  refine and_congr_right fun _ => ?_
  constructor
  · intro rest checked below
    obtain ⟨pack, decoded⟩ := protoMeldToMahjongPack_of_checked checked
    have defined := (defined_bind_iff.mp (rest pack decoded)).1
    rw [allTileOf_of_decoded decoded, if_pos below] at defined
    exact defined rfl
  · intro above pack decoded
    rw [allTileOf_of_decoded decoded,
      if_neg (above (protoMeldToMahjongPack_eq_ok decoded).1)]
    exact (defined_ok _).bind fun _ _ => defined_ok _

/-! ## The hand of a win -/

/-- What the library's hand of a win depends on. -/
structure WinDescription where
  prevailingWind : Int
  seat : Int
  winType : Int
  isLastTile : Bool
  melds : List Meld
  flowers : List Int
  concealedTiles : List Int
  lastTile : Int

namespace WinDescription

def emptyHandtiles (win : WinDescription) (quanfeng menfeng : Int) : Handtiles :=
  { seedHandtilesTables .new with
    quanfeng
    menfeng
    zimo := isDrawnWin win.winType
    juezhang := false
    haidi := win.isLastTile
    gang := isKongWin win.winType }

/-- The description holds 13 tiles and the winning one, and this is their hand. -/
def Builds (win : WinDescription) (handtiles : Handtiles) : Prop :=
  ∃ quanfeng menfeng melded flowered tiles last,
    protoSeatToMahjongWind win.prevailingWind = .ok quanfeng ∧
    protoSeatToMahjongWind win.seat = .ok menfeng ∧
    win.melds.foldlM (addMeld win.seat) (win.emptyHandtiles quanfeng menfeng) =
      .ok melded ∧
    win.flowers.foldlM addFlower melded = .ok flowered ∧
    win.concealedTiles.mapM protoTileToMahjongTile = .ok tiles ∧
    protoTileToMahjongTile win.lastTile = .ok last ∧
    win.melds.length * 3 + win.concealedTiles.length = 13 ∧
    handtiles = finishLipai ((tiles ++ [last]).foldl addLipaiTile flowered)

end WinDescription

/-! ## The loops of the builders -/

section Loops

def addPack (handtiles : Handtiles) (pack : Pack) : Handtiles :=
  { handtiles with
    fulu := handtiles.fulu ++ [pack]
    fuluTable := handtiles.fuluTable.tally (pack.getAllTile.map Tile.getId) }

def addFlowerTile (handtiles : Handtiles) (tile : Mahjong.Tile) : Handtiles :=
  { handtiles with
    huapai := handtiles.huapai ++ [tile]
    huapaiTable := handtiles.huapaiTable.increment tile.getId }

variable (handtiles : Handtiles)

theorem addMeld_eq (seat : Int) : addMeld seat = fun handtiles meld =>
    (do .ok (addPack handtiles (← addedPack seat meld))) := by
  funext handtiles meld
  unfold addMeld addedPack
  cases decoded : protoMeldToMahjongPack meld seat with
  | error failure => rfl
  | ok pack =>
      change (allTileOf pack >>= _) = ((allTileOf pack >>= _) >>= _)
      rw [allTileOf_of_decoded decoded]
      split
      · rfl
      · simp only [addPack, CountTable.tally, List.foldl_map]
        rfl

theorem foldlM_addMeld_eq_ok_iff {seat : Int} {melds : List Meld} {melded : Handtiles} :
    melds.foldlM (addMeld seat) handtiles = .ok melded ↔
      ∃ packs, melds.mapM (addedPack seat) = .ok packs ∧
        packs.foldl addPack handtiles = melded := by
  rw [← foldlM_convert_eq_ok_iff, addMeld_eq]

theorem foldlM_addFlower_eq_ok_iff {flowers : List Int} {flowered : Handtiles} :
    flowers.foldlM addFlower handtiles = .ok flowered ↔
      (∀ flower ∈ flowers, Readable flower) ∧
        (flowers.map tileOf).foldl addFlowerTile handtiles = flowered := by
  refine (@foldlM_convert_eq_ok_iff _ _ _ protoTileToMahjongTile addFlowerTile flowers
    handtiles flowered).trans ?_
  simp only [mapM_protoTileToMahjongTile_eq_ok_iff]
  constructor
  · intro added
    obtain ⟨_, ⟨readable, rfl⟩, folded⟩ := added
    exact ⟨readable, folded⟩
  · intro added
    exact ⟨_, ⟨added.1, rfl⟩, added.2⟩

theorem foldl_addPack (packs : List Pack) :
    packs.foldl addPack handtiles = { handtiles with
      fulu := handtiles.fulu ++ packs
      fuluTable := handtiles.fuluTable.tally
        ((packs.flatMap Pack.getAllTile).map Tile.getId) } := by
  induction packs generalizing handtiles with
  | nil => simp [CountTable.tally]
  | cons pack rest ih =>
      rw [List.foldl_cons, ih, List.flatMap_cons, List.map_append, CountTable.tally_append]
      simp [addPack]

theorem foldl_addFlowerTile (tiles : List Mahjong.Tile) :
    tiles.foldl addFlowerTile handtiles = { handtiles with
      huapai := handtiles.huapai ++ tiles
      huapaiTable := handtiles.huapaiTable.tally (tiles.map Tile.getId) } := by
  induction tiles generalizing handtiles with
  | nil => simp [CountTable.tally]
  | cons tile rest ih =>
      rw [List.foldl_cons, ih]
      simp [addFlowerTile, CountTable.tally]

theorem foldl_addLipaiTile_eq (tiles : List Mahjong.Tile) :
    tiles.foldl addLipaiTile handtiles = { handtiles with
      lipai := handtiles.lipai ++ tiles
      lipaiTable := handtiles.lipaiTable.tally (tiles.map Tile.getId) } := by
  induction tiles generalizing handtiles with
  | nil => simp [CountTable.tally]
  | cons tile rest ih =>
      rw [List.foldl_cons, ih]
      simp [addLipaiTile, CountTable.tally]

theorem finishLipai_concat {handtiles : Handtiles} {tiles : List Mahjong.Tile}
    {last : Mahjong.Tile} (lipai : handtiles.lipai = tiles ++ [last]) :
    finishLipai handtiles = { handtiles with
      lipai := Tile.sort tiles ++
        [if handtiles.zimo then last.setZimo else last.setChonghu] } := by
  unfold finishLipai Handtiles.sortLipaiWithoutLastOne Handtiles.modifyLastLipai
  simp only [lipai, List.getLast?_concat, List.dropLast_concat, Option.toList_some]
  cases handtiles.zimo with
  | true => rfl
  | false => rfl

end Loops

/-! ## Counting the tiles of a hand -/

theorem length_of_melded {seat : Int} {melds : List Meld} {start melded : Handtiles}
    (added : melds.foldlM (addMeld seat) start = .ok melded) :
    melded.fulu.length = start.fulu.length + melds.length ∧ melded.lipai = start.lipai := by
  obtain ⟨packs, decoded, rfl⟩ := (foldlM_addMeld_eq_ok_iff start).mp added
  have lengths := (mapM_eq_ok_iff.mp decoded).length_eq
  rw [foldl_addPack, lengths]
  exact ⟨List.length_append, rfl⟩

theorem length_of_flowered {flowers : List Int} {start flowered : Handtiles}
    (added : flowers.foldlM addFlower start = .ok flowered) :
    flowered.fulu = start.fulu ∧ flowered.lipai = start.lipai := by
  obtain ⟨_, rfl⟩ := (foldlM_addFlower_eq_ok_iff start).mp added
  rw [foldl_addFlowerTile]
  exact ⟨rfl, rfl⟩

theorem foldl_addLipaiTile (tiles : List Mahjong.Tile) (start : Handtiles) :
    (tiles.foldl addLipaiTile start).fulu = start.fulu ∧
      (tiles.foldl addLipaiTile start).lipai = start.lipai ++ tiles := by
  rw [foldl_addLipaiTile_eq]
  exact ⟨rfl, rfl⟩

theorem count_of_tiles {win : WinDescription} {quanfeng menfeng : Int}
    {melded flowered : Handtiles}
    (meldsAdded : win.melds.foldlM (addMeld win.seat)
      (win.emptyHandtiles quanfeng menfeng) = .ok melded)
    (flowersAdded : win.flowers.foldlM addFlower melded = .ok flowered)
    (tiles : List Mahjong.Tile) :
    (tiles.foldl addLipaiTile flowered).fulu.length * 3 +
        (tiles.foldl addLipaiTile flowered).lipai.length =
      win.melds.length * 3 + tiles.length := by
  obtain ⟨meldedFulu, meldedLipai⟩ := length_of_melded meldsAdded
  obtain ⟨floweredFulu, floweredLipai⟩ := length_of_flowered flowersAdded
  obtain ⟨fulu, lipai⟩ := foldl_addLipaiTile tiles flowered
  have noFulu : (win.emptyHandtiles quanfeng menfeng).fulu.length = 0 := rfl
  have noLipai : (win.emptyHandtiles quanfeng menfeng).lipai = [] := rfl
  rw [fulu, lipai, floweredFulu, floweredLipai, meldedFulu, meldedLipai, noFulu, noLipai,
    List.nil_append, Nat.zero_add]

/-! ## The two builders -/

/-- The win a validation evaluates, once its type and its last tile are found. -/
def validatedWin (request : ValidateActionRequest) (actorState : EnginePlayerState)
    (privateHand : PrivateHandContext) (winType lastTile : Int) : WinDescription where
  prevailingWind := (request.roundContext.getD defaultRoundContext).prevailingWind
  seat := request.actorSeat
  winType
  isLastTile := (request.roundContext.getD defaultRoundContext).isLastTile
  melds := actorState.melds
  flowers := actorState.flowers
  concealedTiles := privateHand.concealedTiles
  lastTile

def scoredWin (score : CalculateScoreRequest) (hand : HandSnapshot) : WinDescription where
  prevailingWind := (score.roundContext.getD defaultRoundContext).prevailingWind
  seat := hand.seat
  winType := score.winType
  isLastTile := (score.roundContext.getD defaultRoundContext).isLastTile ||
    containsSettlementFlag score .lastTileDraw || containsSettlementFlag score .lastTileClaim
  melds := hand.melds
  flowers := hand.flowers
  concealedTiles := hand.concealedTiles
  lastTile := score.winningTile

theorem buildWinningHandtilesForValidation_eq_ok_iff {request : ValidateActionRequest}
    {handtiles : Handtiles} :
    buildWinningHandtilesForValidation request = .ok handtiles ↔
      ∃ actorState privateHand winType lastTile,
        (findActorSeat request).2 = some actorState ∧
        request.actorPrivateHand = some privateHand ∧
        extractWinType (candidateActionOf request) = .ok winType ∧
        lastTileOf (candidateActionOf request) winType privateHand = .ok lastTile ∧
        (validatedWin request actorState privateHand winType lastTile).Builds handtiles := by
  constructor
  · intro built
    unfold buildWinningHandtilesForValidation at built
    split at built
    · cases built
    · cases built
    · rename_i actorState privateHand seated held
      simp only [buildActorHandtiles, bind_eq_ok_iff] at built
      obtain ⟨quanfeng, east, menfeng, south, winType, typed, melded, meldsAdded, flowered,
        flowersAdded, concealed, tilesAdded, lastTile, named, added, lastAdded, finished⟩ :=
        built
      obtain ⟨last, read, same⟩ := bind_eq_ok_iff.mp lastAdded
      obtain ⟨tiles, tilesRead, folded⟩ := foldlM_convert_eq_ok_iff.mp tilesAdded
      cases same
      have whole : addLipaiTile concealed last =
          (tiles ++ [last]).foldl addLipaiTile flowered := by
        rw [List.foldl_append, folded]
        rfl
      rw [whole] at finished
      split at finished
      · cases finished
      · rename_i fourteen
        cases finished
        refine ⟨actorState, privateHand, winType, lastTile, seated, held, typed, named,
          quanfeng, menfeng, melded, flowered, tiles, last, east, south, meldsAdded,
          flowersAdded, tilesRead, read, ?_, rfl⟩
        have counted := @count_of_tiles
          (validatedWin request actorState privateHand winType lastTile) quanfeng menfeng
          melded flowered meldsAdded flowersAdded (tiles ++ [last])
        have lengths := (mapM_eq_ok_iff.mp tilesRead).length_eq
        rw [List.length_append, List.length_singleton, ← lengths] at counted
        change _ = actorState.melds.length * 3 + _ at counted
        change actorState.melds.length * 3 + privateHand.concealedTiles.length = 13
        omega
  · intro described
    obtain ⟨actorState, privateHand, winType, lastTile, seated, held, typed, named, quanfeng,
      menfeng, melded, flowered, tiles, last, east, south, meldsAdded, flowersAdded, tilesRead,
      read, thirteen, rfl⟩ := described
    have tilesAdded : privateHand.concealedTiles.foldlM addConcealedTile flowered =
        .ok (tiles.foldl addLipaiTile flowered) :=
      foldlM_convert_eq_ok_iff.mpr ⟨tiles, tilesRead, rfl⟩
    have lastAdded : addConcealedTile (tiles.foldl addLipaiTile flowered) lastTile =
        .ok ((tiles ++ [last]).foldl addLipaiTile flowered) := by
      rw [List.foldl_append]
      exact bind_eq_ok_iff.mpr ⟨last, read, rfl⟩
    have counted := count_of_tiles meldsAdded flowersAdded (tiles ++ [last])
    have lengths := (mapM_eq_ok_iff.mp tilesRead).length_eq
    rw [List.length_append, List.length_singleton, ← lengths] at counted
    unfold buildWinningHandtilesForValidation
    simp only [seated, held, buildActorHandtiles, bind_eq_ok_iff]
    refine ⟨quanfeng, east, menfeng, south, winType, typed, melded, meldsAdded, flowered,
      flowersAdded, _, tilesAdded, lastTile, named, _, lastAdded, ?_⟩
    rw [if_neg (by omega)]

theorem buildWinningHandtilesForScoring_eq_ok_iff {score : CalculateScoreRequest}
    {hand : HandSnapshot} {handtiles : Handtiles}
    (thirteen : hand.melds.length * 3 + hand.concealedTiles.length = 13) :
    buildWinningHandtilesForScoring score hand = .ok handtiles ↔
      (scoredWin score hand).Builds handtiles := by
  simp only [buildWinningHandtilesForScoring, winningTilesOf, thirteen, bind_eq_ok_iff,
    if_true]
  constructor
  · intro built
    obtain ⟨quanfeng, east, menfeng, south, melded, meldsAdded, flowered, flowersAdded,
      tiles, tilesRead, last, read, _, same, finished⟩ := built
    cases same
    split at finished
    · cases finished
    · cases finished
      exact ⟨quanfeng, menfeng, melded, flowered, tiles, last, east, south, meldsAdded,
        flowersAdded, tilesRead, read, thirteen, rfl⟩
  · intro builds
    obtain ⟨quanfeng, menfeng, melded, flowered, tiles, last, east, south, meldsAdded,
      flowersAdded, tilesRead, read, _, same⟩ := builds
    refine ⟨quanfeng, east, menfeng, south, melded, meldsAdded, flowered, flowersAdded,
      tiles, tilesRead, last, read, _, rfl, ?_⟩
    have counted := @count_of_tiles (scoredWin score hand) quanfeng menfeng melded flowered
      meldsAdded flowersAdded (tiles ++ [last])
    have lengths := (mapM_eq_ok_iff.mp tilesRead).length_eq
    rw [List.length_append, List.length_singleton, ← lengths] at counted
    change _ = hand.melds.length * 3 + (hand.concealedTiles.length + 1) at counted
    rw [if_neg (by omega), same]

/-! ## What a hand says of its win -/

theorem finishLipai_getLast? (handtiles : Handtiles) :
    (finishLipai handtiles).lipai.getLast?.map (·.tile) =
      handtiles.lipai.getLast?.map (·.tile) := by
  unfold finishLipai Handtiles.sortLipaiWithoutLastOne Handtiles.modifyLastLipai
  cases last : handtiles.lipai.getLast? with
  | none => rfl
  | some tile =>
      simp only [List.getLast?_concat, Option.toList_some, Option.map_some]
      split
      · rfl
      · rfl

theorem WinDescription.Builds.lastTile {win : WinDescription} {handtiles : Handtiles}
    (builds : win.Builds handtiles) :
    handtiles.lipai.getLast?.map (·.tile) = some (win.lastTile - 1) := by
  obtain ⟨_, _, _, flowered, tiles, last, _, _, _, _, _, read, _, rfl⟩ := builds
  rw [finishLipai_getLast?, (foldl_addLipaiTile _ flowered).2, ← List.append_assoc,
    List.getLast?_concat]
  obtain ⟨_, rfl⟩ := protoTileToMahjongTile_eq_ok_iff.mp read
  rfl

/-! ## Every field of the hand -/

namespace WinDescription

variable (win : WinDescription)

/-- The winning tile is marked as drawn or as claimed. -/
def markedTile : Mahjong.Tile :=
  if isDrawnWin win.winType then (tileOf win.lastTile).setZimo
  else (tileOf win.lastTile).setChonghu

/-- The hand of the description, once its winds and packs are decoded. -/
def handOf (quanfeng menfeng : Int) (packs : List Pack) : Handtiles :=
  let seeded := win.emptyHandtiles quanfeng menfeng
  { seeded with
    fulu := packs
    lipai := Tile.sort (win.concealedTiles.map tileOf) ++ [win.markedTile]
    huapai := win.flowers.map tileOf
    fuluTable := seeded.fuluTable.tally ((packs.flatMap Pack.getAllTile).map Tile.getId)
    lipaiTable := seeded.lipaiTable.tally
      ((win.concealedTiles.map tileOf ++ [tileOf win.lastTile]).map Tile.getId)
    huapaiTable := seeded.huapaiTable.tally ((win.flowers.map tileOf).map Tile.getId) }

theorem builds_iff {handtiles : Handtiles} :
    win.Builds handtiles ↔ ∃ quanfeng menfeng packs,
      protoSeatToMahjongWind win.prevailingWind = .ok quanfeng ∧
      protoSeatToMahjongWind win.seat = .ok menfeng ∧
      win.melds.mapM (addedPack win.seat) = .ok packs ∧
      (∀ tile ∈ win.flowers, Readable tile) ∧ (∀ tile ∈ win.concealedTiles, Readable tile) ∧
      Readable win.lastTile ∧ win.melds.length * 3 + win.concealedTiles.length = 13 ∧
      handtiles = win.handOf quanfeng menfeng packs := by
  have finished : ∀ quanfeng menfeng packs,
      finishLipai ((win.concealedTiles.map tileOf ++ [tileOf win.lastTile]).foldl addLipaiTile
        ((win.flowers.map tileOf).foldl addFlowerTile
          (packs.foldl addPack (win.emptyHandtiles quanfeng menfeng)))) =
        win.handOf quanfeng menfeng packs := by
    intro quanfeng menfeng packs
    rw [foldl_addPack, foldl_addFlowerTile, foldl_addLipaiTile_eq, finishLipai_concat rfl]
    rfl
  unfold Builds
  constructor
  · intro builds
    obtain ⟨quanfeng, menfeng, melded, flowered, tiles, last, east, south, meldsAdded,
      flowersAdded, tilesRead, lastRead, thirteen, rfl⟩ := builds
    obtain ⟨packs, decoded, rfl⟩ := (foldlM_addMeld_eq_ok_iff _).mp meldsAdded
    obtain ⟨flowers, rfl⟩ := (foldlM_addFlower_eq_ok_iff _).mp flowersAdded
    obtain ⟨concealed, rfl⟩ := mapM_protoTileToMahjongTile_eq_ok_iff.mp tilesRead
    obtain ⟨readable, rfl⟩ := protoTileToMahjongTile_eq_ok_iff.mp lastRead
    exact ⟨quanfeng, menfeng, packs, east, south, decoded, flowers, concealed, readable,
      thirteen, finished quanfeng menfeng packs⟩
  · intro described
    obtain ⟨quanfeng, menfeng, packs, east, south, decoded, flowers, concealed, readable,
      thirteen, rfl⟩ := described
    exact ⟨quanfeng, menfeng, _, _, _, _, east, south,
      (foldlM_addMeld_eq_ok_iff _).mpr ⟨packs, decoded, rfl⟩,
      (foldlM_addFlower_eq_ok_iff _).mpr ⟨flowers, rfl⟩,
      mapM_protoTileToMahjongTile_eq_ok_iff.mpr ⟨concealed, rfl⟩,
      protoTileToMahjongTile_eq_ok_iff.mpr ⟨readable, rfl⟩, thirteen,
      (finished quanfeng menfeng packs).symm⟩

end WinDescription

/-! ## The order of the concealed tiles -/

/-- Equal tiles are alike here, so sorting forgets the order. -/
theorem sort_tileOf_perm {tiles others : List Int} (same : tiles.Perm others) :
    Tile.sort (tiles.map tileOf) = Tile.sort (others.map tileOf) := by
  have sorted := sortNumbers_eq_of_perm (same.trans (sortNumbers_perm others).symm)
    (List.pairwise_insertionSort _ others)
  rw [sort_map_tileOf, sort_map_tileOf, sorted]

/-- The tail of the builders does not see the order of the tiles before the last. -/
theorem finishLipai_perm {handtiles : Handtiles} (empty : handtiles.lipai = [])
    {tiles others : List Int} (same : tiles.Perm others) (last : Mahjong.Tile) :
    finishLipai ((tiles.map tileOf ++ [last]).foldl addLipaiTile handtiles) =
      finishLipai ((others.map tileOf ++ [last]).foldl addLipaiTile handtiles) := by
  have counted : ((tiles.map tileOf ++ [last]).map Tile.getId).Perm
      ((others.map tileOf ++ [last]).map Tile.getId) :=
    ((same.map tileOf).append_right [last]).map Tile.getId
  have lipai : ∀ numbers : List Int,
      ((numbers.map tileOf ++ [last]).foldl addLipaiTile handtiles).lipai =
        numbers.map tileOf ++ [last] := by
    intro numbers
    rw [foldl_addLipaiTile_eq, empty, List.nil_append]
  rw [finishLipai_concat (lipai tiles), finishLipai_concat (lipai others)]
  simp only [foldl_addLipaiTile_eq, sort_tileOf_perm same,
    CountTable.tally_perm _ counted]

end GbMahjong.Adapter
