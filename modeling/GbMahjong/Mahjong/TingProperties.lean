import GbMahjong.Mahjong.JudgeProperties
import GbMahjong.Mahjong.Representation

/-! `CalcTing` lists the tiles that a hand waits for. -/

set_option autoImplicit false

namespace GbMahjong.Mahjong

open GbMahjong.Library Shape

/-- With this tile in the last place the hand is complete, and no fifth tile of a kind. -/
def Waits (handtiles : Handtiles) (id : Int) : Prop :=
  Winning handtiles.fulu.length (handtiles.lipaiIds.dropLast ++ [id]) ∧
    handtiles.fuluIds.count id + handtiles.lipaiIds.dropLast.count id ≠ 4

/-- What stays of a hand while its last tile is exchanged. -/
structure ExchangedLast (handtiles current : Handtiles) : Prop where
  fulu : current.fulu = handtiles.fulu
  fuluTable : current.fuluTable = handtiles.fuluTable
  lipai : ∃ last, current.lipai = handtiles.lipai.dropLast ++ [last]
  counted : ∀ id, (current.lipaiTable id).getD 0 = current.lipaiIds.count id

variable {handtiles current : Handtiles}

theorem ExchangedLast.start (wellRepresented : handtiles.WellRepresented) :
    ExchangedLast handtiles handtiles := by
  obtain ⟨last, isLast, _⟩ := wellRepresented.marked
  obtain ⟨before, whole⟩ := List.getLast?_eq_some_iff.mp isLast
  refine ⟨rfl, rfl, ⟨last, ?_⟩, wellRepresented.tabled.lipai⟩
  rw [whole, List.dropLast_concat]

/-- The table loses the old tile and gains the new one. -/
theorem ExchangedLast.setLastLipai (exchanged : ExchangedLast handtiles current) (tile : Tile) :
    ExchangedLast handtiles (current.setLastLipai tile) ∧
      (current.setLastLipai tile).lipai = handtiles.lipai.dropLast ++ [tile] := by
  obtain ⟨fulu, fuluTable, ⟨last, lipai⟩, counted⟩ := exchanged
  have set : current.setLastLipai tile =
      { current with
        lipai := handtiles.lipai.dropLast ++ [tile]
        lipaiTable :=
          (current.lipaiTable.adjust last.getId (· - 1)).adjust tile.getId (· + 1) } := by
    simp [Handtiles.setLastLipai, lipai]
  rw [set]
  refine ⟨⟨fulu, fuluTable, ⟨_, rfl⟩, fun other => ?_⟩, rfl⟩
  have before := counted other
  have beforeId := counted tile.getId
  have beforeLast := counted last.getId
  simp only [Handtiles.lipaiIds, lipai, List.map_append, List.map_cons, List.map_nil,
    List.count_append, List.count_singleton] at before beforeId beforeLast ⊢
  simp only [CountTable.adjust]
  grind

/-- A mark on the last tile is not counted. -/
theorem ExchangedLast.modifyLastLipai (exchanged : ExchangedLast handtiles current)
    {change : Tile → Tile} (kept : ∀ tile, (change tile).getId = tile.getId) :
    ExchangedLast handtiles (current.modifyLastLipai change) := by
  obtain ⟨fulu, fuluTable, ⟨last, lipai⟩, counted⟩ := exchanged
  have changed : (current.modifyLastLipai change).lipai =
      handtiles.lipai.dropLast ++ [change last] := by
    simp [Handtiles.modifyLastLipai, lipai]
  refine ⟨fulu, fuluTable, ⟨_, changed⟩, fun other => ?_⟩
  have same : (current.modifyLastLipai change).lipaiIds = current.lipaiIds := by
    rw [Handtiles.lipaiIds, Handtiles.lipaiIds, changed, lipai, List.map_append, List.map_append,
      List.map_singleton, List.map_singleton, kept]
  rw [same]
  exact counted other

theorem ExchangedLast.setTile (exchanged : ExchangedLast handtiles current) (id : Int) :
    ExchangedLast handtiles (current.setTile (.ofId id)) ∧
      (current.setTile (.ofId id)).lipai = handtiles.lipai.dropLast ++ [⟨id, 2⟩] := by
  obtain ⟨kept, lipai⟩ := exchanged.setLastLipai (.ofId id)
  refine ⟨kept.modifyLastLipai fun _ => rfl, ?_⟩
  rw [Handtiles.setTile, Handtiles.modifyLastLipai, lipai, List.getLast?_concat,
    List.dropLast_concat]
  rfl

/-- With any tile in the last place, `JudgeHu` tells whether it completes the hand. -/
theorem ExchangedLast.judgeHu_iff (wellRepresented : handtiles.WellRepresented)
    (listed : ∀ tile ∈ handtiles.lipai.dropLast, tile.Listed)
    (exchanged : ExchangedLast handtiles current) {last : Tile}
    (lipai : current.lipai = handtiles.lipai.dropLast ++ [last]) (inTables : last.Listed) :
    judgeHu current = true ↔
      Winning handtiles.fulu.length (handtiles.lipaiIds.dropLast ++ [last.tile]) := by
  have unmarked : ∀ tile ∈ handtiles.lipai.dropLast, tile.drawflag = 0 := fun tile member =>
    wellRepresented.unmarked tile (List.mem_append_left _ (List.mem_append_right _ member))
  have ids : current.lipaiIds = handtiles.lipaiIds.dropLast ++ [last.tile] := by
    rw [Handtiles.lipaiIds, lipai, Handtiles.lipaiIds, List.map_append, List.map_dropLast]
    rfl
  have length : current.lipai.length = handtiles.lipai.length := by
    have two := wellRepresented.atLeastTwo
    rw [lipai, List.length_append, List.length_dropLast, List.length_singleton]
    omega
  have whole : current.Whole := by
    have fulu := wellRepresented.fulu
    have fourteen := wellRepresented.fourteen
    refine ⟨?_, ?_, ?_, ?_⟩
    · rw [exchanged.fulu]
      exact fulu
    · rw [exchanged.fulu, length]
      omega
    · rw [lipai]
      exact List.forall_mem_append.mpr ⟨listed, List.forall_mem_singleton.mpr inTables⟩
    · rw [lipai]
      exact ⟨_, _, List.perm_append_singleton _ _ |>.subperm, unmarked⟩
  rw [Mahjong.judgeHu_iff whole, exchanged.fulu, ids]

theorem ExchangedLast.waits_iff (wellRepresented : handtiles.WellRepresented)
    (listed : ∀ tile ∈ handtiles.lipai.dropLast, tile.Listed)
    (exchanged : ExchangedLast handtiles current) {id : Int} (first : 1 ≤ id) (last : id ≤ 42) :
    let next := current.setTile (.ofId id)
    (judgeHu next && next.handTileCount (.ofId id) != 5) = true ↔ Waits handtiles id := by
  intro next
  obtain ⟨kept, lipai⟩ := exchanged.setTile id
  change next.lipai = _ at lipai
  have inTables : (Tile.mk id 2).Listed :=
    ⟨Int.le_trans (by decide) first, Int.le_trans last (by decide)⟩
  have ids : next.lipaiIds = handtiles.lipaiIds.dropLast ++ [id] := by
    rw [Handtiles.lipaiIds, lipai, Handtiles.lipaiIds, List.map_append, List.map_dropLast]
    rfl
  have count : next.handTileCount (.ofId id) =
      handtiles.fuluIds.count id + handtiles.lipaiIds.dropLast.count id + 1 := by
    rw [Handtiles.handTileCount, Handtiles.lipaiTileCount, Handtiles.fuluTileCount, kept.counted,
      kept.fuluTable, wellRepresented.tabled.fulu, ids, List.count_append]
    simp only [Tile.ofId, Tile.getId, List.count_singleton_self]
    omega
  rw [Bool.and_eq_true, kept.judgeHu_iff wellRepresented listed lipai inTables, bne_iff_ne, count,
    Waits]
  exact and_congr_right fun _ => by omega

/-- A run of the loop keeps, in order, the tiles that complete the hand. -/
theorem foldl_tryTing (wellRepresented : handtiles.WellRepresented)
    (listed : ∀ tile ∈ handtiles.lipai.dropLast, tile.Listed) {ids : List Int}
    (inside : ∀ id ∈ ids, 1 ≤ id ∧ id ≤ 42) (exchanged : ExchangedLast handtiles current)
    (ting : List Tile) :
    ∃ kept : List Int, (ids.foldl tryTing (current, ting)).2 = ting ++ kept.map Tile.ofId ∧
      kept.Sublist ids ∧ ∀ id ∈ ids, id ∈ kept ↔ Waits handtiles id := by
  induction ids generalizing current ting with
  | nil => exact ⟨[], (List.append_nil ting).symm, .refl _, List.forall_mem_nil _⟩
  | cons id ids ih =>
      obtain ⟨bounds, inside⟩ := List.forall_mem_cons.mp inside
      have waits := exchanged.waits_iff wellRepresented listed bounds.1 bounds.2
      have further := (exchanged.setTile id).1
      rw [List.foldl_cons, tryTing]
      dsimp only at waits ⊢
      split
      · rename_i won
        obtain ⟨kept, result, among, exactly⟩ := ih inside further (ting ++ [.ofId id])
        refine ⟨id :: kept, ?_, among.cons_cons id, ?_⟩
        · rw [result, List.append_assoc]
          rfl
        · intro other member
          by_cases same : other = id
          · subst same
            exact iff_of_true List.mem_cons_self (waits.mp won)
          · have later := (List.mem_cons.mp member).resolve_left same
            rw [List.mem_cons, or_iff_right same]
            exact exactly other later
      · rename_i lost
        obtain ⟨kept, result, among, exactly⟩ := ih inside further ting
        refine ⟨kept, result, among.cons id, ?_⟩
        intro other member
        by_cases same : other = id
        · subst same
          refine iff_of_false (fun held => ?_) fun waiting => lost (waits.mpr waiting)
          exact lost (waits.mpr ((exactly other (among.subset held)).mp held))
        · exact exactly other ((List.mem_cons.mp member).resolve_left same)

/-- Whatever is in the last place, `CalcTing` lists in order the tiles that the hand waits
for. -/
theorem ExchangedLast.calcTing_eq (wellRepresented : handtiles.WellRepresented)
    (listed : ∀ tile ∈ handtiles.lipai.dropLast, tile.Listed)
    (exchanged : ExchangedLast handtiles current) :
    (∀ tile, tile ∈ calcTing current ↔
      tile.drawflag = 0 ∧ 1 ≤ tile.tile ∧ tile.tile ≤ 42 ∧ Waits handtiles tile.tile) ∧
      (calcTing current).Pairwise fun tile other => tile.tile < other.tile := by
  have inside : ∀ id ∈ idRange tile1m tileSize, 1 ≤ id ∧ id ≤ 42 := fun id member => by
    have bounds := mem_idRange.mp member
    unfold tile1m tileSize at bounds
    omega
  obtain ⟨kept, result, among, exactly⟩ :=
    foldl_tryTing wellRepresented listed inside exchanged []
  rw [List.nil_append] at result
  constructor
  · intro tile
    rw [calcTing, result, List.mem_map]
    constructor
    · intro some
      obtain ⟨id, held, rfl⟩ := some
      have member := among.subset held
      exact ⟨rfl, (inside id member).1, (inside id member).2, (exactly id member).mp held⟩
    · intro conditions
      obtain ⟨unmarked, lower, upper, waits⟩ := conditions
      have member : tile.tile ∈ idRange tile1m tileSize :=
        mem_idRange.mpr ⟨lower, Int.lt_add_one_of_le upper⟩
      exact ⟨tile.tile, (exactly tile.tile member).mpr waits,
        congrArg (Tile.mk tile.tile) unmarked.symm⟩
  · rw [calcTing, result, List.pairwise_map]
    refine List.Pairwise.sublist among ?_
    rw [idRange, List.pairwise_map]
    exact List.pairwise_lt_range.imp fun lower => Int.add_lt_add_left (Int.ofNat_lt.mpr lower) _

/-- `CalcTing` lists, in order and without repetition, the tiles that the hand waits for. -/
theorem calcTing_waits (wellRepresented : handtiles.WellRepresented)
    (listed : ∀ tile ∈ handtiles.lipai.dropLast, tile.Listed) :
    (∀ tile, tile ∈ calcTing handtiles ↔
      tile.drawflag = 0 ∧ 1 ≤ tile.tile ∧ tile.tile ≤ 42 ∧ Waits handtiles tile.tile) ∧
      (calcTing handtiles).Pairwise fun tile other => tile.tile < other.tile :=
  (ExchangedLast.start wellRepresented).calcTing_eq wellRepresented listed

theorem drawnHand_wellRepresented {ids : List Int} {last : Int} (thirteen : ids.length = 13)
    (sorted : ids.Pairwise (· ≤ ·)) : (drawnHand ids last).WellRepresented := by
  have lipai : (drawnHand ids last).lipai = ids.map Tile.ofId ++ [⟨last, 1⟩] := rfl
  have standing : (drawnHand ids last).lipai.dropLast = ids.map Tile.ofId := by
    rw [lipai, List.dropLast_concat]
  have length : (drawnHand ids last).lipai.length = 14 := by
    rw [lipai, List.length_append, List.length_map, thirteen, List.length_singleton]
  have tabled : (drawnHand ids last).Tabled := by
    refine ⟨fun _ => rfl, fun id => ?_, fun _ => rfl, fun _ _ _ => rfl⟩
    have image : (drawnHand ids last).lipaiIds = ids ++ [last] := by
      rw [Handtiles.lipaiIds, lipai, List.map_append, List.map_map]
      exact congrArg (· ++ [last]) (List.map_id ids)
    rw [image]
    rfl
  refine ⟨Nat.zero_le 4, length, by omega, by omega, ?_, ?_, ?_, tabled, tabled.huapaiCount⟩
  · rw [standing, List.pairwise_map]
    exact sorted
  · rw [standing]
    refine List.forall_mem_append.mpr
      ⟨List.forall_mem_append.mpr ⟨List.forall_mem_nil _, ?_⟩, List.forall_mem_nil _⟩
    rw [List.forall_mem_map]
    exact fun _ _ => rfl
  · exact ⟨⟨last, 1⟩, by rw [lipai, List.getLast?_concat], rfl⟩

/-- The thirteen orphans wait for a second of any of them. -/
theorem calcTing_waits_orphans : Tile.ofId 28 ∈ calcTing drawnOrphans := by
  have represented : drawnOrphans.WellRepresented :=
    drawnHand_wellRepresented rfl (by decide)
  have listed : ∀ tile ∈ drawnOrphans.lipai.dropLast, tile.Listed := by
    unfold Tile.Listed
    decide
  have waits : Waits drawnOrphans 28 := by
    have all : ∀ id ∈ orphanIds, id ∈ drawnOrphans.lipaiIds.dropLast ++ [28] := by decide
    refine ⟨.thirteenOrphans rfl (by decide) fun id orphan => ?_, by decide⟩
    exact all id (mem_orphanIds.mpr orphan)
  exact ((calcTing_waits represented listed).1 (.ofId 28)).mpr
    ⟨rfl, by decide, by decide, waits⟩

end GbMahjong.Mahjong
