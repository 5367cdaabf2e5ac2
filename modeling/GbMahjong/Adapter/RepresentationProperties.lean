import GbMahjong.Adapter.AdmissionProperties

/-! The hands the adapter fills are the hands the library's search expects. The
constructor that would see to it is passed by, and each loop of the two builders does
its part instead. -/

set_option autoImplicit false

namespace GbMahjong.Adapter

open GbMahjong.Library GbMahjong.Library.Checked GbMahjong.Mahjong GbMahjong.Engine
open GbMahjong.Library.ProtoEnum (asI32)

/-- Thirteen tiles and three for each meld leave room for four melds. -/
theorem WinDescription.Builds.sizes {win : WinDescription} {handtiles : Handtiles}
    (builds : win.Builds handtiles) :
    handtiles.fulu.length ≤ 4 ∧ 3 * handtiles.fulu.length + handtiles.lipai.length = 14 := by
  obtain ⟨quanfeng, menfeng, packs, _, _, decoded, _, _, _, thirteen, rfl⟩ :=
    win.builds_iff.mp builds
  have packed : win.melds.length = packs.length := (mapM_eq_ok_iff.mp decoded).length_eq
  have standing : (win.handOf quanfeng menfeng packs).lipai.length =
      win.concealedTiles.length + 1 := by
    change (Tile.sort _ ++ [win.markedTile]).length = _
    rw [List.length_append, Tile.length_sort, List.length_map, List.length_singleton]
  change packs.length ≤ 4 ∧ 3 * packs.length + _ = 14
  omega

theorem WinDescription.markedTile_drawflag (win : WinDescription) :
    win.markedTile.drawflag = if isDrawnWin win.winType then 1 else 2 := by
  unfold markedTile
  split
  · rfl
  · rfl

theorem WinDescription.Builds.wellRepresented {win : WinDescription} {handtiles : Handtiles}
    (builds : win.Builds handtiles) : handtiles.WellRepresented := by
  obtain ⟨fulu, sizes⟩ := builds.sizes
  have tabled := builds.tabled
  obtain ⟨quanfeng, menfeng, packs, _, _, decoded, _, _, _, _, same⟩ := win.builds_iff.mp builds
  have zimo : handtiles.zimo = isDrawnWin win.winType := same ▸ rfl
  have packed : handtiles.fulu.flatMap Pack.getAllTile = win.meldTiles.map tileOf :=
    same ▸ packs_getAllTile decoded
  have huapai : handtiles.huapai = win.flowers.map tileOf := same ▸ rfl
  have lipai : handtiles.lipai =
      (sortNumbers win.concealedTiles).map tileOf ++ [win.markedTile] := by
    rw [← sort_map_tileOf, same]
    rfl
  have others : handtiles.lipai.dropLast = (sortNumbers win.concealedTiles).map tileOf := by
    rw [lipai, List.dropLast_concat]
  refine ⟨fulu, by omega, by omega, by omega, ?_, ?_, ?_, tabled, tabled.huapaiCount⟩
  · rw [others, List.pairwise_map]
    refine (List.pairwise_insertionSort (· ≤ ·) win.concealedTiles).imp fun lower => ?_
    exact Int.sub_le_sub_right lower 1
  · rw [others, packed, huapai, ← List.map_append, ← List.map_append, List.forall_mem_map]
    exact fun _ _ => rfl
  · refine ⟨win.markedTile, ?_, zimo ▸ win.markedTile_drawflag⟩
    rw [lipai, List.getLast?_concat]

/-- Whatever hand either builder returns, the library's search may trust it. -/
theorem builders_wellRepresented (handtiles : Handtiles) :
    (∀ request, buildWinningHandtilesForValidation request = .ok handtiles →
        handtiles.WellRepresented) ∧
      ∀ score hand, buildWinningHandtilesForScoring score hand = .ok handtiles →
        handtiles.WellRepresented := by
  constructor
  · intro request built
    obtain ⟨_, _, _, _, _, _, _, _, builds⟩ := buildWinningHandtilesForValidation_eq_ok_iff.mp built
    exact builds.wellRepresented
  · intro score hand built
    exact (buildWinningHandtilesForScoring_eq_ok built).wellRepresented

/-- A hand with a kong and a flower, and a snapshot of fourteen tiles with a peng. -/
theorem builders_wellRepresented_flowerKong :
    ∃ handtiles,
      buildWinningHandtilesForValidation flowerKongRequest = .ok handtiles ∧
      handtiles.huapaiCount = .ok 1 ∧ handtiles.WellRepresented ∧
      ∃ scored, buildWinningHandtilesForScoring (pengSettlement [8, 2, 5, 2, 8, 3, 7, 2, 4, 6, 8])
          (pengSnapshot [8, 2, 5, 2, 8, 3, 7, 2, 4, 6, 8]) = .ok scored ∧
        scored.WellRepresented := by
  obtain ⟨handtiles, built, _, flowers, _⟩ := flowerKong_built
  have settled : (buildWinningHandtilesForScoring (pengSettlement [8, 2, 5, 2, 8, 3, 7, 2, 4, 6, 8])
      (pengSnapshot [8, 2, 5, 2, 8, 3, 7, 2, 4, 6, 8])).map (·.lipai.length) = .ok 11 := by
    decide +kernel
  obtain ⟨scored, rebuilt, _⟩ := map_eq_ok_iff.mp settled
  exact ⟨handtiles, built, flowers, (builders_wellRepresented handtiles).1 _ built, scored,
    rebuilt, (builders_wellRepresented scored).2 _ _ rebuilt⟩

end GbMahjong.Adapter
