import GbMahjong.Mahjong.Handtiles

/-! What the library asks of a hand before it evaluates one: the checks of
`StringToHandtiles`, the constructor of `mahjong/handtiles.cpp`. -/

set_option autoImplicit false

namespace GbMahjong.Mahjong

namespace Handtiles

/-! ## The tile counts -/

def fuluIds (handtiles : Handtiles) : List Int :=
  (handtiles.fulu.flatMap Pack.getAllTile).map Tile.getId

def lipaiIds (handtiles : Handtiles) : List Int :=
  handtiles.lipai.map Tile.getId

def huapaiIds (handtiles : Handtiles) : List Int :=
  handtiles.huapai.map Tile.getId

/-- `_ClearAndSetDefault`, as far as the tables go. -/
def clearTables (handtiles : Handtiles) : Handtiles :=
  { handtiles with fuluTable := .empty, lipaiTable := .empty, huapaiTable := .empty }

/-- The three loops of `_GenerateTable` that fill the tables. -/
def fillTables (handtiles : Handtiles) : Handtiles :=
  { handtiles with
    fuluTable := handtiles.fuluTable.tally handtiles.fuluIds
    lipaiTable := handtiles.lipaiTable.tally handtiles.lipaiIds
    huapaiTable := handtiles.huapaiTable.tally handtiles.huapaiIds }

/-- `_GenerateTable`: -1 for a count over its limit. -/
def generateTable (handtiles : Handtiles) : Handtiles × Int :=
  let filled := handtiles.fillTables
  let count (table : CountTable) (id : Int) : Nat := (table id).getD 0
  if (idRange tile1m tileSize).any fun id =>
      4 < count filled.fuluTable id + count filled.lipaiTable id then
    (filled, -1)
  else if (idRange tileMei (tileDong + 1)).any fun id =>
      1 < count filled.lipaiTable id + count filled.huapaiTable id then
    (filled, -1)
  else
    (filled, 0)

theorem generatedCount (ids : List Int) (id : Int) :
    (CountTable.empty.tally ids id).getD 0 = ids.count id := by
  rw [CountTable.tally_getD]
  exact Nat.zero_add _

/-- The limits of `_GenerateTable`: four tiles of a kind, and one of each flower. -/
theorem generateTable_eq_zero_iff (handtiles : Handtiles) :
    handtiles.clearTables.generateTable.2 = 0 ↔
      (∀ id, tile1m ≤ id → id < tileSize →
        handtiles.fuluIds.count id + handtiles.lipaiIds.count id ≤ 4) ∧
      ∀ id, tileMei ≤ id → id ≤ tileDong →
        handtiles.lipaiIds.count id + handtiles.huapaiIds.count id ≤ 1 := by
  have kinds : (∀ id ∈ idRange tile1m tileSize,
      handtiles.fuluIds.count id + handtiles.lipaiIds.count id ≤ 4) ↔
      ∀ id, tile1m ≤ id → id < tileSize →
        handtiles.fuluIds.count id + handtiles.lipaiIds.count id ≤ 4 := by
    simp only [mem_idRange, and_imp]
  have flowers : (∀ id ∈ idRange tileMei (tileDong + 1),
      handtiles.lipaiIds.count id + handtiles.huapaiIds.count id ≤ 1) ↔
      ∀ id, tileMei ≤ id → id ≤ tileDong →
        handtiles.lipaiIds.count id + handtiles.huapaiIds.count id ≤ 1 := by
    simp only [mem_idRange, and_imp, Int.lt_add_one_iff]
  have whole : handtiles.clearTables.fuluIds = handtiles.fuluIds ∧
      handtiles.clearTables.lipaiIds = handtiles.lipaiIds ∧
      handtiles.clearTables.huapaiIds = handtiles.huapaiIds := ⟨rfl, rfl, rfl⟩
  rw [← kinds, ← flowers, generateTable]
  simp only [fillTables, whole]
  simp only [clearTables, generatedCount]
  split
  · rename_i tooMany
    simp only [List.any_eq_true, decide_eq_true_eq] at tooMany
    obtain ⟨id, member, exceeding⟩ := tooMany
    exact iff_of_false nofun fun limits => absurd (limits.1 id member) (by omega)
  · rename_i within
    simp only [List.any_eq_true, decide_eq_true_eq, not_exists, not_and, Nat.not_lt]
      at within
    split
    · rename_i tooMany
      simp only [List.any_eq_true, decide_eq_true_eq] at tooMany
      obtain ⟨id, member, exceeding⟩ := tooMany
      exact iff_of_false nofun fun limits => absurd (limits.2 id member) (by omega)
    · rename_i single
      simp only [List.any_eq_true, decide_eq_true_eq, not_exists, not_and, Nat.not_lt]
        at single
      exact iff_of_true rfl ⟨within, single⟩

/-! ## The circumstances of a win -/

/-- `GetLastLipai`; the constructor has seen to it that there is one. -/
def getLastLipai (handtiles : Handtiles) : Tile :=
  handtiles.lipai.getLast?.getD (.ofId 0)

/-- The win-state rules of `StringToHandtiles`: -7 for a hand they refuse. -/
def checkWinState (handtiles : Handtiles) : Int :=
  if handtiles.gang && handtiles.zimo && !handtiles.fulu.any Pack.isGang then
    -7
  else if handtiles.gang && !handtiles.zimo &&
      (handtiles.haidi || 1 < handtiles.handTileCount handtiles.getLastLipai) then
    -7
  else if handtiles.juezhang && 1 < handtiles.lipaiTileCount handtiles.getLastLipai then
    -7
  else
    0

/-- A drawn win on a kong has a kong, and a kong is robbed of a tile that is not the
last one and that the hand has no second of. -/
theorem checkWinState_eq_zero_iff {handtiles : Handtiles}
    (noJuezhang : handtiles.juezhang = false) :
    handtiles.checkWinState = 0 ↔
      (handtiles.gang = true → handtiles.zimo = true →
        ∃ pack ∈ handtiles.fulu, pack.type = .gang) ∧
      (handtiles.gang = true → handtiles.zimo = false →
        handtiles.haidi = false ∧ handtiles.handTileCount handtiles.getLastLipai ≤ 1) := by
  have kongs : handtiles.fulu.any Pack.isGang = true ↔
      ∃ pack ∈ handtiles.fulu, pack.type = .gang := by
    simp [Pack.isGang]
  rw [← kongs]
  unfold checkWinState
  cases handtiles.gang with
  | false => simp [noJuezhang]
  | true =>
      cases handtiles.zimo with
      | true => cases handtiles.fulu.any Pack.isGang <;> simp [noJuezhang]
      | false => cases handtiles.haidi <;> simp [noJuezhang]

end Handtiles

end GbMahjong.Mahjong
