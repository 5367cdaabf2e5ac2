import GbMahjong.Mahjong.BoundProperties

/-! Flowers count one each on top of whatever the other tiles make, and nothing else. -/

set_option autoImplicit false

namespace GbMahjong.Mahjong

open GbMahjong.Library

/-- The hand with other flowers. -/
def Handtiles.withFlowers (handtiles : Handtiles) (huapai : List Tile)
    (huapaiTable : CountTable) : Handtiles :=
  { handtiles with huapai, huapaiTable }

section Flowers

variable (handtiles : Handtiles) (huapai : List Tile) (huapaiTable : CountTable)

theorem judgeHu_withFlowers :
    judgeHu (handtiles.withFlowers huapai huapaiTable) = judgeHu handtiles :=
  rfl

theorem tryTing_withFlowers (ting : List Tile) (id : Int) :
    tryTing (handtiles.withFlowers huapai huapaiTable, ting) id =
      ((tryTing (handtiles, ting) id).1.withFlowers huapai huapaiTable,
        (tryTing (handtiles, ting) id).2) := by
  have set : (handtiles.withFlowers huapai huapaiTable).setTile (.ofId id) =
      (handtiles.setTile (.ofId id)).withFlowers huapai huapaiTable := by
    unfold Handtiles.setTile Handtiles.setLastLipai Handtiles.withFlowers
    dsimp only
    cases handtiles.lipai.getLast? <;> rfl
  unfold tryTing
  dsimp only
  rw [set, judgeHu_withFlowers]
  change (if (_ && (handtiles.setTile (.ofId id)).handTileCount _ != 5) = true then _ else _) = _
  split <;> rfl

theorem foldl_tryTing_withFlowers (ids : List Int) (ting : List Tile) :
    (ids.foldl tryTing (handtiles.withFlowers huapai huapaiTable, ting)).2 =
      (ids.foldl tryTing (handtiles, ting)).2 := by
  induction ids generalizing handtiles ting with
  | nil => rfl
  | cons id ids ih =>
      rw [List.foldl_cons, List.foldl_cons, tryTing_withFlowers, ih]

theorem calcTing_withFlowers :
    calcTing (handtiles.withFlowers huapai huapaiTable) = calcTing handtiles :=
  foldl_tryTing_withFlowers handtiles huapai huapaiTable _ []

theorem countReading_withFlowers :
    countReading (handtiles.withFlowers huapai huapaiTable) = countReading handtiles := by
  funext zuhelongPack packs state
  unfold countReading countBasicFan
  rw [calcTing_withFlowers]
  rfl

theorem countWithoutHua_withFlowers (fan : FanState) :
    countWithoutHua fan (handtiles.withFlowers huapai huapaiTable) =
      countWithoutHua fan handtiles := by
  unfold countWithoutHua countBasic
  rw [countReading_withFlowers]
  rfl

variable {handtiles huapai huapaiTable} {fan : FanState} {cntHua others : Nat}

theorem countFan_of_counted (counted : handtiles.huapaiCount = .ok cntHua) :
    countFan fan handtiles = .ok (addHua cntHua (countWithoutHua fan handtiles)) := by
  unfold countFan
  rw [counted]
  rfl

/-- If the table of the count before scores nothing, the total of any hand is the score of its
table. -/
theorem countFan_tallied {state : FanState} (nothing : fan.fanTableRes.count = 0)
    (counted : countFan fan handtiles = .ok state) : state.Tallied := by
  obtain ⟨cntHua, _, same⟩ := Checked.bind_eq_ok_iff.mp counted
  rw [← Except.ok.inj same, FanState.tallied_addHua_iff]
  exact countWithoutHua_tallied nothing handtiles

/-- A new `Fan` counts the orphans. -/
theorem countFan_tallied_orphans : ∃ state, countFan .new drawnOrphans = .ok state ∧
    state.Tallied ∧ state.totFanRes = 89 := by
  have counted : drawnOrphans.huapaiCount = .ok 0 := by decide
  exact ⟨_, countFan_of_counted counted, countFan_tallied rfl (countFan_of_counted counted),
    by decide +kernel⟩

section Whole

variable (fan) (whole : handtiles.Whole) (cntHua : Nat)

include whole

theorem addHua_tallied_iff : (addHua cntHua (countWithoutHua fan handtiles)).Tallied ↔
    fan.fanTableRes.count = 0 ∨ judgeHu handtiles = true := by
  rw [FanState.tallied_addHua_iff]
  exact countWithoutHua_tallied_iff fan whole

theorem addHua_totFanRes_le :
    (addHua cntHua (countWithoutHua fan handtiles)).totFanRes ≤ 8812 + cntHua :=
  Nat.add_le_add_right (countWithoutHua_le whole) cntHua

theorem lt_addHua_totFanRes_iff :
    cntHua < (addHua cntHua (countWithoutHua fan handtiles)).totFanRes ↔
      judgeHu handtiles = true ∨
        ∃ straight, Shape.Knits straight ∧ ∀ id ∈ straight, id ∈ handtiles.lipaiIds := by
  have scores := @countWithoutHua_pos_iff fan handtiles whole
  rw [← scores]
  exact Nat.lt_add_left_iff_pos

end Whole

/-- The total is the number of flowers and at most 8812 more; some more exactly for a
complete hand and for one with a knitted straight. A complete hand writes over the table of
the count before, so that its total is the score of its table. -/
theorem countFan_total (whole : handtiles.Whole)
    (counted : handtiles.huapaiCount = .ok cntHua) :
    ∃ state, countFan fan handtiles = .ok state ∧
      (state.Tallied ↔ fan.fanTableRes.count = 0 ∨ judgeHu handtiles = true) ∧
      cntHua ≤ state.totFanRes ∧ state.totFanRes ≤ 8812 + cntHua ∧
      (cntHua < state.totFanRes ↔
        judgeHu handtiles = true ∨
          ∃ straight, Shape.Knits straight ∧ ∀ id ∈ straight, id ∈ handtiles.lipaiIds) :=
  ⟨_, countFan_of_counted counted, addHua_tallied_iff fan whole cntHua, Nat.le_add_left _ _,
    addHua_totFanRes_le fan whole cntHua, lt_addHua_totFanRes_iff fan whole cntHua⟩

/-- A `Fan` that has counted the orphans counts four runs with a flower. -/
theorem countFan_total_fours :
    let flowers : List Tile := [.ofId tileMei]
    let table : CountTable := fun id => some ((flowers.map Tile.getId).count id)
    ∃ state, countFan (countWithoutHua .new drawnOrphans) (drawnFours.withFlowers flowers table) =
        .ok state ∧ state.Tallied ∧ 1 < state.totFanRes := by
  intro flowers table
  have whole : (drawnFours.withFlowers flowers table).Whole := by
    have fours : drawnFours.Whole := drawnHand_whole rfl (by decide)
    exact ⟨fours.fulu, fours.fourteen, fours.listed, fours.oneMark⟩
  have counted : (drawnFours.withFlowers flowers table).huapaiCount = .ok 1 := by decide
  have judged : judgeHu (drawnFours.withFlowers flowers table) = true := by decide +kernel
  obtain ⟨state, returned, tallied, _, _, scores⟩ :=
    @countFan_total _ (countWithoutHua .new drawnOrphans) _ whole counted
  exact ⟨state, returned, tallied.mpr (.inr judged), scores.mpr (.inl judged)⟩

/-- Other flowers leave every other fan as it is, and change the total by their number. -/
theorem countFan_withFlowers (counted : handtiles.huapaiCount = .ok cntHua)
    (countedToo : (handtiles.withFlowers huapai huapaiTable).huapaiCount = .ok others) :
    ∃ before after, countFan fan handtiles = .ok before ∧
      countFan fan (handtiles.withFlowers huapai huapaiTable) = .ok after ∧
      after.totFanRes + cntHua = before.totFanRes + others ∧
      after.fanPacksRes = before.fanPacksRes ∧
      ∀ kind, kind ≠ .huapai → after.fanTableRes kind = before.fanTableRes kind := by
  refine ⟨_, _, countFan_of_counted counted, countFan_of_counted countedToo, ?_⟩
  rw [countWithoutHua_withFlowers]
  unfold addHua
  refine ⟨?_, rfl, fun kind other => ?_⟩
  · dsimp only
    omega
  · dsimp only
    rw [Function.update_of_ne other, Function.update_of_ne other]

/-- The orphans with two flowers instead of none. -/
theorem countFan_withFlowers_orphans :
    let flowers : List Tile := [.ofId tileMei, .ofId tileDong]
    let table : CountTable := fun id => some ((flowers.map Tile.getId).count id)
    ∃ before after, countFan .new drawnOrphans = .ok before ∧
      countFan .new (drawnOrphans.withFlowers flowers table) = .ok after ∧
      after.totFanRes = before.totFanRes + 2 := by
  intro flowers table
  have before : drawnOrphans.huapaiCount = .ok 0 := by decide
  have after : (drawnOrphans.withFlowers flowers table).huapaiCount = .ok 2 := by decide
  obtain ⟨_, _, counted, countedToo, total, _⟩ := @countFan_withFlowers _ _ _ .new _ _ before after
  exact ⟨_, _, counted, countedToo, total⟩

end Flowers

end GbMahjong.Mahjong
