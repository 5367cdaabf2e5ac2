import GbMahjong.Mahjong.NotationProperties
import GbMahjong.Mahjong.TingProperties
import GbMahjong.Mahjong.FlowerProperties

/-! What the library says of a hand that was read from a text. -/

set_option autoImplicit false

namespace GbMahjong.Mahjong

open GbMahjong.Library Shape

theorem Pack.Written.getAllTile_unmarked {pack : Pack} (written : pack.Written) :
    ∀ tile ∈ pack.getAllTile, tile.drawflag = 0 := by
  cases written with
  | run suited inner claimed =>
      simp [Pack.getAllTile, Tile.pred, Tile.succ, Tile.ofId]
  | triplet inPlay claimed =>
      intro tile member
      rw [List.eq_of_mem_replicate member]
      rfl
  | kong inPlay offered =>
      intro tile member
      rw [List.eq_of_mem_replicate member]
      rfl

theorem CountTable.touch_getD (table : CountTable) (ids : List Int) (id : Int) :
    (table.touch ids id).getD 0 = (table id).getD 0 := by
  unfold CountTable.touch
  split <;> rfl

namespace Handtiles

variable {handtiles : Handtiles}

theorem Written.fulu_few (written : handtiles.Written) : handtiles.fulu.length ≤ 4 := by
  obtain ⟨before, last, whole, _⟩ := written.parts
  have fourteen := written.fourteen
  rw [whole, List.length_append, List.length_singleton] at fourteen
  omega

/-- A hand of the notation is one that the evaluator takes. -/
theorem Written.whole (written : handtiles.Written) : handtiles.Whole := by
  obtain ⟨before, last, whole, standing, first, most, _⟩ := written.parts
  have inside := written.standing
  rw [standing] at inside
  refine ⟨written.fulu_few, written.fourteen, ?_, ?_⟩
  · rw [whole]
    refine List.forall_mem_append.mpr ⟨fun tile member => ?_, List.forall_mem_singleton.mpr ?_⟩
    · obtain ⟨lower, upper, _⟩ := inside tile member
      exact ⟨Int.le_trans (by decide) lower, Int.le_trans upper (by decide)⟩
    · exact ⟨first, Int.le_trans most (by decide)⟩
  · rw [whole]
    exact ⟨last, before, (List.perm_append_singleton last before).subperm,
      fun tile member => (inside tile member).2.2⟩

theorem Written.tabled (written : handtiles.Written) : handtiles.Tabled := by
  rw [← written.tables]
  refine ⟨fun id => ?_, fun id => ?_, fun id => ?_, fun id first last => ?_⟩
  · exact (CountTable.touch_getD _ _ id).trans (generatedCount handtiles.fuluIds id)
  · exact (CountTable.touch_getD _ _ id).trans (generatedCount handtiles.lipaiIds id)
  · exact (CountTable.touch_getD _ _ id).trans (generatedCount handtiles.huapaiIds id)
  · have flower : id ∈ idRange tileMei (tileDong + 1) :=
      mem_idRange.mpr ⟨first, Int.lt_add_one_of_le last⟩
    rw [generated, touchTables]
    dsimp only
    rw [CountTable.touch, if_pos flower]
    rfl

theorem Written.wellRepresented (written : handtiles.Written) : handtiles.WellRepresented := by
  have few := written.fulu_few
  have fourteen := written.fourteen
  obtain ⟨last, isLast, _, _, mark⟩ := written.last
  refine ⟨few, by omega, by omega, by omega, written.sorted, ?_, ⟨last, isLast, mark⟩,
    written.tabled, written.tabled.huapaiCount⟩
  refine List.forall_mem_append.mpr ⟨List.forall_mem_append.mpr ⟨?_, ?_⟩, ?_⟩
  · intro tile member
    obtain ⟨pack, declared, inside⟩ := List.mem_flatMap.mp member
    exact (written.melds pack declared).getAllTile_unmarked tile inside
  · exact fun tile member => (written.standing tile member).2.2
  · exact fun tile member => (written.flowers tile member).2.2

/-- Every flower of the hand is counted. -/
theorem Written.huapaiCount (written : handtiles.Written) :
    handtiles.huapaiCount = .ok handtiles.huapai.length := by
  have all : ∀ id ∈ handtiles.huapaiIds, (decide (tileMei ≤ id ∧ id ≤ tileDong)) = true := by
    refine List.forall_mem_map.mpr fun tile member => ?_
    obtain ⟨first, last, _⟩ := written.flowers tile member
    exact decide_eq_true ⟨first, last⟩
  rw [written.tabled.huapaiCount, List.countP_eq_length.mpr all, huapaiIds, List.length_map]

theorem Written.listed (written : handtiles.Written) :
    ∀ tile ∈ handtiles.lipai.dropLast, tile.Listed :=
  fun tile member => written.whole.listed tile (List.mem_of_mem_dropLast member)

end Handtiles

/-- For a text that is read, `JudgeHu` tells whether the hand is complete, `CalcTing` lists what
it waits for, and `CountFan` gives its flowers at least and some more exactly for a complete
hand and for one with a knitted straight. -/
theorem text_evaluated {s : String} {handtiles : Handtiles}
    (read : stringToHandtiles s = .ok handtiles) :
    (judgeHu handtiles = true ↔ Winning handtiles.fulu.length handtiles.lipaiIds) ∧
      (∀ id, Tile.ofId id ∈ calcTing handtiles ↔ 1 ≤ id ∧ id ≤ 42 ∧ Waits handtiles id) ∧
      ∀ fan, ∃ state, countFan fan handtiles = .ok state ∧
        (state.Tallied ↔ fan.fanTableRes.count = 0 ∨
          Winning handtiles.fulu.length handtiles.lipaiIds) ∧
        handtiles.huapai.length ≤ state.totFanRes ∧
        state.totFanRes ≤ 8812 + handtiles.huapai.length ∧
        (handtiles.huapai.length < state.totFanRes ↔
          Winning handtiles.fulu.length handtiles.lipaiIds ∨
            ∃ straight, Knits straight ∧ ∀ id ∈ straight, id ∈ handtiles.lipaiIds) := by
  have written := written_of_read read
  have judged := judgeHu_iff written.whole
  obtain ⟨waits, _⟩ := (ExchangedLast.start written.wellRepresented).calcTing_eq
    written.wellRepresented written.listed
  refine ⟨judged, fun id => ?_, fun fan => ?_⟩
  · rw [waits]
    exact ⟨And.right, And.intro rfl⟩
  · rw [← judged]
    exact ⟨_, countFan_of_counted written.huapaiCount, addHua_tallied_iff fan written.whole _,
      Nat.le_add_left _ _, addHua_totFanRes_le fan written.whole _,
      lt_addHua_totFanRes_iff fan written.whole _⟩

/-- A full flush of melds, completed by a claimed tile. -/
theorem text_evaluated_flush :
    ∃ handtiles state, stringToHandtiles "[123m,1][456m,2][789m,3]1199m9m" = .ok handtiles ∧
      countFan .new handtiles = .ok state ∧ state.Tallied ∧ 0 < state.totFanRes := by
  cases read : stringToHandtiles "[123m,1][456m,2][789m,3]1199m9m" with
  | error code =>
      have accepted : (stringToHandtiles "[123m,1][456m,2][789m,3]1199m9m").toOption.isSome :=
        by decide +kernel
      rw [read] at accepted
      cases accepted
  | ok handtiles =>
      have complete : (stringToHandtiles "[123m,1][456m,2][789m,3]1199m9m").toOption.all
          judgeHu := by
        decide +kernel
      rw [read] at complete
      obtain ⟨judged, _, counts⟩ := text_evaluated read
      obtain ⟨state, counted, tallied, _, _, scores⟩ := counts .new
      exact ⟨handtiles, state, rfl, counted, tallied.mpr (.inl rfl),
        Nat.zero_lt_of_lt (scores.mpr (.inl (judged.mp complete)))⟩

end GbMahjong.Mahjong
