import Mathlib.Algebra.BigOperators.Group.List.Basic
import GbMahjong.Mahjong.CountFan

/-! The total that `CountFan` leaves is what the fans in its table score together. -/

set_option autoImplicit false

namespace GbMahjong.Mahjong

open GbMahjong.Library

/-! ## Scores of a table -/

namespace FanTable

variable {kind : FanKind}

theorem count_eq_sum (table : FanTable) :
    table.count = (FanKind.all.map fun kind => (table kind).length * kind.score).sum := by
  rw [count, List.sum_eq_foldl, List.foldl_map]

@[simp] theorem count_empty : FanTable.empty.count = 0 := by
  decide

/-- Tables that differ in one fan differ in what it scores. -/
theorem count_exchange {table other : FanTable} (valid : kind ≠ .invalid)
    (same : ∀ another, another ≠ kind → other another = table another) :
    other.count + (table kind).length * kind.score =
      table.count + (other kind).length * kind.score := by
  have split (table : FanTable) := List.sum_map_erase
    (fun kind => (table kind).length * kind.score) (FanKind.mem_all.mpr valid)
  have rest : (FanKind.all.erase kind).map (fun kind => (other kind).length * kind.score) =
      (FanKind.all.erase kind).map fun kind => (table kind).length * kind.score := by
    refine List.map_congr_left fun another member => ?_
    rw [same another (FanKind.nodup_all.mem_erase_iff.mp member).1]
  rw [count_eq_sum, count_eq_sum, ← split table, ← split other, rest]
  omega

theorem count_push (table : FanTable) (valid : kind ≠ .invalid) (places : List Nat) :
    (table.push kind places).count = table.count + kind.score := by
  have kept : ∀ another, another ≠ kind → table.push kind places another = table another :=
    fun _ different => if_neg different
  have exchanged := count_exchange valid kept
  simp only [push, if_true, List.length_append, List.length_singleton, Nat.add_mul,
    Nat.one_mul] at exchanged ⊢
  omega

theorem count_update (table : FanTable) (valid : kind ≠ .invalid) (entries : List (List Nat)) :
    FanTable.count (Function.update table kind entries) + (table kind).length * kind.score =
      table.count + entries.length * kind.score := by
  have kept : ∀ another, another ≠ kind →
      Function.update table kind entries another = table another :=
    fun _ different => Function.update_of_ne different entries table
  have exchanged := count_exchange valid kept
  rwa [Function.update_self] at exchanged

end FanTable

theorem wufanhu_valid : FanKind.wufanhu ≠ .invalid := by
  decide

/-- What a table counts as: its own fans, or the fan for a hand without any. -/
theorem fanTableCount_cases (table : FanTable) :
    table.count = 0 ∧ fanTableCount table = (table.push .wufanhu [], 8) ∨
      0 < table.count ∧ fanTableCount table = (table, table.count) := by
  rcases Nat.eq_zero_or_pos table.count with nothing | something
  · exact .inl ⟨nothing, if_pos (beq_iff_eq.mpr nothing)⟩
  · exact .inr ⟨something, if_neg fun same => Nat.ne_of_gt something (beq_iff_eq.mp same)⟩

theorem count_fanTableCount (table : FanTable) :
    (fanTableCount table).1.count = (fanTableCount table).2 := by
  rcases fanTableCount_cases table with ⟨nothing, counted⟩ | ⟨_, counted⟩
  · have pushed := table.count_push wufanhu_valid []
    rw [nothing, Nat.zero_add] at pushed
    rw [counted]
    exact pushed
  · rw [counted]

theorem fanTableCount_pos (table : FanTable) : 0 < (fanTableCount table).2 := by
  rcases fanTableCount_cases table with ⟨_, counted⟩ | ⟨something, counted⟩
  · rw [counted]
    exact Nat.succ_pos 7
  · rwa [counted]

/-! ## The best result so far -/

namespace FanState

/-- The total is the score of the table beside it. -/
def Tallied (state : FanState) : Prop :=
  state.fanTableRes.count = state.totFanRes

variable {state : FanState}

/-- A count starts tallied if nothing is left of the one before. -/
theorem tallied_clear_iff : state.clear.Tallied ↔ state.fanTableRes.count = 0 :=
  .rfl

theorem Tallied.getMaxFan (tallied : state.Tallied) : state.getMaxFan.Tallied := by
  unfold FanState.getMaxFan Tallied
  dsimp only
  split
  · exact count_fanTableCount _
  · exact tallied

theorem Tallied.of_results {other : FanState} (tallied : state.Tallied)
    (table : other.fanTableRes = state.fanTableRes) (total : other.totFanRes = state.totFanRes) :
    other.Tallied := by
  rw [Tallied, table, total]
  exact tallied

/-! ## What each step makes of the total -/

theorem Tallied.countReading (tallied : state.Tallied) (handtiles : Handtiles)
    (zuhelongPack : Pack) (packs : List Pack) :
    (countReading handtiles zuhelongPack packs state).Tallied := by
  unfold Mahjong.countReading
  exact Tallied.getMaxFan (tallied.of_results rfl rfl)

theorem Tallied.countSpecialFan (tallied : state.Tallied) (handtiles : Handtiles)
    (f : FanKind) : (countSpecialFan handtiles f state).Tallied := by
  unfold Mahjong.countSpecialFan
  exact Tallied.getMaxFan (tallied.of_results rfl rfl)

theorem Tallied.countQiduiFan (tallied : state.Tallied) (handtiles : Handtiles)
    (f : FanKind) : (countQiduiFan handtiles f state).Tallied := by
  unfold Mahjong.countQiduiFan
  exact Tallied.getMaxFan (tallied.of_results rfl rfl)

/-- A search keeps what counting one reading keeps. -/
theorem dfs_invariant {Result : Type} (property : Result → Prop) {handtiles : Handtiles}
    {sortedLipai : List Tile} {mianziCnt duiziCnt : Int} {packs : List Pack}
    {flagCountFan : Bool} {visit : List Pack → Result → Result} {result : Result}
    (start : property result)
    (kept : ∀ reading result, property result → property (visit reading result)) :
    property (dfs handtiles sortedLipai mianziCnt duiziCnt packs flagCountFan visit
      result).2 :=
  SearchTree.explore_invariant _ property start fun leaf result _ => kept leaf.packs result

theorem tallied_withoutWufanhu_iff : state.withoutWufanhu.Tallied ↔ state.Tallied := by
  unfold FanState.withoutWufanhu Tallied
  split
  · rename_i only
    rw [Bool.and_eq_true, beq_iff_eq, beq_iff_eq] at only
    have cleared := state.fanTableRes.count_update wufanhu_valid []
    rw [only.2, List.length_nil, Nat.one_mul, Nat.zero_mul, Nat.add_zero] at cleared
    rw [only.1, ← cleared]
    dsimp only
    omega
  · exact .rfl

theorem tallied_addZuhelong_iff {zuhelongType : Nat} :
    (addZuhelong zuhelongType state).Tallied ↔ state.Tallied := by
  have pushed (places : List Nat) := state.withoutWufanhu.fanTableRes.count_push
    (by decide : FanKind.zuhelong ≠ .invalid) places
  rw [← @tallied_withoutWufanhu_iff state]
  unfold Mahjong.addZuhelong Tallied
  dsimp only
  rw [pushed]
  exact Nat.add_right_cancel_iff

theorem tallied_addHua_iff {cntHua : Nat} :
    (addHua cntHua state).Tallied ↔ state.Tallied := by
  unfold Mahjong.addHua Tallied
  have added := state.fanTableRes.count_update (by decide : FanKind.huapai ≠ .invalid)
    (state.fanTableRes .huapai ++ List.replicate cntHua [])
  have one : FanKind.huapai.score = 1 := by decide
  rw [List.length_append, List.length_replicate, Nat.add_mul, one] at added
  dsimp only
  omega

theorem Tallied.countBasic (tallied : state.Tallied) (handtiles : Handtiles)
    (quanbukao : Bool) : (countBasic handtiles quanbukao state).Tallied := by
  unfold Mahjong.countBasic
  dsimp only
  split
  · refine tallied_addZuhelong_iff.mpr (dfs_invariant Tallied tallied ?_)
    exact fun reading _ before => before.countReading handtiles _ reading
  · refine dfs_invariant Tallied tallied ?_
    exact fun reading _ before => before.countReading handtiles _ reading

end FanState

/-- Whatever was counted, the total is the score of the table, if the table of the count
before scores nothing. -/
theorem countWithoutHua_tallied {fan : FanState} (nothing : fan.fanTableRes.count = 0)
    (handtiles : Handtiles) : (countWithoutHua fan handtiles).Tallied := by
  have start := FanState.tallied_clear_iff.mpr nothing
  unfold countWithoutHua
  dsimp only
  refine FanState.Tallied.countBasic ?_ handtiles _
  split
  · refine FanState.Tallied.countQiduiFan ?_ handtiles _
    split
    · exact start.countSpecialFan handtiles _
    · exact start
  · split
    · exact start.countSpecialFan handtiles _
    · exact start

end GbMahjong.Mahjong
