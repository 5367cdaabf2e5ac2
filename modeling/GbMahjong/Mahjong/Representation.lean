import Mathlib.Data.List.Count
import GbMahjong.Mahjong.Admission

/-! What the library's search takes for granted of a hand: its sizes, the order of its
tiles, the mark on its last tile and the tables beside them. -/

set_option autoImplicit false

namespace GbMahjong.Mahjong

open GbMahjong.Library GbMahjong.Library.Checked

/-! ## Counting the flowers -/

theorem countP_mem_cons {ids visited : List Int} {id : Int} (fresh : id ∉ visited) :
    ids.countP (· ∈ id :: visited) = ids.count id + ids.countP (· ∈ visited) := by
  induction ids with
  | nil => rfl
  | cons head rest ih =>
      rw [List.countP_cons, List.countP_cons, List.count_cons, ih]
      by_cases same : head = id
      · subst same
        simp [fresh]
        omega
      · simp [same]
        omega

theorem nodup_idRange (first past : Int) : (idRange first past).Nodup := by
  refine List.Nodup.map (fun offset other same => ?_) List.nodup_range
  omega

theorem CountTable.tally_of_entry {table : CountTable} {id : Int} {count : Nat}
    (entry : table id = some count) (ids : List Int) :
    table.tally ids id = some (count + ids.count id) := by
  rw [tally_apply, entry]
  split
  · rfl
  · rename_i absent
    rw [List.count_eq_zero_of_not_mem absent]
    rfl

namespace Handtiles

variable {handtiles : Handtiles}

/-- The tables count the tiles of the hand, and the flower table has an entry for every flower. -/
structure Tabled (handtiles : Handtiles) : Prop where
  fulu : ∀ id, (handtiles.fuluTable id).getD 0 = handtiles.fuluIds.count id
  lipai : ∀ id, (handtiles.lipaiTable id).getD 0 = handtiles.lipaiIds.count id
  huapai : ∀ id, (handtiles.huapaiTable id).getD 0 = handtiles.huapaiIds.count id
  flowers : ∀ id, tileMei ≤ id → id ≤ tileDong → (handtiles.huapaiTable id).isSome

/-- Distinct ids, looked up one after another, count every tile that has one of them. -/
theorem foldlM_counts {ids : List Int} {cnt : Nat} (distinct : ids.Nodup)
    (entries : ∀ id ∈ ids, handtiles.huapaiTable id = some (handtiles.huapaiIds.count id)) :
    ids.foldlM (fun cnt id =>
      match handtiles.huapaiTable id with
      | some count => .ok (cnt + count)
      | none => .error .undefinedBehavior) cnt =
        (.ok (cnt + handtiles.huapaiIds.countP (· ∈ ids)) : Checked Nat) := by
  induction ids generalizing cnt with
  | nil => simp [pure, Except.pure]
  | cons id rest ih =>
      obtain ⟨entry, entries⟩ := List.forall_mem_cons.mp entries
      obtain ⟨fresh, distinct⟩ := List.nodup_cons.mp distinct
      rw [List.foldlM_cons, entry]
      refine (ih distinct entries).trans ?_
      rw [countP_mem_cons fresh, Nat.add_assoc]

/-- Every entry is there, so the flowers are counted. -/
theorem Tabled.huapaiCount (tabled : handtiles.Tabled) :
    handtiles.huapaiCount =
      .ok (handtiles.huapaiIds.countP fun id => tileMei ≤ id ∧ id ≤ tileDong) := by
  have entries : ∀ id ∈ idRange tileMei (tileDong + 1),
      handtiles.huapaiTable id = some (handtiles.huapaiIds.count id) := by
    intro id visited
    obtain ⟨first, last⟩ := mem_idRange.mp visited
    obtain ⟨count, entry⟩ := Option.isSome_iff_exists.mp
      (tabled.flowers id first (Int.le_of_lt_add_one last))
    have counted := tabled.huapai id
    rw [entry] at counted ⊢
    exact congrArg some counted
  refine (foldlM_counts (nodup_idRange _ _) entries).trans ?_
  rw [Nat.zero_add]
  simp only [mem_idRange, Int.lt_add_one_iff]

/-! ## The hand of a search -/

/-- What the search relies on and does not check. -/
structure WellRepresented (handtiles : Handtiles) : Prop where
  fulu : handtiles.fulu.length ≤ 4
  fourteen : handtiles.lipai.length = 14 - 3 * handtiles.fulu.length
  atLeastTwo : 2 ≤ handtiles.lipai.length
  atMostFourteen : handtiles.lipai.length ≤ 14
  sorted : handtiles.lipai.dropLast.Pairwise Tile.Le
  unmarked : ∀ tile ∈ handtiles.fulu.flatMap Pack.getAllTile ++ handtiles.lipai.dropLast ++
    handtiles.huapai, tile.drawflag = 0
  marked : ∃ last, handtiles.lipai.getLast? = some last ∧
    last.drawflag = if handtiles.zimo then 1 else 2
  tabled : handtiles.Tabled
  counted : handtiles.huapaiCount =
    .ok (handtiles.huapaiIds.countP fun id => tileMei ≤ id ∧ id ≤ tileDong)

end Handtiles

end GbMahjong.Mahjong
