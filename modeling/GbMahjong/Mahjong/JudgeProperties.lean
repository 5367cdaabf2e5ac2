import GbMahjong.Mahjong.Admission
import GbMahjong.Mahjong.Judge
import GbMahjong.Mahjong.SevenPairs

/-! `JudgeHu` finds the complete hands, all of them and no others. -/

set_option autoImplicit false

namespace GbMahjong.Mahjong

open GbMahjong.Library Shape

/-! ## Bitmaps and numbers -/

section Bitmaps

variable {ids others : List Int}

/-- The ids that a bitmap has a bit for. -/
def Fits (ids : List Int) : Prop :=
  ∀ id ∈ ids, 0 ≤ id ∧ id < 64

instance (ids : List Int) : Decidable (Fits ids) :=
  inferInstanceAs (Decidable (∀ id ∈ ids, _))

theorem Fits.toNat_lt (fits : Fits ids) : ∀ member ∈ ids.map Int.toNat, member < 64 := by
  intro member held
  obtain ⟨id, among, rfl⟩ := List.mem_map.mp held
  have bounds := fits id among
  omega

theorem Fits.mem_toNat (fits : Fits ids) {id : Int} (small : 0 ≤ id) :
    id.toNat ∈ ids.map Int.toNat ↔ id ∈ ids := by
  rw [List.mem_map]
  constructor
  · intro image
    obtain ⟨other, member, same⟩ := image
    have bounds := fits other member
    obtain rfl : other = id := by omega
    exact member
  · exact fun member => ⟨id, member, rfl⟩

theorem getLsbD_bitmapOf (fits : Fits ids) {bit : Nat} :
    (bitmapOf ids).getLsbD bit = decide ((bit : Int) ∈ ids) := by
  have named := fits.mem_toNat (Int.natCast_nonneg bit)
  rw [Int.toNat_natCast] at named
  rw [bitmapOf, Bitmap.getLsbD_ofList, decide_eq_decide.mpr named, Bool.and_eq_right_iff_imp,
    decide_eq_true_eq, decide_eq_true_eq]
  intro member
  have bounds := fits bit member
  omega

theorem within_bitmapOf (fits : Fits ids) (fitsToo : Fits others) :
    Bitmap.within (bitmapOf ids) (bitmapOf others) = true ↔ ∀ id ∈ ids, id ∈ others := by
  simp only [Bitmap.within_iff, getLsbD_bitmapOf fits, getLsbD_bitmapOf fitsToo, decide_eq_true_eq]
  constructor
  · intro subset id member
    have bounds := fits id member
    have image := subset id.toNat
    rw [Int.toNat_of_nonneg bounds.1] at image
    exact image member
  · exact fun subset bit member => subset bit member

theorem bitCount_bitmapOf (fits : Fits ids) :
    Bitmap.bitCount (bitmapOf ids) = ids.dedup.length := by
  rw [bitmapOf, Bitmap.bitCount_ofList fits.toNat_lt, ← ids.dedup.length_map Int.toNat]
  refine List.Perm.length_eq ((List.perm_ext_iff_of_nodup (List.nodup_dedup _) ?_).mpr ?_)
  · refine ids.nodup_dedup.map_on fun id member other memberToo same => ?_
    have bounds := fits id (List.mem_dedup.mp member)
    have boundsToo := fits other (List.mem_dedup.mp memberToo)
    omega
  · intro bit
    simp only [List.mem_dedup, List.mem_map]

end Bitmaps

/-- The thirteen orphans. -/
def orphanIds : List Int :=
  [28, 29, 30, 31, 32, 33, 34, 1, 9, 10, 18, 19, 27]

theorem mem_orphanIds {id : Int} : id ∈ orphanIds ↔ Orphan id := by
  simp only [orphanIds, List.mem_cons, List.not_mem_nil, or_false, Orphan, Honour, Suited,
    rankNumber]
  omega

def suitedIds : List Int :=
  idRange 1 28

def honourIds : List Int :=
  [28, 29, 30, 31, 32, 33, 34]

theorem tileTypeBitmaps : tileTypeBitmapYaojiu = bitmapOf orphanIds ∧
    tileTypeBitmapMeaningful = bitmapOf (suitedIds ++ honourIds) ∧
    tileTypeBitmapShu = bitmapOf suitedIds ∧ tileTypeBitmapZi = bitmapOf honourIds := by
  decide +kernel

theorem mem_honourIds {id : Int} : id ∈ honourIds ↔ Honour id := by
  simp only [honourIds, List.mem_cons, List.not_mem_nil, or_false, Honour]
  omega

theorem mem_suitedIds {id : Int} : id ∈ suitedIds ↔ Suited id := by
  rw [suitedIds, mem_idRange, Suited]
  omega

theorem mem_inPlayIds {id : Int} : id ∈ suitedIds ++ honourIds ↔ InPlay id := by
  rw [List.mem_append, mem_suitedIds, mem_honourIds, InPlay]

/-! ## Hands -/

/-- Up to four declared packs, standing tiles to make fourteen of them, and one mark at most. -/
structure Handtiles.Whole (handtiles : Handtiles) : Prop where
  fulu : handtiles.fulu.length ≤ 4
  fourteen : handtiles.lipai.length + 3 * handtiles.fulu.length = 14
  listed : ∀ tile ∈ handtiles.lipai, tile.Listed
  oneMark : OneMark handtiles.lipai

theorem OneMark.of_subperm {tiles others : List Tile} (one : OneMark tiles)
    (among : others.Subperm tiles) : OneMark others := by
  obtain ⟨last, rest, whole, unmarked⟩ := one
  exact ⟨last, rest, among.trans whole, unmarked⟩

theorem Tile.pairwise_sort (tiles : List Tile) : (Tile.sort tiles).Pairwise Tile.Le := by
  have total : Std.Total Tile.Le := ⟨fun tile other => Int.le_total tile.tile other.tile⟩
  have transitive : IsTrans Tile Tile.Le := ⟨fun _ _ _ => Int.le_trans⟩
  exact List.pairwise_insertionSort Tile.Le tiles

namespace Handtiles.Whole

variable {handtiles : Handtiles}

theorem fits (whole : handtiles.Whole) : Fits handtiles.lipaiIds := by
  intro id member
  obtain ⟨tile, held, rfl⟩ := List.mem_map.mp member
  have bounds := whole.listed tile held
  exact ⟨bounds.1, by unfold Tile.getId; have := bounds.2; omega⟩

theorem length_lipaiIds (whole : handtiles.Whole) :
    handtiles.lipaiIds.length + 3 * handtiles.fulu.length = 14 := by
  rw [lipaiIds, List.length_map]
  exact whole.fourteen

/-- Some of the standing tiles, sorted, are fit for a search. -/
theorem searchable (whole : handtiles.Whole) {tiles : List Tile}
    (among : tiles.Subperm handtiles.lipai) {mianziCnt duiziCnt : Int} (packs : List Pack)
    (count : (tiles.length : Int) = 3 * mianziCnt + 2 * duiziCnt) (mianzi : 0 ≤ mianziCnt)
    (duizi : 0 ≤ duiziCnt) :
    (SearchNode.mk (Tile.sort tiles) mianziCnt duiziCnt packs).Searchable where
  sorted := Tile.pairwise_sort tiles
  listed := fun tile member =>
    whole.listed tile (among.subset ((Tile.sort_perm tiles).subset member))
  oneMark := whole.oneMark.of_subperm ((Tile.sort_perm tiles).subperm.trans among)
  whole := by rwa [Tile.length_sort]
  mianzi := mianzi
  duizi := duizi

end Handtiles.Whole

/-- A search over sorted tiles decides whether their numbers split. -/
theorem dfs_sort_found_iff {Result : Type} {handtiles : Handtiles} (whole : handtiles.Whole)
    {tiles : List Tile} (among : tiles.Subperm handtiles.lipai) {melds : Nat}
    (few : melds ≤ 4) (count : tiles.length = 3 * melds + 2)
    {visit : List Pack → Result → Result} {result : Result} :
    (dfs handtiles (Tile.sort tiles) melds 1 handtiles.fulu false visit result).1 = true ↔
      Splits (tiles.map Tile.getId) melds 1 := by
  have searchable := whole.searchable among handtiles.fulu
    (by omega : (tiles.length : Int) = 3 * (melds : Int) + 2 * 1) (by omega) (by omega)
  have reads : (∃ parts, Reads (Tile.sort tiles) melds (1 : Nat) parts) ↔
      Splits ((Tile.sort tiles).map Tile.getId) melds 1 := reads_iff_splits searchable.listed
  have same := (Tile.sort_perm tiles).map Tile.getId
  rw [dfs_found_iff handtiles visit result searchable (by omega) rfl]
  exact reads.trans ⟨Splits.of_perm same, Splits.of_perm same.symm⟩

/-! ## The standard form -/

theorem judgeBasicHu_iff {handtiles : Handtiles} (whole : handtiles.Whole) :
    judgeBasicHu handtiles = true ↔ Splits handtiles.lipaiIds (4 - handtiles.fulu.length) 1 := by
  have fulu := whole.fulu
  have fourteen := whole.fourteen
  have melds : ((4 - handtiles.fulu.length : Nat) : Int) = 4 - handtiles.fulu.length := by omega
  rw [judgeBasicHu, ← melds]
  exact dfs_sort_found_iff whole (.refl _) (by omega) (by omega)

/-! ## Seven pairs -/

/-- Twelve tiles of a kind and a pair are four triplets and a pair. -/
theorem splits_of_twelve {ids : List Int} (parts : Splits ids 0 7) {id : Int}
    (many : 12 ≤ ids.count id) : Splits ids 4 1 := by
  obtain ⟨sets, eyes, none, seven, _, inPlay, whole⟩ := parts
  obtain rfl := List.length_eq_zero_iff.mp none
  rw [List.flatten_nil, List.nil_append] at whole
  have twice : ∀ eyes : List Int,
      (eyes.flatMap fun eye => [eye, eye]).count id = 2 * eyes.count id := by
    intro eyes
    induction eyes with
    | nil => rfl
    | cons eye eyes ih =>
        simp only [List.flatMap_cons, List.cons_append, List.nil_append, List.count_cons, ih]
        omega
  rw [← whole.count_eq, twice] at many
  obtain ⟨others, split⟩ :=
    (List.replicate_sublist_iff.mpr (by omega : 6 ≤ eyes.count id)).exists_perm_append
  have one := split.length_eq
  rw [List.length_append, List.length_replicate, seven] at one
  obtain ⟨eye, rfl⟩ := List.length_eq_one_iff.mp (by omega : others.length = 1)
  refine ⟨List.replicate 4 [id, id, id], [eye], rfl, rfl, ?_, ?_, ?_⟩
  · intro set member
    rw [(List.mem_replicate.mp member).2]
    exact .triplet (inPlay id (split.symm.subset (by simp)))
  · intro other member
    rw [List.mem_singleton.mp member]
    exact inPlay eye (split.symm.subset (by simp))
  · exact (split.symm.flatMap_right _).trans whole

/-- The tiles that the search for seven pairs starts from. -/
theorem Handtiles.Whole.searchable_pairs {handtiles : Handtiles} (whole : handtiles.Whole)
    (concealed : handtiles.fulu = []) :
    (SearchNode.mk (Tile.sort handtiles.lipai) 0 7 []).Searchable := by
  refine whole.searchable (.refl _) [] ?_ (by omega) (by omega)
  have fourteen := whole.fourteen
  rw [concealed, List.length_nil] at fourteen
  omega

theorem judgeQidui_ne_invalid_iff (handtiles : Handtiles) :
    judgeQidui handtiles ≠ .invalid ↔ handtiles.fulu = [] ∧
      (dfs handtiles (Tile.sort handtiles.lipai) 0 7 [] false (fun packs _ => packs) []).1 =
        true := by
  rw [judgeQidui, Handtiles.noFulu]
  by_cases concealed : handtiles.fulu = []
  · simp only [concealed, List.length_nil, BEq.rfl, Bool.not_true, Bool.false_eq_true, if_false,
      true_and]
    split
    · split <;> simp_all
    · simp_all
  · have declared : (handtiles.fulu.length == 0) = false := by simpa using concealed
    simp [declared, concealed]

theorem splits_of_judgeQidui {handtiles : Handtiles} (whole : handtiles.Whole)
    (judged : judgeQidui handtiles ≠ .invalid) :
    handtiles.fulu = [] ∧ Splits handtiles.lipaiIds 0 7 := by
  obtain ⟨concealed, found⟩ := (judgeQidui_ne_invalid_iff handtiles).mp judged
  refine ⟨concealed, ?_⟩
  have searchable := whole.searchable_pairs concealed
  have start : SearchNode.Reached _ _ [] := searchable.reached
  rw [dfs] at found
  obtain ⟨leaf, met⟩ := List.exists_mem_of_ne_nil _
    ((SearchTree.explore_found_iff_visited _).mp found)
  obtain ⟨parts, _, reads⟩ := start.reads searchable (SearchTree.leaf_of_visited _ met)
  have splits : Splits ((Tile.sort handtiles.lipai).map Tile.getId) 0 7 :=
    (reads_iff_splits searchable.listed).mp ⟨parts, reads⟩
  exact splits.of_perm ((Tile.sort_perm handtiles.lipai).map Tile.getId)

/-- Seven pairs are found, but where twelve tiles are the same. -/
theorem judgeQidui_of_splits {handtiles : Handtiles} (whole : handtiles.Whole)
    (concealed : handtiles.fulu = []) (parts : Splits handtiles.lipaiIds 0 7)
    (fewer : ∀ id, handtiles.lipaiIds.count id < 12) : judgeQidui handtiles ≠ .invalid := by
  refine (judgeQidui_ne_invalid_iff handtiles).mpr ⟨concealed, ?_⟩
  have searchable := whole.searchable_pairs concealed
  have ids := (Tile.sort_perm handtiles.lipai).map Tile.getId
  have decides := searchable.keysDecide_pairs rfl rfl rfl fun id => by
    rw [ids.count_eq]
    exact fewer id
  obtain ⟨reading, reads⟩ : ∃ parts, Reads (Tile.sort handtiles.lipai) (0 : Nat) (7 : Nat) parts :=
    (reads_iff_splits searchable.listed).mpr (parts.of_perm ids.symm)
  obtain ⟨leaf, below, _⟩ := leaf_of_parts searchable.sorted reads.tiles reads.mianzi reads.duizi
  rw [dfs, concealed]
  refine (SearchTree.explore_found_iff _ decides (Nat.lt_succ_self _) ⟨[], searchable.reached, ?_⟩
    fun _ => trivial).mpr ⟨leaf, below⟩
  rfl

/-! ## Thirteen orphans and unrelated tiles -/

theorem zuhelongTiles_fit : ∀ straight ∈ zuhelongTiles, Fits straight := by
  decide

theorem zuhelongTiles_listed :
    (List.range' 1 6).map (fun i => zuhelongTiles.getD i []) = zuhelongTiles.tail := by
  decide

section Special

variable {handtiles : Handtiles}

theorem within_lipaiBitmap {ids : List Int} (whole : handtiles.Whole) (fits : Fits ids) :
    Bitmap.within handtiles.lipaiBitmap (bitmapOf ids) = true ↔
      ∀ id ∈ handtiles.lipaiIds, id ∈ ids := by
  rw [handtiles.lipaiBitmap_eq]
  exact within_bitmapOf whole.fits fits

theorem bitCount_lipaiBitmap (whole : handtiles.Whole) :
    Bitmap.bitCount handtiles.lipaiBitmap = handtiles.lipaiIds.dedup.length := by
  rw [handtiles.lipaiBitmap_eq]
  exact bitCount_bitmapOf whole.fits

theorem judgePartOfZuhelong_iff (whole : handtiles.Whole) :
    judgePartOfZuhelong handtiles.lipaiBitmap = true ↔
      ∃ straight, Knits straight ∧ ∀ id ∈ handtiles.lipaiIds, Suited id → id ∈ straight := by
  have each : ∀ straight ∈ zuhelongTiles,
      (bitmapOf straight ||| handtiles.lipaiBitmap &&& tileTypeBitmapShu == bitmapOf straight) =
        true ↔ ∀ id ∈ handtiles.lipaiIds, Suited id → id ∈ straight := by
    intro straight listed
    have shu : Fits suitedIds := by decide
    rw [Bitmap.or_eq_mask_iff, Bitmap.within_iff, handtiles.lipaiBitmap_eq, tileTypeBitmaps.2.2.1]
    change (∀ bit, (bitmapOf handtiles.lipaiIds &&& _).getLsbD bit = true → _) ↔ _
    simp only [BitVec.getLsbD_and, getLsbD_bitmapOf whole.fits, getLsbD_bitmapOf shu,
      getLsbD_bitmapOf (zuhelongTiles_fit straight listed), Bool.and_eq_true, decide_eq_true_eq,
      mem_suitedIds]
    constructor
    · intro subset id member suited
      have image := subset id.toNat
      rw [Int.toNat_of_nonneg (whole.fits id member).1] at image
      exact image ⟨member, suited⟩
    · exact fun subset bit both => subset bit both.1 both.2
  have listed : judgePartOfZuhelong handtiles.lipaiBitmap = zuhelongTiles.tail.any fun straight =>
      bitmapOf straight ||| handtiles.lipaiBitmap &&& tileTypeBitmapShu == bitmapOf straight := by
    rw [← zuhelongTiles_listed, List.any_map]
    rfl
  rw [listed, List.any_eq_true]
  constructor
  · intro some
    obtain ⟨straight, member, part⟩ := some
    exact ⟨straight, knits_iff.mpr member, (each straight (List.mem_of_mem_tail member)).mp part⟩
  · intro some
    obtain ⟨straight, knits, part⟩ := some
    have member := knits_iff.mp knits
    exact ⟨straight, member, (each straight (List.mem_of_mem_tail member)).mpr part⟩

/-- Orphans only, thirteen different ones: all there are. -/
theorem orphans_iff {ids : List Int} (outside : ∀ id ∈ ids, Orphan id) :
    ids.dedup.length = 13 ↔ ∀ id, Orphan id → id ∈ ids := by
  have among : ids.dedup.Subperm orphanIds :=
    List.subperm_of_subset ids.nodup_dedup fun id member =>
      mem_orphanIds.mpr (outside id (List.mem_dedup.mp member))
  constructor
  · intro thirteen id orphan
    have all := among.perm_of_length_le (by rw [thirteen]; decide)
    exact List.mem_dedup.mp (all.symm.subset (mem_orphanIds.mpr orphan))
  · intro all
    have back : orphanIds.Subperm ids.dedup :=
      List.subperm_of_subset (by decide) fun id member =>
        List.mem_dedup.mpr (all id (mem_orphanIds.mp member))
    exact Nat.le_antisymm among.length_le back.length_le

theorem judgeCompleteSpecialHu_ne_invalid_iff (whole : handtiles.Whole) :
    judgeCompleteSpecialHu handtiles ≠ .invalid ↔ handtiles.fulu = [] ∧
      ((∀ id ∈ handtiles.lipaiIds, Orphan id) ∧ (∀ id, Orphan id → id ∈ handtiles.lipaiIds) ∨
        handtiles.lipaiIds.Nodup ∧ (∀ id ∈ handtiles.lipaiIds, InPlay id) ∧
          ∃ straight, Knits straight ∧ ∀ id ∈ handtiles.lipaiIds, Suited id → id ∈ straight) := by
  by_cases concealed : handtiles.fulu = []
  · have fourteen := whole.length_lipaiIds
    rw [concealed, List.length_nil] at fourteen
    have orphans : (Bitmap.within handtiles.lipaiBitmap tileTypeBitmapYaojiu &&
        Bitmap.bitCount handtiles.lipaiBitmap == 13) = true ↔
        (∀ id ∈ handtiles.lipaiIds, Orphan id) ∧ ∀ id, Orphan id → id ∈ handtiles.lipaiIds := by
      rw [Bool.and_eq_true, beq_iff_eq, tileTypeBitmaps.1,
        within_lipaiBitmap whole (by decide), bitCount_lipaiBitmap whole]
      simp only [mem_orphanIds]
      exact and_congr_right orphans_iff
    have unrelated : (judgePartOfZuhelong handtiles.lipaiBitmap &&
        Bitmap.within handtiles.lipaiBitmap tileTypeBitmapMeaningful &&
        Bitmap.bitCount handtiles.lipaiBitmap == 14) = true ↔
        handtiles.lipaiIds.Nodup ∧ (∀ id ∈ handtiles.lipaiIds, InPlay id) ∧
          ∃ straight, Knits straight ∧
            ∀ id ∈ handtiles.lipaiIds, Suited id → id ∈ straight := by
      have distinct : handtiles.lipaiIds.dedup.length = 14 ↔ handtiles.lipaiIds.Nodup := by
        rw [← List.dedup_eq_self]
        constructor
        · exact fun count => (List.dedup_sublist _).eq_of_length (by omega)
        · intro same
          rw [same]
          omega
      rw [Bool.and_eq_true, Bool.and_eq_true, beq_iff_eq, judgePartOfZuhelong_iff whole,
        tileTypeBitmaps.2.1, within_lipaiBitmap whole (by decide), bitCount_lipaiBitmap whole,
        distinct]
      simp only [mem_inPlayIds]
      exact ⟨fun all => ⟨all.2, all.1.2, all.1.1⟩, fun all => ⟨⟨all.2.2, all.2.1⟩, all.1⟩⟩
    have none : (handtiles.fulu.length == 0) = true := by simp [concealed]
    rw [and_iff_right concealed, ← orphans, ← unrelated, judgeCompleteSpecialHu,
      Handtiles.noFulu, none]
    simp only [Bool.not_true, Bool.false_eq_true, if_false]
    split
    · rename_i thirteen
      exact iff_of_true (by decide) (.inl thirteen)
    · rename_i notOrphans
      split
      · rename_i related
        exact iff_of_true (by split <;> decide) (.inr related)
      · rename_i related
        exact iff_of_false (fun valid => valid rfl) (not_or.mpr ⟨notOrphans, related⟩)
  · have declared : (handtiles.fulu.length == 0) = false := by simpa using concealed
    simp [judgeCompleteSpecialHu, Handtiles.noFulu, declared, concealed]

end Special

/-! ## Knitted straights -/

theorem Tile.getBitmap_eq (tile : Tile) : tile.getBitmap = bitmapOf [tile.tile] := by
  simp [getBitmap, bitmapOf, Bitmap.ofList]

/-- One tile is taken out for each number wanted, the first that has it. -/
theorem withoutZuhelong_ids {wanted : List Int} {tiles : List Tile} (distinct : wanted.Nodup)
    (fits : Fits wanted) (listed : ∀ tile ∈ tiles, tile.Listed) :
    (withoutZuhelong (bitmapOf wanted) tiles).map Tile.getId =
      (tiles.map Tile.getId).diff wanted := by
  induction tiles generalizing wanted with
  | nil => exact (List.nil_diff wanted).symm
  | cons tile later ih =>
      obtain ⟨listedTile, listedLater⟩ := List.forall_mem_cons.mp listed
      obtain ⟨lower, upper⟩ := listedTile
      have one : Fits [tile.tile] := by
        intro id member
        rw [List.mem_singleton.mp member]
        omega
      have image : ((tile.tile.toNat : Nat) : Int) = tile.tile := Int.toNat_of_nonneg lower
      rw [withoutZuhelong, List.map_cons, List.cons_diff]
      by_cases held : tile.tile ∈ wanted
      · have meets : (tile.getBitmap &&& bitmapOf wanted != 0) = true := by
          rw [bne_iff_ne]
          intro zero
          have bit := congrArg (fun word => BitVec.getLsbD word tile.tile.toNat) zero
          rw [Tile.getBitmap_eq] at bit
          change (bitmapOf [tile.tile] &&& bitmapOf wanted).getLsbD _ = _ at bit
          rw [BitVec.getLsbD_and, getLsbD_bitmapOf one, getLsbD_bitmapOf fits] at bit
          simp [image, held] at bit
        have erased : bitmapOf wanted ^^^ tile.getBitmap = bitmapOf (wanted.erase tile.tile) := by
          have fitsRest : Fits (wanted.erase tile.tile) :=
            fun id member => fits id (List.mem_of_mem_erase member)
          refine BitVec.eq_of_getLsbD_eq fun bit _ => ?_
          rw [BitVec.getLsbD_xor, Tile.getBitmap_eq, getLsbD_bitmapOf fits, getLsbD_bitmapOf one,
            getLsbD_bitmapOf fitsRest]
          by_cases same : (bit : Int) = tile.tile
          · simp [same, held, distinct.mem_erase_iff]
          · simp [same, distinct.mem_erase_iff]
        rw [if_pos meets, erased, if_pos (show tile.getId ∈ wanted from held)]
        exact ih (distinct.erase _) (fun id member => fits id (List.mem_of_mem_erase member))
          listedLater
      · have misses : ¬(tile.getBitmap &&& bitmapOf wanted != 0) = true := by
          rw [bne_iff_ne, ne_eq, not_not]
          refine BitVec.eq_of_getLsbD_eq fun bit _ => ?_
          rw [Tile.getBitmap_eq, BitVec.getLsbD_and, getLsbD_bitmapOf one, getLsbD_bitmapOf fits]
          by_cases same : (bit : Int) = tile.tile
          · simp [same, held]
          · simp [same]
        rw [if_neg misses, if_neg (show ¬tile.getId ∈ wanted from held), List.map_cons,
          ih distinct fits listedLater]

theorem withoutZuhelong_sublist (bitmap : Bitmap) (tiles : List Tile) :
    (withoutZuhelong bitmap tiles).Sublist tiles := by
  induction tiles generalizing bitmap with
  | nil => exact .refl _
  | cons tile later ih =>
      rw [withoutZuhelong]
      split
      · exact (ih _).cons tile
      · exact (ih _).cons_cons tile

theorem zuhelongTiles_distinct : ∀ straight ∈ zuhelongTiles, straight.Nodup := by
  decide

theorem zuhelongTiles_ne : ∀ straight ∈ zuhelongTiles.tail,
    straight.length = 9 ∧ bitmapOf straight ≠ 0 := by
  decide

section Knitted

variable {handtiles : Handtiles} {straight other : List Int}

/-- `_JudgeZuhelong` finds a knitted straight if there is one. -/
theorem judgeZuhelong_cases (whole : handtiles.Whole) :
    let found := zuhelongTiles.getD (judgeZuhelong handtiles.lipaiBitmap) []
    Knits found ∧ (∀ id ∈ found, id ∈ handtiles.lipaiIds) ∨
      found = [] ∧ ∀ straight, Knits straight → ¬∀ id ∈ straight, id ∈ handtiles.lipaiIds := by
  have each : ∀ straight ∈ zuhelongTiles,
      Bitmap.within (bitmapOf straight) handtiles.lipaiBitmap = true ↔
        ∀ id ∈ straight, id ∈ handtiles.lipaiIds := by
    intro straight listed
    rw [handtiles.lipaiBitmap_eq]
    exact within_bitmapOf (zuhelongTiles_fit straight listed) whole.fits
  have names : ∀ i ∈ List.range' 1 6, zuhelongTiles.getD i [] ∈ zuhelongTiles.tail := by decide
  intro found
  cases search : (List.range' 1 6).find? fun i =>
      Bitmap.within (zuhelongBitmap i) handtiles.lipaiBitmap with
  | some i =>
      have isFound : found = zuhelongTiles.getD i [] := by
        simp only [found, judgeZuhelong, search, Option.getD_some]
      have listed := names i (List.mem_of_find?_eq_some search)
      have within : Bitmap.within (zuhelongBitmap i) handtiles.lipaiBitmap = true := by
        simpa using List.find?_some search
      rw [isFound]
      exact .inl ⟨knits_iff.mpr listed, (each _ (List.mem_of_mem_tail listed)).mp within⟩
  | none =>
      have isFound : found = [] := by
        simp only [found, judgeZuhelong, search, Option.getD_none]
        rfl
      refine .inr ⟨isFound, fun straight knits held => ?_⟩
      have listed := knits_iff.mp knits
      rw [← zuhelongTiles_listed] at listed
      obtain ⟨i, member, rfl⟩ := List.mem_map.mp listed
      exact List.find?_eq_none.mp search i member
        ((each _ (List.mem_of_mem_tail (names i member))).mpr held)

/-- A hand has room for one knitted straight. -/
theorem knits_unique {ids : List Int} (few : ids.length ≤ 14) (knits : Knits straight)
    (knitsToo : Knits other) (held : ∀ id ∈ straight, id ∈ ids) (heldToo : ∀ id ∈ other, id ∈ ids) :
    straight = other := by
  rcases knits_far_apart straight (knits_iff.mp knits) other (knits_iff.mp knitsToo) with
    same | many
  · exact same
  · have among : (straight ++ other).dedup.Subperm ids := by
      refine List.subperm_of_subset (List.nodup_dedup _) fun id member => ?_
      exact (List.mem_append.mp (List.mem_dedup.mp member)).elim (held id) (heldToo id)
    have length := among.length_le
    omega

theorem perm_diff_of_knits {ids : List Int} (knits : Knits straight)
    (held : ∀ id ∈ straight, id ∈ ids) : (straight ++ ids.diff straight).Perm ids := by
  have distinct := zuhelongTiles_distinct straight (List.mem_of_mem_tail (knits_iff.mp knits))
  exact List.subperm_append_diff_self_of_count_le
    fun id _ => (List.subperm_of_subset distinct held).count_le id

theorem judgeZuhelongBasicHu_iff (whole : handtiles.Whole) :
    judgeZuhelongBasicHu handtiles = true ↔ handtiles.fulu.length ≤ 1 ∧
      ∃ straight rest, Knits straight ∧ (straight ++ rest).Perm handtiles.lipaiIds ∧
        Splits rest (1 - handtiles.fulu.length) 1 := by
  have fourteen := whole.length_lipaiIds
  rcases judgeZuhelong_cases whole with ⟨knits, held⟩ | ⟨nothing, missing⟩
  · generalize index : judgeZuhelong handtiles.lipaiBitmap = found at knits held
    obtain ⟨nine, bits⟩ := zuhelongTiles_ne _ (knits_iff.mp knits)
    have listed := List.mem_of_mem_tail (knits_iff.mp knits)
    have split := perm_diff_of_knits knits held
    have length := split.length_eq
    rw [List.length_append, nine] at length
    have fulu : handtiles.fulu.length ≤ 1 := by omega
    have ids := withoutZuhelong_ids (zuhelongTiles_distinct _ listed) (zuhelongTiles_fit _ listed)
      whole.listed
    have count := congrArg List.length ids
    rw [List.length_map] at count
    change _ = (handtiles.lipaiIds.diff _).length at count
    have melds : ((1 - handtiles.fulu.length : Nat) : Int) = 1 - handtiles.fulu.length := by omega
    rw [judgeZuhelongBasicHu, index]
    rw [zuhelongBitmap, if_pos (bne_iff_ne.mpr bits), ← melds, dfs_sort_found_iff whole
      (withoutZuhelong_sublist _ handtiles.lipai).subperm (by omega) (by omega), ids]
    constructor
    · exact fun parts => ⟨fulu, _, _, knits, split, parts⟩
    · intro some
      obtain ⟨_, other, rest, knitsToo, tiles, parts⟩ := some
      obtain rfl := knits_unique (by omega) knitsToo knits
        (fun id member => tiles.subset (List.mem_append_left _ member)) held
      exact parts.of_perm ((List.perm_append_left_iff _).mp (tiles.trans split.symm))
  · have none : ¬(zuhelongBitmap (judgeZuhelong handtiles.lipaiBitmap) != 0) = true := by
      rw [zuhelongBitmap, nothing]
      decide
    rw [judgeZuhelongBasicHu]
    rw [if_neg none]
    refine iff_of_false (by decide) fun some => ?_
    obtain ⟨_, straight, rest, knits, tiles, _⟩ := some
    exact missing straight knits fun id member => tiles.subset (List.mem_append_left _ member)

end Knitted

/-! ## All forms -/

/-- `JudgeHu` accepts the complete hands and no others. -/
theorem judgeHu_iff {handtiles : Handtiles} (whole : handtiles.Whole) :
    judgeHu handtiles = true ↔ Winning handtiles.fulu.length handtiles.lipaiIds := by
  rw [judgeHu, Bool.or_eq_true, Bool.or_eq_true, Bool.or_eq_true, bne_iff_ne, bne_iff_ne,
    judgeCompleteSpecialHu_ne_invalid_iff whole, judgeBasicHu_iff whole,
    judgeZuhelongBasicHu_iff whole]
  constructor
  · intro accepted
    rcases accepted with ((⟨concealed, orphans | unrelated⟩ | pairs) | basic) | knitted
    · exact .thirteenOrphans (by rw [concealed]; rfl) orphans.1 orphans.2
    · obtain ⟨distinct, inPlay, straight, knits, within⟩ := unrelated
      exact .unrelated (by rw [concealed]; rfl) distinct inPlay knits within
    · obtain ⟨concealed, parts⟩ := splits_of_judgeQidui whole pairs
      exact .sevenPairs (by rw [concealed]; rfl) parts
    · exact .standard basic
    · obtain ⟨fulu, straight, rest, knits, tiles, parts⟩ := knitted
      exact .knitted fulu knits tiles parts
  · intro winning
    cases winning with
    | standard parts => exact .inl (.inr parts)
    | sevenPairs concealed parts =>
        have none := List.length_eq_zero_iff.mp concealed
        by_cases fewer : ∀ id, handtiles.lipaiIds.count id < 12
        · exact .inl (.inl (.inr (judgeQidui_of_splits whole none parts fewer)))
        · rw [not_forall] at fewer
          obtain ⟨id, many⟩ := fewer
          refine .inl (.inr ?_)
          rw [concealed]
          exact splits_of_twelve parts (Nat.le_of_not_lt many)
    | thirteenOrphans concealed outside all =>
        exact .inl (.inl (.inl ⟨List.length_eq_zero_iff.mp concealed, .inl ⟨outside, all⟩⟩))
    | unrelated concealed distinct inPlay knits within =>
        exact .inl (.inl (.inl ⟨List.length_eq_zero_iff.mp concealed,
          .inr ⟨distinct, inPlay, _, knits, within⟩⟩))
    | knitted atMostOne knits tiles parts =>
        exact .inr ⟨atMostOne, _, _, knits, tiles, parts⟩

/-- A concealed hand of these tiles and a last one, drawn by oneself. -/
def drawnHand (ids : List Int) (last : Int) : Handtiles :=
  { Handtiles.new with
    lipai := ids.map Tile.ofId ++ [⟨last, 1⟩]
    fuluTable := fun _ => some 0
    lipaiTable := fun id => some ((ids ++ [last]).count id)
    huapaiTable := fun _ => some 0
    quanfeng := tileE
    menfeng := tileE
    zimo := true }

theorem drawnHand_whole {ids : List Int} {last : Int} (thirteen : ids.length = 13)
    (listed : ∀ id ∈ ids ++ [last], 0 ≤ id ∧ id ≤ 44) : (drawnHand ids last).Whole := by
  refine ⟨Nat.zero_le 4, ?_, ?_, ?_⟩
  · change (ids.map Tile.ofId ++ [(⟨last, 1⟩ : Tile)]).length + 0 = 14
    rw [List.length_append, List.length_map, thirteen]
    rfl
  · intro tile member
    rcases List.mem_append.mp member with held | drawn
    · obtain ⟨id, among, rfl⟩ := List.mem_map.mp held
      exact listed id (List.mem_append_left _ among)
    · rw [List.mem_singleton.mp drawn]
      exact listed last (by simp)
  · refine ⟨⟨last, 1⟩, ids.map Tile.ofId, (List.perm_append_singleton _ _).subperm, ?_⟩
    rw [List.forall_mem_map]
    exact fun _ _ => rfl

/-- The thirteen orphans without a one, and the one drawn. -/
def drawnOrphans : Handtiles :=
  drawnHand [1, 9, 10, 18, 19, 27, 28, 29, 30, 31, 32, 33, 34] 1

/-- `JudgeHu` finds every complete hand, and each of its tests a form of its own. Only the
test for seven pairs passes over a hand: one of twelve tiles of a kind, which is four
triplets and a pair as well. -/
theorem judge_exact {handtiles : Handtiles} (whole : handtiles.Whole) :
    (judgeHu handtiles = true ↔ Winning handtiles.fulu.length handtiles.lipaiIds) ∧
      (judgeBasicHu handtiles = true ↔
        Splits handtiles.lipaiIds (4 - handtiles.fulu.length) 1) ∧
      (judgeZuhelongBasicHu handtiles = true ↔ handtiles.fulu.length ≤ 1 ∧
        ∃ straight rest, Knits straight ∧ (straight ++ rest).Perm handtiles.lipaiIds ∧
          Splits rest (1 - handtiles.fulu.length) 1) ∧
      (judgeCompleteSpecialHu handtiles ≠ .invalid ↔ handtiles.fulu = [] ∧
        ((∀ id ∈ handtiles.lipaiIds, Orphan id) ∧ (∀ id, Orphan id → id ∈ handtiles.lipaiIds) ∨
          handtiles.lipaiIds.Nodup ∧ (∀ id ∈ handtiles.lipaiIds, InPlay id) ∧
            ∃ straight, Knits straight ∧
              ∀ id ∈ handtiles.lipaiIds, Suited id → id ∈ straight)) ∧
      (judgeQidui handtiles ≠ .invalid →
        handtiles.fulu = [] ∧ Splits handtiles.lipaiIds 0 7) ∧
      (handtiles.fulu = [] → Splits handtiles.lipaiIds 0 7 →
        (∀ id, handtiles.lipaiIds.count id < 12) → judgeQidui handtiles ≠ .invalid) :=
  ⟨judgeHu_iff whole, judgeBasicHu_iff whole, judgeZuhelongBasicHu_iff whole,
    judgeCompleteSpecialHu_ne_invalid_iff whole, splits_of_judgeQidui whole,
    judgeQidui_of_splits whole⟩

theorem judge_exact_orphans : judgeHu drawnOrphans = true := by
  refine (judge_exact (drawnHand_whole rfl (by decide))).1.mpr ?_
  have all : ∀ id ∈ orphanIds, id ∈ drawnOrphans.lipaiIds := by decide
  exact .thirteenOrphans rfl (by decide) fun id orphan => all id (mem_orphanIds.mpr orphan)

end GbMahjong.Mahjong
