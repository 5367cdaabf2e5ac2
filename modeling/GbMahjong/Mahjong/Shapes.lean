import Mathlib.Data.List.Permutation
import GbMahjong.Mahjong.Pruning

/-! Complete hands in the game's own terms, over tile numbers, and what the readings of a
hand have to do with them. -/

set_option autoImplicit false

namespace GbMahjong.Mahjong

namespace Shape

/-! ## Tiles by number -/

/-- Three suits of nine. -/
def Suited (id : Int) : Prop :=
  1 ≤ id ∧ id ≤ 27

def Honour (id : Int) : Prop :=
  28 ≤ id ∧ id ≤ 34

def InPlay (id : Int) : Prop :=
  Suited id ∨ Honour id

def rankNumber (id : Int) : Int :=
  (id - 1) % 9 + 1

/-- A one, a nine or an honour. -/
def Orphan (id : Int) : Prop :=
  Honour id ∨ Suited id ∧ (rankNumber id = 1 ∨ rankNumber id = 9)

instance (id : Int) : Decidable (Suited id) :=
  inferInstanceAs (Decidable (_ ∧ _))

instance (id : Int) : Decidable (Honour id) :=
  inferInstanceAs (Decidable (_ ∧ _))

instance (id : Int) : Decidable (InPlay id) :=
  inferInstanceAs (Decidable (_ ∨ _))

instance (id : Int) : Decidable (Orphan id) :=
  inferInstanceAs (Decidable (_ ∨ _))

/-! ## Complete hands -/

/-- Three of a kind, or three in a row of one suit. -/
inductive Meld : List Int → Prop where
  | triplet {id : Int} (inPlay : InPlay id) : Meld [id, id, id]
  | run {id : Int} (suited : Suited id) (fits : rankNumber id ≤ 7) : Meld [id, id + 1, id + 2]

/-- The tiles fall into so many melds and pairs. -/
def Splits (ids : List Int) (melds pairs : Nat) : Prop :=
  ∃ (sets : List (List Int)) (eyes : List Int), sets.length = melds ∧ eyes.length = pairs ∧
    (∀ set ∈ sets, Meld set) ∧ (∀ eye ∈ eyes, InPlay eye) ∧
    (sets.flatten ++ eyes.flatMap fun eye => [eye, eye]).Perm ids

/-- Every third tile of each suit, from the given ranks on. -/
def knit (wan tiao bing : Int) : List Int :=
  [wan, wan + 3, wan + 6, 9 + tiao, 9 + tiao + 3, 9 + tiao + 6, 18 + bing, 18 + bing + 3,
    18 + bing + 6]

/-- A knitted straight: the three suits start from different ranks. -/
def Knits (straight : List Int) : Prop :=
  ∃ wan tiao bing, [wan, tiao, bing].Perm [1, 2, 3] ∧ straight = knit wan tiao bing

/-- The standing tiles complete a hand with so many declared packs. -/
inductive Winning (declared : Nat) (ids : List Int) : Prop where
  | standard (parts : Splits ids (4 - declared) 1)
  | sevenPairs (concealed : declared = 0) (parts : Splits ids 0 7)
  | thirteenOrphans (concealed : declared = 0) (outside : ∀ id ∈ ids, Orphan id)
      (all : ∀ id, Orphan id → id ∈ ids)
  | unrelated (concealed : declared = 0) (distinct : ids.Nodup)
      (inPlay : ∀ id ∈ ids, InPlay id) {straight : List Int} (knits : Knits straight)
      (within : ∀ id ∈ ids, Suited id → id ∈ straight)
  | knitted (atMostOne : declared ≤ 1) {straight rest : List Int} (knits : Knits straight)
      (tiles : (straight ++ rest).Perm ids) (parts : Splits rest (1 - declared) 1)

theorem Splits.of_perm {ids others : List Int} {melds pairs : Nat} (same : ids.Perm others)
    (splits : Splits ids melds pairs) : Splits others melds pairs := by
  obtain ⟨sets, eyes, sizes, pairSizes, melds, eyesInPlay, tiles⟩ := splits
  exact ⟨sets, eyes, sizes, pairSizes, melds, eyesInPlay, tiles.trans same⟩

/-- The order in which the tiles stand does not matter. -/
theorem Winning.of_perm {declared : Nat} {ids others : List Int} (same : ids.Perm others)
    (winning : Winning declared ids) : Winning declared others := by
  cases winning with
  | standard parts => exact .standard (parts.of_perm same)
  | sevenPairs concealed parts => exact .sevenPairs concealed (parts.of_perm same)
  | thirteenOrphans concealed outside all =>
      exact .thirteenOrphans concealed (fun id member => outside id (same.symm.subset member))
        fun id orphan => same.subset (all id orphan)
  | unrelated concealed distinct inPlay knits within =>
      exact .unrelated concealed (same.nodup_iff.mp distinct)
        (fun id member => inPlay id (same.symm.subset member)) knits
        fun id member => within id (same.symm.subset member)
  | knitted atMostOne knits tiles parts => exact .knitted atMostOne knits (tiles.trans same) parts

/-- The library's table lists the knitted straights. -/
theorem knits_iff {straight : List Int} : Knits straight ↔ straight ∈ zuhelongTiles.tail := by
  constructor
  · intro knits
    obtain ⟨wan, tiao, bing, starts, rfl⟩ := knits
    have listed := List.mem_permutations'.mpr starts
    simp only [List.permutations', List.permutations'Aux, List.flatMap_cons, List.flatMap_nil,
      List.map_cons, List.map_nil, List.append_nil, List.cons_append, List.nil_append,
      List.mem_cons, List.cons.injEq, List.not_mem_nil, and_true, or_false] at listed
    rcases listed with ⟨rfl, rfl, rfl⟩ | ⟨rfl, rfl, rfl⟩ | ⟨rfl, rfl, rfl⟩ | ⟨rfl, rfl, rfl⟩ |
      ⟨rfl, rfl, rfl⟩ | ⟨rfl, rfl, rfl⟩ <;> decide
  · intro listed
    simp only [zuhelongTiles, List.tail_cons, List.mem_cons, List.not_mem_nil, or_false] at listed
    rcases listed with rfl | rfl | rfl | rfl | rfl | rfl
    · exact ⟨1, 2, 3, by decide, rfl⟩
    · exact ⟨1, 3, 2, by decide, rfl⟩
    · exact ⟨2, 1, 3, by decide, rfl⟩
    · exact ⟨2, 3, 1, by decide, rfl⟩
    · exact ⟨3, 1, 2, by decide, rfl⟩
    · exact ⟨3, 2, 1, by decide, rfl⟩

/-- Two knitted straights have fifteen tiles between them, more than a hand. -/
theorem knits_far_apart : ∀ straight ∈ zuhelongTiles.tail, ∀ other ∈ zuhelongTiles.tail,
    straight = other ∨ 15 ≤ (straight ++ other).dedup.length := by
  decide

theorem countP_mem_append_le (ids first second : List Int) :
    ids.countP (· ∈ first ++ second) ≤ ids.countP (· ∈ first) + ids.countP (· ∈ second) := by
  induction ids with
  | nil => exact Nat.zero_le _
  | cons id ids ih =>
      simp only [List.countP_cons, List.mem_append, decide_eq_true_eq] at ih ⊢
      split_ifs <;> first | omega | tauto

/-- The tiles of a knitted straight stand too far apart for two of them in one meld or pair. -/
theorem knits_meet {straight : List Int} (knits : Knits straight) :
    (∀ set, Meld set → straight.countP (· ∈ set) ≤ 1) ∧
      ∀ eye, straight.countP (· ∈ [eye, eye]) ≤ 1 := by
  have listed := knits_iff.mp knits
  have apart : ∀ straight ∈ zuhelongTiles.tail, straight.Nodup ∧ ∀ id ∈ idRange 1 28,
      rankNumber id ≤ 7 → straight.countP (· ∈ [id, id + 1, id + 2]) ≤ 1 := by decide +kernel
  obtain ⟨distinct, runs⟩ := apart straight listed
  have one (id : Int) {set : List Int} (same : ∀ other, other ∈ set ↔ other = id) :
      straight.countP (· ∈ set) ≤ 1 := by
    simp only [same]
    exact List.nodup_iff_count_le_one.mp distinct id
  refine ⟨fun set meld => ?_, fun eye => one eye (by simp)⟩
  cases meld with
  | @triplet id _ => exact one id (by simp)
  | run suited fits =>
      exact runs _ (mem_idRange.mpr ⟨suited.1, Int.lt_add_one_of_le suited.2⟩) fits

/-- Tiles with a knitted straight among them fall into nine melds and pairs at least. -/
theorem Splits.nine_le {straight ids : List Int} {melds pairs : Nat}
    (splits : Splits ids melds pairs) (knits : Knits straight)
    (held : ∀ id ∈ straight, id ∈ ids) : 9 ≤ melds + pairs := by
  obtain ⟨sets, eyes, rfl, rfl, allMelds, -, tiles⟩ := splits
  obtain ⟨perMeld, perEye⟩ := knits_meet knits
  have inSets : straight.countP (· ∈ sets.flatten) ≤ sets.length := by
    clear tiles
    induction sets with
    | nil => simp
    | cons set sets ih =>
        obtain ⟨first, rest⟩ := List.forall_mem_cons.mp allMelds
        have split := countP_mem_append_le straight set sets.flatten
        have met := perMeld set first
        have others := ih rest
        rw [List.flatten_cons, List.length_cons]
        omega
  have inEyes : straight.countP (· ∈ eyes.flatMap fun eye => [eye, eye]) ≤ eyes.length := by
    clear tiles
    induction eyes with
    | nil => simp
    | cons eye eyes ih =>
        have split := countP_mem_append_le straight [eye, eye]
          (eyes.flatMap fun eye => [eye, eye])
        have met := perEye eye
        rw [List.flatMap_cons, List.length_cons]
        omega
  have all : straight.countP (· ∈ sets.flatten ++ eyes.flatMap fun eye => [eye, eye]) =
      straight.length := by
    refine List.countP_eq_length.mpr fun id member => ?_
    exact decide_eq_true (tiles.mem_iff.mpr (held id member))
  have nine : straight.length = 9 := by
    obtain ⟨_, _, _, _, rfl⟩ := knits
    rfl
  have split := countP_mem_append_le straight sets.flatten
    (eyes.flatMap fun eye => [eye, eye])
  omega

end Shape

/-! ## Readings and numbers -/

open Shape

/-- A rearrangement of the images is the image of a rearrangement. -/
theorem exists_perm_of_perm_map {Item Image : Type} {image : Item → Image} {items : List Item}
    {images : List Image} (same : images.Perm (items.map image)) :
    ∃ others : List Item, others.Perm items ∧ others.map image = images := by
  generalize whole : items.map image = target at same
  induction same generalizing items with
  | nil => exact ⟨[], by rw [List.map_eq_nil_iff.mp whole], rfl⟩
  | cons first _ ih =>
      obtain ⟨item, rest, rfl, rfl, mapped⟩ := List.map_eq_cons_iff.mp whole
      obtain ⟨others, reordered, images⟩ := ih mapped
      exact ⟨item :: others, reordered.cons item, congrArg (_ :: ·) images⟩
  | swap first second rest =>
      obtain ⟨item, _, rfl, rfl, mapped⟩ := List.map_eq_cons_iff.mp whole
      obtain ⟨other, rest, rfl, rfl, rfl⟩ := List.map_eq_cons_iff.mp mapped
      exact ⟨other :: item :: rest, .swap _ _ _, rfl⟩
  | trans _ _ ih further =>
      obtain ⟨middle, reordered, mapped⟩ := further whole
      obtain ⟨others, reorderedToo, images⟩ := ih mapped
      exact ⟨others, reorderedToo.trans reordered, images⟩

section Numbers

variable {tiles : List Tile}

theorem Tile.playable_iff {tile : Tile} (listed : tile.Listed) :
    tile.Playable ↔ InPlay tile.getId := by
  rw [Tile.Playable, Tile.isShu_iff listed, Tile.isZi_iff listed]
  rfl

theorem meld_of_part {part : Part} (listed : ∀ tile ∈ part.tiles, tile.Listed)
    (notPair : part.isPair = false) : Meld (part.tiles.map Tile.getId) := by
  obtain ⟨tiles, pack, forms⟩ := part
  cases forms with
  | jiang => cases notPair
  | @kezi a b c playable same alike =>
      have inPlay := (Tile.playable_iff (listed a (by simp))).mp playable
      simp only [List.map_cons, List.map_nil, Tile.getId, alike, same]
      exact .triplet inPlay
  | @shunzi a b c suited suitedToo suit suitToo next after =>
      have listedA := listed a (by simp)
      have bounds := (Tile.isShu_iff listedA).mp suited
      have boundsToo := (Tile.isShu_iff (listed b (by simp))).mp suitedToo
      have one := (Tile.suit_eq_iff bounds.1 bounds.2 (listed b (by simp))).mp suit.symm
      have another := (Tile.suit_eq_iff boundsToo.1 boundsToo.2 (listed c (by simp))).mp suitToo
      have run : Meld [a.tile, a.tile + 1, a.tile + 2] := by
        refine .run bounds ?_
        unfold rankNumber
        omega
      simp only [List.map_cons, List.map_nil, Tile.getId, after, next]
      rwa [Int.add_assoc] at *

theorem eye_of_part {part : Part} (listed : ∀ tile ∈ part.tiles, tile.Listed)
    (pair : part.isPair = true) :
    InPlay part.pack.tile.tile ∧
      part.tiles.map Tile.getId = [part.pack.tile.tile, part.pack.tile.tile] := by
  obtain ⟨tiles, pack, forms⟩ := part
  cases forms with
  | @jiang a b playable same =>
      have inPlay := (Tile.playable_iff (listed a (by simp))).mp playable
      simp only [Tile.ofId, Tile.getId, List.map_cons, List.map_nil, same]
      exact ⟨inPlay, trivial⟩
  | kezi => cases pair
  | shunzi => cases pair

theorem exists_part_of_meld {set : List Int} (meld : Meld set) (ids : tiles.map Tile.getId = set)
    (listed : ∀ tile ∈ tiles, tile.Listed) :
    ∃ part : Part, part.tiles = tiles ∧ part.isPair = false := by
  cases meld with
  | @triplet id inPlay =>
      obtain ⟨a, _, rfl, first, mapped⟩ := List.map_eq_cons_iff.mp ids
      obtain ⟨b, _, rfl, second, mapped⟩ := List.map_eq_cons_iff.mp mapped
      obtain ⟨c, _, rfl, third, mapped⟩ := List.map_eq_cons_iff.mp mapped
      obtain rfl := List.map_eq_nil_iff.mp mapped
      subst first
      have playable := (Tile.playable_iff (listed a (by simp))).mpr inPlay
      exact ⟨⟨_, _, .kezi playable second (third.trans second.symm)⟩, rfl, rfl⟩
  | @run id suited fits =>
      obtain ⟨a, _, rfl, first, mapped⟩ := List.map_eq_cons_iff.mp ids
      obtain ⟨b, _, rfl, second, mapped⟩ := List.map_eq_cons_iff.mp mapped
      obtain ⟨c, _, rfl, third, mapped⟩ := List.map_eq_cons_iff.mp mapped
      obtain rfl := List.map_eq_nil_iff.mp mapped
      subst first
      unfold Suited at suited
      unfold rankNumber at fits
      change b.tile = a.tile + 1 at second
      change c.tile = a.tile + 2 at third
      change 1 ≤ a.tile ∧ a.tile ≤ 27 at suited
      change (a.tile - 1) % 9 + 1 ≤ 7 at fits
      have listedB := listed b (by simp)
      have suitedB := (Tile.isShu_iff listedB).mpr (by omega)
      have sameSuit := (Tile.suit_eq_iff suited.1 suited.2 listedB).mpr (by omega)
      have sameSuitToo : b.suit = c.suit :=
        (Tile.suit_eq_iff (by omega) (by omega) (listed c (by simp))).mpr (by omega)
      have suitedA := (Tile.isShu_iff (listed a (by simp))).mpr suited
      exact ⟨⟨_, _, .shunzi suitedA suitedB sameSuit.symm sameSuitToo second (by omega)⟩, rfl, rfl⟩

theorem exists_part_of_eye {eye : Int} (inPlay : InPlay eye)
    (ids : tiles.map Tile.getId = [eye, eye]) (listed : ∀ tile ∈ tiles, tile.Listed) :
    ∃ part : Part, part.tiles = tiles ∧ part.isPair = true := by
  obtain ⟨a, _, rfl, first, mapped⟩ := List.map_eq_cons_iff.mp ids
  obtain ⟨b, _, rfl, second, mapped⟩ := List.map_eq_cons_iff.mp mapped
  obtain rfl := List.map_eq_nil_iff.mp mapped
  subst first
  have playable := (Tile.playable_iff (listed a (by simp))).mpr inPlay
  exact ⟨⟨_, _, .jiang playable second⟩, rfl, rfl⟩

/-- Tiles whose numbers are those of sets, one after another, are those of parts. -/
theorem exists_parts {sets : List (List Int)} {pairs : Bool}
    (each : ∀ set ∈ sets, ∀ tiles : List Tile, tiles.map Tile.getId = set →
      (∀ tile ∈ tiles, tile.Listed) → ∃ part : Part, part.tiles = tiles ∧ part.isPair = pairs)
    (ids : tiles.map Tile.getId = sets.flatten) (listed : ∀ tile ∈ tiles, tile.Listed) :
    ∃ parts : List Part, Part.tilesOf parts = tiles ∧ parts.length = sets.length ∧
      ∀ part ∈ parts, part.isPair = pairs := by
  induction sets generalizing tiles with
  | nil => exact ⟨[], (List.map_eq_nil_iff.mp ids).symm, rfl, List.forall_mem_nil _⟩
  | cons set sets ih =>
      obtain ⟨each, eachRest⟩ := List.forall_mem_cons.mp each
      obtain ⟨first, rest, rfl, firstIds, restIds⟩ := List.map_eq_append_iff.mp ids
      obtain ⟨listedFirst, listedRest⟩ := List.forall_mem_append.mp listed
      obtain ⟨part, rfl, sort⟩ := each first firstIds listedFirst
      obtain ⟨parts, rfl, count, sorts⟩ := ih eachRest restIds listedRest
      exact ⟨part :: parts, rfl, congrArg (· + 1) count, List.forall_mem_cons.mpr ⟨sort, sorts⟩⟩

/-- The tiles can be read as so many packs exactly when their numbers split so. -/
theorem reads_iff_splits (listed : ∀ tile ∈ tiles, tile.Listed) {melds pairs : Nat} :
    (∃ parts, Reads tiles melds pairs parts) ↔ Splits (tiles.map Tile.getId) melds pairs := by
  constructor
  · intro some
    obtain ⟨parts, reads⟩ := some
    have listedPart : ∀ part ∈ parts, ∀ tile ∈ part.tiles, tile.Listed := by
      intro part member tile held
      exact listed tile (reads.tiles.subset (List.mem_flatMap.mpr ⟨part, member, held⟩))
    refine ⟨(parts.filter fun part => !part.isPair).map fun part => part.tiles.map Tile.getId,
      (parts.filter Part.isPair).map fun part => part.pack.tile.tile, ?_, ?_, ?_, ?_, ?_⟩
    · rw [List.length_map, ← List.countP_eq_length_filter]
      exact_mod_cast reads.mianzi.symm
    · rw [List.length_map, ← List.countP_eq_length_filter]
      exact_mod_cast reads.duizi.symm
    · intro set member
      obtain ⟨part, held, rfl⟩ := List.mem_map.mp member
      obtain ⟨held, notPair⟩ := List.mem_filter.mp held
      exact meld_of_part (listedPart part held) (by simpa using notPair)
    · intro eye member
      obtain ⟨part, held, rfl⟩ := List.mem_map.mp member
      obtain ⟨held, pair⟩ := List.mem_filter.mp held
      exact (eye_of_part (listedPart part held) pair).1
    · have eyes : ((parts.filter Part.isPair).map fun part => part.pack.tile.tile).flatMap
          (fun eye => [eye, eye]) = (Part.tilesOf (parts.filter Part.isPair)).map Tile.getId := by
        rw [List.flatMap_map, Part.tilesOf, List.map_flatMap]
        refine List.flatMap_congr fun part member => ?_
        obtain ⟨held, pair⟩ := List.mem_filter.mp member
        exact (eye_of_part (listedPart part held) pair).2.symm
      have sorted := Part.tilesOf_perm
        ((List.perm_append_comm).trans (List.filter_append_perm Part.isPair parts))
      rw [eyes, ← List.flatMap_def, ← List.map_flatMap, ← List.map_append]
      refine (List.Perm.trans ?_ reads.tiles).map _
      rwa [Part.tilesOf, List.flatMap_append] at sorted
  · intro splits
    obtain ⟨sets, eyes, rfl, rfl, allMelds, allInPlay, whole⟩ := splits
    obtain ⟨others, reordered, ids⟩ := exists_perm_of_perm_map whole
    have listedOthers : ∀ tile ∈ others, tile.Listed :=
      fun tile member => listed tile (reordered.subset member)
    obtain ⟨front, back, rfl, frontIds, backIds⟩ := List.map_eq_append_iff.mp ids
    obtain ⟨listedFront, listedBack⟩ := List.forall_mem_append.mp listedOthers
    obtain ⟨melds, rfl, meldCount, meldSorts⟩ := exists_parts
      (fun set member tiles ids => exists_part_of_meld (allMelds set member) ids) frontIds
      listedFront
    rw [List.flatMap_def] at backIds
    obtain ⟨pairs, rfl, pairCount, pairSorts⟩ := exists_parts (fun set member tiles ids => by
      obtain ⟨eye, held, rfl⟩ := List.mem_map.mp member
      exact exists_part_of_eye (allInPlay eye held) ids) backIds listedBack
    rw [List.length_map] at pairCount
    have noPairs : Part.pairsOf melds = 0 := by
      simpa [Part.pairsOf, List.countP_eq_zero] using meldSorts
    have noMelds : Part.mianziOf pairs = 0 := by
      simpa [Part.mianziOf, List.countP_eq_zero] using pairSorts
    have meldLength := Part.length_eq melds
    have pairLength := Part.length_eq pairs
    refine ⟨melds ++ pairs, ?_, ?_, ?_⟩
    · rwa [Part.tilesOf, List.flatMap_append]
    · rw [Part.mianziOf, List.countP_append, ← Part.mianziOf, ← Part.mianziOf]
      omega
    · rw [Part.pairsOf, List.countP_append, ← Part.pairsOf, ← Part.pairsOf]
      omega

end Numbers

end GbMahjong.Mahjong
