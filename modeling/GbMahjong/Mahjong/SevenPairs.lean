import GbMahjong.Mahjong.Shapes

/-! The search for seven pairs. Six packs do not fit into the hash any more, and the first
of them drop out of it. Only where twelve tiles are the same does that mix up two nodes. -/

set_option autoImplicit false

namespace GbMahjong.Mahjong

open GbMahjong.Library GbMahjong.Library.Packing Shape

/-! ## Long hashes -/

/-- From the sixth pair on, the hash holds the codes of the last five and part of one more. -/
theorem packed_long {codes : List Nat} (proper : ∀ code ∈ codes, 0 < code ∧ code < 2 ^ 11)
    (pairs : ∀ code ∈ codes, 8 ≤ code % 2 ^ 4) (long : 6 ≤ codes.length) :
    2 ^ 55 ≤ packed (2 ^ 11) codes % 2 ^ 64 ∧
      packed (2 ^ 11) codes % 2 ^ 64 % 2 ^ 55 =
        packed (2 ^ 11) (codes.drop (codes.length - 5)) := by
  have split := List.take_append_drop (codes.length - 5) codes
  have five : (codes.drop (codes.length - 5)).length = 5 := by
    rw [List.length_drop]
    omega
  generalize codes.drop (codes.length - 5) = last at split five ⊢
  rcases (codes.take (codes.length - 5)).eq_nil_or_concat with nothing | ⟨front, code, whole⟩
  · have length := congrArg List.length split
    rw [nothing, List.nil_append] at length
    omega
  · rw [whole, List.concat_eq_append] at split
    obtain ⟨_, small⟩ := proper code (split ▸ by simp)
    have type := pairs code (split ▸ by simp)
    have fits : packed (2 ^ 11) last < 2 ^ 55 := by
      have bound := packed_lt fun digit (member : digit ∈ last) =>
        (proper digit (split ▸ List.mem_append_right _ member)).2
      rw [five] at bound
      exact bound.trans_le (by decide)
    rw [← split, packed_append, packed_concat, five]
    constructor <;> omega

/-- Pairs of one hash are equally many, unless twelve tiles are the same. -/
theorem length_eq_of_packed {codes others : List Nat}
    (proper : ∀ code ∈ codes, 0 < code ∧ code < 2 ^ 11)
    (properToo : ∀ code ∈ others, 0 < code ∧ code < 2 ^ 11)
    (pairs : ∀ code ∈ codes, 8 ≤ code % 2 ^ 4) (pairsToo : ∀ code ∈ others, 8 ≤ code % 2 ^ 4)
    (same : packed (2 ^ 11) codes % 2 ^ 64 = packed (2 ^ 11) others % 2 ^ 64) :
    codes = others ∨ 6 ≤ codes.length ∧ 6 ≤ others.length ∧
      codes.drop (codes.length - 5) = others.drop (others.length - 5) := by
  have short : ∀ {codes : List Nat}, (∀ code ∈ codes, 0 < code ∧ code < 2 ^ 11) →
      codes.length ≤ 5 → packed (2 ^ 11) codes < 2 ^ 55 := by
    intro codes proper few
    calc packed (2 ^ 11) codes
        < (2 ^ 11) ^ codes.length := packed_lt fun digit member => (proper digit member).2
      _ ≤ (2 ^ 11) ^ 5 := Nat.pow_le_pow_right (by decide) few
      _ = 2 ^ 55 := by decide
  rcases Nat.lt_or_ge 5 codes.length with long | few <;>
    rcases Nat.lt_or_ge 5 others.length with longToo | fewToo
  · right
    have last := (packed_long proper pairs long).2
    rw [same, (packed_long properToo pairsToo longToo).2] at last
    refine ⟨long, longToo, (packed_injective ?_ ?_ last).symm⟩
    · exact fun digit member => properToo digit (List.mem_of_mem_drop member)
    · exact fun digit member => proper digit (List.mem_of_mem_drop member)
  · have large := (packed_long proper pairs long).1
    have small := short properToo fewToo
    omega
  · have large := (packed_long properToo pairsToo longToo).1
    have small := short proper few
    omega
  · left
    have small := short proper few
    have smallToo := short properToo fewToo
    exact packed_injective proper properToo (by omega)

/-! ## Pairs in order -/

namespace Part

/-- The number of each part's tile in the middle. -/
def numbersOf (parts : List Part) : List Int :=
  parts.map fun part => part.pack.tile.tile

variable {parts : List Part}

theorem isPair_of_mianziOf (pairs : mianziOf parts = 0) : ∀ part ∈ parts, part.isPair = true := by
  simpa [mianziOf, List.countP_eq_zero] using pairs

theorem ids_of_isPair {part : Part} (pair : part.isPair = true) :
    part.tiles.map Tile.getId = [part.pack.tile.tile, part.pack.tile.tile] := by
  rw [part.forms.ids, Pack.getAllTile, show part.pack.type = .jiang from eq_of_beq pair]
  rfl

theorem ids_of_pairs (pairs : mianziOf parts = 0) :
    (tilesOf parts).map Tile.getId = (numbersOf parts).flatMap fun id => [id, id] := by
  rw [tilesOf, List.map_flatMap, numbersOf, List.flatMap_map]
  exact List.flatMap_congr fun part member => ids_of_isPair (isPair_of_mianziOf pairs part member)

theorem code_of_isPair {part : Part} (pair : part.isPair = true) : 8 ≤ part.pack.code % 2 ^ 4 := by
  have flag := part.pack.haveLastTile.toNat_le
  rw [Pack.code, show part.pack.type = .jiang from eq_of_beq pair,
    show PackType.jiang.number = 4 from rfl]
  omega

/-- Codes decide numbers. -/
theorem numbersOf_eq (coded : ∀ part ∈ parts, part.pack.Coded) : numbersOf parts =
    ((packsOf parts).map Pack.code).map fun code => ((code / 2 ^ 4 : Nat) : Int) := by
  rw [numbersOf, packsOf, List.map_map, List.map_map]
  refine List.map_congr_left fun part member => ?_
  obtain ⟨lower, _⟩ := coded part member
  have type := part.pack.type.number_lt
  have flag := part.pack.haveLastTile.toNat_le
  simp only [Function.comp_apply, Pack.code]
  omega

end Part

namespace SearchNode

/-- The node that is left when the first pairs of sorted tiles are taken out. -/
structure PairsTaken (start node : SearchNode) (parts : List Part) : Prop
    extends Reached start node parts where
  inOrder : (Part.tilesOf parts ++ node.rest).map Tile.getId = start.rest.map Tile.getId

variable {start node other : SearchNode} {parts others : List Part} {part : Part}

theorem PairsTaken.mianziOf (pairsOnly : start.mianziCnt = 0)
    (taken : start.PairsTaken node parts) : Part.mianziOf parts = 0 := by
  have mianzi := taken.mianzi
  have left := taken.mianziLeft
  omega

theorem PairsTaken.mianziCnt (pairsOnly : start.mianziCnt = 0)
    (taken : start.PairsTaken node parts) : node.mianziCnt = 0 := by
  have mianzi := taken.mianzi
  have left := taken.mianziLeft
  omega

theorem PairsTaken.taking {next : SearchNode} (searchable : start.Searchable)
    (pairsOnly : start.mianziCnt = 0) (taken : start.PairsTaken node parts)
    (takes : node.Takes part next) : start.PairsTaken next (parts ++ [part]) := by
  refine ⟨taken.toReached.taking takes, ?_⟩
  have none := taken.mianziCnt pairsOnly
  have pair : part.isPair = true := by
    have wanted := takes.wanted
    by_contra notPair
    exact absurd none (by simpa [notPair] using wanted)
  have sorted := searchable.sorted.sublist taken.rest
  -- The pair starts with the lowest tile, so it stays in front.
  have inFront : ((part.tiles ++ next.rest).map Tile.getId).Pairwise (· ≤ ·) := by
    have first := takes.first
    have ids := Part.ids_of_isPair pair
    obtain ⟨a, tail, shape, firstId, mapped⟩ := List.map_eq_cons_iff.mp ids
    have least : ∀ tile ∈ node.rest, a.tile ≤ tile.tile := by
      rw [shape, List.head?_cons] at first
      obtain ⟨rest, whole⟩ := List.head?_eq_some_iff.mp first
      rw [whole] at sorted ⊢
      exact List.forall_mem_cons.mpr ⟨Int.le_refl _, (List.pairwise_cons.mp sorted).1⟩
    rw [List.map_append, ids]
    have lowest : ∀ id ∈ next.rest.map Tile.getId, part.pack.tile.tile ≤ id := by
      intro id member
      obtain ⟨tile, held, rfl⟩ := List.mem_map.mp member
      exact firstId ▸ least tile (takes.rest.subset held)
    have restSorted : (next.rest.map Tile.getId).Pairwise (· ≤ ·) :=
      List.pairwise_map.mpr (sorted.sublist takes.rest)
    refine .cons (List.forall_mem_cons.mpr ⟨Int.le_refl _, lowest⟩) (.cons lowest restSorted)
  have same : (part.tiles ++ next.rest).map Tile.getId = node.rest.map Tile.getId :=
    (takes.tiles.map _).eq_of_pairwise (fun _ _ _ _ => Int.le_antisymm) inFront
      (List.pairwise_map.mpr sorted)
  have whole := taken.inOrder
  rw [List.map_append, ← same] at whole
  simpa [Part.tilesOf] using whole

theorem PairsTaken.length (taken : start.PairsTaken node parts)
    (pairsOnly : start.mianziCnt = 0) (seven : start.duiziCnt = 7) :
    (parts.length : Int) + node.duiziCnt = 7 := by
  have count := Part.length_eq parts
  have none := taken.mianziOf pairsOnly
  have duizi := taken.duizi
  omega

/-- The numbers of the pairs, twice each, and then the rest. -/
theorem PairsTaken.numbers (taken : start.PairsTaken node parts)
    (pairsOnly : start.mianziCnt = 0) :
    ((Part.numbersOf parts).flatMap fun id => [id, id]) ++ node.rest.map Tile.getId =
      start.rest.map Tile.getId := by
  rw [← taken.inOrder, List.map_append, Part.ids_of_pairs (taken.mianziOf pairsOnly)]

/-- Six pairs and seven pairs of one hash are pairs of one tile, but for the first. -/
theorem PairsTaken.twelve {id : Int} (taken : start.PairsTaken node parts)
    (takenToo : start.PairsTaken other others) (pairsOnly : start.mianziCnt = 0)
    (six : parts.length = 6) (seven : others.length = 7)
    (last : (Part.numbersOf parts).drop 1 = (Part.numbersOf others).drop 2)
    (second : (Part.numbersOf others)[1]? = some id) :
    12 ≤ (start.rest.map Tile.getId).count id := by
  have numbers := taken.numbers pairsOnly
  rw [← takenToo.numbers pairsOnly] at numbers ⊢
  have sixNumbers : (Part.numbersOf parts).length = 6 := by rw [Part.numbersOf, List.length_map, six]
  have sevenNumbers : (Part.numbersOf others).length = 7 := by
    rw [Part.numbersOf, List.length_map, seven]
  generalize Part.numbersOf parts = firsts at numbers last sixNumbers
  generalize Part.numbersOf others = seconds at numbers last second sevenNumbers ⊢
  match firsts, seconds, sixNumbers, sevenNumbers with
  | [a, b, c, d, e, f], [a', b', c', d', e', f', g'], _, _ =>
      simp only [List.flatMap_cons, List.cons_append, List.nil_append, List.cons.injEq,
        List.drop_succ_cons, List.drop_zero, List.flatMap_nil, List.getElem?_cons_succ,
        List.getElem?_cons_zero, Option.some.injEq] at numbers last second ⊢
      obtain ⟨rfl, -, rfl, -, rfl, -, rfl, -, rfl, -, rfl, -, -⟩ := numbers
      obtain ⟨rfl, rfl, rfl, rfl, rfl, -⟩ := last
      subst second
      rw [List.count_cons, List.count_cons]
      simp only [List.count_cons_self]
      omega

/-- The hash tells how many pairs were taken, unless twelve tiles are the same. -/
theorem PairsTaken.length_eq (searchable : start.Searchable) (none : start.packs = [])
    (pairsOnly : start.mianziCnt = 0) (seven : start.duiziCnt = 7)
    (fewer : ∀ id, (start.rest.map Tile.getId).count id < 12)
    (taken : start.PairsTaken node parts) (takenToo : start.PairsTaken other others)
    (same : (searchTree 0).key node = (searchTree 0).key other) :
    parts.length = others.length := by
  have own : start.packs.length = 0 := by rw [none]; rfl
  have hashes := congrArg BitVec.toNat same
  rw [taken.toReached.key searchable own, takenToo.toReached.key searchable own] at hashes
  have coded : ∀ {node : SearchNode} {parts : List Part}, start.PairsTaken node parts →
      ∀ code ∈ (Part.packsOf parts).map Pack.code, 8 ≤ code % 2 ^ 4 := by
    intro node parts taken code member
    obtain ⟨pack, held, rfl⟩ := List.mem_map.mp member
    obtain ⟨part, among, rfl⟩ := List.mem_map.mp held
    exact Part.code_of_isPair (Part.isPair_of_mianziOf (taken.mianziOf pairsOnly) part among)
  have either := length_eq_of_packed (taken.toReached.codes_proper searchable)
    (takenToo.toReached.codes_proper searchable) (coded taken) (coded takenToo) hashes
  simp only [List.length_map, Part.packsOf] at either
  rcases either with codes | ⟨six, sixToo, last⟩
  · simpa using congrArg List.length codes
  · have count := taken.length pairsOnly seven
    have countToo := takenToo.length pairsOnly seven
    have left := taken.duiziLeft
    have leftToo := takenToo.duiziLeft
    have numbers : (Part.numbersOf parts).drop (parts.length - 5) =
        (Part.numbersOf others).drop (others.length - 5) := by
      have mapped := congrArg (List.map fun code => ((code / 2 ^ 4 : Nat) : Int)) last
      rw [List.map_drop, List.map_drop] at mapped
      rw [Part.numbersOf_eq, Part.numbersOf_eq]
      · exact mapped
      · exact fun part member => Part.coded_of_within searchable.listed
          (Part.within_of_mem takenToo.tiles member)
      · exact fun part member => Part.coded_of_within searchable.listed
          (Part.within_of_mem taken.tiles member)
    rcases (by omega : parts.length = others.length ∨ parts.length = 6 ∧ others.length = 7 ∨
      parts.length = 7 ∧ others.length = 6) with equal | ⟨few, many⟩ | ⟨many, few⟩
    · exact equal
    · rw [few, many] at numbers
      obtain ⟨id, second⟩ : ∃ id, (Part.numbersOf others)[1]? = some id :=
        ⟨_, List.getElem?_eq_getElem (by rw [Part.numbersOf, List.length_map]; omega)⟩
      have twelve := taken.twelve takenToo pairsOnly few many numbers second
      have fewer := fewer id
      omega
    · rw [few, many] at numbers
      obtain ⟨id, second⟩ : ∃ id, (Part.numbersOf parts)[1]? = some id :=
        ⟨_, List.getElem?_eq_getElem (by rw [Part.numbersOf, List.length_map]; omega)⟩
      have twelve := takenToo.twelve taken pairsOnly few many numbers.symm second
      have fewer := fewer id
      omega

/-- The search for seven pairs passes over no node that could still succeed. -/
theorem Searchable.keysDecide_pairs (searchable : start.Searchable) (none : start.packs = [])
    (pairsOnly : start.mianziCnt = 0) (seven : start.duiziCnt = 7)
    (fewer : ∀ id, (start.rest.map Tile.getId).count id < 12) :
    (searchTree 0).KeysDecide (fun node => ∃ parts, start.PairsTaken node parts)
      (fun node => node.rest.length) fun _ _ => True := by
  have alike : ∀ {node other : SearchNode} {parts others : List Part},
      start.PairsTaken node parts → start.PairsTaken other others →
      (searchTree 0).key node = (searchTree 0).key other →
      node.rest.map Tile.getId = other.rest.map Tile.getId ∧ node.duiziCnt = other.duiziCnt := by
    intro node other parts others taken takenToo same
    have equal := taken.length_eq searchable none pairsOnly seven fewer takenToo same
    have numbers := taken.numbers pairsOnly
    rw [← takenToo.numbers pairsOnly] at numbers
    have count := taken.length pairsOnly seven
    have countToo := takenToo.length pairsOnly seven
    refine ⟨(List.append_inj numbers ?_).2, by omega⟩
    simp [Part.numbersOf, Function.comp_def, equal]
  apply SearchTree.KeysDecide.of_twins
  · intro node next taken _ move
    obtain ⟨parts, taken⟩ := taken
    obtain ⟨part, takes⟩ := takes_of_mem_moves move
    exact ⟨parts ++ [part], taken.taking searchable pairsOnly takes⟩
  · intro node next _ _ move
    obtain ⟨part, takes⟩ := takes_of_mem_moves move
    exact takes.length_lt
  · intro node other taken takenToo same
    obtain ⟨parts, taken⟩ := taken
    obtain ⟨others, takenToo⟩ := takenToo
    simpa using congrArg List.length (alike taken takenToo same).1
  · intro node other leaf taken takenToo same below
    obtain ⟨parts, taken⟩ := taken
    obtain ⟨others, takenToo⟩ := takenToo
    obtain ⟨ids, duizi⟩ := alike taken takenToo same
    obtain ⟨reading, _, reads⟩ := taken.toReached.reads searchable below
    have listed : ∀ {node : SearchNode} {parts : List Part}, start.PairsTaken node parts →
        ∀ tile ∈ node.rest, tile.Listed :=
      fun taken tile member => searchable.listed tile (taken.rest.subset member)
    have counted := reads
    rw [reads.mianzi, reads.duizi] at counted
    have splits := (reads_iff_splits (listed taken)).mp ⟨reading, counted⟩
    rw [ids] at splits
    obtain ⟨twins, readsToo⟩ := (reads_iff_splits (listed takenToo)).mpr splits
    obtain ⟨twin, belowToo, _⟩ := leaf_of_parts (searchable.sorted.sublist takenToo.rest)
      readsToo.tiles
      (by
        rw [takenToo.mianziCnt pairsOnly, ← taken.mianziCnt pairsOnly, reads.mianzi]
        exact readsToo.mianzi)
      (by
        rw [← duizi, reads.duizi]
        exact readsToo.duizi)
    exact ⟨twin, belowToo, trivial⟩
  · exact fun _ _ => trivial

end SearchNode

end GbMahjong.Mahjong
