import GbMahjong.Library.Packing
import GbMahjong.Mahjong.Reading

/-! Why `_Dfs` may pass over packs whose hash it has met: as long as the packs fit into the
hash, it tells them apart, and the packs decide which tiles are left. -/

set_option autoImplicit false

namespace GbMahjong.Mahjong

open GbMahjong.Library GbMahjong.Library.Packing

/-! ## The hash as a number -/

theorem PackType.number_lt (type : PackType) : type.number < 8 := by
  cases type <;> decide

theorem PackType.number_injective {type other : PackType} (same : type.number = other.number) :
    type = other := by
  cases type <;> cases other <;> first | rfl | cases same

/-- The 11 bits of a pack in the hash. -/
def Pack.code (pack : Pack) : Nat :=
  pack.tile.tile.toNat * 2 ^ 4 + pack.type.number * 2 + pack.haveLastTile.toNat

/-- The tile's id fits into the 7 bits it is given. -/
def Pack.Coded (pack : Pack) : Prop :=
  1 ≤ pack.tile.tile ∧ pack.tile.tile < 2 ^ 6

section Codes

variable {pack other : Pack}

theorem Pack.code_proper (coded : pack.Coded) : 0 < pack.code ∧ pack.code < 2 ^ 11 := by
  obtain ⟨lower, upper⟩ := coded
  have type := pack.type.number_lt
  have flag := pack.haveLastTile.toNat_le
  unfold code
  omega

/-- A code gives its pack away, but for how the last tile is marked. -/
theorem Pack.code_injective (coded : pack.Coded) (codedToo : other.Coded)
    (same : pack.code = other.code) :
    pack.tile.tile = other.tile.tile ∧ pack.type = other.type ∧
      pack.haveLastTile = other.haveLastTile := by
  obtain ⟨lower, _⟩ := coded
  obtain ⟨lowerToo, _⟩ := codedToo
  have type := pack.type.number_lt
  have typeToo := other.type.number_lt
  have flag := pack.haveLastTile.toNat_le
  have flagToo := other.haveLastTile.toNat_le
  unfold code at same
  have flags : pack.haveLastTile.toNat = other.haveLastTile.toNat := by omega
  refine ⟨by omega, PackType.number_injective (by omega), ?_⟩
  revert flags
  cases pack.haveLastTile <;> cases other.haveLastTile <;> decide

theorem packsHashcode_toNat (fuluSize : Nat) (packs : List Pack)
    (coded : ∀ pack ∈ packs.drop fuluSize, pack.Coded) :
    (packsHashcode fuluSize packs).toNat =
      packed (2 ^ 11) ((packs.drop fuluSize).map Pack.code) % 2 ^ 64 := by
  unfold packsHashcode
  generalize packs.drop fuluSize = inner at coded ⊢
  induction inner using List.reverseRecOn with
  | nil => rfl
  | append_singleton inner pack ih =>
      have before := ih fun earlier member => coded earlier (List.mem_append_left _ member)
      obtain ⟨lower, upper⟩ := coded pack (by simp)
      have type := pack.type.number_lt
      have flag := pack.haveLastTile.toNat_le
      have idBits : (BitVec.ofInt 64 pack.tile.getId).toNat = pack.tile.tile.toNat := by
        rw [BitVec.toNat_ofInt, Tile.getId]
        omega
      have typeBits : (BitVec.ofNat 64 pack.type.number).toNat = pack.type.number := by
        rw [BitVec.toNat_ofNat]
        omega
      have flagBits : (BitVec.ofNat 64 pack.haveLastTile.toNat).toNat =
          pack.haveLastTile.toNat := by
        rw [BitVec.toNat_ofNat]
        omega
      rw [List.foldl_append, List.foldl_cons, List.foldl_nil, List.map_append, List.map_cons,
        List.map_nil, packed_concat, toNat_shiftLeft_or _ _ (by decide) (by omega), flagBits,
        toNat_shiftLeft_or _ _ (by decide) (by omega), typeBits,
        toNat_shiftLeft_or _ _ (by decide) (by omega), idBits, before]
      unfold Pack.code
      omega

end Codes

/-! ## One marked tile -/

/-- At most one tile bears a draw flag. -/
def OneMark (tiles : List Tile) : Prop :=
  ∃ last others, tiles.Subperm (last :: others) ∧ ∀ tile ∈ others, tile.drawflag = 0

section Marks

variable {tiles part other : List Tile}

theorem Tile.marks_of_unmarked (unmarked : ∀ tile ∈ tiles, tile.drawflag = 0) :
    Tile.marks tiles = 0 := by
  induction tiles with
  | nil => rfl
  | cons tile rest ih =>
      obtain ⟨first, rest⟩ := List.forall_mem_cons.mp unmarked
      rw [marks, first, ih rest]

/-- Some of the tiles hold the marked one or no mark at all. -/
theorem OneMark.cases (one : OneMark tiles) : ∃ last : Tile, ∀ part : List Tile,
    part.Subperm tiles → (∀ tile ∈ part, tile.drawflag = 0) ∨
      ∃ rest, part.Perm (last :: rest) ∧ ∀ tile ∈ rest, tile.drawflag = 0 := by
  obtain ⟨last, others, among, unmarked⟩ := one
  refine ⟨last, fun part within => ?_⟩
  have amongAll := within.trans among
  by_cases held : last ∈ part
  · refine .inr ⟨part.erase last, List.perm_cons_erase held, fun tile member => ?_⟩
    have erased : (part.erase last).Subperm others := by
      simpa using amongAll.erase last
    exact unmarked tile (erased.subset member)
  · refine .inl fun tile member => ?_
    rcases List.mem_cons.mp (amongAll.subset member) with rfl | other
    · exact absurd member held
    · exact unmarked tile other

theorem OneMark.marks (one : OneMark tiles) : ∃ flag, ∀ part : List Tile,
    part.Subperm tiles → Tile.marks part = 0 ∨ Tile.marks part = flag := by
  obtain ⟨last, either⟩ := one.cases
  refine ⟨last.drawflag, fun part within => ?_⟩
  rcases either part within with unmarked | ⟨rest, split, unmarked⟩
  · exact .inl (Tile.marks_of_unmarked unmarked)
  · right
    rw [Tile.marks_perm split, Tile.marks, Tile.marks_of_unmarked unmarked, Nat.add_zero]

theorem perm_of_unmarked (unmarked : ∀ tile ∈ part, tile.drawflag = 0)
    (unmarkedToo : ∀ tile ∈ other, tile.drawflag = 0)
    (ids : (part.map Tile.getId).Perm (other.map Tile.getId)) : part.Perm other := by
  have plain : ∀ tiles : List Tile, (∀ tile ∈ tiles, tile.drawflag = 0) →
      (tiles.map Tile.getId).map Tile.ofId = tiles := by
    intro tiles unmarked
    rw [List.map_map]
    refine (List.map_congr_left fun tile member => ?_).trans tiles.map_id
    exact congrArg (Tile.mk tile.tile) (unmarked tile member).symm
  have whole := ids.map Tile.ofId
  rwa [plain part unmarked, plain other unmarkedToo] at whole

/-- Where one tile at most is marked, ids and marks tell the tiles apart. -/
theorem OneMark.perm (one : OneMark tiles) (within : part.Subperm tiles)
    (withinToo : other.Subperm tiles)
    (ids : (part.map Tile.getId).Perm (other.map Tile.getId))
    (marks : Tile.marks part = Tile.marks other) : part.Perm other := by
  obtain ⟨last, either⟩ := one.cases
  rcases either part within with unmarked | ⟨rest, split, unmarked⟩ <;>
    rcases either other withinToo with unmarkedToo | ⟨restToo, splitToo, unmarkedToo⟩
  · exact perm_of_unmarked unmarked unmarkedToo ids
  · rw [Tile.marks_of_unmarked unmarked, Tile.marks_perm splitToo, Tile.marks,
      Tile.marks_of_unmarked unmarkedToo] at marks
    refine perm_of_unmarked unmarked (fun tile member => ?_) ids
    rcases List.mem_cons.mp (splitToo.subset member) with rfl | later
    · exact marks.symm
    · exact unmarkedToo tile later
  · rw [Tile.marks_of_unmarked unmarkedToo, Tile.marks_perm split, Tile.marks,
      Tile.marks_of_unmarked unmarked] at marks
    refine perm_of_unmarked (fun tile member => ?_) unmarkedToo ids
    rcases List.mem_cons.mp (split.subset member) with rfl | later
    · exact marks
    · exact unmarked tile later
  · have idsLeft := ((split.map Tile.getId).symm.trans ids).trans (splitToo.map Tile.getId)
    rw [List.map_cons, List.map_cons] at idsLeft
    have rests := perm_of_unmarked unmarked unmarkedToo idsLeft.cons_inv
    exact (split.trans (rests.cons last)).trans splitToo.symm

end Marks

/-! ## What a pack says of its tiles -/

section Forms

variable {tiles : List Tile} {pack : Pack}

theorem Tile.Playable.bounds {tile : Tile} (playable : tile.Playable) (listed : tile.Listed) :
    1 ≤ tile.tile ∧ tile.tile ≤ 34 := by
  rcases playable with suited | honour
  · have bounds := (Tile.isShu_iff listed).mp suited
    omega
  · have bounds := (Tile.isZi_iff listed).mp honour
    omega

theorem Forms.eta (forms : Forms tiles pack) :
    pack = ⟨pack.type, .ofId pack.tile.tile, 0, -(Tile.marks tiles : Int)⟩ := by
  cases forms <;> simp [Tile.marks, Tile.ofId, Tile.getId] <;> omega

theorem Forms.ids (forms : Forms tiles pack) :
    tiles.map Tile.getId = pack.getAllTile.map Tile.getId := by
  cases forms with
  | jiang _ same => simp [Pack.getAllTile, Tile.getId, Tile.ofId, same]
  | kezi _ same alike => simp [Pack.getAllTile, Tile.getId, Tile.ofId, same, alike]
  | shunzi _ _ _ _ next after =>
      simp [Pack.getAllTile, Tile.getId, Tile.ofId, Tile.pred, Tile.succ, next, after]

theorem Forms.coded (forms : Forms tiles pack) (listed : ∀ tile ∈ tiles, tile.Listed) :
    pack.Coded := by
  have close : ∀ tile : Tile, tile.Playable → tile ∈ tiles →
      1 ≤ tile.tile ∧ tile.tile < 2 ^ 6 := by
    intro tile playable member
    have bounds := playable.bounds (listed tile member)
    omega
  cases forms with
  | @jiang a b playable same => exact close b (playable.of_same same) (by simp)
  | @kezi a b c playable same => exact close b (playable.of_same same) (by simp)
  | @shunzi a b c _ suitedToo => exact close b (.inl suitedToo) (by simp)

end Forms

namespace Part

variable {tiles : List Tile}

/-- The part is made of some of the tiles. -/
def Within (part : Part) (tiles : List Tile) : Prop :=
  part.tiles.Subperm tiles

theorem coded_of_within (listed : ∀ tile ∈ tiles, tile.Listed) {part : Part}
    (within : part.Within tiles) : part.pack.Coded :=
  part.forms.coded fun tile member => listed tile (within.subset member)

theorem pack_eq_of_code (one : OneMark tiles) (listed : ∀ tile ∈ tiles, tile.Listed)
    {part other : Part} (within : part.Within tiles) (withinToo : other.Within tiles)
    (same : part.pack.code = other.pack.code) : part.pack = other.pack := by
  obtain ⟨sameTile, sameType, sameFlag⟩ := Pack.code_injective
    (coded_of_within listed within) (coded_of_within listed withinToo) same
  have marks : Tile.marks part.tiles = Tile.marks other.tiles := by
    obtain ⟨flag, either⟩ := one.marks
    have offer := congrArg Pack.offer part.forms.eta
    have offerToo := congrArg Pack.offer other.forms.eta
    simp only [Pack.haveLastTile, offer, offerToo, decide_eq_decide] at sameFlag
    rcases either _ within with none | all <;> rcases either _ withinToo with noneToo | allToo <;>
      omega
  rw [part.forms.eta, other.forms.eta, sameTile, sameType, marks]

theorem within_of_mem {parts : List Part} {rest : List Tile}
    (split : (tilesOf parts ++ rest).Perm tiles) {part : Part} (member : part ∈ parts) :
    part.Within tiles := by
  obtain ⟨before, after, rfl⟩ := List.append_of_mem member
  refine List.Subperm.trans (List.Sublist.subperm ?_) split.subperm
  rw [tilesOf, List.flatMap_append, List.flatMap_cons, List.append_assoc, List.append_assoc]
  exact (List.sublist_append_left _ _).trans (List.sublist_append_right _ _)

/-- Packs of one list of codes are the same packs. -/
theorem packsOf_eq_of_codes (one : OneMark tiles) (listed : ∀ tile ∈ tiles, tile.Listed)
    {parts others : List Part} (within : ∀ part ∈ parts, part.Within tiles)
    (withinToo : ∀ part ∈ others, part.Within tiles)
    (same : (packsOf parts).map Pack.code = (packsOf others).map Pack.code) :
    packsOf parts = packsOf others := by
  induction parts generalizing others with
  | nil =>
      cases others with
      | nil => rfl
      | cons other others => cases same
  | cons part parts ih =>
      cases others with
      | nil => cases same
      | cons other others =>
          obtain ⟨sameCode, sameCodes⟩ := List.cons_eq_cons.mp same
          obtain ⟨within, withinRest⟩ := List.forall_mem_cons.mp within
          obtain ⟨withinToo, withinRestToo⟩ := List.forall_mem_cons.mp withinToo
          exact congrArg₂ List.cons (pack_eq_of_code one listed within withinToo sameCode)
            (ih withinRest withinRestToo sameCodes)

theorem ids_tilesOf (parts : List Part) : (tilesOf parts).map Tile.getId =
    (packsOf parts).flatMap fun pack => pack.getAllTile.map Tile.getId := by
  induction parts with
  | nil => rfl
  | cons part parts ih =>
      rw [show tilesOf (part :: parts) = part.tiles ++ tilesOf parts from rfl, List.map_append,
        part.forms.ids, ih]
      rfl

theorem marks_tilesOf {parts others : List Part} (same : packsOf parts = packsOf others) :
    Tile.marks (tilesOf parts) = Tile.marks (tilesOf others) := by
  induction parts generalizing others with
  | nil =>
      cases others with
      | nil => rfl
      | cons other others => cases same
  | cons part parts ih =>
      cases others with
      | nil => cases same
      | cons other others =>
          obtain ⟨samePack, samePacks⟩ := List.cons_eq_cons.mp same
          have offer := congrArg Pack.offer part.forms.eta
          rw [samePack, congrArg Pack.offer other.forms.eta] at offer
          rw [show tilesOf (part :: parts) = part.tiles ++ tilesOf parts from rfl,
            show tilesOf (other :: others) = other.tiles ++ tilesOf others from rfl,
            Tile.marks_append, Tile.marks_append, ih samePacks]
          have marks : Tile.marks part.tiles = Tile.marks other.tiles := by
            simpa [eq_comm] using offer
          rw [marks]

/-- The packs decide which tiles are left. -/
theorem rest_perm {parts others : List Part} {rest restToo : List Tile} (one : OneMark tiles)
    (split : (tilesOf parts ++ rest).Perm tiles)
    (splitToo : (tilesOf others ++ restToo).Perm tiles)
    (same : packsOf parts = packsOf others) : rest.Perm restToo := by
  have both := split.trans splitToo.symm
  have ids := both.map Tile.getId
  have marks := Tile.marks_perm both
  rw [List.map_append, List.map_append, ids_tilesOf, ids_tilesOf, same] at ids
  rw [Tile.marks_append, Tile.marks_append, marks_tilesOf same] at marks
  exact one.perm ((List.sublist_append_right _ _).subperm.trans split.subperm)
    ((List.sublist_append_right _ _).subperm.trans splitToo.subperm)
    ((List.perm_append_left_iff _).mp ids) (Nat.add_left_cancel marks)

end Part

/-! ## What a search can meet -/

/-- The tiles, read as packs of the two sorts. -/
structure Reads (tiles : List Tile) (mianziCnt duiziCnt : Int) (parts : List Part) : Prop where
  tiles : (Part.tilesOf parts).Perm tiles
  mianzi : mianziCnt = Part.mianziOf parts
  duizi : duiziCnt = Part.pairsOf parts

namespace Part

theorem length_tilesOf (parts : List Part) :
    ((tilesOf parts).length : Int) = 3 * mianziOf parts + 2 * pairsOf parts := by
  induction parts with
  | nil => rfl
  | cons part parts ih =>
      obtain ⟨tiles, pack, forms⟩ := part
      rw [mianziOf_cons, pairsOf_cons]
      rw [show tilesOf (⟨tiles, pack, forms⟩ :: parts) = tiles ++ tilesOf parts from rfl,
        List.length_append]
      cases forms <;> simp only [List.length_cons, List.length_nil, isPair, Pack.isJiang] <;>
        simp <;> omega

theorem length_eq (parts : List Part) : parts.length = mianziOf parts + pairsOf parts := by
  rw [Nat.add_comm, List.length_eq_countP_add_countP isPair]
  simp [mianziOf, pairsOf]

theorem pairsOf_eq (parts : List Part) : pairsOf parts = (packsOf parts).countP Pack.isJiang :=
  (List.countP_map ..).symm

end Part

namespace SearchNode

/-- Sorted tiles, exactly as many as the packs asked for are made of. -/
structure Searchable (start : SearchNode) : Prop where
  sorted : start.rest.Pairwise Tile.Le
  listed : ∀ tile ∈ start.rest, tile.Listed
  oneMark : OneMark start.rest
  whole : (start.rest.length : Int) = 3 * start.mianziCnt + 2 * start.duiziCnt
  mianzi : 0 ≤ start.mianziCnt
  duizi : 0 ≤ start.duiziCnt

/-- The node that is left of a start when the parts are taken out. -/
structure Reached (start node : SearchNode) (parts : List Part) : Prop where
  packs : node.packs = start.packs ++ Part.packsOf parts
  tiles : (Part.tilesOf parts ++ node.rest).Perm start.rest
  rest : node.rest.Sublist start.rest
  mianzi : start.mianziCnt = node.mianziCnt + Part.mianziOf parts
  duizi : start.duiziCnt = node.duiziCnt + Part.pairsOf parts
  mianziLeft : 0 ≤ node.mianziCnt
  duiziLeft : 0 ≤ node.duiziCnt

variable {start node other leaf : SearchNode} {part : Part} {parts others : List Part}
  {fuluSize : Nat}

theorem Searchable.reached (searchable : start.Searchable) : start.Reached start [] where
  packs := (List.append_nil _).symm
  tiles := .refl _
  rest := .refl _
  mianzi := (Int.add_zero _).symm
  duizi := (Int.add_zero _).symm
  mianziLeft := searchable.mianzi
  duiziLeft := searchable.duizi

theorem Reached.taking {next : SearchNode} (reached : start.Reached node parts)
    (takes : node.Takes part next) : start.Reached next (parts ++ [part]) := by
  have mianziOf : Part.mianziOf (parts ++ [part]) =
      Part.mianziOf parts + if part.isPair then 0 else 1 := by
    rw [Part.mianziOf_perm (List.perm_append_singleton part parts), mianziOf_cons]
  have pairsOf : Part.pairsOf (parts ++ [part]) =
      Part.pairsOf parts + if part.isPair then 1 else 0 := by
    rw [Part.pairsOf_perm (List.perm_append_singleton part parts), pairsOf_cons]
  have wanted := takes.wanted
  have mianzi := takes.mianzi
  have duizi := takes.duizi
  obtain ⟨packs, tiles, rest, mianziCnt, duiziCnt, mianziLeft, duiziLeft⟩ := reached
  refine ⟨?_, ?_, takes.rest.trans rest, ?_, ?_, ?_, ?_⟩
  · rw [takes.packs, packs, List.append_assoc]
    simp [Part.packsOf]
  · have split : Part.tilesOf (parts ++ [part]) = Part.tilesOf parts ++ part.tiles := by
      simp [Part.tilesOf]
    rw [split, List.append_assoc]
    exact (takes.tiles.append_left _).trans tiles
  · rw [mianziOf]
    omega
  · rw [pairsOf]
    omega
  · cases pair : part.isPair <;> simp [pair] at wanted mianzi <;> omega
  · cases pair : part.isPair <;> simp [pair] at wanted duizi <;> omega

theorem Reached.length (searchable : start.Searchable) (reached : start.Reached node parts) :
    (node.rest.length : Int) = 3 * node.mianziCnt + 2 * node.duiziCnt := by
  have whole := searchable.whole
  have taken := Part.length_tilesOf parts
  have split := reached.tiles.length_eq
  have mianzi := reached.mianzi
  have duizi := reached.duizi
  rw [List.length_append] at split
  omega

/-- Below a node that can be met, a leaf is a reading of all the tiles. -/
theorem Reached.reads (searchable : start.Searchable) (reached : start.Reached node parts)
    (below : (searchTree fuluSize).Leaf node leaf) :
    ∃ others, leaf.packs = node.packs ++ Part.packsOf others ∧
      Reads node.rest node.mianziCnt node.duiziCnt others := by
  obtain ⟨others, packs, tiles, mianzi, duizi⟩ := parts_of_leaf below
  have length := reached.length searchable
  have taken := Part.length_tilesOf others
  have split := tiles.length_eq
  rw [List.length_append] at split
  have nothing : leaf.rest = [] := List.length_eq_zero_iff.mp (by omega)
  rw [nothing, List.append_nil] at tiles
  exact ⟨others, packs, tiles, mianzi, duizi⟩

theorem Reached.key (searchable : start.Searchable) (own : start.packs.length = fuluSize)
    (reached : start.Reached node parts) :
    ((searchTree fuluSize).key node).toNat =
      packed (2 ^ 11) ((Part.packsOf parts).map Pack.code) % 2 ^ 64 := by
  have inner : node.packs.drop fuluSize = Part.packsOf parts := by
    rw [reached.packs, List.drop_left' own]
  rw [← inner]
  refine packsHashcode_toNat fuluSize node.packs fun pack member => ?_
  rw [inner] at member
  obtain ⟨part, among, rfl⟩ := List.mem_map.mp member
  exact Part.coded_of_within searchable.listed (Part.within_of_mem reached.tiles among)

theorem Reached.codes_proper (searchable : start.Searchable)
    (reached : start.Reached node parts) :
    ∀ digit ∈ (Part.packsOf parts).map Pack.code, 0 < digit ∧ digit < 2 ^ 11 := by
  intro digit member
  obtain ⟨pack, held, rfl⟩ := List.mem_map.mp member
  obtain ⟨part, among, rfl⟩ := List.mem_map.mp held
  exact Pack.code_proper
    (Part.coded_of_within searchable.listed (Part.within_of_mem reached.tiles among))

/-- Up to five packs, the hash decides the packs. -/
theorem Reached.packsOf_eq (searchable : start.Searchable)
    (few : start.mianziCnt + start.duiziCnt ≤ 5) (own : start.packs.length = fuluSize)
    (reached : start.Reached node parts) (reachedToo : start.Reached other others)
    (same : (searchTree fuluSize).key node = (searchTree fuluSize).key other) :
    Part.packsOf parts = Part.packsOf others := by
  have fits : ∀ {node : SearchNode} {parts : List Part}, start.Reached node parts →
      packed (2 ^ 11) ((Part.packsOf parts).map Pack.code) < 2 ^ 64 := by
    intro node parts reached
    have mianzi := reached.mianzi
    have duizi := reached.duizi
    have mianziLeft := reached.mianziLeft
    have duiziLeft := reached.duiziLeft
    have count := Part.length_eq parts
    have length : ((Part.packsOf parts).map Pack.code).length ≤ 5 := by
      rw [List.length_map, Part.packsOf, List.length_map]
      omega
    calc packed (2 ^ 11) ((Part.packsOf parts).map Pack.code)
        < (2 ^ 11) ^ ((Part.packsOf parts).map Pack.code).length :=
          packed_lt fun digit member => (reached.codes_proper searchable digit member).2
      _ ≤ (2 ^ 11) ^ 5 := Nat.pow_le_pow_right (by decide) length
      _ ≤ 2 ^ 64 := by decide
  have hashes := congrArg BitVec.toNat same
  rw [reached.key searchable own, reachedToo.key searchable own,
    Nat.mod_eq_of_lt (fits reached), Nat.mod_eq_of_lt (fits reachedToo)] at hashes
  exact Part.packsOf_eq_of_codes searchable.oneMark searchable.listed
    (fun part => Part.within_of_mem reached.tiles)
    (fun part => Part.within_of_mem reachedToo.tiles)
    (packed_injective (reached.codes_proper searchable) (reachedToo.codes_proper searchable)
      hashes)

/-- Nodes with the same packs are left with the same tiles and the same packs to find. -/
theorem Reached.alike (searchable : start.Searchable) (reached : start.Reached node parts)
    (reachedToo : start.Reached other others)
    (same : Part.packsOf parts = Part.packsOf others) :
    node.packs = other.packs ∧ node.rest.Perm other.rest ∧ node.mianziCnt = other.mianziCnt ∧
      node.duiziCnt = other.duiziCnt := by
  have pairs : Part.pairsOf parts = Part.pairsOf others := by
    rw [Part.pairsOf_eq, Part.pairsOf_eq, same]
  have count : parts.length = others.length := by
    simpa [Part.packsOf] using congrArg List.length same
  rw [Part.length_eq, Part.length_eq] at count
  have mianzi := reached.mianzi
  have duizi := reached.duizi
  have mianziToo := reachedToo.mianzi
  have duiziToo := reachedToo.duizi
  refine ⟨?_, Part.rest_perm searchable.oneMark reached.tiles reachedToo.tiles same, ?_, ?_⟩
  · rw [reached.packs, reachedToo.packs, same]
  · omega
  · omega

theorem Takes.length_lt {next : SearchNode} (takes : node.Takes part next) :
    next.rest.length < node.rest.length := by
  have split := takes.tiles.length_eq
  rw [List.length_append] at split
  obtain ⟨tiles, pack, forms⟩ := part
  cases forms <;> simp only [List.length_cons] at split <;> omega

/-- Where all the packs fit into the hash, the pruning loses no reading. -/
theorem Searchable.keysDecide (searchable : start.Searchable)
    (few : start.mianziCnt + start.duiziCnt ≤ 5) (own : start.packs.length = fuluSize) :
    (searchTree fuluSize).KeysDecide (fun node => ∃ parts, start.Reached node parts)
      (fun node => node.rest.length) fun leaf found => leaf.packs.Perm found.packs := by
  apply SearchTree.KeysDecide.of_twins
  · intro node next reached _ move
    obtain ⟨parts, reached⟩ := reached
    obtain ⟨part, takes⟩ := takes_of_mem_moves move
    exact ⟨parts ++ [part], reached.taking takes⟩
  · intro node next _ _ move
    obtain ⟨part, takes⟩ := takes_of_mem_moves move
    exact takes.length_lt
  · intro node other reached reachedToo same
    obtain ⟨parts, reached⟩ := reached
    obtain ⟨others, reachedToo⟩ := reachedToo
    have packs := reached.packsOf_eq searchable few own reachedToo same
    exact (reached.alike searchable reachedToo packs).2.1.length_eq
  · intro node other leaf reached reachedToo same below
    obtain ⟨parts, reached⟩ := reached
    obtain ⟨others, reachedToo⟩ := reachedToo
    have packs := reached.packsOf_eq searchable few own reachedToo same
    obtain ⟨samePacks, rest, mianzi, duizi⟩ := reached.alike searchable reachedToo packs
    obtain ⟨reading, readPacks, reads⟩ := reached.reads searchable below
    obtain ⟨twin, belowToo, twinPacks⟩ := leaf_of_parts
      (searchable.sorted.sublist reachedToo.rest) (reads.tiles.trans rest)
      (mianzi ▸ reads.mianzi) (duizi ▸ reads.duizi)
    exact ⟨twin, belowToo, by rw [readPacks, samePacks]; exact twinPacks.symm⟩
  · exact List.Perm.trans

end SearchNode

/-! ## What `_Dfs` finds -/

section Dfs

variable {Result : Type} (handtiles : Handtiles) {sortedLipai : List Tile}
  {mianziCnt duiziCnt : Int} {packs : List Pack} (visit : List Pack → Result → Result)
  (result : Result)

/-- Without `flag_count_fan`, `_Dfs` decides whether the tiles can be read. -/
theorem dfs_found_iff
    (searchable : (SearchNode.mk sortedLipai mianziCnt duiziCnt packs).Searchable)
    (few : mianziCnt + duiziCnt ≤ 5) (own : packs.length = handtiles.fulu.length) :
    (dfs handtiles sortedLipai mianziCnt duiziCnt packs false visit result).1 = true ↔
      ∃ parts, Reads sortedLipai mianziCnt duiziCnt parts := by
  have start : SearchNode.Reached _ _ [] := searchable.reached
  refine (SearchTree.explore_found_iff _ (searchable.keysDecide few own)
    (Nat.lt_succ_self sortedLipai.length) ⟨[], start⟩ fun _ => .refl _).trans ?_
  constructor
  · intro some
    obtain ⟨leaf, below⟩ := some
    obtain ⟨parts, _, reads⟩ := start.reads searchable below
    exact ⟨parts, reads⟩
  · intro some
    obtain ⟨parts, reads⟩ := some
    obtain ⟨leaf, below, _⟩ := leaf_of_parts searchable.sorted reads.tiles reads.mianzi reads.duizi
    exact ⟨leaf, below⟩

/-- With `flag_count_fan`, `_Dfs` visits readings of the tiles, and for every reading there
is it visits one with the same packs. -/
theorem dfs_readings
    (searchable : (SearchNode.mk sortedLipai mianziCnt duiziCnt packs).Searchable)
    (few : mianziCnt + duiziCnt ≤ 5) (own : packs.length = handtiles.fulu.length) :
    ∃ met : List (List Pack),
      (dfs handtiles sortedLipai mianziCnt duiziCnt packs true visit result).2 =
        met.foldl (fun result packs => visit packs result) result ∧
      (∀ reading ∈ met, ∃ parts, reading = packs ++ Part.packsOf parts ∧
        Reads sortedLipai mianziCnt duiziCnt parts) ∧
      ∀ parts, Reads sortedLipai mianziCnt duiziCnt parts →
        ∃ reading ∈ met, reading.Perm (packs ++ Part.packsOf parts) := by
  have start : SearchNode.Reached _ _ [] := searchable.reached
  refine ⟨((searchTree handtiles.fulu.length).visited false (sortedLipai.length + 1)
    ⟨sortedLipai, mianziCnt, duiziCnt, packs⟩).map SearchNode.packs, ?_, ?_, ?_⟩
  · rw [List.foldl_map]
    exact SearchTree.explore_result _
  · intro reading member
    obtain ⟨leaf, met, rfl⟩ := List.mem_map.mp member
    exact start.reads searchable (SearchTree.leaf_of_visited _ met)
  · intro parts reads
    obtain ⟨leaf, below, leafPacks⟩ :=
      leaf_of_parts searchable.sorted reads.tiles reads.mianzi reads.duizi
    obtain ⟨found, met, alike⟩ := SearchTree.visited_covers _ (searchable.keysDecide few own)
      (Nat.lt_succ_self sortedLipai.length) ⟨[], start⟩ (fun _ => .refl _) leaf below
    exact ⟨found.packs, List.mem_map_of_mem met, alike.symm.trans leafPacks⟩

/-- The search finds a reading exactly when there is one, and if it is to count them it
visits readings only and, up to the order of the packs, all of them. -/
theorem dfs_exact
    (searchable : (SearchNode.mk sortedLipai mianziCnt duiziCnt packs).Searchable)
    (few : mianziCnt + duiziCnt ≤ 5) (own : packs.length = handtiles.fulu.length) :
    ((dfs handtiles sortedLipai mianziCnt duiziCnt packs false visit result).1 = true ↔
      ∃ parts, Reads sortedLipai mianziCnt duiziCnt parts) ∧
    ∃ met : List (List Pack),
      (dfs handtiles sortedLipai mianziCnt duiziCnt packs true visit result).2 =
        met.foldl (fun result packs => visit packs result) result ∧
      (∀ reading ∈ met, ∃ parts, reading = packs ++ Part.packsOf parts ∧
        Reads sortedLipai mianziCnt duiziCnt parts) ∧
      ∀ parts, Reads sortedLipai mianziCnt duiziCnt parts →
        ∃ reading ∈ met, reading.Perm (packs ++ Part.packsOf parts) :=
  ⟨dfs_found_iff handtiles visit result searchable few own,
    dfs_readings handtiles visit result searchable few own⟩

/-- Ones, twos and threes, three of each, with the last tile among them. -/
def threes : List Tile :=
  [⟨1, 0⟩, ⟨1, 0⟩, ⟨1, 0⟩, ⟨2, 0⟩, ⟨2, 0⟩, ⟨2, 0⟩, ⟨3, 0⟩, ⟨3, 0⟩, ⟨3, 2⟩]

/-- The first run can be taken in many ways, of which all but one for each hash are passed over.
Triplets and runs are both found. -/
theorem dfs_exact_threes :
    ¬ (((searchTree 0).moves ⟨threes, (3 : Nat), (0 : Nat), []⟩).map (searchTree 0).key).Nodup ∧
    ∃ met : List (List Pack),
      (dfs .new threes (3 : Nat) (0 : Nat) [] true (fun packs met => met ++ [packs]) []).2 =
        met.foldl (fun result packs => result ++ [packs]) [] ∧
      (∀ reading ∈ met, ∃ parts, reading = [] ++ Part.packsOf parts ∧
        Reads threes (3 : Nat) (0 : Nat) parts) ∧
      ∀ parts, Reads threes (3 : Nat) (0 : Nat) parts →
        ∃ reading ∈ met, reading.Perm ([] ++ Part.packsOf parts) := by
  refine ⟨by decide +kernel, (dfs_exact .new _ _ ⟨by decide, ?_, ?_, rfl, by decide,
    Int.le_refl 0⟩ (by decide) rfl).2⟩
  · unfold Tile.Listed
    decide
  · have marked : threes.Perm (⟨3, 2⟩ :: threes.dropLast) := by decide
    exact ⟨⟨3, 2⟩, threes.dropLast, marked.subperm, by decide⟩

end Dfs

end GbMahjong.Mahjong
