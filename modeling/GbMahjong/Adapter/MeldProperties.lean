import GbMahjong.Adapter.Conversion

/-! What the decoding of a meld checks and what the library gets of it. The
library sees one tile and a type, so a meld that passes the checks without being
one is turned into another. -/

set_option autoImplicit false

namespace GbMahjong.Adapter

open GbMahjong.Library GbMahjong.Library.Checked GbMahjong.Mahjong GbMahjong.Engine
open GbMahjong.Library.ProtoEnum (asI32 tryFrom)

/-! ## Tile numbers -/

/-- The enumeration has a tile for the number. -/
def Enumerated (tile : Int) : Prop :=
  asI32 Engine.Tile.character1 ≤ tile ∧ tile ≤ asI32 Engine.Tile.seasonWinter

instance (tile : Int) : Decidable (Enumerated tile) :=
  inferInstanceAs (Decidable (_ ∧ _))

theorem enumerated_iff {tile : Int} : Enumerated tile ↔ 2 ≤ tile ∧ tile ≤ 43 :=
  .rfl

/-- The conversion refuses two values and takes every other one that has a predecessor. -/
def Readable (tile : Int) : Prop :=
  tile ≠ asI32 Engine.Tile.unspecified ∧ tile ≠ asI32 Engine.Tile.unknown ∧
    Int32Range (tile - 1)

instance (tile : Int) : Decidable (Readable tile) :=
  inferInstanceAs (Decidable (_ ∧ _ ∧ _))

theorem readable_of_enumerated {tile : Int} (enumerated : Enumerated tile) : Readable tile := by
  rw [enumerated_iff] at enumerated
  unfold Readable Int32Range
  change tile ≠ 0 ∧ tile ≠ 1 ∧ _
  omega

/-- Of the `int`s only the smallest. -/
def Overflows (tile : Int) : Prop :=
  ¬ Int32Range (tile - 1)

/-- The library's tile for a tile number. -/
def tileOf (tile : Int) : Mahjong.Tile :=
  .ofId (tile - 1)

theorem protoTileToMahjongTile_eq_ok_iff {tile : Int} {mahjongTile : Mahjong.Tile} :
    protoTileToMahjongTile tile = .ok mahjongTile ↔
      Readable tile ∧ mahjongTile = tileOf tile := by
  unfold protoTileToMahjongTile Readable
  split
  · rename_i refused
    refine iff_of_false invalidArgument_ne_ok fun read => ?_
    exact refused.elim read.1.1 read.1.2.1
  · rename_i named
    obtain ⟨specified, known⟩ := not_or.mp named
    simp only [bind_eq_ok_iff, int32_eq_ok_iff, Except.ok.injEq, ne_eq, specified, known,
      not_false_eq_true, true_and]
    constructor
    · intro converted
      obtain ⟨_, ⟨inRange, rfl⟩, same⟩ := converted
      exact ⟨inRange, same.symm⟩
    · intro converted
      exact ⟨_, ⟨converted.1, rfl⟩, converted.2.symm⟩

theorem exists_protoTileToMahjongTile_iff {tile : Int} :
    (∃ mahjongTile, protoTileToMahjongTile tile = .ok mahjongTile) ↔ Readable tile := by
  simp only [protoTileToMahjongTile_eq_ok_iff, exists_and_left, exists_eq, and_true]

/-- The refused values are small, so it is the subtraction alone that may overflow. -/
theorem protoTileToMahjongTile_defined_iff {tile : Int} :
    Defined (protoTileToMahjongTile tile) ↔ ¬ Overflows tile := by
  unfold protoTileToMahjongTile Overflows int32
  rw [not_not]
  split
  · rename_i refused
    refine iff_of_true (defined_invalidArgument _) ?_
    rcases refused with rfl | rfl <;> decide
  · split
    · rename_i inRange
      exact iff_of_true (defined_ok _) inRange
    · rename_i outOfRange
      exact iff_of_false (fun defined => defined rfl) outOfRange

theorem mapM_protoTileToMahjongTile_eq_ok_iff {tiles : List Int}
    {mahjongTiles : List Mahjong.Tile} :
    tiles.mapM protoTileToMahjongTile = .ok mahjongTiles ↔
      (∀ tile ∈ tiles, Readable tile) ∧ mahjongTiles = tiles.map tileOf :=
  mapM_eq_ok_iff_of_exact fun _ _ => protoTileToMahjongTile_eq_ok_iff

/-- A loop over tile numbers that comes to no overflow. -/
def StaysInt (tiles : List Int) : Prop :=
  ∀ tile, Reaches Readable tiles tile → ¬ Overflows tile

theorem mapM_protoTileToMahjongTile_defined_iff {tiles : List Int} :
    Defined (tiles.mapM protoTileToMahjongTile) ↔ StaysInt tiles := by
  rw [defined_mapM_iff fun tile _ => exists_protoTileToMahjongTile_iff]
  simp only [protoTileToMahjongTile_defined_iff, StaysInt]

/-- The second of two loops runs once the first has read every tile. -/
theorem staysInt_append {tiles others : List Int} :
    StaysInt (tiles ++ others) ↔
      StaysInt tiles ∧ ((∀ tile ∈ tiles, Readable tile) → StaysInt others) := by
  unfold StaysInt
  simp only [reaches_append, or_imp, forall_and, and_imp]
  exact and_congr_right fun _ => ⟨fun rest read tile reached => rest tile read reached,
    fun rest tile read reached => rest read tile reached⟩

theorem staysInt_singleton {tile : Int} : StaysInt [tile] ↔ ¬ Overflows tile := by
  simp only [StaysInt, reaches_cons, not_reaches_nil, and_false, or_false, forall_eq]

def sortNumbers (tiles : List Int) : List Int :=
  tiles.insertionSort (· ≤ ·)

theorem sortNumbers_perm (tiles : List Int) : (sortNumbers tiles).Perm tiles :=
  List.perm_insertionSort _ tiles

/-- Sorting tiles is sorting their numbers. -/
theorem sort_map_tileOf (tiles : List Int) :
    Tile.sort (tiles.map tileOf) = (sortNumbers tiles).map tileOf := by
  unfold Tile.sort sortNumbers
  rw [List.map_insertionSort (· ≤ ·) Tile.Le tileOf]
  intro first _ second _
  change first ≤ second ↔ first - 1 ≤ second - 1
  omega

/-- Numbers in order are what sorting any permutation of them gives. -/
theorem sortNumbers_eq_of_perm {tiles sorted : List Int} (same : tiles.Perm sorted)
    (ordered : sorted.Pairwise (· ≤ ·)) : sortNumbers tiles = sorted :=
  ((sortNumbers_perm tiles).trans same).eq_of_pairwise'
    (List.pairwise_insertionSort _ tiles) ordered

/-! ## Seats -/

def Placed (seat : Int) : Prop :=
  asI32 Seat.east ≤ seat ∧ seat ≤ asI32 Seat.north

instance (seat : Int) : Decidable (Placed seat) :=
  inferInstanceAs (Decidable (_ ∧ _))

theorem seatToIndex_eq_ok_iff {seat index : Int} :
    seatToIndex seat = .ok index ↔ Placed seat ∧ index = seat - 1 := by
  unfold seatToIndex
  cases read : (tryFrom seat : Option Engine.Seat) with
  | none =>
      refine iff_of_false nofun fun known => ?_
      have absent := ProtoEnum.tryFrom_eq_none_iff.mp read
      obtain ⟨⟨first, last⟩, _⟩ := known
      have east := absent .east
      have south := absent .south
      have west := absent .west
      have north := absent .north
      change 1 ≤ seat at first
      change seat ≤ 4 at last
      change (1 : Int) ≠ seat at east
      change (2 : Int) ≠ seat at south
      change (3 : Int) ≠ seat at west
      change (4 : Int) ≠ seat at north
      omega
  | some value =>
      have number := ProtoEnum.asI32_of_tryFrom read
      subst number
      cases value with
      | unspecified => exact iff_of_false nofun fun known => absurd known.1.1 (by decide)
      | east => simp [Placed, asI32, eq_comm]
      | south => simp [Placed, asI32, eq_comm]
      | west => simp [Placed, asI32, eq_comm]
      | north => simp [Placed, asI32, eq_comm]

/-- Two seats of a table that are not the same. -/
def Opposite (actorSeat fromSeat : Int) : Prop :=
  Placed actorSeat ∧ Placed fromSeat ∧ actorSeat ≠ fromSeat

instance (actorSeat fromSeat : Int) : Decidable (Opposite actorSeat fromSeat) :=
  inferInstanceAs (Decidable (_ ∧ _ ∧ _))

theorem relativeOffer_eq_ok_iff {actorSeat fromSeat : Int} :
    (∃ offer, relativeOffer actorSeat fromSeat = .ok offer) ↔
      Opposite actorSeat fromSeat := by
  simp only [relativeOffer, bind_eq_ok_iff, seatToIndex_eq_ok_iff]
  constructor
  · intro offered
    obtain ⟨offer, _, ⟨actor, rfl⟩, _, ⟨source, rfl⟩, different⟩ := offered
    refine ⟨actor, source, ?_⟩
    rintro rfl
    split at different
    · cases different
    · omega
  · intro opposite
    obtain ⟨actor, source, different⟩ := opposite
    have actorBounds : 1 ≤ actorSeat ∧ actorSeat ≤ 4 := actor
    have sourceBounds : 1 ≤ fromSeat ∧ fromSeat ≤ 4 := source
    refine ⟨_, _, ⟨actor, rfl⟩, _, ⟨source, rfl⟩, if_neg ?_⟩
    omega

/-- The offer leads from the actor back to the source. -/
theorem relativeOffer_eq_ok {actorSeat fromSeat offer : Int}
    (offered : relativeOffer actorSeat fromSeat = .ok offer) :
    1 ≤ offer ∧ offer ≤ 3 ∧ ∃ actor source, seatToIndex actorSeat = .ok actor ∧
      seatToIndex fromSeat = .ok source ∧ source = (actor - offer) % 4 := by
  simp only [relativeOffer, bind_eq_ok_iff] at offered
  obtain ⟨actor, actorRead, source, sourceRead, different⟩ := offered
  obtain ⟨_, rfl⟩ := seatToIndex_eq_ok_iff.mp actorRead
  obtain ⟨⟨first, last⟩, rfl⟩ := seatToIndex_eq_ok_iff.mp sourceRead
  change 1 ≤ fromSeat at first
  change fromSeat ≤ 4 at last
  split at different
  · cases different
  · cases different
    exact ⟨by omega, by omega, _, _, actorRead, sourceRead, by omega⟩

theorem concealedOffer_eq_ok_iff {meld : Meld} {actorSeat : Int} :
    (∃ offer, concealedOffer meld actorSeat = .ok offer) ↔
      meld.concealed = true ∨ Opposite actorSeat meld.fromSeat := by
  rw [← relativeOffer_eq_ok_iff]
  unfold concealedOffer
  cases meld.concealed with
  | true => simp
  | false => simp

theorem seatToIndex_defined (seat : Int) : Defined (seatToIndex seat) := by
  unfold seatToIndex
  split
  · exact defined_ok _
  · exact defined_ok _
  · exact defined_ok _
  · exact defined_ok _
  · exact defined_invalidArgument _

theorem protoSeatToMahjongWind_defined (seat : Int) :
    Defined (protoSeatToMahjongWind seat) := by
  unfold protoSeatToMahjongWind
  split
  · exact defined_ok _
  · exact defined_ok _
  · exact defined_ok _
  · exact defined_ok _
  · exact defined_invalidArgument _

theorem relativeOffer_defined (actorSeat fromSeat : Int) :
    Defined (relativeOffer actorSeat fromSeat) := by
  apply (seatToIndex_defined actorSeat).bind
  intro actor _
  apply (seatToIndex_defined fromSeat).bind
  intro source _
  dsimp only
  split
  · exact defined_invalidArgument _
  · exact defined_ok _

theorem concealedOffer_defined (meld : Meld) (actorSeat : Int) :
    Defined (concealedOffer meld actorSeat) := by
  unfold concealedOffer
  split
  · exact defined_ok _
  · exact relativeOffer_defined actorSeat meld.fromSeat

/-! ## The checks of a meld -/

/-- Everything the decoding checks, kind by kind. Only a chi has its tiles counted. -/
def MeldChecked (meld : Meld) (actorSeat : Int) : Prop :=
  meld.tiles ≠ [] ∧ (∀ tile ∈ meld.tiles, Readable tile) ∧
    match (tryFrom meld.kind : Option MeldKind) with
    | some .chi => meld.tiles.length = 3 ∧ Readable meld.claimedTile ∧
        meld.claimedTile ∈ meld.tiles
    | some .peng | some .supplementalKong =>
        meld.concealed = true ∨ Opposite actorSeat meld.fromSeat
    | some .exposedKong => Opposite actorSeat meld.fromSeat
    | some .concealedKong => True
    | some .unspecified | none => False

/-- The tiles the library gets for a meld: a chi is told by its middle tile, the
other kinds by their lowest. -/
def libraryTiles (meld : Meld) : List Int :=
  match (tryFrom meld.kind : Option MeldKind), sortNumbers meld.tiles with
  | some .chi, [_, middle, _] => [middle - 1, middle, middle + 1]
  | some .peng, lowest :: _ => List.replicate 3 lowest
  | some .exposedKong, lowest :: _ | some .concealedKong, lowest :: _
  | some .supplementalKong, lowest :: _ => List.replicate 4 lowest
  | _, _ => []

/-- The offer of a meld: the place of the claimed tile in a chi, else where the meld came
from. -/
def Offered (meld : Meld) (actorSeat offer : Int) : Prop :=
  match (tryFrom meld.kind : Option MeldKind) with
  | some .chi => 1 ≤ offer ∧ offer ≤ 3 ∧
      (sortNumbers meld.tiles)[(offer - 1).toNat]? = some meld.claimedTile
  | some .peng => concealedOffer meld actorSeat = .ok offer
  | some .exposedKong => relativeOffer actorSeat meld.fromSeat = .ok offer
  | some .concealedKong => offer = 0
  | some .supplementalKong => ∃ baseOffer, concealedOffer meld actorSeat = .ok baseOffer ∧
      offer = if baseOffer = 0 then 0 else baseOffer + 4
  | some .unspecified | none => False

def IsKong (meld : Meld) : Prop :=
  meld.kind = asI32 MeldKind.exposedKong ∨ meld.kind = asI32 MeldKind.concealedKong ∨
    meld.kind = asI32 MeldKind.supplementalKong

theorem chiPack_eq_ok {numbers : List Int} {claimedTile : Int} {pack : Pack}
    (decoded : chiPack (numbers.map tileOf) claimedTile = .ok pack) :
    ∃ first middle last offer, numbers = [first, middle, last] ∧ Readable claimedTile ∧
      pack = ⟨.shunzi, tileOf middle, 0, offer⟩ ∧ 1 ≤ offer ∧ offer ≤ 3 ∧
      numbers[(offer - 1).toNat]? = some claimedTile := by
  unfold chiPack at decoded
  split at decoded
  · rename_i three
    obtain ⟨first, _, rfl, rfl, two⟩ := List.map_eq_cons_iff.mp three
    obtain ⟨middle, _, rfl, rfl, one⟩ := List.map_eq_cons_iff.mp two
    obtain ⟨last, _, rfl, rfl, none⟩ := List.map_eq_cons_iff.mp one
    obtain rfl := List.map_eq_nil_iff.mp none
    obtain ⟨claimed, read, decoded⟩ := bind_eq_ok_iff.mp decoded
    obtain ⟨readable, rfl⟩ := protoTileToMahjongTile_eq_ok_iff.mp read
    have sameTile : ∀ tile : Int, (tileOf tile).Same (tileOf claimedTile) →
        tile = claimedTile := by
      intro tile same
      change tile - 1 = claimedTile - 1 at same
      omega
    refine ⟨first, middle, last, pack.offer, rfl, readable, ?_⟩
    split at decoded
    · rename_i atFirst
      cases decoded
      exact ⟨rfl, by simp, by simp, congrArg some (sameTile _ atFirst)⟩
    · split at decoded
      · rename_i atMiddle
        cases decoded
        exact ⟨rfl, by simp, by simp, congrArg some (sameTile _ atMiddle)⟩
      · split at decoded
        · rename_i atLast
          cases decoded
          exact ⟨rfl, by simp, by simp, congrArg some (sameTile _ atLast)⟩
        · cases decoded
  · cases decoded

theorem chiPack_of_claimed {numbers : List Int} {claimedTile : Int}
    (three : numbers.length = 3) (readable : Readable claimedTile)
    (claimed : claimedTile ∈ numbers) :
    ∃ pack, chiPack (numbers.map tileOf) claimedTile = .ok pack := by
  obtain ⟨first, middle, last, rfl⟩ := List.length_eq_three.mp three
  simp only [List.map_cons, List.map_nil, chiPack, bind_eq_ok_iff]
  have read := protoTileToMahjongTile_eq_ok_iff.mpr ⟨readable, rfl⟩
  by_cases atFirst : (tileOf first).Same (tileOf claimedTile)
  · exact ⟨_, _, read, if_pos atFirst⟩
  · by_cases atMiddle : (tileOf middle).Same (tileOf claimedTile)
    · exact ⟨_, _, read, (if_neg atFirst).trans (if_pos atMiddle)⟩
    · have atLast : (tileOf last).Same (tileOf claimedTile) := by
        have somewhere : claimedTile = first ∨ claimedTile = middle ∨ claimedTile = last := by
          simpa using claimed
        rcases somewhere with rfl | rfl | rfl
        · exact absurd rfl atFirst
        · exact absurd rfl atMiddle
        · rfl
      exact ⟨_, _, read, (if_neg atFirst).trans ((if_neg atMiddle).trans (if_pos atLast))⟩

theorem isKong_iff {meld : Meld} :
    IsKong meld ↔ tryFrom meld.kind = some MeldKind.exposedKong ∨
      tryFrom meld.kind = some MeldKind.concealedKong ∨
      tryFrom meld.kind = some MeldKind.supplementalKong := by
  unfold IsKong
  simp only [ProtoEnum.tryFrom_eq_some_iff]

theorem sortNumbers_cons {tiles : List Int} (nonempty : tiles ≠ []) :
    ∃ lowest rest, sortNumbers tiles = lowest :: rest := by
  apply List.exists_cons_of_ne_nil
  intro empty
  exact nonempty (List.perm_nil.mp (empty ▸ (sortNumbers_perm tiles).symm))

/-- What the decoding returns: it checks no more than `MeldChecked`. -/
theorem protoMeldToMahjongPack_eq_ok {meld : Meld} {actorSeat : Int} {pack : Pack}
    (decoded : protoMeldToMahjongPack meld actorSeat = .ok pack) :
    MeldChecked meld actorSeat ∧ pack.getAllTile = (libraryTiles meld).map tileOf ∧
      Offered meld actorSeat pack.offer ∧ (pack.type = .gang ↔ IsKong meld) := by
  unfold protoMeldToMahjongPack at decoded
  split at decoded
  · cases decoded
  · rename_i nonempty
    rw [List.isEmpty_iff] at nonempty
    obtain ⟨tiles, read, decoded⟩ := bind_eq_ok_iff.mp decoded
    obtain ⟨readable, rfl⟩ := mapM_protoTileToMahjongTile_eq_ok_iff.mp read
    rw [sort_map_tileOf] at decoded
    obtain ⟨lowest, rest, sorted⟩ := sortNumbers_cons nonempty
    unfold MeldChecked libraryTiles Offered
    rw [isKong_iff]
    cases kind : (tryFrom meld.kind : Option MeldKind) with
    | none =>
        simp only [kind] at decoded
        cases decoded
    | some value =>
        cases value with
        | unspecified =>
            simp only [kind] at decoded
            cases decoded
        | chi =>
            simp only [kind] at decoded
            obtain ⟨first, middle, last, offer, three, claimedRead, rfl, place⟩ :=
              chiPack_eq_ok decoded
            have length := (sortNumbers_perm meld.tiles).length_eq
            have member := (sortNumbers_perm meld.tiles).mem_iff.mp
              (List.mem_of_getElem? place.2.2)
            rw [three] at length
            simp only [three] at place ⊢
            refine ⟨⟨nonempty, readable, length.symm, claimedRead, member⟩, ?_, place,
              by simp⟩
            simp [Pack.getAllTile, Tile.pred, Tile.succ, tileOf, Tile.ofId]
        | peng =>
            simp only [kind, sorted, List.map_cons, front, bind_eq_ok_iff] at decoded
            obtain ⟨_, first, offer, offered, same⟩ := decoded
            cases first
            cases same
            refine ⟨⟨nonempty, readable, concealedOffer_eq_ok_iff.mp ⟨offer, offered⟩⟩, ?_,
              offered, by simp⟩
            rw [sorted]
            rfl
        | exposedKong =>
            simp only [kind, sorted, List.map_cons, front, bind_eq_ok_iff] at decoded
            obtain ⟨_, first, offer, offered, same⟩ := decoded
            cases first
            cases same
            refine ⟨⟨nonempty, readable, relativeOffer_eq_ok_iff.mp ⟨offer, offered⟩⟩, ?_,
              offered, by simp⟩
            rw [sorted]
            rfl
        | concealedKong =>
            simp only [kind, sorted, List.map_cons, front, bind_eq_ok_iff] at decoded
            obtain ⟨_, first, same⟩ := decoded
            cases first
            cases same
            refine ⟨⟨nonempty, readable, trivial⟩, ?_, rfl, by simp⟩
            rw [sorted]
            rfl
        | supplementalKong =>
            simp only [kind, sorted, List.map_cons, front, bind_eq_ok_iff] at decoded
            obtain ⟨offer, offered, _, first, same⟩ := decoded
            cases first
            cases same
            refine ⟨⟨nonempty, readable, concealedOffer_eq_ok_iff.mp ⟨offer, offered⟩⟩, ?_,
              ⟨offer, offered, rfl⟩, by simp⟩
            rw [sorted]
            rfl

/-- Only a chi becomes a run, of its middle tile. -/
theorem protoMeldToMahjongPack_shunzi {meld : Meld} {actorSeat : Int} {pack : Pack}
    (decoded : protoMeldToMahjongPack meld actorSeat = .ok pack) :
    (pack.type = .shunzi ↔ meld.kind = asI32 MeldKind.chi) ∧
      (meld.kind = asI32 MeldKind.chi → ∃ first middle last,
        sortNumbers meld.tiles = [first, middle, last] ∧ pack.tile = tileOf middle) := by
  rw [← ProtoEnum.tryFrom_eq_some_iff]
  unfold protoMeldToMahjongPack at decoded
  split at decoded
  · cases decoded
  · obtain ⟨tiles, read, decoded⟩ := bind_eq_ok_iff.mp decoded
    obtain ⟨_, rfl⟩ := mapM_protoTileToMahjongTile_eq_ok_iff.mp read
    rw [sort_map_tileOf] at decoded
    cases kind : (tryFrom meld.kind : Option MeldKind) with
    | none =>
        simp only [kind] at decoded
        cases decoded
    | some value =>
        cases value with
        | unspecified =>
            simp only [kind] at decoded
            cases decoded
        | chi =>
            simp only [kind] at decoded
            obtain ⟨first, middle, last, offer, three, _, rfl, _⟩ := chiPack_eq_ok decoded
            exact ⟨iff_of_true rfl rfl, fun _ => ⟨first, middle, last, three, rfl⟩⟩
        | peng | exposedKong | concealedKong | supplementalKong =>
            simp only [kind, bind_eq_ok_iff, Except.ok.injEq] at decoded
            grind

/-- A meld that passes the checks is decoded. -/
theorem protoMeldToMahjongPack_of_checked {meld : Meld} {actorSeat : Int}
    (checked : MeldChecked meld actorSeat) :
    ∃ pack, protoMeldToMahjongPack meld actorSeat = .ok pack := by
  obtain ⟨nonempty, readable, byKind⟩ := checked
  obtain ⟨lowest, rest, sorted⟩ := sortNumbers_cons nonempty
  have read := mapM_protoTileToMahjongTile_eq_ok_iff.mpr ⟨readable, rfl⟩
  unfold protoMeldToMahjongPack
  rw [if_neg (by rwa [List.isEmpty_iff])]
  simp only [bind_eq_ok_iff, read, Except.ok.injEq, exists_eq_left', sort_map_tileOf]
  cases kind : (tryFrom meld.kind : Option MeldKind) with
  | none =>
      rw [kind] at byKind
      exact byKind.elim
  | some value =>
      rw [kind] at byKind
      cases value with
      | unspecified => exact byKind.elim
      | chi =>
          obtain ⟨three, claimedRead, claimed⟩ := byKind
          have same := sortNumbers_perm meld.tiles
          exact chiPack_of_claimed (same.length_eq.trans three) claimedRead
            (same.mem_iff.mpr claimed)
      | peng =>
          obtain ⟨offer, offered⟩ := concealedOffer_eq_ok_iff.mpr byKind
          simp only [sorted, List.map_cons, front, bind_eq_ok_iff]
          exact ⟨_, _, rfl, offer, offered, rfl⟩
      | exposedKong =>
          obtain ⟨offer, offered⟩ := relativeOffer_eq_ok_iff.mpr byKind
          simp only [sorted, List.map_cons, front, bind_eq_ok_iff]
          exact ⟨_, _, rfl, offer, offered, rfl⟩
      | concealedKong =>
          simp only [sorted, List.map_cons, front, bind_eq_ok_iff]
          exact ⟨_, _, rfl, rfl⟩
      | supplementalKong =>
          obtain ⟨offer, offered⟩ := concealedOffer_eq_ok_iff.mpr byKind
          simp only [sorted, List.map_cons, front, bind_eq_ok_iff]
          exact ⟨_, offer, offered, _, rfl, rfl⟩

/-! ## Melds that are out of range -/

/-- The tile numbers that the decoding of a meld converts, in order: a chi of three tiles
goes on to the claimed one. -/
def meldNumbers (meld : Meld) : List Int :=
  meld.tiles ++
    if meld.kind = asI32 MeldKind.chi ∧ meld.tiles.length = 3 then [meld.claimedTile] else []

theorem staysInt_meldNumbers {meld : Meld} :
    StaysInt (meldNumbers meld) ↔ StaysInt meld.tiles ∧
      ((∀ tile ∈ meld.tiles, Readable tile) → meld.kind = asI32 MeldKind.chi →
        meld.tiles.length = 3 → ¬ Overflows meld.claimedTile) := by
  rw [meldNumbers, staysInt_append]
  refine and_congr_right fun _ => imp_congr_right fun _ => ?_
  split
  · rename_i chi
    rw [staysInt_singleton]
    exact ⟨fun inRange _ _ => inRange, fun inRange => inRange chi.1 chi.2⟩
  · rename_i other
    exact iff_of_true (fun tile reaches => absurd reaches not_reaches_nil)
      fun chi three => absurd ⟨chi, three⟩ other

theorem chiPack_defined_iff {tiles : List Mahjong.Tile} {claimedTile : Int} :
    Defined (chiPack tiles claimedTile) ↔ (tiles.length = 3 → ¬ Overflows claimedTile) := by
  unfold chiPack
  split
  · rw [defined_bind_iff, protoTileToMahjongTile_defined_iff]
    refine ⟨fun defined _ => defined.1, fun inRange => ⟨inRange rfl, fun claimed _ => ?_⟩⟩
    repeat' split
    · exact defined_ok _
    · exact defined_ok _
    · exact defined_ok _
    · exact defined_invalidArgument _
  · rename_i other
    refine iff_of_true (defined_invalidArgument _) fun three => ?_
    obtain ⟨first, second, third, same⟩ := List.length_eq_three.mp three
    exact absurd same (other first second third)

theorem front_defined {tiles : List Mahjong.Tile} (some : tiles ≠ []) :
    Defined (front tiles) := by
  cases tiles with
  | nil => exact absurd rfl some
  | cons first rest => exact defined_ok first

/-- The tiles of a meld that is not empty have a first one, so that only a conversion may be
undefined. -/
theorem protoMeldToMahjongPack_defined_iff (meld : Meld) (actorSeat : Int) :
    Defined (protoMeldToMahjongPack meld actorSeat) ↔ StaysInt (meldNumbers meld) := by
  rw [staysInt_meldNumbers]
  unfold protoMeldToMahjongPack
  split
  · rename_i empty
    rw [List.isEmpty_iff] at empty
    refine iff_of_true (defined_invalidArgument _) ?_
    simp [empty, StaysInt]
  · rename_i nonempty
    rw [defined_bind_iff, mapM_protoTileToMahjongTile_defined_iff]
    refine and_congr_right fun _ => ?_
    simp only [mapM_protoTileToMahjongTile_eq_ok_iff, and_imp]
    have sorted : (Tile.sort (meld.tiles.map tileOf)).length = meld.tiles.length := by
      rw [Tile.length_sort, List.length_map]
    have first : Defined (front (Tile.sort (meld.tiles.map tileOf))) := by
      apply front_defined
      intro none
      have length := sorted.symm.trans (congrArg List.length none)
      exact nonempty (List.isEmpty_iff.mpr (List.length_eq_zero_iff.mp length))
    constructor
    · intro rest readable chi three
      have defined := rest _ readable rfl
      rw [chi, ProtoEnum.tryFrom_asI32] at defined
      exact chiPack_defined_iff.mp defined (sorted.trans three)
    · intro claimed tiles readable converted
      rw [converted]
      cases kind : (tryFrom meld.kind : Option MeldKind) with
      | none => exact defined_invalidArgument _
      | some value =>
          cases value with
          | unspecified => exact defined_invalidArgument _
          | chi =>
              exact chiPack_defined_iff.mpr fun three =>
                claimed readable (ProtoEnum.tryFrom_eq_some_iff.mp kind) (sorted.symm.trans three)
          | peng =>
              exact first.bind fun _ _ =>
                (concealedOffer_defined meld actorSeat).bind fun _ _ => defined_ok _
          | exposedKong =>
              exact first.bind fun _ _ =>
                (relativeOffer_defined actorSeat meld.fromSeat).bind fun _ _ => defined_ok _
          | concealedKong => exact first.bind fun _ _ => defined_ok _
          | supplementalKong =>
              exact (concealedOffer_defined meld actorSeat).bind fun _ _ =>
                first.bind fun _ _ => defined_ok _

/-! ## Real melds -/

/-- The first and the last number of each suit. -/
def suits : List (Int × Int) := [
  (asI32 Engine.Tile.character1, asI32 Engine.Tile.character9),
  (asI32 Engine.Tile.bamboo1, asI32 Engine.Tile.bamboo9),
  (asI32 Engine.Tile.dot1, asI32 Engine.Tile.dot9)]

/-- Three consecutive tiles of one suit, in any order. -/
def IsRun (tiles : List Int) : Prop :=
  ∃ suit ∈ suits, ∃ lowest, suit.1 ≤ lowest ∧ lowest + 2 ≤ suit.2 ∧
    tiles.Perm [lowest, lowest + 1, lowest + 2]

/-- So many equal tiles, suited or honours. -/
def IsSet (count : Nat) (tiles : List Int) : Prop :=
  ∃ tile, asI32 Engine.Tile.character1 ≤ tile ∧ tile ≤ asI32 Engine.Tile.whiteDragon ∧
    tiles = List.replicate count tile

def RealMeld (meld : Meld) : Prop :=
  match (tryFrom meld.kind : Option MeldKind) with
  | some .chi => IsRun meld.tiles
  | some .peng => IsSet 3 meld.tiles
  | some .exposedKong | some .concealedKong | some .supplementalKong => IsSet 4 meld.tiles
  | some .unspecified | none => False

theorem IsRun.sorted {tiles : List Int} (run : IsRun tiles) :
    ∃ lowest, tiles.Perm [lowest, lowest + 1, lowest + 2] ∧
      sortNumbers tiles = [lowest, lowest + 1, lowest + 2] := by
  obtain ⟨_, _, lowest, _, _, same⟩ := run
  refine ⟨lowest, same, sortNumbers_eq_of_perm same ?_⟩
  grind

theorem IsSet.sorted {count : Nat} {tiles : List Int} (set : IsSet (count + 1) tiles) :
    ∃ tile, tiles = List.replicate (count + 1) tile ∧
      sortNumbers tiles = tile :: List.replicate count tile := by
  obtain ⟨tile, _, _, same⟩ := set
  refine ⟨tile, same, sortNumbers_eq_of_perm (.of_eq same) ?_⟩
  rw [← List.replicate_succ]
  exact List.pairwise_replicate.mpr (.inr (Int.le_refl tile))

/-- The library gets the tiles of a real meld. -/
theorem RealMeld.libraryTiles_perm {meld : Meld} (real : RealMeld meld) :
    (libraryTiles meld).Perm meld.tiles := by
  unfold RealMeld at real
  unfold libraryTiles
  cases kind : (tryFrom meld.kind : Option MeldKind) with
  | none =>
      rw [kind] at real
      exact real.elim
  | some value =>
      rw [kind] at real
      cases value with
      | unspecified => exact real.elim
      | chi =>
          obtain ⟨lowest, same, sorted⟩ := real.sorted
          rw [sorted]
          refine .trans (.of_eq ?_) same.symm
          simp
          omega
      | peng =>
          obtain ⟨tile, same, sorted⟩ := real.sorted
          rw [sorted, same]
      | exposedKong | concealedKong | supplementalKong =>
          obtain ⟨tile, same, sorted⟩ := real.sorted
          rw [sorted, same]

/-! ## When decoding conserves the tiles -/

/-- A decoded meld is a real one with the tiles of the pack, and any other is refused. -/
structure DecodesFaithfully (meld : Meld) (actorSeat : Int) : Prop where
  conserved : ∀ pack, protoMeldToMahjongPack meld actorSeat = .ok pack →
    pack.getAllTile.Perm (meld.tiles.map tileOf) ∧ RealMeld meld
  refused : (∀ pack, protoMeldToMahjongPack meld actorSeat ≠ .ok pack) →
    ∃ what, protoMeldToMahjongPack meld actorSeat = invalidArgument what

/-- Decoding is faithful exactly to the melds that are real or fail a check, as long as the
conversion of their tiles stays in range. -/
theorem decodesFaithfully_iff (meld : Meld) (actorSeat : Int) :
    DecodesFaithfully meld actorSeat ↔
      StaysInt (meldNumbers meld) ∧ (RealMeld meld ∨ ¬ MeldChecked meld actorSeat) := by
  rw [← protoMeldToMahjongPack_defined_iff meld actorSeat]
  constructor
  · intro faithful
    cases decoded : protoMeldToMahjongPack meld actorSeat with
    | ok pack => exact ⟨defined_ok pack, .inl (faithful.conserved pack decoded).2⟩
    | error failure =>
        have fails : ∀ pack, protoMeldToMahjongPack meld actorSeat ≠ .ok pack := by
          intro pack returned
          rw [decoded] at returned
          cases returned
        obtain ⟨what, refused⟩ := faithful.refused fails
        rw [← decoded, refused]
        refine ⟨defined_invalidArgument what, .inr fun checked => ?_⟩
        obtain ⟨pack, returned⟩ := protoMeldToMahjongPack_of_checked checked
        exact fails pack returned
  · intro condition
    obtain ⟨defined, condition⟩ := condition
    constructor
    · intro pack decoded
      obtain ⟨checked, tiles, _⟩ := protoMeldToMahjongPack_eq_ok decoded
      have real := condition.resolve_right (not_not_intro checked)
      rw [tiles]
      exact ⟨real.libraryTiles_perm.map tileOf, real⟩
    · intro fails
      cases decoded : protoMeldToMahjongPack meld actorSeat with
      | ok pack => exact absurd decoded (fails pack)
      | error failure =>
          obtain ⟨what, rfl⟩ := defined.thrown decoded
          exact ⟨what, rfl⟩

/-- South's peng of two different tiles, from East's discard. -/
def mixedPeng : Meld where
  kind := asI32 MeldKind.peng
  tiles := [asI32 Engine.Tile.redDragon, asI32 Engine.Tile.character1]
  fromSeat := asI32 Seat.east
  claimedTile := asI32 Engine.Tile.character1
  concealed := false
  sourceEventSeq := 1

/-- Two tiles decode to a peng of three others. -/
theorem mixedPeng_not_conserved :
    protoMeldToMahjongPack mixedPeng (asI32 Seat.south) = .ok ⟨.kezi, .ofId 1, 0, 1⟩ ∧
      ¬ DecodesFaithfully mixedPeng (asI32 Seat.south) := by
  refine ⟨by decide +kernel, fun faithful => ?_⟩
  have conserved := (faithful.conserved ⟨.kezi, .ofId 1, 0, 1⟩ (by decide +kernel)).1
  exact absurd conserved.length_eq (by decide)

end GbMahjong.Adapter
