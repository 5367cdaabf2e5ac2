import GbMahjong.Adapter.WinningHand

/-! How far the conversions of a win come. They run in one order in both builders, and an
overflow counts only where nothing before it was refused. -/

set_option autoImplicit false

namespace GbMahjong.Adapter

open GbMahjong.Library GbMahjong.Library.Checked GbMahjong.Mahjong GbMahjong.Engine
open GbMahjong.Library.ProtoEnum (asI32 tryFrom)

/-! ## The loops -/

theorem exists_protoSeatToMahjongWind_iff {seat : Int} :
    (∃ wind, protoSeatToMahjongWind seat = .ok wind) ↔ Placed seat := by
  have same : (∃ wind, protoSeatToMahjongWind seat = .ok wind) ↔
      ∃ index, seatToIndex seat = .ok index := by
    unfold protoSeatToMahjongWind seatToIndex
    split <;> simp
  simp only [same, seatToIndex_eq_ok_iff, exists_and_left, exists_eq, and_true]

section Loops

variable (start : Handtiles)

theorem exists_foldlM_addMeld_iff {seat : Int} {melds : List Meld} :
    (∃ melded, melds.foldlM (addMeld seat) start = .ok melded) ↔
      ∀ meld ∈ melds, AddsMeld seat meld := by
  simp only [foldlM_addMeld_eq_ok_iff, ← exists_addedPack_iff, ← exists_mapM_iff]
  exact ⟨fun ⟨_, packs, decoded, _⟩ => ⟨packs, decoded⟩,
    fun ⟨packs, decoded⟩ => ⟨_, packs, decoded, rfl⟩⟩

theorem foldlM_addMeld_defined_iff {seat : Int} {melds : List Meld} :
    Defined (melds.foldlM (addMeld seat) start) ↔
      ∀ meld, Reaches (AddsMeld seat) melds meld → MeldInRange seat meld := by
  rw [addMeld_eq, foldlM_convert_eq, defined_map_iff,
    defined_mapM_iff fun meld _ => exists_addedPack_iff]
  simp only [addedPack_defined_iff]

/-- A loop that converts tile numbers and puts the tiles somewhere. -/
theorem foldlM_tiles_defined_iff (add : Handtiles → Mahjong.Tile → Handtiles)
    {tiles : List Int} :
    Defined (tiles.foldlM (fun handtiles tile => do
      .ok (add handtiles (← protoTileToMahjongTile tile))) start) ↔ StaysInt tiles := by
  rw [foldlM_convert_eq, defined_map_iff, mapM_protoTileToMahjongTile_defined_iff]

theorem exists_foldlM_tiles_iff (add : Handtiles → Mahjong.Tile → Handtiles)
    {tiles : List Int} :
    (∃ result, tiles.foldlM (fun handtiles tile => do
      .ok (add handtiles (← protoTileToMahjongTile tile))) start = .ok result) ↔
        ∀ tile ∈ tiles, Readable tile := by
  simp only [foldlM_convert_eq_ok_iff, mapM_protoTileToMahjongTile_eq_ok_iff]
  exact ⟨fun ⟨_, _, ⟨readable, _⟩, _⟩ => readable, fun readable => ⟨_, _, ⟨readable, rfl⟩, rfl⟩⟩

end Loops

/-! ## A win -/

namespace WinDescription

/-- The tiles beside the melds, in the order of their conversion. -/
def looseTiles (win : WinDescription) : List Int :=
  win.flowers ++ (win.concealedTiles ++ [win.lastTile])

/-- Everything that is checked on the way to a hand. -/
structure Convertible (win : WinDescription) : Prop where
  wind : Placed win.prevailingWind
  seat : Placed win.seat
  melds : ∀ meld ∈ win.melds, AddsMeld win.seat meld
  loose : ∀ tile ∈ win.looseTiles, Readable tile
  thirteen : win.melds.length * 3 + win.concealedTiles.length = 13

/-- What holds of every meld that the conversions come to, and of every tile beside the
melds. -/
def Along (win : WinDescription) (onMeld : Meld → Prop) (onTile : Int → Prop) : Prop :=
  Placed win.prevailingWind → Placed win.seat →
    (∀ meld, Reaches (AddsMeld win.seat) win.melds meld → onMeld meld) ∧
      ((∀ meld ∈ win.melds, AddsMeld win.seat meld) →
        ∀ tile, Reaches Readable win.looseTiles tile → onTile tile)

/-- The conversions come to no overflow. -/
def InRange (win : WinDescription) : Prop :=
  win.Along (MeldInRange win.seat) fun tile => ¬ Overflows tile

variable {win : WinDescription}

theorem exists_builds_iff : (∃ handtiles, win.Builds handtiles) ↔ win.Convertible := by
  simp only [builds_iff]
  constructor
  · intro built
    obtain ⟨_, quanfeng, menfeng, packs, wind, seat, decoded, flowers, concealed, last,
      thirteen, _⟩ := built
    refine ⟨exists_protoSeatToMahjongWind_iff.mp ⟨quanfeng, wind⟩,
      exists_protoSeatToMahjongWind_iff.mp ⟨menfeng, seat⟩, fun meld member => ?_, ?_, thirteen⟩
    · exact exists_addedPack_iff.mp (exists_mapM_iff.mp ⟨packs, decoded⟩ meld member)
    · exact List.forall_mem_append.mpr ⟨flowers, List.forall_mem_append.mpr
        ⟨concealed, List.forall_mem_singleton.mpr last⟩⟩
  · intro convertible
    obtain ⟨wind, seat, melds, loose, thirteen⟩ := convertible
    obtain ⟨quanfeng, wind⟩ := exists_protoSeatToMahjongWind_iff.mpr wind
    obtain ⟨menfeng, seat⟩ := exists_protoSeatToMahjongWind_iff.mpr seat
    obtain ⟨packs, decoded⟩ := exists_mapM_iff.mpr fun meld member =>
      exists_addedPack_iff.mpr (melds meld member)
    obtain ⟨flowers, rest⟩ := List.forall_mem_append.mp loose
    obtain ⟨concealed, last⟩ := List.forall_mem_append.mp rest
    exact ⟨_, quanfeng, menfeng, packs, wind, seat, decoded, flowers, concealed,
      List.forall_mem_singleton.mp last, thirteen, rfl⟩

section Along

variable {onMeld onMeldToo : Meld → Prop} {onTile onTileToo : Int → Prop}

/-- What holds of all melds and tiles holds along the way. -/
theorem along_of_forall (melds : ∀ meld ∈ win.melds, onMeld meld)
    (tiles : ∀ tile ∈ win.looseTiles, onTile tile) : win.Along onMeld onTile :=
  fun _ _ => ⟨fun meld reached => melds meld reached.mem,
    fun _ tile reached => tiles tile reached.mem⟩

end Along

theorem staysInt_looseTiles_iff : StaysInt win.looseTiles ↔
    StaysInt win.flowers ∧ ((∀ tile ∈ win.flowers, Readable tile) →
      StaysInt win.concealedTiles ∧ ((∀ tile ∈ win.concealedTiles, Readable tile) →
        ¬ Overflows win.lastTile)) := by
  rw [looseTiles, staysInt_append, staysInt_append, staysInt_singleton]

end WinDescription

/-! ## The builders -/

/-- The win that a validation goes on to evaluate. -/
def EvaluatesWin (request : ValidateActionRequest) (win : WinDescription) : Prop :=
  ∃ actorState privateHand winType lastTile,
    (findActorSeat request).2 = some actorState ∧
    request.actorPrivateHand = some privateHand ∧
    extractWinType (candidateActionOf request) = .ok winType ∧
    lastTileOf (candidateActionOf request) winType privateHand = .ok lastTile ∧
    win = validatedWin request actorState privateHand winType lastTile

/-- A candidate with a win type has a tile too. -/
theorem lastTileOf_of_typed {candidateAction : CandidateAction} {winType : Int}
    (typed : extractWinType candidateAction = .ok winType) (privateHand : PrivateHandContext) :
    ∃ lastTile, lastTileOf candidateAction winType privateHand = .ok lastTile := by
  unfold lastTileOf
  split
  · exact ⟨_, rfl⟩
  · unfold extractWinType at typed
    unfold extractWinningTile
    split at typed
    · exact ⟨_, rfl⟩
    · exact ⟨_, rfl⟩
    · cases typed

/-- A tail without further conversions. -/
theorem converted_defined_iff {tile : Int} {next : Mahjong.Tile → Checked Handtiles}
    (defined : ∀ mahjongTile, Defined (next mahjongTile)) :
    Defined (protoTileToMahjongTile tile >>= next) ↔ ¬ Overflows tile := by
  rw [← protoTileToMahjongTile_defined_iff, defined_bind_iff]
  exact and_iff_left fun mahjongTile _ => defined mahjongTile

/-- What the two builders have in common, and the tiles that each converts in its own way. -/
theorem conversions_defined_iff (win : WinDescription) {next : Handtiles → Checked Handtiles}
    (rest : ∀ handtiles, Defined (next handtiles) ↔
      StaysInt win.concealedTiles ∧
        ((∀ tile ∈ win.concealedTiles, Readable tile) → ¬ Overflows win.lastTile)) :
    Defined (do
      let quanfeng ← protoSeatToMahjongWind win.prevailingWind
      let menfeng ← protoSeatToMahjongWind win.seat
      let handtiles ← win.melds.foldlM (addMeld win.seat) (win.emptyHandtiles quanfeng menfeng)
      let handtiles ← win.flowers.foldlM addFlower handtiles
      next handtiles) ↔ win.InRange := by
  refine (defined_bind_iff_of_exact (iff_true_intro (protoSeatToMahjongWind_defined _))
    exists_protoSeatToMahjongWind_iff fun quanfeng _ =>
      defined_bind_iff_of_exact (iff_true_intro (protoSeatToMahjongWind_defined _))
        exists_protoSeatToMahjongWind_iff fun menfeng _ =>
          defined_bind_iff_of_exact (foldlM_addMeld_defined_iff _) (exists_foldlM_addMeld_iff _)
            fun melded _ => defined_bind_iff_of_exact
              (foldlM_tiles_defined_iff melded addFlowerTile)
              (exists_foldlM_tiles_iff melded addFlowerTile) fun flowered _ =>
                rest flowered).trans ?_
  have loose := @WinDescription.staysInt_looseTiles_iff win
  unfold StaysInt at loose
  rw [WinDescription.InRange, WinDescription.Along, loose, true_and, true_and]
  rfl

theorem buildActorHandtiles_defined_iff {request : ValidateActionRequest}
    {actorState : EnginePlayerState} {privateHand : PrivateHandContext} {winType lastTile : Int}
    (typed : extractWinType (candidateActionOf request) = .ok winType)
    (named : lastTileOf (candidateActionOf request) winType privateHand = .ok lastTile) :
    Defined (buildActorHandtiles request actorState privateHand) ↔
      (validatedWin request actorState privateHand winType lastTile).InRange := by
  unfold buildActorHandtiles
  simp only [typed, named, ok_bind]
  refine conversions_defined_iff (validatedWin request actorState privateHand winType lastTile)
    fun flowered => ?_
  refine defined_bind_iff_of_exact (foldlM_tiles_defined_iff flowered addLipaiTile)
    (exists_foldlM_tiles_iff flowered addLipaiTile) fun concealed _ => ?_
  unfold addConcealedTile
  rw [bind_assoc]
  refine converted_defined_iff fun last => ?_
  rw [ok_bind]
  split
  · exact defined_invalidArgument _
  · exact defined_ok _

theorem buildWinningHandtilesForValidation_defined_iff {request : ValidateActionRequest}
    (typed : ∃ winType, extractWinType (candidateActionOf request) = .ok winType) :
    Defined (buildWinningHandtilesForValidation request) ↔
      ∀ win, EvaluatesWin request win → win.InRange := by
  obtain ⟨winType, typed⟩ := typed
  unfold buildWinningHandtilesForValidation EvaluatesWin
  split
  · rename_i _ absent
    refine iff_of_true (defined_invalidArgument _) fun win evaluates => ?_
    obtain ⟨_, _, _, _, seated, _⟩ := evaluates
    cases absent.symm.trans seated
  · rename_i absent
    refine iff_of_true (defined_invalidArgument _) fun win evaluates => ?_
    obtain ⟨_, _, _, _, _, held, _⟩ := evaluates
    cases absent.symm.trans held
  · rename_i actorState privateHand seated held
    obtain ⟨lastTile, named⟩ := lastTileOf_of_typed typed privateHand
    rw [buildActorHandtiles_defined_iff typed named]
    constructor
    · intro inRange win evaluates
      obtain ⟨_, _, _, _, seatedToo, heldToo, typedToo, namedToo, rfl⟩ := evaluates
      cases seated.symm.trans seatedToo
      cases held.symm.trans heldToo
      cases typed.symm.trans typedToo
      cases named.symm.trans namedToo
      exact inRange
    · exact fun inRange => inRange _ ⟨_, _, _, _, seated, held, typed, named, rfl⟩

end GbMahjong.Adapter
