import GbMahjong.Adapter.KindProperties

/-! The meld of a claim, from the answer back to the library. The validation names a
meld, and a later request carries it to the decoding, which sorts its tiles and keeps
one tile and one number of it. -/

set_option autoImplicit false

namespace GbMahjong.Adapter

open GbMahjong.Library GbMahjong.Library.Checked GbMahjong.Mahjong GbMahjong.Engine
open GbMahjong.Library.ProtoEnum (asI32 tryFrom)

/-! ## Decoding a real meld -/

theorem IsRun.readable {tiles : List Int} (run : IsRun tiles) :
    ∀ tile ∈ tiles, Readable tile := by
  obtain ⟨suit, listed, lowest, first, last, same⟩ := run
  have suited : ∀ suit ∈ suits, 2 ≤ suit.1 ∧ suit.2 ≤ 43 := by decide
  obtain ⟨lower, upper⟩ := suited suit listed
  intro tile member
  have place := same.mem_iff.mp member
  simp only [List.mem_cons, List.not_mem_nil, or_false] at place
  apply readable_of_enumerated
  rw [enumerated_iff]
  omega

theorem IsSet.readable {count : Nat} {tiles : List Int} (set : IsSet count tiles) :
    ∀ tile ∈ tiles, Readable tile := by
  obtain ⟨tile, first, last, rfl⟩ := set
  intro other member
  rw [List.eq_of_mem_replicate member]
  exact readable_of_enumerated ⟨first, Int.le_trans last (by decide)⟩

theorem IsRun.length {tiles : List Int} (run : IsRun tiles) : tiles.length = 3 := by
  obtain ⟨_, _, _, _, _, same⟩ := run
  exact same.length_eq

/-- A real meld of an opponent's tile passes every check. -/
theorem RealMeld.checked {meld : Meld} {actorSeat : Int} (real : RealMeld meld)
    (claimed : meld.claimedTile ∈ meld.tiles) (opposite : Opposite actorSeat meld.fromSeat) :
    MeldChecked meld actorSeat := by
  have nonempty : meld.tiles ≠ [] := List.ne_nil_of_mem claimed
  unfold RealMeld at real
  unfold MeldChecked
  cases kind : (tryFrom meld.kind : Option MeldKind) with
  | none =>
      rw [kind] at real
      exact real.elim
  | some value =>
      rw [kind] at real
      cases value with
      | unspecified => exact real.elim
      | chi =>
          have readable := IsRun.readable real
          exact ⟨nonempty, readable, IsRun.length real, readable _ claimed, claimed⟩
      | peng | supplementalKong => exact ⟨nonempty, IsSet.readable real, .inr opposite⟩
      | exposedKong => exact ⟨nonempty, IsSet.readable real, opposite⟩
      | concealedKong => exact ⟨nonempty, IsSet.readable real, trivial⟩

/-- It is decoded to a pack of its tiles, and the offer is its own. -/
theorem RealMeld.decoded {meld : Meld} {actorSeat : Int} (real : RealMeld meld)
    (claimed : meld.claimedTile ∈ meld.tiles) (opposite : Opposite actorSeat meld.fromSeat) :
    ∃ pack, protoMeldToMahjongPack meld actorSeat = .ok pack ∧
      pack.getAllTile = (libraryTiles meld).map tileOf ∧
      pack.getAllTile.Perm (meld.tiles.map tileOf) ∧ Offered meld actorSeat pack.offer := by
  obtain ⟨pack, decoded⟩ := protoMeldToMahjongPack_of_checked (real.checked claimed opposite)
  obtain ⟨_, tiles, offered, _⟩ := protoMeldToMahjongPack_eq_ok decoded
  exact ⟨pack, decoded, tiles, tiles ▸ real.libraryTiles_perm.map tileOf, offered⟩

/-- The tiles of a run's pack are the run in order. -/
theorem libraryTiles_of_run {meld : Meld} (chi : tryFrom meld.kind = some MeldKind.chi)
    (run : IsRun meld.tiles) : libraryTiles meld = sortNumbers meld.tiles := by
  obtain ⟨lowest, _, sorted⟩ := run.sorted
  unfold libraryTiles
  rw [chi, sorted]
  simp
  omega

/-! ## The meld of a claim -/

/-- The tiles that a claim takes from the hand make a meld of its kind with its target. -/
def ProperClaim (claim : ClaimAction) : Prop :=
  let tiles := claim.consumeTiles ++ [claim.targetTile]
  match (tryFrom claim.claimKind : Option ClaimKind) with
  | some .chi => IsRun tiles
  | some .peng => IsSet 3 tiles
  | some .exposedKong => IsSet 4 tiles
  | _ => False

/-- The pack has the tiles of the claim, is open, and says where its tile came from: the
place in a chi, the player for the other kinds. -/
structure RecordsClaim (claim : ClaimAction) (actorSeat : Int) (pack : Pack) : Prop where
  tiles : pack.getAllTile.Perm ((claim.consumeTiles ++ [claim.targetTile]).map tileOf)
  offer : 1 ≤ pack.offer ∧ pack.offer ≤ 3
  exposed : pack.isAnshou = false
  place : claim.claimKind = asI32 ClaimKind.chi →
    pack.getAllTile[(pack.offer - 1).toNat]? = some (tileOf claim.targetTile)
  source : claim.claimKind ≠ asI32 ClaimKind.chi → ∃ actor source,
    seatToIndex actorSeat = .ok actor ∧ seatToIndex claim.sourceSeat = .ok source ∧
      source = (actor - pack.offer) % 4

theorem isAnshou_of_offer {pack : Pack} (offer : 1 ≤ pack.offer) : pack.isAnshou = false := by
  unfold Pack.isAnshou
  rw [Bool.or_eq_false_iff, beq_eq_false_iff_ne, beq_eq_false_iff_ne]
  omega

section Claim

variable {library : FanLibrary} {request : ValidateActionRequest} {outcome : ValidateOutcome}
  {claim : ClaimAction}

/-- A proper claim is no win, and its meld is a real one. -/
theorem ProperClaim.meld (proper : ProperClaim claim) :
    isWinningClaimKind claim.claimKind = false ∧
      ∀ meld, (claimMeldResult claim).meld = some meld → RealMeld meld := by
  unfold ProperClaim at proper
  cases kind : (tryFrom claim.claimKind : Option ClaimKind) with
  | none =>
      rw [kind] at proper
      exact proper.elim
  | some value =>
      rw [kind] at proper
      rw [← ProtoEnum.asI32_of_tryFrom kind]
      cases value with
      | unspecified | discardWin | robKongWin => exact proper.elim
      | chi | peng | exposedKong =>
          refine ⟨by decide, fun meld named => ?_⟩
          cases named
          simp only [RealMeld, deduceMeldKind, kind, ProtoEnum.tryFrom_asI32]
          exact proper

/-- The answer to a proper claim names its meld. -/
theorem meldResult_of_claim (validated : validateAction library request = .ok outcome)
    (legal : outcome.legal = true)
    (claimed : request.candidateAction = some ⟨some (.claim claim)⟩)
    (noWin : isWinningClaimKind claim.claimKind = false) :
    outcome.meldResult = some (claimMeldResult claim) := by
  obtain ⟨candidate, requested, ended⟩ := validateAction_eq_legal validated legal
  rw [claimed] at requested
  cases requested
  rcases ended with ⟨winning, _⟩ | ⟨_, rfl⟩
  · rw [show isWinningAction ⟨some (.claim claim)⟩ = isWinningClaimKind claim.claimKind from rfl,
      noWin] at winning
    cases winning
  · simp [passedOn, validateOtherAction, noWin]

/-- The offer of a peng or a kong leads back to the source of the claim. -/
theorem recordsClaim_of_source {actorSeat : Int} {pack : Pack}
    (same : pack.getAllTile.Perm ((claim.consumeTiles ++ [claim.targetTile]).map tileOf))
    (noChi : claim.claimKind ≠ asI32 ClaimKind.chi)
    (offered : relativeOffer actorSeat claim.sourceSeat = .ok pack.offer) :
    RecordsClaim claim actorSeat pack := by
  obtain ⟨first, last, source⟩ := relativeOffer_eq_ok offered
  exact ⟨same, ⟨first, last⟩, isAnshou_of_offer first, fun chi => absurd chi noChi,
    fun _ => source⟩

/-- The pack that a proper claim's meld decodes to records the claim. -/
theorem ProperClaim.recorded {actorSeat : Int} {meld : Meld} {pack : Pack}
    (proper : ProperClaim claim) (named : (claimMeldResult claim).meld = some meld)
    (tiles : pack.getAllTile = (libraryTiles meld).map tileOf)
    (same : pack.getAllTile.Perm (meld.tiles.map tileOf))
    (offered : Offered meld actorSeat pack.offer) : RecordsClaim claim actorSeat pack := by
  have kinded : meld.kind = deduceMeldKind claim := by cases named; rfl
  have exposed : concealedOffer meld actorSeat = relativeOffer actorSeat claim.sourceSeat := by
    cases named
    rfl
  have consumed : meld.tiles = claim.consumeTiles ++ [claim.targetTile] := by cases named; rfl
  have target : meld.claimedTile = claim.targetTile := by cases named; rfl
  have source : meld.fromSeat = claim.sourceSeat := by cases named; rfl
  unfold ProperClaim at proper
  unfold Offered at offered
  rw [consumed] at same
  cases kind : (tryFrom claim.claimKind : Option ClaimKind) with
  | none =>
      rw [kind] at proper
      exact proper.elim
  | some value =>
      rw [kind] at proper
      have number := ProtoEnum.asI32_of_tryFrom kind
      simp only [kinded, deduceMeldKind, kind, exposed, target, source]
        at offered
      cases value with
      | unspecified | discardWin | robKongWin => exact proper.elim
      | chi =>
          obtain ⟨first, last, place⟩ := offered
          refine ⟨same, ⟨first, last⟩, isAnshou_of_offer first, fun _ => ?_,
            fun other => absurd number.symm other⟩
          have chi : tryFrom meld.kind = some MeldKind.chi := by
            rw [kinded, deduceMeldKind, kind, ProtoEnum.tryFrom_asI32]
          rw [tiles, libraryTiles_of_run chi (consumed ▸ proper), List.getElem?_map, place]
          rfl
      | peng | exposedKong =>
          exact recordsClaim_of_source same (number ▸ by decide) offered

/-- The meld of a proper claim goes back through the decoding: the pack is the claim's. -/
theorem claimed_meld_decodes (validated : validateAction library request = .ok outcome)
    (legal : outcome.legal = true)
    (claimed : request.candidateAction = some ⟨some (.claim claim)⟩)
    (proper : ProperClaim claim) (opposite : Opposite request.actorSeat claim.sourceSeat) :
    ∃ meldResult meld pack, outcome.meldResult = some meldResult ∧
      meldResult.meld = some meld ∧
      protoMeldToMahjongPack meld request.actorSeat = .ok pack ∧
      RecordsClaim claim request.actorSeat pack := by
  obtain ⟨noWin, real⟩ := proper.meld
  have answered := meldResult_of_claim validated legal claimed noWin
  have last : claim.targetTile ∈ claim.consumeTiles ++ [claim.targetTile] :=
    List.mem_append_right _ List.mem_cons_self
  obtain ⟨pack, decoded, tiles, same, offered⟩ := (real _ rfl).decoded last opposite
  exact ⟨_, _, pack, answered, rfl, decoded, proper.recorded rfl tiles same offered⟩

end Claim

/-- A chi of the character two between the three and the one. -/
def middleChi : ClaimAction where
  claimKind := asI32 ClaimKind.chi
  targetTile := asI32 Engine.Tile.character2
  consumeTiles := [asI32 Engine.Tile.character3, asI32 Engine.Tile.character1]
  sourceSeat := asI32 Seat.north
  sourceEventSeq := 3

/-- The request that asks whether the chi is legal. -/
def middleChiRequest : ValidateActionRequest :=
  { orphansRequest .character1 with candidateAction := some ⟨some (.claim middleChi)⟩ }

theorem claimed_meld_decodes_middleChi :
    ∃ meldResult meld pack,
      (passedOn ⟨some (.claim middleChi)⟩).meldResult = some meldResult ∧
      meldResult.meld = some meld ∧
      protoMeldToMahjongPack meld (asI32 Seat.east) = .ok pack ∧
      RecordsClaim middleChi (asI32 Seat.east) pack := by
  have validated : validateAction drawnOrphansLibrary middleChiRequest =
      .ok (passedOn ⟨some (.claim middleChi)⟩) := validateAction_of_other rfl (by decide)
  have decoded : ∃ meldResult meld pack,
      (passedOn ⟨some (.claim middleChi)⟩).meldResult = some meldResult ∧
      meldResult.meld = some meld ∧
      protoMeldToMahjongPack meld middleChiRequest.actorSeat = .ok pack ∧
      RecordsClaim middleChi middleChiRequest.actorSeat pack := by
    refine claimed_meld_decodes validated rfl rfl ?_ ⟨?_, ?_, by decide⟩
    · exact ⟨(2, 10), by decide, 2, by decide, by decide, by decide⟩
    · exact ⟨by decide, by decide⟩
    · exact ⟨by decide, by decide⟩
  exact decoded

end GbMahjong.Adapter
