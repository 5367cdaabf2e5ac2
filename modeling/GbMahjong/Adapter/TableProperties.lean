import GbMahjong.Adapter.AdmissionProperties
import GbMahjong.Adapter.ArithmeticProperties

/-! The tile ids that reach the library. The conversion of a tile refuses two numbers
and passes every other one on, and it is made only on the way to a hand, so the numbers
of the request and how far its conversions come decide what the library is handed. -/

set_option autoImplicit false

namespace GbMahjong.Adapter

open GbMahjong.Library GbMahjong.Library.Checked GbMahjong.Mahjong GbMahjong.Engine
open GbMahjong.Library.ProtoEnum (asI32 tryFrom Declared)

/-! ## Ids inside the tables -/

/-- The ids that the library's arrays are indexed with. -/
def InTables (tile : Mahjong.Tile) : Prop :=
  tile1m ≤ tile.getId ∧ tile.getId < tileSize

/-- What the conversion of a number hands over is inside. -/
def TileInTables (number : Int) : Prop :=
  ∀ tile, protoTileToMahjongTile number = .ok tile → InTables tile

namespace WinDescription

end WinDescription

theorem declared_tile_iff {number : Int} :
    Declared Engine.Tile number ↔ 0 ≤ number ∧ number ≤ 43 := by
  constructor
  · intro declared
    obtain ⟨value, rfl⟩ := declared
    cases value <;> decide
  · intro bounds
    have all : ∀ number ∈ idRange 0 44, Declared Engine.Tile number := by decide +kernel
    exact all number (mem_idRange.mpr ⟨bounds.1, Int.lt_add_one_of_le bounds.2⟩)

theorem inTables_tileOf_iff {number : Int} : InTables (tileOf number) ↔ Enumerated number := by
  rw [enumerated_iff]
  change 1 ≤ number - 1 ∧ number - 1 < 43 ↔ _
  omega

theorem declared_of_enumerated {number : Int} (enumerated : Enumerated number) :
    Declared Engine.Tile number :=
  declared_tile_iff.mpr ⟨Int.le_trans (by decide) enumerated.1, enumerated.2⟩

/-- A named number is refused or is one of the enumeration. -/
theorem tileInTables_iff {number : Int} :
    TileInTables number ∧ ¬ Overflows number ↔ Declared Engine.Tile number := by
  have handed : TileInTables number ↔ (Readable number → Enumerated number) := by
    simp only [TileInTables, protoTileToMahjongTile_eq_ok_iff, and_imp,
      ← @inTables_tileOf_iff number]
    exact ⟨fun all readable => all _ readable rfl, fun inside _ readable same =>
      same ▸ inside readable⟩
  rw [handed, declared_tile_iff, enumerated_iff]
  unfold Readable Overflows Int32Range
  change ((number ≠ 0 ∧ number ≠ 1 ∧ _) → _) ∧ _ ↔ _
  omega

/-- A field that is not repeated holds a number unless it is zero. -/
def singular (number : Int) : List Int :=
  if number = 0 then [] else [number]

def meldFields (meld : Meld) : List Int :=
  meld.tiles ++ singular meld.claimedTile

def winningTileField (candidateAction : CandidateAction) : List Int :=
  match candidateAction.action with
  | some (.declareWin declareWin) => singular declareWin.winningTile
  | some (.claim claim) => singular claim.targetTile
  | _ => []

/-- The melds and the flowers of all players, the hand of the actor and the winning tile. -/
def validationFields (request : ValidateActionRequest) : List Int :=
  (request.players.flatMap fun player => player.melds.flatMap meldFields ++ player.flowers) ++
    (request.actorPrivateHand.toList.flatMap fun hand =>
      hand.concealedTiles ++ singular hand.drawnTile) ++
    winningTileField (candidateActionOf request)

/-- All hands and the winning tile. -/
def scoringFields (score : CalculateScoreRequest) : List Int :=
  (score.hands.flatMap fun hand =>
      hand.melds.flatMap meldFields ++ hand.flowers ++ hand.concealedTiles) ++
    singular score.winningTile

theorem declared_of_singular {number : Int}
    (enumerated : ∀ other ∈ singular number, Enumerated other) :
    Declared Engine.Tile number := by
  unfold singular at enumerated
  split at enumerated
  · rename_i zero
    exact zero ▸ declared_tile_iff.mpr (by decide)
  · exact declared_of_enumerated (List.forall_mem_singleton.mp enumerated)

/-- A win whose fields are all of the enumeration comes to no overflow. -/
theorem WinDescription.inRange_of_enumerated {win : WinDescription}
    (melds : ∀ meld ∈ win.melds, ∀ number ∈ meldFields meld, Enumerated number)
    (flowers : ∀ number ∈ win.flowers, Enumerated number)
    (concealed : ∀ number ∈ win.concealedTiles, Enumerated number)
    (last : Declared Engine.Tile win.lastTile) : win.InRange := by
  have inRange {number : Int} (declared : Declared Engine.Tile number) : ¬ Overflows number :=
    (tileInTables_iff.mpr declared).2
  refine along_of_forall (fun meld member => ?_) fun number loose => ?_
  · obtain ⟨tiles, claimed⟩ := List.forall_mem_append.mp (melds meld member)
    refine ⟨fun number reached => inRange ?_, fun _ floor => ?_⟩
    · cases List.mem_append.mp reached.mem with
      | inl tile => exact declared_of_enumerated (tiles number tile)
      | inr other =>
          split at other
          · exact List.mem_singleton.mp other ▸ declared_of_singular claimed
          · exact absurd other List.not_mem_nil
    · have held : -2 ^ 31 + 1 ∈ meld.tiles :=
        List.count_pos_iff.mp (Nat.lt_of_lt_of_le (by decide) floor.2)
      exact absurd (tiles _ held) (by decide)
  · apply inRange
    rcases List.mem_append.mp loose with flower | rest
    · exact declared_of_enumerated (flowers number flower)
    · rcases List.mem_append.mp rest with standing | same
      · exact declared_of_enumerated (concealed number standing)
      · exact List.mem_singleton.mp same ▸ last

/-! ## When the tables are never left -/

section Validation

variable {library : FanLibrary} {request : ValidateActionRequest} {win : WinDescription}

theorem lastTileOf_declared {candidateAction : CandidateAction}
    {privateHand : PrivateHandContext} {winType lastTile : Int}
    (drawn : ∀ number ∈ singular privateHand.drawnTile, Enumerated number)
    (winning : ∀ number ∈ winningTileField candidateAction, Enumerated number)
    (named : lastTileOf candidateAction winType privateHand = .ok lastTile) :
    Declared Engine.Tile lastTile := by
  unfold lastTileOf extractWinningTile at named
  unfold winningTileField at winning
  split at named
  · cases named
    exact declared_of_singular drawn
  · split at named
    · rename_i declareWin declared
      cases named
      rw [declared] at winning
      exact declared_of_singular winning
    · rename_i claim claimed
      cases named
      rw [claimed] at winning
      exact declared_of_singular winning
    · cases named

theorem findActorSeat_mem {actorState : EnginePlayerState}
    (seated : (findActorSeat request).2 = some actorState) : actorState ∈ request.players := by
  unfold findActorSeat at seated
  split at seated
  · rename_i player found
    cases seated
    exact List.mem_of_find?_eq_some found
  · cases seated

/-- Where every field is of the enumeration, the win that is evaluated is in range. -/
theorem EvaluatesWin.inRange (evaluates : EvaluatesWin request win)
    (enumerated : ∀ number ∈ validationFields request, Enumerated number) : win.InRange := by
  obtain ⟨actorState, privateHand, winType, lastTile, seated, held, _, named, rfl⟩ := evaluates
  obtain ⟨others, winning⟩ := List.forall_mem_append.mp enumerated
  obtain ⟨players, hands⟩ := List.forall_mem_append.mp others
  rw [held, Option.toList_some, List.flatMap_singleton] at hands
  obtain ⟨concealed, drawn⟩ := List.forall_mem_append.mp hands
  obtain ⟨melds, flowers⟩ := List.forall_mem_append.mp
    (List.forall_mem_flatMap.mp players actorState (findActorSeat_mem seated))
  exact WinDescription.inRange_of_enumerated (List.forall_mem_flatMap.mp melds) flowers
    concealed (lastTileOf_declared drawn winning named)

end Validation

section Scoring

variable {library : FanLibrary} {score : CalculateScoreRequest} {hand : HandSnapshot}
  {win : WinDescription}

theorem SettlesWin.inRange (settles : SettlesWin score win)
    (enumerated : ∀ number ∈ scoringFields score, Enumerated number) : win.InRange := by
  obtain ⟨_, _, _, hand, found, rfl⟩ := settles
  have member : hand ∈ score.hands := by
    unfold findWinnerHand at found
    split at found
    · rename_i winner chosen
      cases found
      exact List.mem_of_find?_eq_some chosen
    · cases found
  obtain ⟨hands, winning⟩ := List.forall_mem_append.mp enumerated
  obtain ⟨others, concealed⟩ := List.forall_mem_append.mp
    (List.forall_mem_flatMap.mp hands hand member)
  obtain ⟨melds, flowers⟩ := List.forall_mem_append.mp others
  exact WinDescription.inRange_of_enumerated (List.forall_mem_flatMap.mp melds) flowers
    concealed (declared_of_singular winning)

end Scoring

end GbMahjong.Adapter
