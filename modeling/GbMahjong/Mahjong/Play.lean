import GbMahjong.Mahjong.TingProperties

/-! A hand in play: `DrawTile`, `SetTile` and `DiscardTile` exchange its last tile, and
whatever they do, the hand waits for the same tiles. -/

set_option autoImplicit false

namespace GbMahjong.Mahjong

open GbMahjong.Library Shape

namespace Handtiles

/-- `DrawTile`. -/
def drawTile (handtiles : Handtiles) (tile : Tile) : Handtiles :=
  (handtiles.setLastLipai tile).modifyLastLipai Tile.setZimo

/-- `DiscardTile`. -/
def discardTile (handtiles : Handtiles) : Tile × Handtiles :=
  (.ofId handtiles.getLastLipai.getId, handtiles.setLastLipai (.ofId 0))

end Handtiles

/-- `JudgeHuTile`, with the hand that it leaves. -/
def judgeHuTile (handtiles : Handtiles) (t : Tile) : Bool × Handtiles :=
  let handtiles := handtiles.setTile t
  (judgeHu handtiles, handtiles.setTile (.ofId 0))

/-- What a player may do with the last place of a hand. -/
inductive Play where
  | draw (tile : Tile)
  | claim (tile : Tile)
  | discard
  | judge (tile : Tile)

def play (handtiles : Handtiles) : Play → Handtiles
  | .draw tile => handtiles.drawTile tile
  | .claim tile => handtiles.setTile tile
  | .discard => handtiles.discardTile.2
  | .judge tile => (judgeHuTile handtiles tile).2

variable {handtiles current : Handtiles}

theorem setTile_eq (current : Handtiles) (tile : Tile) :
    current.setTile tile = current.setTile (.ofId tile.tile) := by
  unfold Handtiles.setTile Handtiles.setLastLipai
  cases last : current.lipai.getLast? with
  | none => rfl
  | some old =>
      dsimp only
      rw [Handtiles.modifyLastLipai, Handtiles.modifyLastLipai, List.getLast?_concat,
        List.getLast?_concat, List.dropLast_concat, List.dropLast_concat]
      rfl

/-- One play leaves all but the last tile. -/
theorem ExchangedLast.play (exchanged : ExchangedLast handtiles current) (move : Play) :
    ExchangedLast handtiles (Mahjong.play current move) := by
  cases move with
  | draw tile => exact (exchanged.setLastLipai tile).1.modifyLastLipai fun _ => rfl
  | claim tile =>
      rw [Mahjong.play, setTile_eq]
      exact (exchanged.setTile tile.tile).1
  | discard => exact (exchanged.setLastLipai (.ofId 0)).1
  | judge tile =>
      rw [Mahjong.play, judgeHuTile, setTile_eq]
      exact ((exchanged.setTile tile.tile).1.setTile 0).1

theorem ExchangedLast.plays (exchanged : ExchangedLast handtiles current) (moves : List Play) :
    ExchangedLast handtiles (moves.foldl Mahjong.play current) := by
  induction moves generalizing current with
  | nil => exact exchanged
  | cons move moves ih => exact ih (exchanged.play move)

/-- Two ascending lists of the same tiles are one. -/
theorem eq_of_ascending {tiles others : List Tile} (same : ∀ tile, tile ∈ tiles ↔ tile ∈ others)
    (ascending : tiles.Pairwise fun tile other => tile.tile < other.tile)
    (ascendingToo : others.Pairwise fun tile other => tile.tile < other.tile) :
    tiles = others := by
  have distinct {list : List Tile}
      (order : list.Pairwise fun tile other => tile.tile < other.tile) : list.Nodup :=
    order.imp fun lower equal => by
      rw [equal] at lower
      exact Int.lt_irrefl _ lower
  have perm : tiles.Perm others :=
    (List.perm_ext_iff_of_nodup (distinct ascending) (distinct ascendingToo)).mpr same
  exact perm.eq_of_pairwise
    (fun tile other _ _ lower higher => absurd higher (Int.lt_asymm lower)) ascending ascendingToo

/-- Over any run of plays the hand waits for the same tiles, `JudgeHuTile` tells for each
tile whether it completes the hand, and the two tables count what stands and what is laid
down. -/
theorem play_keeps_waits (wellRepresented : handtiles.WellRepresented)
    (listed : ∀ tile ∈ handtiles.lipai.dropLast, tile.Listed) (moves : List Play) :
    let current := moves.foldl play handtiles
    calcTing current = calcTing handtiles ∧
      (∀ tile, tile.Listed → ((judgeHuTile current tile).1 = true ↔
        Winning handtiles.fulu.length (handtiles.lipaiIds.dropLast ++ [tile.tile]))) ∧
      ∀ id, (current.lipaiTable id).getD 0 = current.lipaiIds.count id ∧
        (current.fuluTable id).getD 0 = current.fuluIds.count id := by
  intro current
  have start := ExchangedLast.start wellRepresented
  have exchanged : ExchangedLast handtiles current := start.plays moves
  obtain ⟨waits, ascending⟩ := start.calcTing_eq wellRepresented listed
  obtain ⟨waitsToo, ascendingToo⟩ := exchanged.calcTing_eq wellRepresented listed
  refine ⟨?_, fun tile inTables => ?_, fun id => ?_⟩
  · exact eq_of_ascending (fun tile => (waitsToo tile).trans (waits tile).symm) ascendingToo
      ascending
  · obtain ⟨set, lipai⟩ := exchanged.setTile tile.tile
    have marked : (Tile.mk tile.tile 2).Listed := inTables
    have judged := set.judgeHu_iff wellRepresented listed lipai marked
    rw [judgeHuTile, setTile_eq]
    exact judged
  · refine ⟨exchanged.counted id, ?_⟩
    rw [exchanged.fuluTable, wellRepresented.tabled.fulu, Handtiles.fuluIds, Handtiles.fuluIds,
      exchanged.fulu]

/-- Thirteen orphans, with a five drawn and discarded, still wait for a second east wind. -/
theorem play_keeps_waits_orphans :
    calcTing ([.draw (.ofId 5), .discard].foldl play drawnOrphans) = calcTing drawnOrphans := by
  have listed : ∀ tile ∈ drawnOrphans.lipai.dropLast, tile.Listed := by
    unfold Tile.Listed
    decide
  exact (play_keeps_waits (drawnHand_wellRepresented rfl (by decide)) listed _).1

end GbMahjong.Mahjong
