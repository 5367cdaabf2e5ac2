import GbMahjong.Mahjong.FanKind
import GbMahjong.Mahjong.Search

/-! `Fan::JudgeHu`, its four tests for a complete hand, and `Fan::CalcTing`. -/

set_option autoImplicit false

namespace GbMahjong.Mahjong

open GbMahjong.Library

/-! ## Knitted straights -/

/-- `ZuhelongBitmap[zuhelong_type]`. -/
def zuhelongBitmap (zuhelongType : Nat) : Bitmap :=
  bitmapOf (zuhelongTiles.getD zuhelongType [])

/-- `_JudgeZuhelong`. -/
def judgeZuhelong (bitmap : Bitmap) : Nat :=
  ((List.range' 1 6).find? fun i => Bitmap.within (zuhelongBitmap i) bitmap).getD 0

/-- `_JudgePartOfZuhelong`. -/
def judgePartOfZuhelong (bitmap : Bitmap) : Bool :=
  (List.range' 1 6).any fun i =>
    zuhelongBitmap i ||| bitmap &&& tileTypeBitmapShu == zuhelongBitmap i

/-- The loop that takes a knitted straight out of the standing tiles, one tile for each of
its bits. -/
def withoutZuhelong : Bitmap → List Tile → List Tile
  | _, [] => []
  | bitmapTemp, tile :: later =>
      if tile.getBitmap &&& bitmapTemp != 0 then
        withoutZuhelong (bitmapTemp ^^^ tile.getBitmap) later
      else
        tile :: withoutZuhelong bitmapTemp later

/-! ## The four tests -/

/-- `_JudgeCompleteSpecialHu`. -/
def judgeCompleteSpecialHu (handtiles : Handtiles) : FanKind :=
  let bitmap := handtiles.lipaiBitmap
  let cnt := Bitmap.bitCount bitmap
  if !handtiles.noFulu then
    .invalid
  else if Bitmap.within bitmap tileTypeBitmapYaojiu && cnt == 13 then
    .shisanyao
  else if judgePartOfZuhelong bitmap && Bitmap.within bitmap tileTypeBitmapMeaningful &&
      cnt == 14 then
    if bitmap &&& tileTypeBitmapZi == tileTypeBitmapZi then .qixingbukao else .quanbukao
  else
    .invalid

/-- The loop of `_JudgeQidui` over the pairs found. -/
def consecutive : List Pack → Bool
  | first :: second :: packs =>
      decide (first.tile.succ.Same second.tile) && first.tile.suit == second.tile.suit &&
        consecutive (second :: packs)
  | _ => true

/-- `_JudgeQidui`. The search leaves the packs that it found where it returned. -/
def judgeQidui (handtiles : Handtiles) : FanKind :=
  if !handtiles.noFulu then
    .invalid
  else
    let found := dfs handtiles (Tile.sort handtiles.lipai) 0 7 [] false (fun packs _ => packs) []
    if found.1 then
      if consecutive found.2 then .lianqidui else .qidui
    else
      .invalid

/-- `_JudgeBasicHu`. -/
def judgeBasicHu (handtiles : Handtiles) : Bool :=
  (dfs handtiles (Tile.sort handtiles.lipai) (4 - handtiles.fulu.length) 1 handtiles.fulu false
    (fun _ result => result) ()).1

/-- `_JudgeZuhelongBasicHu`. The bitmap fits the `int` it is put into. -/
def judgeZuhelongBasicHu (handtiles : Handtiles) : Bool :=
  let zuhelong := zuhelongBitmap (judgeZuhelong handtiles.lipaiBitmap)
  if zuhelong != 0 then
    (dfs handtiles (Tile.sort (withoutZuhelong zuhelong handtiles.lipai))
      (1 - handtiles.fulu.length) 1 handtiles.fulu false (fun _ result => result) ()).1
  else
    false

/-- `JudgeHu`. -/
def judgeHu (handtiles : Handtiles) : Bool :=
  judgeCompleteSpecialHu handtiles != .invalid || judgeQidui handtiles != .invalid ||
    judgeBasicHu handtiles || judgeZuhelongBasicHu handtiles

/-! ## Waiting tiles -/

/-- `table[id]++` or, of an entry that counts the tile, `table[id]--`. -/
def CountTable.adjust (table : CountTable) (id : Int) (change : Nat → Nat) : CountTable :=
  fun other => if other = id then some (change ((table id).getD 0)) else table other

namespace Handtiles

/-- `SetLastLipai`. -/
def setLastLipai (handtiles : Handtiles) (tile : Tile) : Handtiles :=
  match handtiles.lipai.getLast? with
  | some last =>
      { handtiles with
        lipai := handtiles.lipai.dropLast ++ [tile]
        lipaiTable :=
          (handtiles.lipaiTable.adjust last.getId (· - 1)).adjust tile.getId (· + 1) }
  | none => handtiles

/-- `SetTile`. -/
def setTile (handtiles : Handtiles) (tile : Tile) : Handtiles :=
  (handtiles.setLastLipai tile).modifyLastLipai Tile.setChonghu

end Handtiles

/-- One round of the loop of `CalcTing`. -/
def tryTing (state : Handtiles × List Tile) (id : Int) : Handtiles × List Tile :=
  let handtiles := state.1.setTile (.ofId id)
  if judgeHu handtiles && handtiles.handTileCount (.ofId id) != 5 then
    (handtiles, state.2 ++ [.ofId id])
  else
    (handtiles, state.2)

/-- `CalcTing`. -/
def calcTing (handtiles : Handtiles) : List Tile :=
  ((idRange tile1m tileSize).foldl tryTing (handtiles, [])).2

end GbMahjong.Mahjong
