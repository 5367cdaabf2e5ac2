import GbMahjong.Library.Search
import GbMahjong.Mahjong.TileKinds

/-! `Fan::_Dfs`, the search for the ways to split the standing tiles into packs. -/

set_option autoImplicit false

namespace GbMahjong.Mahjong

open GbMahjong.Library

/-! ## Which tiles go together -/

/-- `_Judge2SameOrAdjacent`, for `a` not after `b`. -/
def judge2SameOrAdjacent (a b : Tile) : Bool :=
  if a.isShu && a.suit == b.suit then
    decide (a.Same b.pred) || decide (a.Same b)
  else if a.isZi then
    decide (a.Same b)
  else
    false

/-- `_Judge3MakePack`; `invalid` is its 0. -/
def judge3MakePack (a b c : Tile) : PackType :=
  if a.isShu && b.suit == a.suit && b.suit == c.suit && decide (b.Same a.succ) &&
      decide (b.Same c.pred) then
    .shunzi
  else if decide (b.Same a) && decide (b.Same c) then
    .kezi
  else
    .invalid

/-- `_Judge2MakePack`. -/
def judge2MakePack (a b : Tile) : PackType :=
  if b.Same a then .jiang else .invalid

/-! ## The hash of the packs -/

/-- `PACK_TYPE_*` as a number. -/
def PackType.number : PackType → Nat
  | .invalid => 0
  | .shunzi => 1
  | .kezi => 2
  | .gang => 3
  | .jiang => 4
  | .zuhelong => 5

/-- `_PacksHashcode`: 11 bits for each pack of the standing tiles. A shift drops what
leaves the 64 bits. -/
def packsHashcode (fuluSize : Nat) (packs : List Pack) : BitVec 64 :=
  (packs.drop fuluSize).foldl (fun h p =>
    ((h <<< 7 ||| BitVec.ofInt 64 p.tile.getId) <<< 3 ||| BitVec.ofNat 64 p.type.number) <<< 1 |||
      BitVec.ofNat 64 p.haveLastTile.toNat) 0

/-! ## The search -/

/-- Where `_Dfs_recursive` stands. `rest` holds the tiles that `vis` has not marked: its
loops pass over the others. -/
structure SearchNode where
  rest : List Tile
  mianziCnt : Int
  duiziCnt : Int
  packs : List Pack

namespace SearchNode

/-- Nothing asks a pack's tile for its draw flag, so the tile goes in without it. -/
def takePair (node : SearchNode) (first second : Tile) (rest : List Tile) : SearchNode where
  rest := rest
  mianziCnt := node.mianziCnt
  duiziCnt := node.duiziCnt - 1
  packs := node.packs ++
    [⟨.jiang, .ofId second.getId, 0, -((first.drawflag : Int) + second.drawflag)⟩]

def takeThree (node : SearchNode) (type : PackType) (first second third : Tile)
    (rest : List Tile) : SearchNode where
  rest := rest
  mianziCnt := node.mianziCnt - 1
  duiziCnt := node.duiziCnt
  packs := node.packs ++
    [⟨type, .ofId second.getId, 0,
      -((first.drawflag : Int) + second.drawflag + third.drawflag)⟩]

/-- The loop over `j`; `passed` holds what lies between the first tile and the third,
the second left out. -/
def movesOfThree (node : SearchNode) (first second : Tile) (passed : List Tile) :
    List Tile → List SearchNode
  | [] => []
  | third :: later =>
      if !judge2SameOrAdjacent second third then
        []
      else
        let type := judge3MakePack first second third
        (if type != .invalid then
          [node.takeThree type first second third (passed ++ later)] else []) ++
          movesOfThree node first second (passed ++ [third]) later

/-- The loop over `i`. The packs and marks are put back after each try, so that all tries
start from one state. -/
def movesFrom (node : SearchNode) (first : Tile) (passed : List Tile) :
    List Tile → List SearchNode
  | [] => []
  | second :: later =>
      if !judge2SameOrAdjacent first second then
        []
      else
        (if node.duiziCnt != 0 && judge2MakePack first second != .invalid then
          [node.takePair first second (passed ++ later)] else []) ++
          (if node.mianziCnt != 0 then movesOfThree node first second passed later else []) ++
          movesFrom node first (passed ++ [second]) later

def moves (node : SearchNode) : List SearchNode :=
  match node.rest with
  | [] => []
  | first :: later => node.movesFrom first [] later

end SearchNode

/-- `_Dfs_recursive`, with the hash codes met as the set `st`. -/
def searchTree (fuluSize : Nat) : SearchTree SearchNode (BitVec 64) where
  done node := node.mianziCnt == 0 && node.duiziCnt == 0
  moves := SearchNode.moves
  key node := packsHashcode fuluSize node.packs

/-- `_Dfs`. Each pack takes at least two tiles, so that there is fuel for every tile and the
last call. `visit` is what the search does with packs that are complete; without
`flag_count_fan` it returns at the first. -/
def dfs {Result : Type} (handtiles : Handtiles) (sortedLipai : List Tile)
    (mianziCnt duiziCnt : Int) (packs : List Pack) (flagCountFan : Bool)
    (visit : List Pack → Result → Result) (result : Result) : Bool × Result :=
  let found := (searchTree handtiles.fulu.length).explore (fun node => visit node.packs)
    (!flagCountFan) (sortedLipai.length + 1) ⟨sortedLipai, mianziCnt, duiziCnt, packs⟩
    ⟨[], result⟩
  (found.1, found.2.result)

end GbMahjong.Mahjong
