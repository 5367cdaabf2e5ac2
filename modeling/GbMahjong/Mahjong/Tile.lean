import Mathlib.Data.List.Sort

/-! Tiles and packs of the vendored hand library, `mahjong/tile.h` and
`mahjong/pack.h`. A tile is a bare number, so nothing keeps its id in the
library's tables. -/

set_option autoImplicit false

namespace GbMahjong.Mahjong

/-! ## Tile numbers -/

def tile1m : Int := 1
def tile9s : Int := 18
def tileE : Int := 28
def tileS : Int := 29
def tileW : Int := 30
def tileN : Int := 31
def tileMei : Int := 35
def tileDong : Int := 42
/-- `TILE_SIZE`, the end of the half-open range of valid ids. -/
def tileSize : Int := 43

/-- The ids a loop from `first` to just before `past` visits. -/
def idRange (first past : Int) : List Int :=
  (List.range (past - first).toNat).map fun (offset : Nat) => first + offset

theorem mem_idRange {first past id : Int} :
    id ∈ idRange first past ↔ first ≤ id ∧ id < past := by
  simp only [idRange, List.mem_map, List.mem_range]
  constructor
  · intro visited
    obtain ⟨offset, bound, rfl⟩ := visited
    omega
  · intro bounds
    obtain ⟨lower, upper⟩ := bounds
    exact ⟨(id - first).toNat, by omega, by omega⟩

/-! ## Tiles -/

/-- `drawflag` is 1 on a self-drawn winning tile and 2 on a claimed one. -/
structure Tile where
  tile : Int
  drawflag : Nat
  deriving DecidableEq, Repr

namespace Tile

/-- `Tile(int t)`. -/
def ofId (id : Int) : Tile :=
  ⟨id, 0⟩

def getId (tile : Tile) : Int :=
  tile.tile

/-- `operator==`: the draw flag does not count. -/
def Same (tile other : Tile) : Prop :=
  tile.tile = other.tile

/-- `operator<`, as the order that `std::sort` uses. -/
def Le (tile other : Tile) : Prop :=
  tile.tile ≤ other.tile

instance (tile other : Tile) : Decidable (tile.Same other) :=
  inferInstanceAs (Decidable (_ = _))

instance : DecidableRel Le :=
  fun tile other => inferInstanceAs (Decidable (tile.tile ≤ other.tile))

def pred (tile : Tile) : Tile :=
  ofId (tile.tile - 1)

def succ (tile : Tile) : Tile :=
  ofId (tile.tile + 1)

def setZimo (tile : Tile) : Tile :=
  { tile with drawflag := 1 }

def setChonghu (tile : Tile) : Tile :=
  { tile with drawflag := 2 }

/-- `std::sort` on a range of tiles. -/
def sort (tiles : List Tile) : List Tile :=
  tiles.insertionSort Le

theorem sort_perm (tiles : List Tile) : (sort tiles).Perm tiles :=
  List.perm_insertionSort Le tiles

@[simp] theorem length_sort (tiles : List Tile) : (sort tiles).length = tiles.length :=
  (sort_perm tiles).length_eq

end Tile

/-! ## Packs -/

/-- `PACK_TYPE_*`. -/
inductive PackType where
  | invalid | shunzi | kezi | gang | jiang | zuhelong
  deriving DecidableEq, Repr

/-- `offer` is 0 for a concealed pack. For a chi it is the place of the claimed
tile, for a peng or kong the player it came from, plus 4 for an added kong. -/
structure Pack where
  type : PackType
  tile : Tile
  zuhelongType : Nat
  offer : Int
  deriving DecidableEq, Repr

def Pack.isGang (pack : Pack) : Bool :=
  pack.type == .gang

/-- The pack counts as concealed; -1 is for the library's own packs. -/
def Pack.isAnshou (pack : Pack) : Bool :=
  pack.offer == 0 || pack.offer == -1

/-- `ZuhelongBitmap`: the nine suited ids of each knitted straight. -/
def zuhelongTiles : List (List Int) := [
  [],
  [1, 4, 7, 11, 14, 17, 21, 24, 27],
  [1, 4, 7, 12, 15, 18, 20, 23, 26],
  [2, 5, 8, 10, 13, 16, 21, 24, 27],
  [2, 5, 8, 12, 15, 18, 19, 22, 25],
  [3, 6, 9, 10, 13, 16, 20, 23, 26],
  [3, 6, 9, 11, 14, 17, 19, 22, 25]]

/-- `GetAllTile`. The loop for a knitted straight ends at `TILE_9s`. -/
def Pack.getAllTile (pack : Pack) : List Tile :=
  match pack.type with
  | .shunzi => [pack.tile.pred, pack.tile, pack.tile.succ]
  | .gang => List.replicate 4 pack.tile
  | .kezi => List.replicate 3 pack.tile
  | .jiang => List.replicate 2 pack.tile
  | .zuhelong =>
      ((idRange tile1m (tile9s + 1)).filter
        (· ∈ zuhelongTiles.getD pack.zuhelongType [])).map Tile.ofId
  | .invalid => []

end GbMahjong.Mahjong
