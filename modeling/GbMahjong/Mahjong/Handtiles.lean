import Mathlib.Logic.Function.Basic
import GbMahjong.Library.Checked
import GbMahjong.Mahjong.Tile

/-! The library's hand, `mahjong/handtiles.h`: packs, concealed tiles and
flowers, each with a table that counts its tiles by id, and the circumstances
of the win. -/

set_option autoImplicit false

namespace GbMahjong.Mahjong

open GbMahjong.Library

/-- `std::unordered_map<int, int>` from tile ids to counts. -/
abbrev CountTable := Int → Option Nat

namespace CountTable

def empty : CountTable :=
  fun _ => none

/-- `table[id] = 0` for every id of a loop. -/
def seed (table : CountTable) (ids : List Int) : CountTable :=
  ids.foldl (fun table id => Function.update table id (some 0)) table

/-- `table[id]++`, where a missing entry starts at 0. -/
def increment (table : CountTable) (id : Int) : CountTable :=
  Function.update table id (some ((table id).getD 0 + 1))

theorem seed_apply (table : CountTable) (ids : List Int) (id : Int) :
    table.seed ids id = if id ∈ ids then some 0 else table id := by
  induction ids generalizing table with
  | nil => rfl
  | cons head rest ih =>
      rw [show table.seed (head :: rest) =
        CountTable.seed (Function.update table head (some 0)) rest from rfl, ih]
      by_cases later : id ∈ rest
      · simp [later]
      · by_cases same : id = head
        · subst same
          simp [later]
        · simp [later, same]

theorem increment_apply (table : CountTable) (id other : Int) :
    table.increment id other =
      if other = id then some ((table id).getD 0 + 1) else table other := by
  by_cases same : other = id
  · subst same
    simp [increment]
  · simp [increment, same]

/-- `table[id]++` for every id of a loop. -/
def tally (table : CountTable) (ids : List Int) : CountTable :=
  ids.foldl increment table

theorem tally_apply (table : CountTable) (ids : List Int) (id : Int) :
    table.tally ids id =
      if id ∈ ids then some ((table id).getD 0 + ids.count id) else table id := by
  induction ids generalizing table with
  | nil => rfl
  | cons head rest ih =>
      rw [show table.tally (head :: rest) = (table.increment head).tally rest from rfl, ih,
        increment_apply]
      by_cases same : id = head
      · subst same
        by_cases later : id ∈ rest
        · simp only [later, List.mem_cons, or_true, if_true, Option.getD_some,
            List.count_cons_self]
          congr 1
          omega
        · simp [later, List.count_eq_zero_of_not_mem later]
      · simp [same, Ne.symm same]

theorem tally_getD (table : CountTable) (ids : List Int) (id : Int) :
    (table.tally ids id).getD 0 = (table id).getD 0 + ids.count id := by
  rw [tally_apply]
  by_cases member : id ∈ ids
  · simp [member]
  · simp [member, List.count_eq_zero_of_not_mem member]

/-- The order of the counted ids leaves no trace. -/
theorem tally_perm (table : CountTable) {ids others : List Int} (same : ids.Perm others) :
    table.tally ids = table.tally others := by
  funext id
  simp only [tally_apply, same.count_eq, same.mem_iff]

theorem tally_append (table : CountTable) (ids others : List Int) :
    table.tally (ids ++ others) = (table.tally ids).tally others :=
  List.foldl_append

end CountTable

/-- `mahjong::Handtiles`. The circumstances are C++ `int`s that the constructor
leaves unset; a new hand holds 0 in each until its setter runs. -/
structure Handtiles where
  fulu : List Pack
  lipai : List Tile
  huapai : List Tile
  fuluTable : CountTable
  lipaiTable : CountTable
  huapaiTable : CountTable
  quanfeng : Int
  menfeng : Int
  zimo : Bool
  juezhang : Bool
  haidi : Bool
  gang : Bool

namespace Handtiles

def new : Handtiles where
  fulu := []
  lipai := []
  huapai := []
  fuluTable := .empty
  lipaiTable := .empty
  huapaiTable := .empty
  quanfeng := 0
  menfeng := 0
  zimo := false
  juezhang := false
  haidi := false
  gang := false

/-- `LastLipai().SetZimo()` or `LastLipai().SetChonghu()`. -/
def modifyLastLipai (handtiles : Handtiles) (change : Tile → Tile) : Handtiles :=
  { handtiles with
    lipai := match handtiles.lipai.getLast? with
      | some last => handtiles.lipai.dropLast ++ [change last]
      | none => [] }

def lipaiTileCount (handtiles : Handtiles) (tile : Tile) : Nat :=
  (handtiles.lipaiTable tile.getId).getD 0

def fuluTileCount (handtiles : Handtiles) (tile : Tile) : Nat :=
  (handtiles.fuluTable tile.getId).getD 0

def handTileCount (handtiles : Handtiles) (tile : Tile) : Nat :=
  handtiles.lipaiTileCount tile + handtiles.fuluTileCount tile

/-- `HuapaiCount` reads `find(i)->second` unchecked; past the end that is undefined. -/
def huapaiCount (handtiles : Handtiles) : Checked Nat :=
  (idRange tileMei (tileDong + 1)).foldlM (fun cnt id =>
    match handtiles.huapaiTable id with
    | some count => .ok (cnt + count)
    | none => .error .undefinedBehavior) 0

def sortLipaiWithoutLastOne (handtiles : Handtiles) : Handtiles :=
  { handtiles with
    lipai := Tile.sort handtiles.lipai.dropLast ++ handtiles.lipai.getLast?.toList }

end Handtiles

end GbMahjong.Mahjong
