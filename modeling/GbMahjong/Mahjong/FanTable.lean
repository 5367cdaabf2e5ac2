import Mathlib.Logic.Function.Basic
import GbMahjong.Mahjong.FanKind
import GbMahjong.Mahjong.TileKinds

/-! The tables of `mahjong::Fan`: what the rules find in a reading, what they exclude, and
the best reading so far. -/

set_option autoImplicit false

namespace GbMahjong.Mahjong

/-! ## Tables -/

/-- `std::vector<std::vector<int>>[FAN_SIZE]`: for each fan, the places of the packs that
make it, once for every time it is made. -/
abbrev FanTable := FanKind → List (List Nat)

namespace FanTable

def empty : FanTable :=
  fun _ => []

/-- `table[f].push_back(v)`. -/
def push (table : FanTable) (kind : FanKind) (places : List Nat) : FanTable :=
  fun other => if other = kind then table kind ++ [places] else table other

/-- `!!table[f].size()`. -/
def has (table : FanTable) (kind : FanKind) : Bool :=
  !(table kind).isEmpty

/-- The sum of `_FanTableCount`. -/
def count (table : FanTable) : Nat :=
  FanKind.all.foldl (fun cnt kind => cnt + (table kind).length * kind.score) 0

end FanTable

/-- What a rule writes: `_AddFan` or `_ExcludeFan`. -/
inductive Mark where
  | add (kind : FanKind) (places : List Nat)
  | exclude (kind : FanKind) (places : List Nat)
  deriving DecidableEq, Repr

/-- The entry that a mark adds, if it adds one. -/
def Mark.added : Mark → Option (FanKind × List Nat)
  | .add kind places => some (kind, places)
  | .exclude _ _ => none

/-- `fan_table` and `excluded_fan_table`. -/
structure FanTables where
  fanTable : FanTable
  excludedFanTable : FanTable

namespace FanTables

/-- `_ClearTable`. -/
def empty : FanTables :=
  ⟨.empty, .empty⟩

def put (tables : FanTables) : Mark → FanTables
  | .add kind places => { tables with fanTable := tables.fanTable.push kind places }
  | .exclude kind places =>
      { tables with excludedFanTable := tables.excludedFanTable.push kind places }

def putAll (tables : FanTables) (marks : List Mark) : FanTables :=
  marks.foldl put tables

/-- `_HasFan`. -/
def hasFan (tables : FanTables) (kind : FanKind) : Bool :=
  tables.fanTable.has kind

/-- `_FanTableExclude`: each excluded entry takes out the first equal one that is left. -/
def fanTableExclude (tables : FanTables) : FanTable :=
  fun kind => (tables.fanTable kind).diff (tables.excludedFanTable kind)

end FanTables

/-- `_FanTableCount`, with the fan for a hand without any. -/
def fanTableCount (table : FanTable) : FanTable × Nat :=
  let cnt := table.count
  if cnt == 0 then (table.push .wufanhu [], FanKind.wufanhu.score) else (table, cnt)

/-! ## The evaluator's state -/

/-- `mahjong::Fan`, while it counts. -/
structure FanState where
  tables : FanTables
  fanPacks : List Pack
  fanTableRes : FanTable
  fanPacksRes : List Pack
  totFanRes : Nat

namespace FanState

/-- A new `Fan`. -/
def new : FanState where
  tables := .empty
  fanPacks := []
  fanTableRes := .empty
  fanPacksRes := []
  totFanRes := 0

/-- `_Clear`: the packs, and the results of the count before but for its total, stay. -/
def clear (state : FanState) : FanState :=
  { state with tables := .empty, totFanRes := 0 }

def putAll (state : FanState) (marks : List Mark) : FanState :=
  { state with tables := state.tables.putAll marks }

/-- `_GetMaxFan`. -/
def getMaxFan (state : FanState) : FanState :=
  let counted := fanTableCount state.tables.fanTableExclude
  if counted.2 > state.totFanRes then
    { state with
      tables := .empty
      fanTableRes := counted.1
      fanPacksRes := state.fanPacks
      totFanRes := counted.2 }
  else
    { state with tables := .empty }

end FanState

end GbMahjong.Mahjong
