import GbMahjong.Mahjong.Combinations

/-! `Fan::CountFan`: every reading of the hand is counted, and the best one is kept. -/

set_option autoImplicit false

namespace GbMahjong.Mahjong

open GbMahjong.Library

/-! ## One reading -/

/-- `_CountBasicFan`. -/
def countBasicFan (handtiles : Handtiles) (packs : List Pack) (zuhelongPack : Pack)
    (tables : FanTables) : FanTables :=
  let tables := tables.putAll (countOverallAttrFan handtiles packs zuhelongPack)
  let tables := countKeGangFan packs tables
  let tables := tables.putAll (countAssociatedCombinationFan packs)
  let tables := tables.putAll (countSinglePackFan handtiles packs)
  countWinModeFan handtiles packs zuhelongPack (calcTing handtiles) tables

/-- What `_Dfs_recursive` does with a reading. -/
def countReading (handtiles : Handtiles) (zuhelongPack : Pack) (packs : List Pack)
    (state : FanState) : FanState :=
  FanState.getMaxFan { state with
    tables := countBasicFan handtiles packs zuhelongPack state.tables
    fanPacks := packs }

/-- A self-drawn hand that cannot but be concealed counts 自摸, once. -/
def onlyZimo (handtiles : Handtiles) (tables : FanTables) : FanTables :=
  if handtiles.zimo then {
    fanTable := Function.update tables.fanTable .zimo [[]]
    excludedFanTable := Function.update tables.excludedFanTable .zimo [] }
  else
    tables

/-- 十三幺, 全不靠 and 七星不靠. -/
def countSpecialFan (handtiles : Handtiles) (f : FanKind) (state : FanState) : FanState :=
  let tables := state.tables.put (.add f [])
  let tables := countWinModeFan handtiles [] .none [] tables
  let zuhelongType := judgeZuhelong handtiles.lipaiBitmap
  let fanPacks := state.fanPacks ++
    if zuhelongType != 0 then [Pack.zuhelong zuhelongType] else []
  let tables := if zuhelongType != 0 then tables.put (.add .zuhelong [0]) else tables
  let tables := tables.putAll [.exclude .buqiuren [], .exclude .menqianqing []]
  FanState.getMaxFan { state with tables := onlyZimo handtiles tables, fanPacks }

/-- 七对 and 连七对. -/
def countQiduiFan (handtiles : Handtiles) (f : FanKind) (state : FanState) : FanState :=
  let tables := state.tables.put (.add f [])
  let tables := tables.putAll (countOverallAttrFan handtiles [] .none)
  let tables := countWinModeFan handtiles [] .none [] tables
  let tables := tables.putAll ([.exclude .buqiuren [], .exclude .menqianqing []] ++
    if f == .lianqidui then [.exclude .qingyise [], .exclude .wuzi []] else [])
  FanState.getMaxFan { state with tables := onlyZimo handtiles tables }

/-! ## All readings -/

/-- The fan for a hand without any makes way for the knitted straight. -/
def FanState.withoutWufanhu (state : FanState) : FanState :=
  if state.totFanRes == FanKind.wufanhu.score && (state.fanTableRes .wufanhu).length == 1 then
    { state with
      fanTableRes := Function.update state.fanTableRes .wufanhu []
      totFanRes := 0 }
  else
    state

/-- The knitted straight is scored after the search, on top of its best reading. -/
def addZuhelong (zuhelongType : Nat) (state : FanState) : FanState :=
  let state := state.withoutWufanhu
  let fanPacksRes := state.fanPacksRes ++ [Pack.zuhelong zuhelongType]
  { state with
    fanPacksRes
    fanTableRes := state.fanTableRes.push .zuhelong [fanPacksRes.length - 1]
    totFanRes := state.totFanRes + FanKind.zuhelong.score }

/-- The search for packs, with or without a knitted straight set aside. -/
def countBasic (handtiles : Handtiles) (quanbukao : Bool) (state : FanState) : FanState :=
  let zuhelongType := judgeZuhelong handtiles.lipaiBitmap
  let zuhelong := zuhelongBitmap zuhelongType
  let sortedLipai := Tile.sort
    (if zuhelong != 0 then withoutZuhelong zuhelong handtiles.lipai else handtiles.lipai)
  if zuhelong != 0 && !quanbukao then
    addZuhelong zuhelongType (dfs handtiles sortedLipai (1 - handtiles.fulu.length) 1
      handtiles.fulu true (countReading handtiles (.zuhelong zuhelongType)) state).2
  else
    (dfs handtiles sortedLipai (4 - handtiles.fulu.length) 1 handtiles.fulu true
      (countReading handtiles .none) state).2

/-- The flowers on top. -/
def addHua (cntHua : Nat) (state : FanState) : FanState :=
  { state with
    fanTableRes := Function.update state.fanTableRes .huapai
      (state.fanTableRes .huapai ++ List.replicate cntHua [])
    totFanRes := state.totFanRes + cntHua }

/-- `CountFan`, but for the flowers, of a `Fan` that may have counted before. -/
def countWithoutHua (fan : FanState) (handtiles : Handtiles) : FanState :=
  let special := judgeCompleteSpecialHu handtiles
  let pairs := judgeQidui handtiles
  let state := fan.clear
  let state := if special != .invalid then countSpecialFan handtiles special state else state
  let state := if pairs != .invalid then countQiduiFan handtiles pairs state else state
  countBasic handtiles (special != .invalid) state

/-- `CountFan`: undefined where `HuapaiCount` is, of a hand whose table lacks a flower. -/
def countFan (fan : FanState) (handtiles : Handtiles) : Checked FanState := do
  let cntHua ← handtiles.huapaiCount
  .ok (addHua cntHua (countWithoutHua fan handtiles))

/-! ## The library -/

/-- `fan_table_res`, by number. -/
def FanState.tableRes (state : FanState) (fanIndex : Nat) : List (List Int) :=
  if fanIndex < fanSize then
    (state.fanTableRes (.ofNat fanIndex)).map fun places => places.map Int.ofNat
  else
    []

/-- The library as it is, with a new `Fan` for every hand. Where a count is undefined, or its
total is no `int`, it may be anything. -/
def gbMahjong (undefined : Fan) : FanLibrary where
  judgeHu := judgeHu
  countFan handtiles :=
    match countFan .new handtiles with
    | .ok state =>
        if isInt : state.totFanRes < 2 ^ 31 then
          ⟨state.tableRes, state.totFanRes, isInt⟩
        else
          undefined
    | .error _ => undefined

end GbMahjong.Mahjong
