import GbMahjong.Mahjong.Admission
import GbMahjong.Mahjong.FanTable
import GbMahjong.Mahjong.Judge

/-! The rules of `mahjong/fan.cpp`, group by group, as the marks that they write for one
reading of a hand. The groups for combinations of packs are in a module of their own. -/

set_option autoImplicit false

namespace GbMahjong.Mahjong

open GbMahjong.Library

/-! ## Loops and tests that rules share -/

/-- Two nested loops: each item together with the items after it. -/
def withLater {Item Result : Type} (body : Item → List Item → List Result) :
    List Item → List Result
  | [] => []
  | item :: later => body item later ++ withLater body later

/-- A fan of the whole hand, and the fans that it takes the place of. -/
def award (holds : Bool) (kind : FanKind) (replaced : List FanKind) : List Mark :=
  if holds then .add kind [] :: replaced.map fun other => .exclude other [] else []

/-- Five packs, each of the sort asked for. -/
def fivePacks (packs : List Pack) (each : Pack → Bool) : Bool :=
  packs.length == 5 && packs.all each

/-- The places of the packs of a sort. -/
def placesOf (packs : List Pack) (sort : Pack → Bool) : List Nat :=
  (packs.zipIdx.filter fun entry => sort entry.1).map Prod.snd

/-- `std::find_if(..) - packs.begin()`. -/
def placeOf (packs : List Pack) (sort : Pack → Bool) : Nat :=
  packs.findIdx sort

/-- The tiles of the hand, standing or declared. -/
def Handtiles.bitmap (handtiles : Handtiles) : Bitmap :=
  handtiles.lipaiBitmap ||| handtiles.fuluBitmap

/-! ## The whole hand -/

/-- `_ExcludeYaojiuke`. -/
def excludeYaojiuke (packs : List Pack) : List Mark :=
  (placesOf packs fun pack =>
    pack.isKeGang && (pack.tile.rank == 1 || pack.tile.rank == 9 || pack.tile.isZi)).map
      fun i => .exclude .yaojiuke [i]

/-- The test for 九莲宝灯: without the last tile, three ones, three nines and one of each
rank between, all of the suit whose one is there. -/
def isJiulianbaodeng (handtiles : Handtiles) : Bool :=
  let last := handtiles.getLastLipai.getId
  let tileTable (id : Int) : Int :=
    (handtiles.lipaiTable id).getD 0 - if id = last then 1 else 0
  let st : Int := if tileTable 1 != 0 then 1 else if tileTable 10 != 0 then 10 else 19
  handtiles.noFulu && (idRange 2 9).all (fun i => tileTable (st - 1 + i) == 1) &&
    tileTable st == 3 && tileTable (st + 8) == 3

def jiulianbaodeng (handtiles : Handtiles) (packs : List Pack) : List Mark :=
  if isJiulianbaodeng handtiles then
    award true .jiulianbaodeng [.qingyise, .buqiuren, .menqianqing, .wuzi] ++
      [.exclude .yaojiuke [placeOf packs fun pack => pack.isKezi && pack.tile.isYaojiu]]
  else
    []

def qingyaojiu (bitmap : Bitmap) (packs : List Pack) : List Mark :=
  if Bitmap.within bitmap (tileTypeBitmapYaojiu &&& ~~~tileTypeBitmapZi) then
    award true .qingyaojiu [.pengpenghu, .quandaiyao, .wuzi] ++
      withLater (fun first later => later.flatMap fun second =>
        if first.1.isKeGang && second.1.isKeGang && first.1.tile.rank == second.1.tile.rank then
          [.exclude .shuangtongke [first.2, second.2]]
        else
          []) packs.zipIdx ++
      excludeYaojiuke packs
  else
    []

def ziyise (bitmap : Bitmap) (packs : List Pack) : List Mark :=
  if Bitmap.within bitmap tileTypeBitmapZi then
    award true .ziyise [.pengpenghu, .quandaiyao] ++ excludeYaojiuke packs
  else
    []

def hunyaojiu (bitmap : Bitmap) (packs : List Pack) : List Mark :=
  if bitmap &&& tileTypeBitmapYaojiu &&& ~~~tileTypeBitmapZi != 0 &&
      bitmap &&& tileTypeBitmapZi != 0 && Bitmap.within bitmap tileTypeBitmapYaojiu then
    award true .hunyaojiu [.pengpenghu, .quandaiyao] ++ excludeYaojiuke packs
  else
    []

/-- The numbers of suits, winds and dragons that the hand has tiles of, each 0 or 1. -/
def sortsIn (bitmap : Bitmap) (masks : List Bitmap) : Nat :=
  masks.countP fun mask => bitmap &&& mask != 0

/-- 四归一, for every tile of which the hand has four and no kong. -/
def siguiyi (handtiles : Handtiles) (packs : List Pack) : List Mark :=
  (idRange tile1m tileSize).flatMap fun i =>
    if packs.any fun pack => pack.isGang && pack.tile.tile == i then
      []
    else
      award (handtiles.handTileCount (.ofId i) == 4) .siguiyi []

/-- The fans that a knitted straight does not go with. -/
def plainAttrFan (handtiles : Handtiles) (packs : List Pack) : List Mark :=
  let bitmap := handtiles.bitmap
  let within := Bitmap.within bitmap
  let bitmapNozi := bitmap &&& ~~~tileTypeBitmapZi
  let oneSuit (bitmap : Bitmap) : Bool :=
    Bitmap.within bitmap tileTypeBitmapWan || Bitmap.within bitmap tileTypeBitmapTiao ||
      Bitmap.within bitmap tileTypeBitmapBing
  [ award (within tileTypeBitmapLv) .lvyise [.hunyise],
    jiulianbaodeng handtiles packs,
    qingyaojiu bitmap packs,
    ziyise bitmap packs,
    hunyaojiu bitmap packs,
    award (fivePacks packs fun pack =>
        (pack.isKeGang || pack.isJiang) && pack.tile.isShu && pack.tile.rank % 2 == 0)
      .quanshuangke [.pengpenghu, .duanyao, .wuzi],
    award (oneSuit bitmap) .qingyise [.wuzi],
    award (within tileTypeBitmapQuanda) .quanda [.dayuwu, .wuzi],
    award (within tileTypeBitmapQuanzhong) .quanzhong [.duanyao, .wuzi],
    award (within tileTypeBitmapQuanxiao) .quanxiao [.xiaoyuwu, .wuzi],
    award (fivePacks packs fun pack =>
        pack.isShunzi && (4 ≤ pack.tile.rank && pack.tile.rank ≤ 6) ||
          (pack.isKeGang || pack.isJiang) && pack.tile.rank == 5)
      .quandaiwu [.duanyao, .wuzi],
    award (within tileTypeBitmapDayuwu) .dayuwu [.wuzi],
    award (within tileTypeBitmapXiaoyuwu) .xiaoyuwu [.wuzi],
    award (within tileTypeBitmapTuibudao) .tuibudao [.queyimen],
    award (fivePacks packs fun pack => pack.isKeGang || pack.isJiang) .pengpenghu [],
    award (bitmap &&& tileTypeBitmapZi != 0 && bitmap &&& tileTypeBitmapShu != 0 &&
        oneSuit bitmapNozi)
      .hunyise [],
    award (fivePacks packs fun pack =>
        pack.isShunzi && (pack.tile.rank == 2 || pack.tile.rank == 8) ||
          (pack.isKeGang || pack.isJiang) && pack.tile.isYaojiu)
      .quandaiyao [],
    award (within (~~~tileTypeBitmapYaojiu)) .duanyao [.wuzi],
    award (sortsIn bitmap [tileTypeBitmapWan, tileTypeBitmapTiao, tileTypeBitmapBing] == 2)
      .queyimen [] ].flatten

/-- `_CountOverallAttrFan`. -/
def countOverallAttrFan (handtiles : Handtiles) (packs : List Pack) (zuhelongPack : Pack) :
    List Mark :=
  let bitmap := handtiles.bitmap
  (if zuhelongPack.zuhelongType == 0 then plainAttrFan handtiles packs else []) ++
    award (sortsIn bitmap [tileTypeBitmapWan, tileTypeBitmapTiao, tileTypeBitmapBing,
        tileTypeBitmapFeng, tileTypeBitmapJian] == 5)
      .wumenqi [] ++
    award (packs.length != 7 && packs.length != 0 &&
        packs.all fun pack => pack.isShunzi || pack.isJiang && pack.tile.isShu)
      .pinghu [.wuzi] ++
    siguiyi handtiles packs ++
    award (Bitmap.within bitmap (~~~tileTypeBitmapZi)) .wuzi []

/-! ## Kongs and triplets -/

/-- The fans of `_CountKeGangFan` by the numbers of concealed kongs, melded kongs and
concealed triplets; in each case the places that are read exist. -/
def keGangFan (angang minggang anke : List Nat) : List Mark :=
  match angang.length * 100 + minggang.length * 10 + anke.length with
  | 400 => [.add .sigang angang, .add .sianke angang]
  | 310 => [.add .sigang (angang.take 3 ++ minggang.take 1), .add .sananke angang]
  | 220 => [.add .sigang (angang.take 2 ++ minggang.take 2), .add .shuanganke angang]
  | 130 => [.add .sigang (angang.take 1 ++ minggang.take 3)]
  | 301 => [.add .sangang angang, .add .sianke (angang.take 3 ++ anke.take 1)]
  | 300 => [.add .sangang angang, .add .sananke angang]
  | 211 => [.add .sangang (angang.take 2 ++ minggang.take 1),
      .add .sananke (angang.take 2 ++ anke.take 1)]
  | 210 => [.add .sangang (angang.take 2 ++ minggang.take 1), .add .shuanganke (angang.take 2)]
  | 121 => [.add .sangang (angang.take 1 ++ minggang.take 2),
      .add .shuanganke (angang.take 1 ++ anke.take 1)]
  | 120 => [.add .sangang (angang.take 1 ++ minggang.take 2)]
  | 202 => [.add .shuangangang angang, .add .sianke (angang.take 2 ++ anke.take 2)]
  | 201 => [.add .shuangangang angang, .add .sananke (angang.take 2 ++ anke.take 1)]
  | 112 => [.add .mingangang (angang.take 1 ++ minggang.take 1),
      .add .sananke (angang.take 1 ++ anke.take 2)]
  | 111 => [.add .mingangang (angang.take 1 ++ minggang.take 1),
      .add .shuanganke (angang.take 1 ++ anke.take 1)]
  | 22 => [.add .shuangminggang minggang, .add .shuanganke anke]
  | 103 => [.add .angang angang, .add .sianke (angang.take 1 ++ anke.take 3)]
  | 102 => [.add .angang angang, .add .sananke (angang.take 1 ++ anke.take 2)]
  | 101 => [.add .angang angang, .add .shuanganke (angang.take 1 ++ anke.take 1)]
  | 13 => [.add .minggang minggang, .add .sananke anke]
  | 12 => [.add .minggang minggang, .add .shuanganke anke]
  | _ =>
      if minggang.length == 4 then [.add .sigang minggang]
      else if anke.length == 4 then [.add .sianke anke]
      else if minggang.length == 3 then [.add .sangang minggang]
      else if anke.length == 3 then [.add .sananke anke]
      else if angang.length == 2 then [.add .shuangangang angang]
      else if minggang.length == 2 then [.add .shuangminggang minggang]
      else if anke.length == 2 then [.add .shuanganke anke]
      else if minggang.length == 1 && angang.length == 1 then
        [.add .mingangang (angang.take 1 ++ minggang.take 1)]
      else if angang.length == 1 then [.add .angang angang]
      else if minggang.length == 1 then [.add .minggang minggang]
      else []

/-- `_CountKeGangFan`. -/
def countKeGangFan (packs : List Pack) (tables : FanTables) : FanTables :=
  let angang := placesOf packs fun pack => pack.isGang && pack.isAnshou
  let minggang := placesOf packs fun pack => pack.isGang && !pack.isAnshou
  let anke := placesOf packs fun pack => pack.isKezi && pack.isAnshou
  let tables := tables.putAll (keGangFan angang minggang anke)
  let tables := if tables.hasFan .sigang then
      tables.putAll (.exclude .pengpenghu [] ::
        ((placesOf packs Pack.isJiang).take 1).map fun i => .exclude .dandiaojiang [i])
    else tables
  let tables := if tables.hasFan .shuangangang then
      tables.putAll [.exclude .shuanganke ((tables.fanTable .shuangangang).headD [])]
    else tables
  if tables.hasFan .sianke then
    tables.putAll [.exclude .pengpenghu [], .exclude .buqiuren [], .exclude .menqianqing []]
  else
    tables

/-! ## Single packs -/

/-- `_CountSinglePackFan`. -/
def countSinglePackFan (handtiles : Handtiles) (packs : List Pack) : List Mark :=
  packs.zipIdx.flatMap fun (pack, i) =>
    if pack.isKeGang then
      (if pack.tile.isJian then [.add .jianke [i], .exclude .yaojiuke [i]] else []) ++
        (if pack.tile.tile == handtiles.quanfeng then
          [.add .quanfengke [i], .exclude .yaojiuke [i]] else []) ++
        (if pack.tile.tile == handtiles.menfeng then
          [.add .menfengke [i], .exclude .yaojiuke [i]] else []) ++
        (if pack.tile.isYaojiu then [.add .yaojiuke [i]] else [])
    else
      []

/-! ## The way of winning -/

/-- 边张, 坎张 and 单钓将, by the pack that the last tile went to. -/
def waitingFan (handtiles : Handtiles) (packs : List Pack) (zuhelongPack : Pack)
    (ting : List Tile) : List Mark :=
  let last := handtiles.getLastLipai
  if ting.length == 1 && zuhelongPack.getZuhelongBitmap &&& last.getBitmap == 0 then
    match packs.zipIdx.find? fun entry => entry.1.haveLastTile with
    | some (pack, i) =>
        if pack.isJiang then
          [.add .dandiaojiang [i]]
        else if pack.isShunzi then
          if pack.tile.rank == 2 && last.rank == 3 || pack.tile.rank == 8 && last.rank == 7 then
            [.add .bianzhang [i]]
          else if pack.tile.rank == last.rank then
            [.add .kanzhang [i]]
          else []
        else []
    | none => []
  else
    []

/-- `_CountWinModeFan`, up to 自摸. -/
def winModeFan (handtiles : Handtiles) (packs : List Pack) (zuhelongPack : Pack)
    (ting : List Tile) : List Mark :=
  let jiang := placeOf packs Pack.isJiang
  [ award (handtiles.haidi && handtiles.zimo) .miaoshouhuichun [.zimo],
    award (handtiles.haidi && !handtiles.zimo) .haidilaoyue [],
    award (handtiles.gang && handtiles.zimo) .gangshangkaihua [.zimo],
    award (handtiles.gang && !handtiles.zimo) .qiangganghu [.hujuezhang],
    (if handtiles.isTotallyFulu && !handtiles.zimo then
      [.add .quanqiuren [], .exclude .dandiaojiang [jiang]] else []),
    award (handtiles.isMenqing && handtiles.zimo) .buqiuren [.menqianqing, .zimo],
    (if handtiles.juezhang then [.add .hujuezhang [], .exclude .dandiaojiang [jiang]] else []),
    award handtiles.isMenqing .menqianqing [],
    waitingFan handtiles packs zuhelongPack ting ].flatten

/-- `_CountWinModeFan`. -/
def countWinModeFan (handtiles : Handtiles) (packs : List Pack) (zuhelongPack : Pack)
    (ting : List Tile) (tables : FanTables) : FanTables :=
  let tables := tables.putAll (winModeFan handtiles packs zuhelongPack ting)
  if handtiles.zimo then
    let tables := tables.put (.add .zimo [])
    if (tables.hasFan .jiulianbaodeng || tables.hasFan .sianke) &&
        !tables.hasFan .miaoshouhuichun && !tables.hasFan .gangshangkaihua then
      { tables with
        excludedFanTable := Function.update tables.excludedFanTable .zimo [] }
    else
      tables
  else
    tables

end GbMahjong.Mahjong
