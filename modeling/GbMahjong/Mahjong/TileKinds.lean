import GbMahjong.Library.Bitmap
import GbMahjong.Mahjong.Handtiles

/-! Suits, ranks and bitmaps of tiles, `mahjong/tile.h`, and what packs and hands say of
themselves in these terms. -/

set_option autoImplicit false

namespace GbMahjong.Mahjong

open GbMahjong.Library

/-! ## Suits and ranks -/

/-- `SUIT_*`. -/
inductive Suit where
  | invalid | wan | tiao | bing | hua | feng | jian
  deriving DecidableEq, Repr

/-- `TILES_SUIT`. -/
def tilesSuit : List Suit :=
  [.invalid,
    .wan, .wan, .wan, .wan, .wan, .wan, .wan, .wan, .wan,
    .tiao, .tiao, .tiao, .tiao, .tiao, .tiao, .tiao, .tiao, .tiao,
    .bing, .bing, .bing, .bing, .bing, .bing, .bing, .bing, .bing,
    .feng, .feng, .feng, .feng,
    .jian, .jian, .jian,
    .hua, .hua, .hua, .hua, .hua, .hua, .hua, .hua,
    .invalid, .invalid]

/-- `TILES_RANK`. -/
def tilesRank : List Nat :=
  [0,
    1, 2, 3, 4, 5, 6, 7, 8, 9,
    1, 2, 3, 4, 5, 6, 7, 8, 9,
    1, 2, 3, 4, 5, 6, 7, 8, 9,
    0, 0, 0, 0,
    0, 0, 0,
    0, 0, 0, 0, 0, 0, 0, 0,
    0, 0]

/-! ## Bitmaps -/

/-- `long long` as a set of tile ids. -/
abbrev Bitmap := BitVec 64

/-- The bits `BITMAP(t)` of several tiles, joined. -/
def bitmapOf (ids : List Int) : Bitmap :=
  Bitmap.ofList 64 (ids.map Int.toNat)

def tileTypeBitmapWan : Bitmap := bitmapOf [1, 2, 3, 4, 5, 6, 7, 8, 9]
def tileTypeBitmapTiao : Bitmap := bitmapOf [10, 11, 12, 13, 14, 15, 16, 17, 18]
def tileTypeBitmapBing : Bitmap := bitmapOf [19, 20, 21, 22, 23, 24, 25, 26, 27]
def tileTypeBitmapShu : Bitmap :=
  tileTypeBitmapWan ||| tileTypeBitmapTiao ||| tileTypeBitmapBing
def tileTypeBitmapFeng : Bitmap := bitmapOf [tileE, tileS, tileW, tileN]
/-- `TILE_C`, `TILE_F` and `TILE_P`. -/
def tileTypeBitmapJian : Bitmap := bitmapOf [32, 33, 34]
def tileTypeBitmapZi : Bitmap := tileTypeBitmapFeng ||| tileTypeBitmapJian
def tileTypeBitmapMeaningful : Bitmap := tileTypeBitmapShu ||| tileTypeBitmapZi
def tileTypeBitmapYaojiu : Bitmap := tileTypeBitmapZi ||| bitmapOf [1, 9, 10, 18, 19, 27]
def tileTypeBitmapLv : Bitmap := bitmapOf [11, 12, 13, 15, 17, 33]
def tileTypeBitmapQuanda : Bitmap := bitmapOf [7, 8, 9, 16, 17, 18, 25, 26, 27]
def tileTypeBitmapQuanzhong : Bitmap := bitmapOf [4, 5, 6, 13, 14, 15, 22, 23, 24]
def tileTypeBitmapQuanxiao : Bitmap := bitmapOf [1, 2, 3, 10, 11, 12, 19, 20, 21]
def tileTypeBitmapDayuwu : Bitmap := tileTypeBitmapQuanda ||| bitmapOf [6, 15, 24]
def tileTypeBitmapXiaoyuwu : Bitmap := tileTypeBitmapQuanxiao ||| bitmapOf [4, 13, 22]
def tileTypeBitmapTuibudao : Bitmap :=
  bitmapOf [11, 13, 14, 15, 17, 18, 19, 20, 21, 22, 23, 26, 27, 34]

/-! ## Tiles -/

namespace Tile

/-- The ids that the library's tables have an entry for. -/
def Listed (tile : Tile) : Prop :=
  0 ≤ tile.tile ∧ tile.tile ≤ 44

/-- Past the table's end the read is undefined. -/
def suit (tile : Tile) : Suit :=
  tilesSuit.getD tile.tile.toNat .invalid

def rank (tile : Tile) : Nat :=
  tilesRank.getD tile.tile.toNat 0

def getBitmap (tile : Tile) : Bitmap :=
  1#64 <<< tile.tile.toNat

def isShu (tile : Tile) : Bool :=
  Bitmap.within tile.getBitmap tileTypeBitmapShu

def isZi (tile : Tile) : Bool :=
  Bitmap.within tile.getBitmap tileTypeBitmapZi

def isFeng (tile : Tile) : Bool :=
  Bitmap.within tile.getBitmap tileTypeBitmapFeng

def isJian (tile : Tile) : Bool :=
  Bitmap.within tile.getBitmap tileTypeBitmapJian

def isYaojiu (tile : Tile) : Bool :=
  Bitmap.within tile.getBitmap tileTypeBitmapYaojiu

variable {tile other : Tile}

/-- What the bitmaps say of an id, in numbers. -/
theorem listed_kinds : ∀ id ∈ idRange 0 45,
    (ofId id).isShu = decide (1 ≤ id ∧ id ≤ 27) ∧
      (ofId id).isZi = decide (28 ≤ id ∧ id ≤ 34) := by
  decide +kernel

/-- The three suits are nine ids long. -/
theorem listed_suits : ∀ id ∈ idRange 0 45,
    ((ofId id).suit = .wan ↔ 1 ≤ id ∧ id ≤ 9) ∧ ((ofId id).suit = .tiao ↔ 10 ≤ id ∧ id ≤ 18) ∧
      ((ofId id).suit = .bing ↔ 19 ≤ id ∧ id ≤ 27) := by
  decide +kernel

theorem Listed.mem_idRange (listed : tile.Listed) : tile.tile ∈ idRange 0 45 :=
  Mahjong.mem_idRange.mpr ⟨listed.1, Int.lt_add_one_of_le listed.2⟩

theorem isShu_iff (listed : tile.Listed) : tile.isShu = true ↔ 1 ≤ tile.tile ∧ tile.tile ≤ 27 := by
  rw [show tile.isShu = (ofId tile.tile).isShu from rfl, (listed_kinds _ listed.mem_idRange).1,
    decide_eq_true_eq]

theorem isZi_iff (listed : tile.Listed) : tile.isZi = true ↔ 28 ≤ tile.tile ∧ tile.tile ≤ 34 := by
  rw [show tile.isZi = (ofId tile.tile).isZi from rfl, (listed_kinds _ listed.mem_idRange).2,
    decide_eq_true_eq]

theorem suit_eq_iff (first : 1 ≤ tile.tile) (last : tile.tile ≤ 27) (listed : other.Listed) :
    tile.suit = other.suit ↔
      1 ≤ other.tile ∧ other.tile ≤ 27 ∧ (tile.tile - 1) / 9 = (other.tile - 1) / 9 := by
  have inside : tile.Listed := ⟨by omega, by omega⟩
  obtain ⟨wan, tiao, bing⟩ : _ ∧ _ ∧ _ := listed_suits _ inside.mem_idRange
  obtain ⟨otherWan, otherTiao, otherBing⟩ : _ ∧ _ ∧ _ := listed_suits _ listed.mem_idRange
  change tile.suit = .wan ↔ _ at wan
  change tile.suit = .tiao ↔ _ at tiao
  change tile.suit = .bing ↔ _ at bing
  change other.suit = .wan ↔ _ at otherWan
  change other.suit = .tiao ↔ _ at otherTiao
  change other.suit = .bing ↔ _ at otherBing
  rcases (by omega : tile.tile ≤ 9 ∨ 10 ≤ tile.tile ∧ tile.tile ≤ 18 ∨ 19 ≤ tile.tile) with
    low | middle | high
  · rw [wan.mpr ⟨first, low⟩, eq_comm, otherWan]
    omega
  · rw [tiao.mpr middle, eq_comm, otherTiao]
    omega
  · rw [bing.mpr ⟨high, last⟩, eq_comm, otherBing]
    omega

end Tile

/-! ## Packs -/

namespace Pack

def isShunzi (pack : Pack) : Bool :=
  pack.type == .shunzi

def isKezi (pack : Pack) : Bool :=
  pack.type == .kezi

def isKeGang (pack : Pack) : Bool :=
  pack.isKezi || pack.isGang

def isJiang (pack : Pack) : Bool :=
  pack.type == .jiang

def haveLastTile (pack : Pack) : Bool :=
  pack.offer < 0

def getZuhelongBitmap (pack : Pack) : Bitmap :=
  bitmapOf (zuhelongTiles.getD pack.zuhelongType [])

/-- `Pack()`, which stands for no pack. -/
def none : Pack :=
  ⟨.invalid, .ofId 0, 0, 0⟩

/-- `Pack(PACK_TYPE_ZUHELONG, Tile(), zuhelong_type)`. -/
def zuhelong (zuhelongType : Nat) : Pack :=
  ⟨.zuhelong, .ofId 0, zuhelongType, 0⟩

end Pack

/-! ## Hands -/

namespace Handtiles

def packBitmap (pack : Pack) : Bitmap :=
  match pack.type with
  | .shunzi => pack.tile.getBitmap ||| pack.tile.pred.getBitmap ||| pack.tile.succ.getBitmap
  | .kezi | .gang | .jiang => pack.tile.getBitmap
  | .zuhelong | .invalid => 0

def fuluBitmap (handtiles : Handtiles) : Bitmap :=
  handtiles.fulu.foldl (fun bitmap pack => bitmap ||| packBitmap pack) 0

def lipaiBitmap (handtiles : Handtiles) : Bitmap :=
  handtiles.lipai.foldl (fun bitmap tile => bitmap ||| tile.getBitmap) 0

def isMenqing (handtiles : Handtiles) : Bool :=
  handtiles.fulu.all Pack.isAnshou

def isTotallyFulu (handtiles : Handtiles) : Bool :=
  handtiles.fulu.length == 4 && handtiles.fulu.all fun pack => !pack.isAnshou

def noFulu (handtiles : Handtiles) : Bool :=
  handtiles.fulu.length == 0

theorem lipaiBitmap_eq (handtiles : Handtiles) :
    handtiles.lipaiBitmap = bitmapOf (handtiles.lipai.map Tile.getId) := by
  rw [lipaiBitmap, bitmapOf, Bitmap.ofList, List.foldl_map, List.foldl_map]
  rfl

end Handtiles

end GbMahjong.Mahjong
