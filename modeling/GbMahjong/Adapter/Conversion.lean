import GbMahjong.Engine.Protocol
import GbMahjong.Library.Checked
import GbMahjong.Mahjong.Handtiles

/-! The conversions of `gb_mahjong_adapter.cc` from engine messages to the
library's tiles, packs and hands. Enumeration fields are open, and only the
values the code names are refused; the smallest `int` has no predecessor. -/

set_option autoImplicit false

namespace GbMahjong.Adapter

open GbMahjong.Library GbMahjong.Library.Checked GbMahjong.Mahjong
open GbMahjong.Library.ProtoEnum (asI32 tryFrom)

/-! ## Seats and tiles -/

def seatToIndex (seat : Int) : Checked Int :=
  match (tryFrom seat : Option Engine.Seat) with
  | some .east => .ok 0
  | some .south => .ok 1
  | some .west => .ok 2
  | some .north => .ok 3
  | _ => invalidArgument "seat must not be unspecified"

def protoSeatToMahjongWind (seat : Int) : Checked Int :=
  match (tryFrom seat : Option Engine.Seat) with
  | some .east => .ok tileE
  | some .south => .ok tileS
  | some .west => .ok tileW
  | some .north => .ok tileN
  | _ => invalidArgument "seat must not be unspecified"

def protoTileToMahjongTile (tile : Int) : Checked Mahjong.Tile :=
  if tile = asI32 Engine.Tile.unspecified ∨ tile = asI32 Engine.Tile.unknown then
    invalidArgument "tile must not be unspecified or unknown"
  else do
    .ok (.ofId (← int32 (tile - 1)))

def relativeOffer (actorSeat fromSeat : Int) : Checked Int := do
  let diff := (← seatToIndex actorSeat) - (← seatToIndex fromSeat) + 4
  if diff % 4 = 0 then
    invalidArgument "from_seat must differ from actor seat"
  else
    .ok (diff % 4)

/-! ## Melds -/

/-- `tiles.front()`, undefined on an empty vector. -/
def front (tiles : List Mahjong.Tile) : Checked Mahjong.Tile :=
  match tiles with
  | [] => .error .undefinedBehavior
  | first :: _ => .ok first

/-- The `MELD_KIND_CHI` branch: `offer` is the place of the claimed tile. -/
def chiPack (tiles : List Mahjong.Tile) (claimedTile : Int) : Checked Pack :=
  match tiles with
  | [first, second, third] => do
      let claimed ← protoTileToMahjongTile claimedTile
      if first.Same claimed then
        .ok ⟨.shunzi, second, 0, 1⟩
      else if second.Same claimed then
        .ok ⟨.shunzi, second, 0, 2⟩
      else if third.Same claimed then
        .ok ⟨.shunzi, second, 0, 3⟩
      else
        invalidArgument "claimed tile must belong to chi meld"
  | _ => invalidArgument "chi meld must contain exactly 3 tiles"

/-- `meld.concealed() ? 0 : RelativeOffer(actor_seat, meld.from_seat())`. -/
def concealedOffer (meld : Engine.Meld) (actorSeat : Int) : Checked Int :=
  if meld.concealed then .ok 0 else relativeOffer actorSeat meld.fromSeat

def protoMeldToMahjongPack (meld : Engine.Meld) (actorSeat : Int) : Checked Pack :=
  if meld.tiles.isEmpty then
    invalidArgument "meld.tiles must not be empty"
  else do
    let tiles := Tile.sort (← meld.tiles.mapM protoTileToMahjongTile)
    match (tryFrom meld.kind : Option Engine.MeldKind) with
    | some .chi => chiPack tiles meld.claimedTile
    | some .peng =>
        .ok ⟨.kezi, ← front tiles, 0, ← concealedOffer meld actorSeat⟩
    | some .exposedKong =>
        .ok ⟨.gang, ← front tiles, 0, ← relativeOffer actorSeat meld.fromSeat⟩
    | some .concealedKong => .ok ⟨.gang, ← front tiles, 0, 0⟩
    | some .supplementalKong => do
        let baseOffer ← concealedOffer meld actorSeat
        let offer := if baseOffer = 0 then 0 else baseOffer + 4
        .ok ⟨.gang, ← front tiles, 0, offer⟩
    | _ => invalidArgument "meld kind must not be unspecified"

/-! ## Hands -/

/-- `SeedHandtilesTables`: the flower table gets the flower ids only. -/
def seedHandtilesTables (handtiles : Handtiles) : Handtiles :=
  { handtiles with
    fuluTable := handtiles.fuluTable.seed (idRange tile1m tileSize)
    lipaiTable :=
      (handtiles.lipaiTable.seed (idRange tile1m tileSize)).seed
        (idRange tileMei (tileDong + 1))
    huapaiTable := handtiles.huapaiTable.seed (idRange tileMei (tileDong + 1)) }

def addFlower (handtiles : Handtiles) (tile : Int) : Checked Handtiles := do
  let mahjongTile ← protoTileToMahjongTile tile
  .ok { handtiles with
    huapai := handtiles.huapai ++ [mahjongTile]
    huapaiTable := handtiles.huapaiTable.increment mahjongTile.getId }

/-- `pack.GetAllTile()` on an id of any size: the `Pred` of the smallest `int` is
undefined. An id is one less than an `int`, so `Succ` always has a value. -/
def allTileOf (pack : Pack) : Checked (List Mahjong.Tile) :=
  if pack.type = .shunzi then do
    let _ ← int32 (pack.tile.getId - 1)
    .ok pack.getAllTile
  else
    .ok pack.getAllTile

def addMeld (actorSeat : Int) (handtiles : Handtiles) (meld : Engine.Meld) :
    Checked Handtiles := do
  let pack ← protoMeldToMahjongPack meld actorSeat
  let tiles ← allTileOf pack
  .ok { handtiles with
    fulu := handtiles.fulu ++ [pack]
    fuluTable := tiles.foldl
      (fun table tile => table.increment tile.getId) handtiles.fuluTable }

def addLipaiTile (handtiles : Handtiles) (tile : Mahjong.Tile) : Handtiles :=
  { handtiles with
    lipai := handtiles.lipai ++ [tile]
    lipaiTable := handtiles.lipaiTable.increment tile.getId }

end GbMahjong.Adapter
