import GbMahjong.Library.Pattern
import GbMahjong.Mahjong.Admission
import GbMahjong.Mahjong.TileKinds

/-! The notation of hands: `HandtilesToString` writes it and `StringToHandtiles` reads it,
both of `mahjong/handtiles.cpp`. -/

set_option autoImplicit false

namespace GbMahjong.Mahjong

open GbMahjong.Library RegularExpression

/-! ## Writing -/

/-- `TILES_SUIT_CHAR`. -/
def tilesSuitChar : List Char :=
  [' '] ++ List.replicate 9 'm' ++ List.replicate 9 's' ++ List.replicate 9 'p' ++
    ['E', 'S', 'W', 'N', 'C', 'F', 'P', 'a', 'b', 'c', 'd', 'e', 'f', 'g', 'h', ' ', ' ']

namespace Tile

/-- `'0' + Rank()`. -/
def rankChar (tile : Tile) : Char :=
  Char.ofNat ('0'.toNat + tile.rank)

def suitChar (tile : Tile) : Char :=
  tilesSuitChar.getD tile.tile.toNat ' '

def tileChar (tile : Tile) : Char :=
  if tile.isShu then tile.rankChar else tile.suitChar

end Tile

/-- One round of the loop over the melds. -/
def fuluText (pack : Pack) : List Char :=
  '[' :: pack.getAllTile.map Tile.tileChar ++
    (if pack.tile.isShu then [pack.tile.suitChar] else []) ++
    (if pack.offer ≠ 0 then ',' :: (toString pack.offer).toList else []) ++ [']']

/-- The loop over the standing tiles from place `i` on, where `numbered` is the tile
before it if that one was a number. -/
def lipaiText (fuluSize : Nat) : Nat → Option Tile → List Tile → List Char
  | _, none, [] => []
  | _, some previous, [] => [previous.suitChar]
  | i, numbered, tile :: rest =>
      (match numbered with
        | some previous =>
            -- the fourteenth tile never shares the suit letter of the tiles before it
            if i + 1 + fuluSize * 3 = 14 ∨ tile.isShu = false ∨ tile.suit ≠ previous.suit then
              [previous.suitChar]
            else
              []
        | none => []) ++
      tile.tileChar :: lipaiText fuluSize (i + 1) (if tile.isShu then some tile else none) rest

/-- `std::to_string` of a flag. -/
def flagChar (flag : Bool) : Char :=
  if flag then '1' else '0'

namespace Handtiles

/-- `HandtilesToString`. -/
def handtilesToString (handtiles : Handtiles) : String :=
  String.ofList (handtiles.fulu.flatMap fuluText ++
    lipaiText handtiles.fulu.length 0 none handtiles.lipai ++
    ['|', (Tile.ofId handtiles.quanfeng).tileChar, (Tile.ofId handtiles.menfeng).tileChar,
      flagChar handtiles.zimo, flagChar handtiles.juezhang, flagChar handtiles.haidi,
      flagChar handtiles.gang, '|'] ++
    handtiles.huapai.map Tile.tileChar)

end Handtiles

/-! ## The pattern -/

def digitChars : List Char :=
  ['1', '2', '3', '4', '5', '6', '7', '8', '9']

def suitChars : List Char :=
  ['m', 's', 'p']

def windChars : List Char :=
  ['E', 'S', 'W', 'N']

def honourChars : List Char :=
  ['E', 'S', 'W', 'N', 'C', 'F', 'P']

def flowerChars : List Char :=
  ['a', 'b', 'c', 'd', 'e', 'f', 'g', 'h']

/-- A meld in brackets, with the place of the tile that was claimed. -/
def meldPattern : RegularExpression Char :=
  char '[' *
    ((Pattern.times (Pattern.oneOf digitChars) 3 1 * Pattern.oneOf suitChars +
        Pattern.times (Pattern.oneOf honourChars) 3 1) *
      (Pattern.optional (char ',' * Pattern.oneOf ['1', '2', '3', '5', '6', '7']) *
        char ']'))

/-- An honour or a flower, or numbers of one suit. -/
def standingPattern : RegularExpression Char :=
  Pattern.oneOf (honourChars ++ flowerChars) +
    Pattern.oneOrMore (Pattern.oneOf digitChars) * Pattern.oneOf suitChars

/-- The winds and the four flags. -/
def circumstancesPattern : RegularExpression Char :=
  Pattern.times (Pattern.oneOf windChars) 2 0 * Pattern.times (Pattern.oneOf ['0', '1']) 4 0

/-- The flowers, or how many there are. -/
def flowersPattern : RegularExpression Char :=
  Pattern.times (Pattern.oneOf flowerChars) 0 8 + Pattern.oneOf ('0' :: digitChars.take 8)

/-- `pattern` of `StringToHandtiles`. -/
def handPattern : RegularExpression Char :=
  Pattern.oneOrMore (meldPattern + standingPattern) *
    Pattern.optional (char '|' * (circumstancesPattern *
      Pattern.optional (char '|' * flowersPattern)))

/-! ## Reading -/

/-- `mp`, which holds 0 for every other key. -/
def mp (c : Char) : Int :=
  match c with
  | 'm' => tile1m
  | 's' => 10
  | 'p' => 19
  | 'E' => tileE
  | 'S' => tileS
  | 'W' => tileW
  | 'N' => tileN
  | 'C' => 32
  | 'F' => 33
  | 'P' => 34
  | 'a' => tileMei
  | _ => 0

/-- `c - '0'`. -/
def digitOf (c : Char) : Int :=
  (c.toNat : Int) - '0'.toNat

/-- The variables of the loop of `StringToHandtiles`, and the hand that it fills. -/
structure Reader where
  handtiles : Handtiles
  part : Nat
  isFulu : Bool
  handleOffer : Bool
  offer : Int
  nums : List Char
  chars : List Char
  charSuit : Char

namespace Reader

/-- After `_ClearAndSetDefault`. -/
def new : Reader where
  handtiles := { Handtiles.new with quanfeng := tileE, menfeng := tileE }
  part := 0
  isFulu := false
  handleOffer := false
  offer := 0
  nums := []
  chars := []
  charSuit := '\x00'

/-- What the tiles between the brackets are: -2 for an added kong of three, -3 and -4 for
tiles that are no meld. -/
def meldType (isChars : Bool) (tiles : List Char) (offer : Int) : Except Int PackType :=
  match tiles with
  | [first, second, third] =>
      if 3 < offer then
        .error (-2)
      else if isChars = false ∧ second.toNat = first.toNat + 1 ∧ second.toNat + 1 = third.toNat then
        .ok .shunzi
      else if second = first ∧ second = third then
        .ok .kezi
      else
        .error (-3)
  | [first, second, third, fourth] =>
      if second = first ∧ second = third ∧ second = fourth then .ok .gang else .error (-4)
  | _ => .ok .invalid

/-- The tiles between the brackets, numbers or honours. -/
def meldTiles (reader : Reader) : List Char :=
  if reader.nums.isEmpty then reader.chars else reader.nums

/-- `tile_code`: the middle one of the tiles. -/
def meldCode (reader : Reader) : Int :=
  if reader.nums.isEmpty then mp (reader.chars.getD 1 '\x00')
  else mp reader.charSuit - 1 + digitOf (reader.nums.getD 1 '\x00')

/-- Three tiles without a mark were claimed from the first place, four are concealed. -/
def meldOffer (reader : Reader) : Int :=
  if reader.handleOffer then reader.offer
  else if reader.meldTiles.length = 3 then 1
  else if reader.meldTiles.length = 4 then 0
  else reader.offer

/-- `case ']'`. -/
def closeMeld (reader : Reader) : Except Int Reader := do
  let type ← meldType reader.nums.isEmpty reader.meldTiles reader.meldOffer
  return { reader with
    handtiles := { reader.handtiles with
      fulu := reader.handtiles.fulu ++ [⟨type, .ofId reader.meldCode, 0, reader.meldOffer⟩] }
    isFulu := false
    handleOffer := false
    offer := reader.meldOffer
    nums := if reader.nums.isEmpty then reader.nums else []
    chars := if reader.nums.isEmpty then [] else reader.chars
    charSuit := '\x00' }

def pushLipai (reader : Reader) (ids : List Int) : Reader :=
  { reader with handtiles := { reader.handtiles with
      lipai := reader.handtiles.lipai ++ ids.map Tile.ofId } }

def pushHuapai (reader : Reader) (ids : List Int) : Reader :=
  { reader with handtiles := { reader.handtiles with
      huapai := reader.handtiles.huapai ++ ids.map Tile.ofId } }

/-- `case '0' ... '9'`. -/
def readDigit (reader : Reader) (c : Char) : Reader :=
  if reader.part = 0 then
    if reader.isFulu && reader.handleOffer then
      { reader with offer := digitOf c }
    else
      { reader with nums := reader.nums ++ [c] }
  else if reader.part = 1 then
    { reader with nums := reader.nums ++ [c] }
  else if reader.part = 2 then
    reader.pushHuapai ((idRange 0 (digitOf c)).map fun i => mp 'a' + i)
  else
    reader

/-- `case TILE_CHAR_E` to `case TILE_CHAR_P`. -/
def readHonour (reader : Reader) (c : Char) : Reader :=
  if reader.part = 0 then
    if reader.isFulu then
      { reader with chars := reader.chars ++ [c], charSuit := 'z' }
    else
      reader.pushLipai [mp c]
  else if reader.part = 1 then
    { reader with chars := reader.chars ++ [c] }
  else
    reader

/-- `case TILE_CHAR_WAN` to `case TILE_CHAR_BING`. -/
def readSuit (reader : Reader) (c : Char) : Reader :=
  if reader.isFulu then
    { reader with charSuit := c }
  else
    { reader.pushLipai (reader.nums.map fun num => mp c - 1 + digitOf num) with nums := [] }

/-- `case TILE_CHAR_MEI ... TILE_CHAR_DONG`. -/
def readFlower (reader : Reader) (c : Char) : Reader :=
  if reader.part = 0 then
    reader.pushLipai [mp 'a' + c.toNat - 'a'.toNat]
  else if reader.part = 2 then
    reader.pushHuapai [mp 'a' + c.toNat - 'a'.toNat]
  else
    reader

/-- One round of the loop. -/
def readChar (reader : Reader) (c : Char) : Except Int Reader :=
  if c = '[' then .ok { reader with isFulu := true }
  else if c = ']' then reader.closeMeld
  else if c = ',' then .ok { reader with handleOffer := true }
  else if c ∈ '0' :: digitChars then .ok (reader.readDigit c)
  else if c ∈ honourChars then .ok (reader.readHonour c)
  else if c ∈ suitChars then .ok (reader.readSuit c)
  else if c = '|' then .ok { reader with part := reader.part + 1 }
  else if c ∈ flowerChars then .ok (reader.readFlower c)
  else .error (-999)

/-- The circumstances, if the loop came to that part. -/
def circumstances (reader : Reader) : Handtiles :=
  let num (i : Nat) : Bool := reader.nums.getD i '0' != '0'
  if 1 ≤ reader.part then
    { reader.handtiles with
      quanfeng := mp (reader.chars.getD 0 '\x00')
      menfeng := mp (reader.chars.getD 1 '\x00')
      zimo := num 0
      juezhang := num 1
      haidi := num 2
      gang := num 3 }
  else
    reader.handtiles

end Reader

/-- The entries that `table[id]` leaves for the ids of a loop. -/
def CountTable.touch (table : CountTable) (ids : List Int) : CountTable :=
  fun id => if id ∈ ids then some ((table id).getD 0) else table id

namespace Handtiles

/-- The two checks of `_GenerateTable` look every count up. -/
def touchTables (handtiles : Handtiles) : Handtiles :=
  { handtiles with
    fuluTable := handtiles.fuluTable.touch (idRange tile1m tileSize)
    lipaiTable := handtiles.lipaiTable.touch (idRange tile1m tileSize)
    huapaiTable := handtiles.huapaiTable.touch (idRange tileMei (tileDong + 1)) }

/-- A hand of thirteen gets a place for the fourteenth tile. -/
def padded (handtiles : Handtiles) : Except Int Handtiles :=
  let size := handtiles.fulu.length * 3 + handtiles.lipai.length
  if size = 13 then .ok { handtiles with lipai := handtiles.lipai ++ [.ofId 0] }
  else if size = 14 then .ok handtiles
  else .error (-5)

/-- `LastLipai().SetZimo()` or `LastLipai().SetChonghu()`, by the circumstances. -/
def markLast (handtiles : Handtiles) : Handtiles :=
  handtiles.modifyLastLipai (if handtiles.zimo then Tile.setZimo else Tile.setChonghu)

/-- The rest of `StringToHandtiles`, after its loop. -/
def accept (handtiles : Handtiles) : Except Int Handtiles := do
  let handtiles ← handtiles.padded
  let (filled, failed) := handtiles.generateTable
  if failed ≠ 0 then
    .error (-6)
  else if filled.touchTables.markLast.checkWinState ≠ 0 then
    .error (-7)
  else
    .ok filled.touchTables.markLast.sortLipaiWithoutLastOne

end Handtiles

/-- The loop that drops the blanks. -/
def withoutBlanks (sOri : List Char) : List Char :=
  sOri.filter (· != ' ')

/-- `StringToHandtiles`, with the hand that it fills instead of the return code 0. Every
other code is an error; what one leaves of the hand is not kept. -/
def stringToHandtiles (sOri : String) : Except Int Handtiles :=
  let s := withoutBlanks sOri.toList
  if handPattern.rmatch s then do
    let reader ← s.foldlM Reader.readChar Reader.new
    reader.circumstances.accept
  else
    .error (-1)

end GbMahjong.Mahjong
