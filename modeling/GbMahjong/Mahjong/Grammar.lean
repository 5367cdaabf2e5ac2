import Mathlib.Data.Set.List
import Mathlib.Tactic.FinCases
import GbMahjong.Mahjong.Notation

/-! The grammar of the notation: syntax trees for the texts that the pattern accepts, and
the hand that each of them describes. -/

set_option autoImplicit false

namespace GbMahjong.Mahjong.Notation

open GbMahjong.Library

/-! ## Letters -/

inductive SuitLetter where
  | m | s | p
  deriving DecidableEq, Repr

namespace SuitLetter

def text : SuitLetter → Char
  | m => 'm'
  | s => 's'
  | p => 'p'

/-- The id just before the first tile of the suit. -/
def base : SuitLetter → Int
  | m => 0
  | s => 9
  | p => 18

end SuitLetter

/-- A digit from 1 on. -/
def digitText (digit : Fin 9) : Char :=
  Char.ofNat ('1'.toNat + digit)

def windText (wind : Fin 4) : Char :=
  windChars.getD wind ' '

def honourText (honour : Fin 7) : Char :=
  honourChars.getD honour ' '

def flowerText (flower : Fin 8) : Char :=
  flowerChars.getD flower ' '

/-- The places that a claimed tile comes from: 1, 2 and 3, or 5, 6 and 7 for a kong that
was added to. -/
def offerNumber (mark : Fin 6) : Int :=
  [1, 2, 3, 5, 6, 7].getD mark 0

def offerText (mark : Fin 6) : Char :=
  ['1', '2', '3', '5', '6', '7'].getD mark ' '

def numberId (suit : SuitLetter) (digit : Fin 9) : Int :=
  suit.base + digit + 1

def honourId (honour : Fin 7) : Int :=
  tileE + honour

def windId (wind : Fin 4) : Int :=
  tileE + wind

def flowerId (flower : Fin 8) : Int :=
  tileMei + flower

/-! ## Syntax trees -/

/-- What stands in a pair of brackets. -/
structure Quad (Letter : Type) where
  first : Letter
  second : Letter
  third : Letter
  fourth : Option Letter

namespace Quad

variable {Letter Image : Type}

def map (change : Letter → Image) (quad : Quad Letter) : Quad Image :=
  ⟨change quad.first, change quad.second, change quad.third, quad.fourth.map change⟩

def toList (quad : Quad Letter) : List Letter :=
  quad.first :: quad.second :: quad.third :: quad.fourth.toList

theorem exists_toList {letters : List Letter} (enough : 3 ≤ letters.length)
    (few : letters.length ≤ 3 + 1) : ∃ quad : Quad Letter, quad.toList = letters := by
  match letters with
  | [first, second, third] => exact ⟨⟨first, second, third, none⟩, rfl⟩
  | [first, second, third, fourth] => exact ⟨⟨first, second, third, some fourth⟩, rfl⟩
  | [] | [_] | [_, _] | _ :: _ :: _ :: _ :: _ :: _ =>
      simp only [List.length_cons, List.length_nil] at enough few
      omega

theorem toList_length (quad : Quad Letter) : 3 ≤ quad.toList.length ∧ quad.toList.length ≤ 3 + 1 := by
  obtain ⟨first, second, third, fourth⟩ := quad
  cases fourth with
  | none => exact ⟨Nat.le_refl 3, Nat.le_succ 3⟩
  | some fourth => exact ⟨Nat.le_succ 3, Nat.le_refl 4⟩

end Quad

inductive MeldTiles where
  | numbers (digits : Quad (Fin 9)) (suit : SuitLetter)
  | honours (letters : Quad (Fin 7))

inductive Item where
  | meld (tiles : MeldTiles) (mark : Option (Fin 6))
  | honour (letter : Fin 7)
  | flower (letter : Fin 8)
  | numbers (first : Fin 9) (rest : List (Fin 9)) (suit : SuitLetter)

inductive Flowers where
  | listed (letters : List (Fin 8)) (few : letters.length ≤ 8)
  | counted (count : Fin 9)

structure Circumstances where
  quanfeng : Fin 4
  menfeng : Fin 4
  zimo : Bool
  juezhang : Bool
  haidi : Bool
  gang : Bool

/-- A hand, and after it perhaps the circumstances, and after them perhaps the flowers. -/
structure HandText where
  first : Item
  rest : List Item
  circumstances : Option (Circumstances × Option Flowers)

/-! ## Texts -/

def MeldTiles.text : MeldTiles → List Char
  | .numbers digits suit => digits.toList.map digitText ++ [suit.text]
  | .honours letters => letters.toList.map honourText

def markText : Option (Fin 6) → List Char
  | some mark => [',', offerText mark]
  | none => []

def Item.text : Item → List Char
  | .meld tiles mark => '[' :: (tiles.text ++ (markText mark ++ [']']))
  | .honour letter => [honourText letter]
  | .flower letter => [flowerText letter]
  | .numbers first rest suit => (first :: rest).map digitText ++ [suit.text]

def Flowers.text : Flowers → List Char
  | .listed letters _ => letters.map flowerText
  | .counted count => [Char.ofNat ('0'.toNat + count)]

namespace Circumstances

def winds (circumstances : Circumstances) : List Char :=
  [windText circumstances.quanfeng, windText circumstances.menfeng]

def flags (circumstances : Circumstances) : List Char :=
  [flagChar circumstances.zimo, flagChar circumstances.juezhang,
    flagChar circumstances.haidi, flagChar circumstances.gang]

def text (circumstances : Circumstances) : List Char :=
  circumstances.winds ++ circumstances.flags

end Circumstances

def flowersText : Option Flowers → List Char
  | some flowers => '|' :: flowers.text
  | none => []

def circumstancesText : Option (Circumstances × Option Flowers) → List Char
  | some (circumstances, flowers) => '|' :: (circumstances.text ++ flowersText flowers)
  | none => []

namespace HandText

def items (text : HandText) : List Item :=
  text.first :: text.rest

def text (text : HandText) : List Char :=
  text.items.flatMap Item.text ++ circumstancesText text.circumstances

end HandText

/-! ## Meanings -/

def MeldTiles.ids : MeldTiles → Quad Int
  | .numbers digits suit => digits.map (numberId suit)
  | .honours letters => letters.map honourId

def MeldTiles.numbered : MeldTiles → Bool
  | .numbers _ _ => true
  | .honours _ => false

/-- Three tiles without a mark were claimed from the first place, four are concealed. -/
def MeldTiles.offer (tiles : MeldTiles) (mark : Option (Fin 6)) : Int :=
  mark.elim (tiles.ids.fourth.elim 1 fun _ => 0) offerNumber

/-- Three numbers in a row are a run, three of a kind a triplet, four of a kind a kong. -/
def MeldTiles.kind (tiles : MeldTiles) (offer : Int) : Except Int PackType :=
  let ids := tiles.ids
  match ids.fourth with
  | none =>
      if 3 < offer then
        .error (-2)
      else if tiles.numbered = true ∧ ids.second = ids.first + 1 ∧ ids.third = ids.second + 1 then
        .ok .shunzi
      else if ids.second = ids.first ∧ ids.second = ids.third then
        .ok .kezi
      else
        .error (-3)
  | some fourth =>
      if ids.second = ids.first ∧ ids.second = ids.third ∧ ids.second = fourth then
        .ok .gang
      else
        .error (-4)

def MeldTiles.meaning (tiles : MeldTiles) (mark : Option (Fin 6)) : Except Int Pack :=
  (tiles.kind (tiles.offer mark)).map fun type =>
    ⟨type, .ofId tiles.ids.second, 0, tiles.offer mark⟩

/-- The melds that an item adds to the hand. -/
def Item.packs : Item → Except Int (List Pack)
  | .meld tiles mark => (tiles.meaning mark).map fun pack => [pack]
  | .honour _ | .flower _ | .numbers _ _ _ => .ok []

/-- The standing tiles that an item adds to the hand. -/
def Item.ids : Item → List Int
  | .meld _ _ => []
  | .honour letter => [honourId letter]
  | .flower letter => [flowerId letter]
  | .numbers first rest suit => (first :: rest).map (numberId suit)

def Flowers.ids : Flowers → List Int
  | .listed letters _ => letters.map flowerId
  | .counted count => (idRange 0 count).map fun i => tileMei + i

namespace HandText

/-- The winds are east and every flag is off if the text does not say. -/
def stated (text : HandText) : Circumstances :=
  text.circumstances.elim ⟨0, 0, false, false, false, false⟩ Prod.fst

def flowerIds (text : HandText) : List Int :=
  match text.circumstances with
  | some (_, some flowers) => flowers.ids
  | _ => []

/-- The hand as the text gives it, before it is accepted. -/
def hand (text : HandText) (packs : List Pack) : Handtiles :=
  { Handtiles.new with
    fulu := packs
    lipai := (text.items.flatMap Item.ids).map Tile.ofId
    huapai := text.flowerIds.map Tile.ofId
    quanfeng := windId text.stated.quanfeng
    menfeng := windId text.stated.menfeng
    zimo := text.stated.zimo
    juezhang := text.stated.juezhang
    haidi := text.stated.haidi
    gang := text.stated.gang }

/-- The first meld that is none decides the error; after the melds, the size of the hand,
the number of each tile and the circumstances. -/
def meaning (text : HandText) : Except Int Handtiles := do
  let packs ← text.items.mapM Item.packs
  (text.hand packs.flatten).accept

end HandText

end GbMahjong.Mahjong.Notation
