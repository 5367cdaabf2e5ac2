import Mathlib.Tactic.IntervalCases
import GbMahjong.Mahjong.GrammarProperties
import GbMahjong.Mahjong.Shapes

/-! What `HandtilesToString` writes for melds and standing tiles are items of the grammar. -/

set_option autoImplicit false

namespace GbMahjong.Mahjong

open GbMahjong.Library Notation Shape

/-! ## Letters of tiles -/

theorem suited_iff_number {id : Int} : Suited id ↔ ∃ suit digit, id = numberId suit digit := by
  constructor
  · intro suited
    obtain ⟨first, last⟩ := suited
    rcases (by omega : id ≤ 9 ∨ 10 ≤ id ∧ id ≤ 18 ∨ 19 ≤ id) with low | middle | high
    · exact ⟨.m, ⟨(id - 1).toNat, by omega⟩, by simp [numberId, SuitLetter.base]; omega⟩
    · exact ⟨.s, ⟨(id - 10).toNat, by omega⟩, by simp [numberId, SuitLetter.base]; omega⟩
    · exact ⟨.p, ⟨(id - 19).toNat, by omega⟩, by simp [numberId, SuitLetter.base]; omega⟩
  · intro number
    obtain ⟨suit, digit, rfl⟩ := number
    cases suit <;> simp [Suited, numberId, SuitLetter.base] <;> omega

theorem rankNumber_numberId (suit : SuitLetter) (digit : Fin 9) :
    rankNumber (numberId suit digit) = digit + 1 := by
  cases suit <;> simp [rankNumber, numberId, SuitLetter.base] <;> omega

theorem honour_iff_letter {id : Int} : Honour id ↔ ∃ letter, id = honourId letter := by
  constructor
  · intro honour
    obtain ⟨first, last⟩ := honour
    exact ⟨⟨(id - 28).toNat, by omega⟩, by simp [honourId, tileE]; omega⟩
  · intro letter
    obtain ⟨letter, rfl⟩ := letter
    simp [Honour, honourId, tileE]
    omega

theorem tileChar_number (suit : SuitLetter) (digit : Fin 9) :
    (Tile.ofId (numberId suit digit)).tileChar = digitText digit ∧
      (Tile.ofId (numberId suit digit)).isShu = true ∧
      (Tile.ofId (numberId suit digit)).suitChar = suit.text := by
  revert digit
  cases suit <;> decide +kernel

theorem tileChar_honour (letter : Fin 7) :
    (Tile.ofId (honourId letter)).tileChar = honourText letter ∧
      (Tile.ofId (honourId letter)).isShu = false := by
  revert letter
  decide +kernel

theorem tileChar_flower (letter : Fin 8) :
    (Tile.ofId (flowerId letter)).tileChar = flowerText letter ∧
      (Tile.ofId (flowerId letter)).isShu = false := by
  revert letter
  decide +kernel

theorem tileChar_blank : (Tile.ofId 0).tileChar = ' ' ∧ (Tile.ofId 0).isShu = false := by
  decide +kernel

/-! ## Melds -/

/-- A run or a triplet was claimed; a kong may be concealed or be one that was added to. -/
inductive Pack.Written : Pack → Prop where
  | run {id offer : Int} (suited : Suited id) (inner : 2 ≤ rankNumber id ∧ rankNumber id ≤ 8)
      (claimed : 1 ≤ offer ∧ offer ≤ 3) : Written ⟨.shunzi, .ofId id, 0, offer⟩
  | triplet {id offer : Int} (inPlay : InPlay id) (claimed : 1 ≤ offer ∧ offer ≤ 3) :
      Written ⟨.kezi, .ofId id, 0, offer⟩
  | kong {id offer : Int} (inPlay : InPlay id)
      (offered : 0 ≤ offer ∧ offer ≤ 7 ∧ offer ≠ 4) : Written ⟨.gang, .ofId id, 0, offer⟩

theorem offerNumber_bounds (mark : Fin 6) :
    1 ≤ offerNumber mark ∧ offerNumber mark ≤ 7 ∧ offerNumber mark ≠ 4 := by
  revert mark
  decide

theorem exists_mark {offer : Int} (first : 1 ≤ offer) (last : offer ≤ 7) (other : offer ≠ 4) :
    ∃ mark, offerNumber mark = offer ∧ (toString offer).toList = [offerText mark] := by
  interval_cases offer
  · exact ⟨0, rfl, by decide⟩
  · exact ⟨1, rfl, by decide⟩
  · exact ⟨2, rfl, by decide⟩
  · exact absurd rfl other
  · exact ⟨3, rfl, by decide⟩
  · exact ⟨4, rfl, by decide⟩
  · exact ⟨5, rfl, by decide⟩

theorem Notation.MeldTiles.inPlay (tiles : MeldTiles) : InPlay tiles.ids.second := by
  cases tiles with
  | numbers digits suit => exact .inl (suited_iff_number.mpr ⟨suit, digits.second, rfl⟩)
  | honours letters => exact .inr (honour_iff_letter.mpr ⟨letters.second, rfl⟩)

theorem Notation.MeldTiles.offer_bounds (tiles : MeldTiles) (mark : Option (Fin 6)) :
    0 ≤ tiles.offer mark ∧ tiles.offer mark ≤ 7 ∧ tiles.offer mark ≠ 4 ∧
      (tiles.ids.fourth = none → 1 ≤ tiles.offer mark) := by
  unfold MeldTiles.offer
  cases mark with
  | some mark =>
      obtain ⟨first, last, other⟩ := offerNumber_bounds mark
      exact ⟨Int.le_trans (by decide) first, last, other, fun _ => first⟩
  | none =>
      cases tiles.ids.fourth with
      | none => simp
      | some fourth => simp

/-- The tiles between brackets make a meld of the notation, if they make one. -/
theorem Notation.MeldTiles.written {tiles : MeldTiles} {mark : Option (Fin 6)} {pack : Pack}
    (meant : tiles.meaning mark = .ok pack) : pack.Written := by
  obtain ⟨least, most, other, claimed⟩ := tiles.offer_bounds mark
  unfold MeldTiles.meaning at meant
  cases kind : tiles.kind (tiles.offer mark) with
  | error code =>
      rw [kind] at meant
      cases meant
  | ok type =>
      rw [kind] at meant
      cases meant
      unfold MeldTiles.kind at kind
      dsimp only at kind
      split at kind
      · rename_i three
        have least := claimed three
        split at kind
        · cases kind
        · rename_i notAdded
          split at kind
          · rename_i row
            cases kind
            cases tiles with
            | honours letters => cases row.1
            | numbers digits suit =>
                refine .run (suited_iff_number.mpr ⟨suit, digits.second, rfl⟩) ?_ ⟨least, by omega⟩
                obtain ⟨_, second, third⟩ := row
                change numberId suit digits.second = numberId suit digits.first + 1 at second
                change numberId suit digits.third = numberId suit digits.second + 1 at third
                change 2 ≤ rankNumber (numberId suit digits.second) ∧
                  rankNumber (numberId suit digits.second) ≤ 8
                rw [rankNumber_numberId]
                unfold numberId at second third
                omega
          · split at kind
            · cases kind
              exact .triplet tiles.inPlay ⟨least, by omega⟩
            · cases kind
      · split at kind
        · cases kind
          exact .kong tiles.inPlay ⟨least, most, other⟩
        · cases kind

theorem Notation.Quad.toList_map {Letter Image : Type} (change : Letter → Image)
    (quad : Quad Letter) : (quad.map change).toList = quad.toList.map change := by
  obtain ⟨first, second, third, fourth⟩ := quad
  cases fourth <;> rfl

/-- Tiles between brackets are written letter by letter, and numbers with their suit. -/
theorem Notation.MeldTiles.text_eq (tiles : MeldTiles) :
    tiles.text = tiles.ids.toList.map (fun id => (Tile.ofId id).tileChar) ++
      (if (Tile.ofId tiles.ids.second).isShu then [(Tile.ofId tiles.ids.second).suitChar]
        else []) := by
  cases tiles with
  | numbers digits suit =>
      obtain ⟨_, isShu, suitChar⟩ := tileChar_number suit digits.second
      have middle : (MeldTiles.numbers digits suit).ids.second = numberId suit digits.second := rfl
      rw [middle, isShu, suitChar, MeldTiles.ids, Quad.toList_map, List.map_map, MeldTiles.text]
      refine congrArg (· ++ [suit.text]) (List.map_congr_left fun digit _ => ?_)
      exact (tileChar_number suit digit).1.symm
  | honours letters =>
      have middle : (MeldTiles.honours letters).ids.second = honourId letters.second := rfl
      rw [middle, (tileChar_honour letters.second).2, MeldTiles.ids, Quad.toList_map, List.map_map,
        MeldTiles.text]
      refine (List.map_congr_left fun letter _ => ?_).trans (List.append_nil _).symm
      exact (tileChar_honour letter).1.symm

theorem fuluText_eq {pack : Pack} {tiles : MeldTiles} {mark : Option (Fin 6)}
    (all : pack.getAllTile = tiles.ids.toList.map Tile.ofId)
    (middle : pack.tile = .ofId tiles.ids.second)
    (offered : (if pack.offer ≠ 0 then ',' :: (toString pack.offer).toList else []) =
      markText mark) :
    fuluText pack = (Item.meld tiles mark).text := by
  rw [fuluText, all, middle, offered, Item.text, tiles.text_eq, List.map_map]
  simp only [List.cons_append, List.append_assoc]
  rfl

theorem exists_markText {offer : Int} (first : 0 ≤ offer) (last : offer ≤ 7) (other : offer ≠ 4) :
    ∃ mark, (if offer ≠ 0 then ',' :: (toString offer).toList else []) = markText mark ∧
      ∀ default, (offer = 0 → default = 0) → mark.elim default offerNumber = offer := by
  by_cases concealed : offer = 0
  · subst concealed
    exact ⟨none, rfl, fun default zero => zero rfl⟩
  · obtain ⟨mark, number, text⟩ := exists_mark (by omega) last other
    refine ⟨some mark, ?_, fun _ _ => number⟩
    rw [if_pos concealed, text]
    rfl

/-- Any tile in play stands between brackets three or four times. -/
theorem exists_sameTiles {id : Int} (inPlay : InPlay id) (fourth : Option Unit) :
    ∃ tiles : MeldTiles, tiles.ids = ⟨id, id, id, fourth.map fun _ => id⟩ := by
  cases inPlay with
  | inl suited =>
      obtain ⟨suit, digit, rfl⟩ := suited_iff_number.mp suited
      refine ⟨.numbers ⟨digit, digit, digit, fourth.map fun _ => digit⟩ suit, ?_⟩
      cases fourth <;> rfl
  | inr honour =>
      obtain ⟨letter, rfl⟩ := honour_iff_letter.mp honour
      refine ⟨.honours ⟨letter, letter, letter, fourth.map fun _ => letter⟩, ?_⟩
      cases fourth <;> rfl

theorem Notation.MeldTiles.meaning_eq {tiles : MeldTiles} {mark : Option (Fin 6)} {offer : Int}
    {type : PackType} (offered : tiles.offer mark = offer) (kind : tiles.kind offer = .ok type) :
    tiles.meaning mark = .ok ⟨type, .ofId tiles.ids.second, 0, offer⟩ := by
  rw [MeldTiles.meaning, offered, kind]
  rfl

/-- A meld of the notation is read back from what is written for it. -/
theorem Pack.Written.exists_text {pack : Pack} (written : pack.Written) :
    ∃ tiles mark, fuluText pack = (Item.meld tiles mark).text ∧ tiles.meaning mark = .ok pack := by
  cases written with
  | @run id offer suited inner claimed =>
      obtain ⟨suit, digit, rfl⟩ := suited_iff_number.mp suited
      rw [rankNumber_numberId] at inner
      obtain ⟨least, most⟩ := claimed
      obtain ⟨mark, text, number⟩ :=
        exists_markText (Int.le_trans (by decide) least) (Int.le_trans most (by decide)) (by omega)
      let before : Fin 9 := ⟨digit - 1, by omega⟩
      let after : Fin 9 := ⟨digit + 1, by omega⟩
      have first : numberId suit before = numberId suit digit - 1 := by
        simp only [numberId, before]
        omega
      have third : numberId suit after = numberId suit digit + 1 := by
        simp only [numberId, after]
        omega
      let tiles : MeldTiles := .numbers ⟨before, digit, after, .none⟩ suit
      have ids : tiles.ids =
          ⟨numberId suit digit - 1, numberId suit digit, numberId suit digit + 1, .none⟩ := by
        rw [← first, ← third]
        rfl
      refine ⟨tiles, mark, fuluText_eq ?_ rfl text, ?_⟩
      · rw [ids]
        rfl
      · refine MeldTiles.meaning_eq (number 1 (by omega)) ?_
        have notAdded : ¬ 3 < offer := by omega
        simp [MeldTiles.kind, ids, notAdded, tiles, MeldTiles.numbered]
  | @triplet id offer inPlay claimed =>
      obtain ⟨least, most⟩ := claimed
      obtain ⟨mark, text, number⟩ :=
        exists_markText (Int.le_trans (by decide) least) (Int.le_trans most (by decide)) (by omega)
      obtain ⟨tiles, ids⟩ := exists_sameTiles inPlay .none
      refine ⟨tiles, mark, fuluText_eq ?_ ?_ text, ?_⟩
      · rw [ids]
        rfl
      · rw [ids]
      · have offered : tiles.offer mark = offer := by
          rw [MeldTiles.offer, ids]
          exact number 1 (by omega)
        have notAdded : ¬ 3 < offer := by omega
        have kind : tiles.kind offer = .ok .kezi := by
          simp [MeldTiles.kind, ids, notAdded]
        rw [MeldTiles.meaning_eq offered kind, ids]
  | @kong id offer inPlay offered =>
      obtain ⟨least, most, other⟩ := offered
      obtain ⟨mark, text, number⟩ := exists_markText least most other
      obtain ⟨tiles, ids⟩ := exists_sameTiles inPlay (some ())
      refine ⟨tiles, mark, fuluText_eq ?_ ?_ text, ?_⟩
      · rw [ids]
        rfl
      · rw [ids]
      · have offered : tiles.offer mark = offer := by
          rw [MeldTiles.offer, ids]
          exact number 0 fun _ => rfl
        have kind : tiles.kind offer = .ok .gang := by
          simp [MeldTiles.kind, ids]
        rw [MeldTiles.meaning_eq offered kind, ids]

/-! ## Standing tiles -/

theorem flower_iff_letter {id : Int} :
    tileMei ≤ id ∧ id ≤ tileDong ↔ ∃ letter, id = flowerId letter := by
  unfold tileMei tileDong flowerId tileMei
  constructor
  · intro bounds
    exact ⟨⟨(id - 35).toNat, by omega⟩, by simp only; omega⟩
  · intro named
    obtain ⟨letter, rfl⟩ := named
    omega

/-- Every tile of a hand is a number, an honour or a flower, and one place may be empty. -/
theorem tile_kinds {id : Int} (first : 0 ≤ id) (last : id ≤ tileDong) :
    id = 0 ∨ (∃ suit digit, id = numberId suit digit) ∨ (∃ letter, id = honourId letter) ∨
      ∃ letter, id = flowerId letter := by
  rw [← suited_iff_number, ← honour_iff_letter, ← flower_iff_letter]
  unfold Suited Honour
  unfold tileDong tileMei at *
  omega

theorem withoutBlanks_cons {c : Char} {word : List Char} (shown : c ≠ ' ') :
    withoutBlanks (c :: word) = c :: withoutBlanks word :=
  List.filter_cons_of_pos (by simpa using shown)

theorem withoutBlanks_append (word other : List Char) :
    withoutBlanks (word ++ other) = withoutBlanks word ++ withoutBlanks other :=
  List.filter_append word other

theorem digitText_shown (digit : Fin 9) : digitText digit ≠ ' ' := by
  revert digit
  decide

theorem honourText_shown (letter : Fin 7) : honourText letter ≠ ' ' := by
  revert letter
  decide

theorem flowerText_shown (letter : Fin 8) : flowerText letter ≠ ' ' := by
  revert letter
  decide

theorem windText_shown (wind : Fin 4) : windText wind ≠ ' ' := by
  revert wind
  decide

theorem flagChar_shown (flag : Bool) : flagChar flag ≠ ' ' := by
  cases flag <;> decide

theorem offerText_shown (mark : Fin 6) : offerText mark ≠ ' ' := by
  revert mark
  decide

theorem suitText_shown (suit : SuitLetter) : suit.text ≠ ' ' := by
  cases suit <;> decide

/-- The items are written with the letters, and stand for the tiles. -/
structure Spells (items : List Item) (letters : List Char) (ids : List Int) : Prop where
  text : items.flatMap Item.text = letters
  ids : items.flatMap Item.ids = ids
  packs : ∀ item ∈ items, item.packs = .ok []

theorem Spells.append {items others : List Item} {letters later : List Char}
    {ids further : List Int} (spells : Spells items letters ids)
    (rest : Spells others later further) :
    Spells (items ++ others) (letters ++ later) (ids ++ further) := by
  constructor
  · rw [List.flatMap_append, spells.text, rest.text]
  · rw [List.flatMap_append, spells.ids, rest.ids]
  · exact List.forall_mem_append.mpr ⟨spells.packs, rest.packs⟩

theorem spells_nil : Spells [] [] [] :=
  ⟨rfl, rfl, List.forall_mem_nil _⟩

theorem spells_one (item : Item) (packs : item.packs = .ok []) : Spells [item] item.text item.ids :=
  ⟨by simp, by simp, by simpa using packs⟩

/-- Numbers that are written and still wait for the letter of their suit. -/
def Pending (numbered : Option Tile) (letters : List Char) (ids : List Int) : Prop :=
  match numbered with
  | none => letters = [] ∧ ids = []
  | some previous => ∃ (suit : SuitLetter) (first : Fin 9) (rest : List (Fin 9)),
      letters = (first :: rest).map digitText ∧ ids = (first :: rest).map (numberId suit) ∧
        ∃ digit, previous.tile = numberId suit digit

/-- The letter that the numbers wait for. -/
def pendingSuit (numbered : Option Tile) : List Char :=
  (numbered.map Tile.suitChar).toList

theorem Pending.spells {numbered : Option Tile} {letters : List Char} {ids : List Int}
    (pending : Pending numbered letters ids) :
    ∃ items, Spells items (letters ++ withoutBlanks (pendingSuit numbered)) ids := by
  cases numbered with
  | none =>
      obtain ⟨rfl, rfl⟩ := pending
      exact ⟨[], spells_nil⟩
  | some previous =>
      obtain ⟨suit, first, rest, rfl, rfl, digit, number⟩ := pending
      have letter : previous.suitChar = suit.text := by
        rw [← (tileChar_number suit digit).2.2, ← number]
        rfl
      rw [pendingSuit, Option.map_some, letter, Option.toList_some,
        withoutBlanks_cons (suitText_shown suit)]
      exact ⟨[.numbers first rest suit], spells_one (.numbers first rest suit) rfl⟩

theorem suit_number (suit : SuitLetter) (digit : Fin 9) :
    (Tile.ofId (numberId suit digit)).suit =
      match suit with
      | .m => Suit.wan
      | .s => Suit.tiao
      | .p => Suit.bing := by
  revert digit
  cases suit <;> decide +kernel

theorem same_suit {tile other : Tile} {suit otherSuit : SuitLetter} {digit otherDigit : Fin 9}
    (number : tile.tile = numberId suit digit) (otherNumber : other.tile = numberId otherSuit otherDigit)
    (same : tile.suit = other.suit) : suit = otherSuit := by
  have first := suit_number suit digit
  have second := suit_number otherSuit otherDigit
  rw [← number] at first
  rw [← otherNumber] at second
  change tile.suit = _ at first
  change other.suit = _ at second
  rw [first, second] at same
  cases suit <;> cases otherSuit <;> first | rfl | cases same

theorem lipaiText_nil (fuluSize i : Nat) (numbered : Option Tile) :
    lipaiText fuluSize i numbered [] = pendingSuit numbered := by
  cases numbered <;> rfl

/-- The suit of the numbers so far is written unless the next tile goes on with them. -/
theorem lipaiText_cons (fuluSize i : Nat) (numbered : Option Tile) (tile : Tile)
    (rest : List Tile) :
    lipaiText fuluSize i numbered (tile :: rest) =
        pendingSuit numbered ++ lipaiText fuluSize i none (tile :: rest) ∨
      ∃ previous, numbered = some previous ∧ tile.isShu = true ∧ tile.suit = previous.suit ∧
        lipaiText fuluSize i numbered (tile :: rest) =
          tile.tileChar :: lipaiText fuluSize (i + 1) (some tile) rest := by
  cases numbered with
  | none => exact .inl rfl
  | some previous =>
      by_cases ended : i + 1 + fuluSize * 3 = 14 ∨ tile.isShu = false ∨ tile.suit ≠ previous.suit
      · left
        rw [lipaiText, if_pos ended]
        rfl
      · right
        rw [not_or, not_or, Bool.not_eq_false, not_not] at ended
        obtain ⟨notLast, isShu, same⟩ := ended
        refine ⟨previous, rfl, isShu, same, ?_⟩
        rw [lipaiText, if_neg (by simp [notLast, isShu, same]), isShu]
        rfl

theorem number_of_isShu {tile : Tile} (inside : 0 ≤ tile.tile ∧ tile.tile ≤ tileDong)
    (isShu : tile.isShu = true) : ∃ suit digit, tile.tile = numberId suit digit := by
  change (Tile.ofId tile.tile).isShu = true at isShu
  rcases tile_kinds inside.1 inside.2 with blank | number | ⟨letter, honour⟩ | ⟨letter, flower⟩
  · rw [blank, tileChar_blank.2] at isShu
    cases isShu
  · exact number
  · rw [honour, (tileChar_honour letter).2] at isShu
    cases isShu
  · rw [flower, (tileChar_flower letter).2] at isShu
    cases isShu

theorem Pending.extend {previous tile : Tile} {letters : List Char} {ids : List Int}
    {suit : SuitLetter} {digit : Fin 9} (pending : Pending (some previous) letters ids)
    (number : tile.tile = numberId suit digit) (same : tile.suit = previous.suit) :
    Pending (some tile) (letters ++ [digitText digit]) (ids ++ [numberId suit digit]) := by
  obtain ⟨before, first, rest, rfl, rfl, other, otherNumber⟩ := pending
  obtain rfl := same_suit number otherNumber same
  refine ⟨suit, first, rest ++ [digit], ?_, ?_, digit, number⟩
  · simp
  · simp

/-- The tiles that are there. -/
def present (tiles : List Tile) : List Int :=
  (tiles.map Tile.getId).filter (· ≠ 0)

theorem present_cons {tile : Tile} {rest : List Tile} (there : tile.tile ≠ 0) :
    present (tile :: rest) = tile.tile :: present rest :=
  List.filter_cons_of_pos (decide_eq_true there)

/-- Whatever is pending, the standing tiles are written as items. The induction is on the
tiles that are left. -/
theorem exists_items (fuluSize : Nat) (tiles : List Tile) (i : Nat) {numbered : Option Tile}
    {letters : List Char} {ids : List Int} (pending : Pending numbered letters ids)
    (inside : ∀ tile ∈ tiles, 0 ≤ tile.tile ∧ tile.tile ≤ tileDong) :
    ∃ items, Spells items (letters ++ withoutBlanks (lipaiText fuluSize i numbered tiles))
      (ids ++ present tiles) := by
  induction tiles generalizing i numbered letters ids with
  | nil =>
      rw [lipaiText_nil, present, List.map_nil, List.filter_nil, List.append_nil]
      exact pending.spells
  | cons tile rest ih =>
      obtain ⟨here, inside⟩ := List.forall_mem_cons.mp inside
      rcases lipaiText_cons fuluSize i numbered tile rest with ended | ⟨previous, rfl, isShu, same, text⟩
      · obtain ⟨before, spells⟩ := pending.spells
        suffices fresh : ∃ items, Spells items
            (withoutBlanks (lipaiText fuluSize i none (tile :: rest))) (present (tile :: rest)) by
          obtain ⟨items, later⟩ := fresh
          refine ⟨before ++ items, ?_⟩
          rw [ended, withoutBlanks_append, ← List.append_assoc]
          exact spells.append later
        have step : lipaiText fuluSize i none (tile :: rest) = (Tile.ofId tile.tile).tileChar ::
            lipaiText fuluSize (i + 1) (if (Tile.ofId tile.tile).isShu then some tile else none)
              rest := rfl
        have nothing : Pending none [] [] := ⟨rfl, rfl⟩
        obtain ⟨items, later⟩ := ih (i + 1) nothing inside
        rw [step]
        rcases tile_kinds here.1 here.2 with
          blank | ⟨suit, digit, number⟩ | ⟨letter, honour⟩ | ⟨letter, flower⟩
        · have gone : present (tile :: rest) = present rest :=
            List.filter_cons_of_neg fun there => of_decide_eq_true there blank
          rw [gone, blank, tileChar_blank.1, tileChar_blank.2]
          exact ⟨items, later⟩
        · have there : tile.tile ≠ 0 := by
            rw [number]
            cases suit <;> simp [numberId, SuitLetter.base] <;> omega
          have held : Pending (some tile) [digitText digit] [numberId suit digit] :=
            ⟨suit, digit, [], rfl, rfl, digit, number⟩
          rw [present_cons there, number, (tileChar_number suit digit).1,
            (tileChar_number suit digit).2.1, withoutBlanks_cons (digitText_shown digit)]
          exact ih (i + 1) held inside
        · have there : tile.tile ≠ 0 := by
            rw [honour, honourId, tileE]
            omega
          rw [present_cons there, honour, (tileChar_honour letter).1, (tileChar_honour letter).2,
            withoutBlanks_cons (honourText_shown letter)]
          exact ⟨_, (spells_one (.honour letter) rfl).append later⟩
        · have there : tile.tile ≠ 0 := by
            rw [flower, flowerId, tileMei]
            omega
          rw [present_cons there, flower, (tileChar_flower letter).1, (tileChar_flower letter).2,
            withoutBlanks_cons (flowerText_shown letter)]
          exact ⟨_, (spells_one (.flower letter) rfl).append later⟩
      · obtain ⟨suit, digit, number⟩ := number_of_isShu here isShu
        have there : tile.tile ≠ 0 := by
          rw [number]
          cases suit <;> simp [numberId, SuitLetter.base] <;> omega
        have char : tile.tileChar = digitText digit := by
          rw [← (tileChar_number suit digit).1, ← number]
          rfl
        obtain ⟨items, spells⟩ := ih (i + 1) (pending.extend number same) inside
        refine ⟨items, ?_⟩
        rw [text, char, withoutBlanks_cons (digitText_shown digit), present_cons there, number]
        simpa using spells

/-! ## Items one after another -/

theorem Notation.MeldTiles.shown (tiles : MeldTiles) : ∀ c ∈ tiles.text, c ≠ ' ' := by
  cases tiles with
  | numbers digits suit =>
      refine List.forall_mem_append.mpr ⟨?_, List.forall_mem_singleton.mpr (suitText_shown suit)⟩
      exact List.forall_mem_map.mpr fun digit _ => digitText_shown digit
  | honours letters => exact List.forall_mem_map.mpr fun letter _ => honourText_shown letter

theorem meld_shown (tiles : MeldTiles) (mark : Option (Fin 6)) :
    withoutBlanks (Item.meld tiles mark).text = (Item.meld tiles mark).text := by
  have marked : ∀ c ∈ markText mark, c ≠ ' ' := by
    cases mark with
    | none => exact List.forall_mem_nil _
    | some mark =>
        exact List.forall_mem_cons.mpr
          ⟨by decide, List.forall_mem_singleton.mpr (offerText_shown mark)⟩
  refine List.filter_eq_self.mpr fun c member => bne_iff_ne.mpr ?_
  revert c
  refine List.forall_mem_cons.mpr ⟨by decide, List.forall_mem_append.mpr ⟨tiles.shown, ?_⟩⟩
  exact List.forall_mem_append.mpr ⟨marked, List.forall_mem_singleton.mpr (by decide)⟩

/-- The melds are written one after another. -/
theorem exists_melds {packs : List Pack} (written : ∀ pack ∈ packs, pack.Written) :
    ∃ items : List Item, items.flatMap Item.text = withoutBlanks (packs.flatMap fuluText) ∧
      items.flatMap Item.ids = [] ∧ items.mapM Item.packs = .ok (packs.map fun pack => [pack]) := by
  induction packs with
  | nil => exact ⟨[], rfl, rfl, rfl⟩
  | cons pack packs ih =>
      obtain ⟨here, later⟩ := List.forall_mem_cons.mp written
      obtain ⟨tiles, mark, text, meant⟩ := here.exists_text
      obtain ⟨items, texts, ids, all⟩ := ih later
      refine ⟨.meld tiles mark :: items, ?_, ?_, ?_⟩
      · rw [List.flatMap_cons, List.flatMap_cons, withoutBlanks_append, text, meld_shown, texts]
      · rw [List.flatMap_cons, ids]
        rfl
      · rw [List.mapM_cons, all, Item.packs, meant]
        rfl

theorem Spells.mapM_packs {items : List Item} {letters : List Char} {ids : List Int}
    (spells : Spells items letters ids) :
    items.mapM Item.packs = .ok (items.map fun _ => []) := by
  have packs := spells.packs
  clear spells
  induction items with
  | nil => rfl
  | cons item items ih =>
      obtain ⟨here, later⟩ := List.forall_mem_cons.mp packs
      rw [List.mapM_cons, here, ih later]
      rfl

end GbMahjong.Mahjong
