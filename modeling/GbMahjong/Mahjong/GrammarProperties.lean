import GbMahjong.Mahjong.Grammar

/-! `StringToHandtiles` accepts the texts of the grammar, and reads each as what it means. -/

set_option autoImplicit false

namespace GbMahjong.Mahjong.Notation

open GbMahjong.Library

/-! ## The letters of the pattern -/

variable {c : Char} {word : List Char}

theorem mem_digitChars : c ∈ digitChars ↔ c ∈ Set.range digitText := by
  rw [show digitChars = (List.finRange 9).map digitText by decide, List.mem_map]
  simp

theorem mem_windChars : c ∈ windChars ↔ c ∈ Set.range windText := by
  rw [show windChars = (List.finRange 4).map windText by decide, List.mem_map]
  simp

theorem mem_honourChars : c ∈ honourChars ↔ c ∈ Set.range honourText := by
  rw [show honourChars = (List.finRange 7).map honourText by decide, List.mem_map]
  simp

theorem mem_flowerChars : c ∈ flowerChars ↔ c ∈ Set.range flowerText := by
  rw [show flowerChars = (List.finRange 8).map flowerText by decide, List.mem_map]
  simp

theorem mem_offerChars : c ∈ ['1', '2', '3', '5', '6', '7'] ↔ c ∈ Set.range offerText := by
  rw [show ['1', '2', '3', '5', '6', '7'] = (List.finRange 6).map offerText by decide,
    List.mem_map]
  simp

theorem mem_countChars :
    c ∈ '0' :: digitChars.take 8 ↔ ∃ count : Fin 9, Char.ofNat ('0'.toNat + count) = c := by
  rw [show '0' :: digitChars.take 8 =
    (List.finRange 9).map fun count => Char.ofNat ('0'.toNat + count) by decide, List.mem_map]
  simp

theorem mem_suitChars : c ∈ suitChars ↔ ∃ suit : SuitLetter, suit.text = c := by
  rw [show suitChars = [SuitLetter.m, .s, .p].map SuitLetter.text from rfl, List.mem_map]
  constructor
  · intro listed
    obtain ⟨suit, _, named⟩ := listed
    exact ⟨suit, named⟩
  · intro named
    obtain ⟨suit, named⟩ := named
    cases suit <;> exact ⟨_, by decide, named⟩

theorem mem_flagChars : c ∈ ['0', '1'] ↔ ∃ flag : Bool, flagChar flag = c := by
  simp [flagChar, Bool.exists_bool, eq_comm]

/-- Words over a class are the texts of lists of its letters. -/
theorem all_mem_iff {Letter : Type} {name : Letter → Char} {symbols : List Char}
    (named : ∀ {c}, c ∈ symbols ↔ c ∈ Set.range name) :
    (∀ c ∈ word, c ∈ symbols) ↔ ∃ letters : List Letter, letters.map name = word := by
  simp only [named]
  exact (Set.ext_iff.mp (Set.range_list_map name) word).symm

/-! ## The pattern's words -/

theorem mem_meldTiles {symbols : List Char} {Letter : Type} {name : Letter → Char}
    (named : ∀ {c}, c ∈ symbols ↔ c ∈ Set.range name) :
    word ∈ (Pattern.times (Pattern.oneOf symbols) 3 1).matches' ↔
      ∃ quad : Quad Letter, quad.toList.map name = word := by
  rw [Pattern.mem_times_oneOf, all_mem_iff named]
  constructor
  · intro bounded
    obtain ⟨enough, few, letters, rfl⟩ := bounded
    rw [List.length_map] at enough few
    obtain ⟨quad, rfl⟩ := Quad.exists_toList enough few
    exact ⟨quad, rfl⟩
  · intro text
    obtain ⟨quad, rfl⟩ := text
    rw [List.length_map]
    exact ⟨quad.toList_length.1, quad.toList_length.2, quad.toList, rfl⟩

theorem mem_meldPattern : word ∈ meldPattern.matches' ↔
    ∃ tiles mark, (Item.meld tiles mark).text = word := by
  simp only [meldPattern, Pattern.mem_mul, Pattern.mem_add, Pattern.mem_char,
    Pattern.mem_optional, Pattern.mem_oneOf, mem_meldTiles mem_digitChars,
    mem_meldTiles mem_honourChars, mem_suitChars, mem_offerChars]
  constructor
  · intro split
    obtain ⟨_, rfl, _, ⟨tiles, kind, _, ⟨mark, marked, _, rfl, rfl⟩, rfl⟩, rfl⟩ := split
    have named : ∃ meld : MeldTiles, meld.text = tiles := by
      rcases kind with ⟨_, ⟨digits, rfl⟩, _, ⟨_, ⟨suit, rfl⟩, rfl⟩, rfl⟩ | ⟨letters, rfl⟩
      · exact ⟨.numbers digits suit, rfl⟩
      · exact ⟨.honours letters, rfl⟩
    obtain ⟨meld, rfl⟩ := named
    rcases marked with rfl | ⟨_, rfl, _, ⟨_, ⟨offer, rfl⟩, rfl⟩, rfl⟩
    · exact ⟨meld, none, rfl⟩
    · exact ⟨meld, some offer, rfl⟩
  · intro text
    obtain ⟨tiles, mark, rfl⟩ := text
    refine ⟨['['], rfl, _, ⟨tiles.text, ?_, _, ⟨markText mark, ?_, [']'], rfl, rfl⟩, rfl⟩, rfl⟩
    · cases tiles with
      | numbers digits suit =>
          exact .inl ⟨_, ⟨digits, rfl⟩, _, ⟨_, ⟨suit, rfl⟩, rfl⟩, rfl⟩
      | honours letters => exact .inr ⟨letters, rfl⟩
    · cases mark with
      | none => exact .inl rfl
      | some offer => exact .inr ⟨_, rfl, _, ⟨_, ⟨offer, rfl⟩, rfl⟩, rfl⟩

theorem mem_numbers : word ∈ (Pattern.oneOrMore (Pattern.oneOf digitChars)).matches' ↔
    ∃ first rest, (first :: rest : List (Fin 9)).map digitText = word := by
  rw [Pattern.mem_oneOrMore_oneOf, all_mem_iff mem_digitChars]
  constructor
  · intro bounded
    obtain ⟨some, digits, rfl⟩ := bounded
    cases digits with
    | nil => exact absurd rfl some
    | cons first rest => exact ⟨first, rest, rfl⟩
  · intro text
    obtain ⟨first, rest, rfl⟩ := text
    exact ⟨List.cons_ne_nil _ _, _, rfl⟩

theorem mem_itemPattern : word ∈ (meldPattern + standingPattern).matches' ↔
    ∃ item : Item, item.text = word := by
  rw [Pattern.mem_add, mem_meldPattern, standingPattern, Pattern.mem_add, Pattern.mem_oneOf,
    Pattern.mem_mul]
  simp only [mem_numbers, Pattern.mem_oneOf, List.mem_append, mem_honourChars, mem_flowerChars,
    mem_suitChars]
  constructor
  · intro kind
    rcases kind with ⟨tiles, mark, rfl⟩ | ⟨_, ⟨letter, rfl⟩ | ⟨letter, rfl⟩, rfl⟩ |
      ⟨_, ⟨first, rest, rfl⟩, _, ⟨_, ⟨suit, rfl⟩, rfl⟩, rfl⟩
    · exact ⟨.meld tiles mark, rfl⟩
    · exact ⟨.honour letter, rfl⟩
    · exact ⟨.flower letter, rfl⟩
    · exact ⟨.numbers first rest suit, rfl⟩
  · intro text
    obtain ⟨item, rfl⟩ := text
    cases item with
    | meld tiles mark => exact .inl ⟨tiles, mark, rfl⟩
    | honour letter => exact .inr (.inl ⟨_, .inl ⟨letter, rfl⟩, rfl⟩)
    | flower letter => exact .inr (.inl ⟨_, .inr ⟨letter, rfl⟩, rfl⟩)
    | numbers first rest suit =>
        exact .inr (.inr ⟨_, ⟨first, rest, rfl⟩, _, ⟨_, ⟨suit, rfl⟩, rfl⟩, rfl⟩)

theorem mem_itemsPattern :
    word ∈ (Pattern.oneOrMore (meldPattern + standingPattern)).matches' ↔
      ∃ first rest, (first :: rest : List Item).flatMap Item.text = word := by
  rw [Pattern.mem_oneOrMore]
  simp only [mem_itemPattern]
  constructor
  · intro repeated
    obtain ⟨words, some, rfl, each⟩ := repeated
    obtain ⟨items, rfl⟩ := (Set.ext_iff.mp (Set.range_list_map Item.text) words).mpr each
    cases items with
    | nil => exact absurd rfl some
    | cons first rest => exact ⟨first, rest, rfl⟩
  · intro text
    obtain ⟨first, rest, rfl⟩ := text
    refine ⟨(first :: rest).map Item.text, List.cons_ne_nil _ _, rfl, ?_⟩
    rw [List.forall_mem_map]
    exact fun item _ => ⟨item, rfl⟩

theorem mem_circumstancesPattern : word ∈ circumstancesPattern.matches' ↔
    ∃ circumstances : Circumstances, circumstances.text = word := by
  have flags : ∀ {c}, c ∈ ['0', '1'] ↔ c ∈ Set.range flagChar := mem_flagChars
  rw [circumstancesPattern, Pattern.mem_mul]
  simp only [Pattern.mem_times_oneOf, all_mem_iff mem_windChars, all_mem_iff flags]
  constructor
  · intro split
    obtain ⟨_, ⟨two, noMore, winds, rfl⟩, _, ⟨four, noFlagMore, flags, rfl⟩, rfl⟩ := split
    rw [List.length_map] at two noMore four noFlagMore
    obtain ⟨quanfeng, menfeng, rfl⟩ := List.length_eq_two.mp (Nat.le_antisymm noMore two)
    obtain ⟨zimo, juezhang, haidi, gang, rfl⟩ : ∃ zimo juezhang haidi gang,
        flags = [zimo, juezhang, haidi, gang] := by
      match flags with
      | [zimo, juezhang, haidi, gang] => exact ⟨zimo, juezhang, haidi, gang, rfl⟩
      | [] | [_] | [_, _] | [_, _, _] | _ :: _ :: _ :: _ :: _ :: _ =>
          simp only [List.length_cons, List.length_nil] at four noFlagMore
          omega
    exact ⟨⟨quanfeng, menfeng, zimo, juezhang, haidi, gang⟩, rfl⟩
  · intro text
    obtain ⟨⟨quanfeng, menfeng, zimo, juezhang, haidi, gang⟩, rfl⟩ := text
    exact ⟨[windText quanfeng, windText menfeng],
      ⟨Nat.le_refl 2, Nat.le_refl 2, [quanfeng, menfeng], rfl⟩,
      [flagChar zimo, flagChar juezhang, flagChar haidi, flagChar gang],
      ⟨Nat.le_refl 4, Nat.le_refl 4, [zimo, juezhang, haidi, gang], rfl⟩, rfl⟩

theorem mem_flowersPattern : word ∈ flowersPattern.matches' ↔
    ∃ flowers : Flowers, flowers.text = word := by
  rw [flowersPattern, Pattern.mem_add, Pattern.mem_times_oneOf, all_mem_iff mem_flowerChars,
    Pattern.mem_oneOf]
  simp only [mem_countChars]
  constructor
  · intro kind
    rcases kind with ⟨_, few, letters, rfl⟩ | ⟨_, ⟨count, rfl⟩, rfl⟩
    · rw [List.length_map] at few
      exact ⟨.listed letters (by omega), rfl⟩
    · exact ⟨.counted count, rfl⟩
  · intro text
    obtain ⟨flowers, rfl⟩ := text
    cases flowers with
    | listed letters few =>
        refine .inl ⟨Nat.zero_le _, ?_, letters, rfl⟩
        rw [Flowers.text, List.length_map]
        omega
    | counted count => exact .inr ⟨_, ⟨count, rfl⟩, rfl⟩

/-- The pattern accepts the texts of the grammar. -/
theorem mem_handPattern : word ∈ handPattern.matches' ↔ ∃ text : HandText, text.text = word := by
  rw [handPattern, Pattern.mem_mul]
  simp only [mem_itemsPattern, Pattern.mem_optional, Pattern.mem_mul, Pattern.mem_char,
    mem_circumstancesPattern, mem_flowersPattern]
  constructor
  · intro split
    obtain ⟨_, ⟨first, rest, rfl⟩, _, ended, rfl⟩ := split
    rcases ended with rfl | ⟨_, rfl, _, ⟨_, ⟨circumstances, rfl⟩, _, flowered, rfl⟩, rfl⟩
    · exact ⟨⟨first, rest, none⟩, rfl⟩
    · rcases flowered with rfl | ⟨_, rfl, _, ⟨flowers, rfl⟩, rfl⟩
      · exact ⟨⟨first, rest, some (circumstances, none)⟩, rfl⟩
      · exact ⟨⟨first, rest, some (circumstances, some flowers)⟩, rfl⟩
  · intro text
    obtain ⟨⟨first, rest, circumstances⟩, rfl⟩ := text
    refine ⟨_, ⟨first, rest, rfl⟩, circumstancesText circumstances, ?_, rfl⟩
    match circumstances with
    | none => exact .inl rfl
    | some (circumstances, none) =>
        exact .inr ⟨_, rfl, _, ⟨_, ⟨circumstances, rfl⟩, _, .inl rfl, rfl⟩, rfl⟩
    | some (circumstances, some flowers) =>
        exact .inr ⟨_, rfl, _, ⟨_, ⟨circumstances, rfl⟩, _,
          .inr ⟨_, rfl, _, ⟨flowers, rfl⟩, rfl⟩, rfl⟩, rfl⟩

/-! ## The loop over a text -/

theorem digitOf_digitText (digit : Fin 9) : digitOf (digitText digit) = digit + 1 := by
  revert digit
  decide

theorem toNat_digitText (digit : Fin 9) : (digitText digit).toNat = digit + 49 := by
  revert digit
  decide

theorem digitText_inj {digit other : Fin 9} : digitText digit = digitText other ↔ digit = other := by
  revert digit other
  decide

theorem honourText_inj {letter other : Fin 7} :
    honourText letter = honourText other ↔ letter = other := by
  revert letter other
  decide

theorem mp_honourText (letter : Fin 7) : mp (honourText letter) = honourId letter := by
  revert letter
  decide

theorem mp_windText (wind : Fin 4) : mp (windText wind) = windId wind := by
  revert wind
  decide

theorem flagChar_ne_zero (flag : Bool) : (flagChar flag != '0') = flag := by
  cases flag <;> rfl

theorem mp_flowerText (letter : Fin 8) :
    mp 'a' + (flowerText letter).toNat - 'a'.toNat = flowerId letter := by
  revert letter
  decide

theorem mp_suitText (suit : SuitLetter) (digit : Fin 9) :
    mp suit.text - 1 + digitOf (digitText digit) = numberId suit digit := by
  rw [digitOf_digitText, numberId]
  cases suit <;> simp [SuitLetter.text, SuitLetter.base, mp, tile1m] <;> omega

theorem digitOf_offerText (mark : Fin 6) : digitOf (offerText mark) = offerNumber mark := by
  revert mark
  decide

section Letters

variable (reader : Reader)

theorem readChar_digit (digit : Fin 9) :
    reader.readChar (digitText digit) = .ok (reader.readDigit (digitText digit)) := by
  fin_cases digit <;> rfl

theorem readChar_honour (letter : Fin 7) :
    reader.readChar (honourText letter) = .ok (reader.readHonour (honourText letter)) := by
  fin_cases letter <;> rfl

theorem readChar_wind (wind : Fin 4) :
    reader.readChar (windText wind) = .ok (reader.readHonour (windText wind)) := by
  fin_cases wind <;> rfl

theorem readChar_flower (letter : Fin 8) :
    reader.readChar (flowerText letter) = .ok (reader.readFlower (flowerText letter)) := by
  fin_cases letter <;> rfl

theorem readChar_suit (suit : SuitLetter) :
    reader.readChar suit.text = .ok (reader.readSuit suit.text) := by
  cases suit <;> rfl

theorem readChar_offer (mark : Fin 6) :
    reader.readChar (offerText mark) = .ok (reader.readDigit (offerText mark)) := by
  fin_cases mark <;> rfl

theorem readChar_flag (flag : Bool) :
    reader.readChar (flagChar flag) = .ok (reader.readDigit (flagChar flag)) := by
  cases flag <;> rfl

theorem readChar_count (count : Fin 9) :
    reader.readChar (Char.ofNat ('0'.toNat + count)) =
      .ok (reader.readDigit (Char.ofNat ('0'.toNat + count))) := by
  fin_cases count <;> rfl

end Letters

/-- The loop between two items. -/
def between (handtiles : Handtiles) (offer : Int) : Reader :=
  { Reader.new with handtiles := handtiles, offer := offer }

/-- The loop inside a pair of brackets. -/
def inside (handtiles : Handtiles) (mark : Option (Fin 6)) (offer : Int) (nums chars : List Char)
    (charSuit : Char) : Reader :=
  { between handtiles (mark.elim offer offerNumber) with
    isFulu := true
    handleOffer := mark.isSome
    nums := nums
    chars := chars
    charSuit := charSuit }

section Loop

variable {reader next : Reader} {later : List Char}

theorem read_cons (read : reader.readChar c = .ok next) :
    (c :: word).foldlM Reader.readChar reader = word.foldlM Reader.readChar next := by
  rw [List.foldlM_cons, read]
  rfl

theorem read_append (read : word.foldlM Reader.readChar reader = .ok next) :
    (word ++ later).foldlM Reader.readChar reader = later.foldlM Reader.readChar next := by
  rw [List.foldlM_append, read]
  rfl

theorem read_digits (digits : List (Fin 9)) (first : reader.part = 0)
    (unmarked : (reader.isFulu && reader.handleOffer) = false) :
    (digits.map digitText).foldlM Reader.readChar reader =
      .ok { reader with nums := reader.nums ++ digits.map digitText } := by
  induction digits generalizing reader with
  | nil => simp [pure, Except.pure]
  | cons digit digits ih =>
      have here : reader.readDigit (digitText digit) =
          { reader with nums := reader.nums ++ [digitText digit] } := by
        simp [Reader.readDigit, first, unmarked]
      rw [List.map_cons, read_cons (readChar_digit reader digit), here]
      refine (ih ?_ ?_).trans ?_
      · exact first
      · exact unmarked
      · rw [List.append_assoc, List.singleton_append]

theorem read_honours (letters : List (Fin 7)) (first : reader.part = 0)
    (opened : reader.isFulu = true) (some : letters ≠ []) :
    (letters.map honourText).foldlM Reader.readChar reader =
      .ok { reader with
        chars := reader.chars ++ letters.map honourText
        charSuit := 'z' } := by
  induction letters generalizing reader with
  | nil => exact absurd rfl some
  | cons letter letters ih =>
      have here : reader.readHonour (honourText letter) =
          { reader with chars := reader.chars ++ [honourText letter], charSuit := 'z' } := by
        simp [Reader.readHonour, first, opened]
      rw [List.map_cons, read_cons (readChar_honour reader letter), here]
      cases letters with
      | nil => rfl
      | cons next letters =>
          refine (ih ?_ ?_ (List.cons_ne_nil _ _)).trans ?_
          · exact first
          · exact opened
          · rw [List.append_assoc, List.singleton_append]

end Loop

variable (handtiles : Handtiles) (offer : Int)

theorem read_mark (mark : Option (Fin 6)) (nums chars : List Char) (charSuit : Char) :
    (markText mark).foldlM Reader.readChar (inside handtiles none offer nums chars charSuit) =
      .ok (inside handtiles mark offer nums chars charSuit) := by
  cases mark with
  | none => rfl
  | some mark =>
      rw [markText, read_cons rfl, read_cons (readChar_offer _ mark)]
      simp [Reader.readDigit, inside, between, Reader.new, digitOf_offerText, pure, Except.pure]

/-! ## The loop over a meld -/

/-- The digits that the loop holds at the closing bracket. -/
def MeldTiles.nums : MeldTiles → List Char
  | .numbers digits _ => digits.toList.map digitText
  | .honours _ => []

def MeldTiles.chars : MeldTiles → List Char
  | .numbers _ _ => []
  | .honours letters => letters.toList.map honourText

def MeldTiles.charSuit : MeldTiles → Char
  | .numbers _ suit => suit.text
  | .honours _ => 'z'

theorem read_meldTiles (tiles : MeldTiles) :
    tiles.text.foldlM Reader.readChar (inside handtiles none offer [] [] '\x00') =
      .ok (inside handtiles none offer tiles.nums tiles.chars tiles.charSuit) := by
  cases tiles with
  | numbers digits suit =>
      rw [MeldTiles.text, read_append (read_digits digits.toList rfl rfl),
        read_cons (readChar_suit _ suit)]
      rfl
  | honours letters => exact read_honours letters.toList rfl rfl (List.cons_ne_nil _ _)

theorem meldType_numbers (digits : Quad (Fin 9)) (suit : SuitLetter) :
    Reader.meldType false (digits.toList.map digitText) offer =
      (MeldTiles.numbers digits suit).kind offer := by
  obtain ⟨first, second, third, fourth⟩ := digits
  have row (one two : Fin 9) : numberId suit two = numberId suit one + 1 ↔
      (digitText one).toNat + 1 = (digitText two).toNat := by
    rw [toNat_digitText, toNat_digitText, numberId, numberId]
    omega
  have same (one two : Fin 9) : numberId suit two = numberId suit one ↔
      digitText two = digitText one := by
    rw [digitText_inj, numberId, numberId]
    omega
  cases fourth with
  | none =>
      simp [Reader.meldType, MeldTiles.kind, MeldTiles.ids, MeldTiles.numbered, Quad.map,
        Quad.toList, row, same, eq_comm]
  | some fourth =>
      simp [Reader.meldType, MeldTiles.kind, MeldTiles.ids, Quad.map, Quad.toList, same]

theorem meldType_honours (letters : Quad (Fin 7)) :
    Reader.meldType true (letters.toList.map honourText) offer =
      (MeldTiles.honours letters).kind offer := by
  obtain ⟨first, second, third, fourth⟩ := letters
  have same (one two : Fin 7) : honourId two = honourId one ↔
      honourText two = honourText one := by
    rw [honourText_inj, honourId, honourId]
    omega
  cases fourth with
  | none =>
      simp [Reader.meldType, MeldTiles.kind, MeldTiles.ids, MeldTiles.numbered, Quad.map,
        Quad.toList, same]
  | some fourth =>
      simp [Reader.meldType, MeldTiles.kind, MeldTiles.ids, Quad.map, Quad.toList, same]

theorem meldOffer_inside (tiles : MeldTiles) (mark : Option (Fin 6)) :
    (inside handtiles mark offer tiles.nums tiles.chars tiles.charSuit).meldOffer =
      tiles.offer mark := by
  cases mark with
  | some mark => rfl
  | none =>
      cases tiles with
      | numbers digits suit =>
          obtain ⟨first, second, third, fourth⟩ := digits
          cases fourth <;> rfl
      | honours letters =>
          obtain ⟨first, second, third, fourth⟩ := letters
          cases fourth <;> rfl

theorem meldCode_inside (tiles : MeldTiles) (mark : Option (Fin 6)) :
    (inside handtiles mark offer tiles.nums tiles.chars tiles.charSuit).meldCode =
      tiles.ids.second := by
  cases tiles with
  | numbers digits suit => exact mp_suitText suit digits.second
  | honours letters => exact mp_honourText letters.second

theorem meldType_inside (tiles : MeldTiles) (mark : Option (Fin 6)) :
    Reader.meldType tiles.nums.isEmpty
      (inside handtiles mark offer tiles.nums tiles.chars tiles.charSuit).meldTiles
        (tiles.offer mark) = tiles.kind (tiles.offer mark) := by
  cases tiles with
  | numbers digits suit => exact meldType_numbers _ digits suit
  | honours letters => exact meldType_honours _ letters

/-- A closing bracket adds the meld, or fails with the meld's error. -/
theorem closeMeld_eq (tiles : MeldTiles) (mark : Option (Fin 6)) :
    (inside handtiles mark offer tiles.nums tiles.chars tiles.charSuit).closeMeld =
      (tiles.meaning mark).map fun pack =>
        between { handtiles with fulu := handtiles.fulu ++ [pack] } (tiles.offer mark) := by
  rw [Reader.closeMeld, meldOffer_inside, meldCode_inside, MeldTiles.meaning,
    show (inside handtiles mark offer tiles.nums tiles.chars tiles.charSuit).nums =
      tiles.nums from rfl, meldType_inside]
  cases tiles with
  | numbers digits suit => cases (MeldTiles.numbers digits suit).kind _ <;> rfl
  | honours letters => cases (MeldTiles.honours letters).kind _ <;> rfl

/-! ## The loop over items -/

/-- The hand with the melds and the tiles of an item. -/
def Handtiles.extended (handtiles : Handtiles) (packs : List Pack) (ids : List Int) : Handtiles :=
  { handtiles with
    fulu := handtiles.fulu ++ packs
    lipai := handtiles.lipai ++ ids.map Tile.ofId }

theorem read_item (item : Item) : ∃ after,
    item.text.foldlM Reader.readChar (between handtiles offer) =
      item.packs.map fun packs => between (Handtiles.extended handtiles packs item.ids) after := by
  cases item with
  | meld tiles mark =>
      refine ⟨tiles.offer mark, ?_⟩
      have opened : (between handtiles offer).readChar '[' =
          .ok (inside handtiles none offer [] [] '\x00') := rfl
      have closed : (inside handtiles mark offer tiles.nums tiles.chars tiles.charSuit).readChar
          ']' = _ := closeMeld_eq handtiles offer tiles mark
      rw [Item.text, read_cons opened, read_append (read_meldTiles handtiles offer tiles),
        read_append (read_mark handtiles offer mark _ _ _), List.foldlM_cons, closed, Item.packs]
      cases tiles.meaning mark with
      | error code => rfl
      | ok pack =>
          simp [Except.map, bind, Except.bind, pure, Except.pure, Handtiles.extended, Item.ids]
  | honour letter =>
      refine ⟨offer, ?_⟩
      rw [Item.text, read_cons (readChar_honour _ letter)]
      simp [Reader.readHonour, Reader.pushLipai, between, Reader.new, mp_honourText, Except.map,
        pure, Except.pure, Handtiles.extended, Item.ids, Item.packs]
  | flower letter =>
      refine ⟨offer, ?_⟩
      have first : (between handtiles offer).part = 0 := rfl
      rw [Item.text, read_cons (readChar_flower _ letter), Reader.readFlower, if_pos first,
        mp_flowerText]
      simp [Reader.pushLipai, between, Reader.new, Except.map, pure, Except.pure,
        Handtiles.extended, Item.ids, Item.packs]
  | numbers first rest suit =>
      refine ⟨offer, ?_⟩
      rw [Item.text, read_append (read_digits (first :: rest) rfl rfl),
        read_cons (readChar_suit _ suit)]
      simp [Reader.readSuit, Reader.pushLipai, between, Reader.new, mp_suitText, Except.map,
        pure, Except.pure, Handtiles.extended, Item.ids, Item.packs]

theorem extended_extended (packs others : List Pack) (ids later : List Int) :
    Handtiles.extended (Handtiles.extended handtiles packs ids) others later =
      Handtiles.extended handtiles (packs ++ others) (ids ++ later) := by
  simp [Handtiles.extended]

/-- The first item without a meaning ends the loop. -/
theorem read_items (items : List Item) : ∃ after,
    (items.flatMap Item.text).foldlM Reader.readChar (between handtiles offer) =
      (items.mapM Item.packs).map fun packs =>
        between (Handtiles.extended handtiles packs.flatten (items.flatMap Item.ids)) after := by
  induction items generalizing handtiles offer with
  | nil =>
      refine ⟨offer, ?_⟩
      simp [Handtiles.extended, Except.map, pure, Except.pure]
  | cons item items ih =>
      obtain ⟨middle, here⟩ := read_item handtiles offer item
      rw [List.flatMap_cons, List.flatMap_cons, List.foldlM_append, here, List.mapM_cons]
      cases item.packs with
      | error code => exact ⟨0, rfl⟩
      | ok packs =>
          obtain ⟨after, later⟩ := ih (Handtiles.extended handtiles packs item.ids) middle
          refine ⟨after, later.trans ?_⟩
          cases items.mapM Item.packs with
          | error code => rfl
          | ok others =>
              refine congrArg Except.ok ?_
              simp only [extended_extended, List.flatten_cons]

/-! ## The loop after the items -/

variable {handtiles offer}

/-- The loop after the circumstances. -/
def afterCircumstances (handtiles : Handtiles) (offer : Int) (circumstances : Circumstances) :
    Reader :=
  { between handtiles offer with
    part := 1
    chars := circumstances.winds
    nums := circumstances.flags }

theorem read_circumstances (circumstances : Circumstances) :
    ('|' :: circumstances.text).foldlM Reader.readChar (between handtiles offer) =
      .ok (afterCircumstances handtiles offer circumstances) := by
  have bar : (between handtiles offer).readChar '|' =
      .ok { between handtiles offer with part := 1 } := rfl
  rw [read_cons bar, Circumstances.text, Circumstances.winds, Circumstances.flags,
    List.cons_append, List.cons_append, List.nil_append,
    read_cons (readChar_wind _ _), read_cons (readChar_wind _ _), read_cons (readChar_flag _ _),
    read_cons (readChar_flag _ _), read_cons (readChar_flag _ _), read_cons (readChar_flag _ _)]
  rfl

theorem read_flowerLetters (letters : List (Fin 8)) {reader : Reader} (third : reader.part = 2) :
    (letters.map flowerText).foldlM Reader.readChar reader =
      .ok (reader.pushHuapai (letters.map flowerId)) := by
  induction letters generalizing reader with
  | nil => simp [Reader.pushHuapai, pure, Except.pure]
  | cons letter letters ih =>
      have here : reader.readFlower (flowerText letter) = reader.pushHuapai [flowerId letter] := by
        rw [Reader.readFlower, third, if_neg (by decide), if_pos rfl, mp_flowerText]
      rw [List.map_cons, read_cons (readChar_flower reader letter), here]
      refine (ih ?_).trans ?_
      · exact third
      · simp [Reader.pushHuapai]

theorem read_flowers (flowers : Flowers) {reader : Reader} (third : reader.part = 2) :
    flowers.text.foldlM Reader.readChar reader = .ok (reader.pushHuapai flowers.ids) := by
  cases flowers with
  | listed letters few => exact read_flowerLetters letters third
  | counted count =>
      have number : digitOf (Char.ofNat ('0'.toNat + count)) = count := by
        revert count
        decide
      rw [Flowers.text, read_cons (readChar_count reader count), Reader.readDigit, third,
        if_neg (by decide), if_neg (by decide), if_pos rfl, number]
      rfl

/-- The circumstances are set from what the loop has read of them. -/
theorem circumstances_eq {circumstances : Circumstances} {reader : Reader}
    (part : 1 ≤ reader.part) (chars : reader.chars = circumstances.winds)
    (nums : reader.nums = circumstances.flags) :
    reader.circumstances =
      { reader.handtiles with
        quanfeng := windId circumstances.quanfeng
        menfeng := windId circumstances.menfeng
        zimo := circumstances.zimo
        juezhang := circumstances.juezhang
        haidi := circumstances.haidi
        gang := circumstances.gang } := by
  simp [Reader.circumstances, part, chars, nums, Circumstances.winds, Circumstances.flags,
    mp_windText, flagChar_ne_zero]

/-- What the loop leaves is the hand as the text gives it. -/
theorem read_end (text : HandText) (offer : Int) (packs : List Pack) : ∃ reader,
    (circumstancesText text.circumstances).foldlM Reader.readChar
        (between (Handtiles.extended Reader.new.handtiles packs (text.items.flatMap Item.ids)) offer) =
      .ok reader ∧ reader.circumstances = text.hand packs := by
  obtain ⟨first, rest, circumstances⟩ := text
  match circumstances with
  | none => exact ⟨_, rfl, rfl⟩
  | some (circumstances, none) =>
      rw [circumstancesText, flowersText, List.append_nil, read_circumstances]
      exact ⟨_, rfl, circumstances_eq (Nat.le_refl 1) rfl rfl⟩
  | some (circumstances, some flowers) =>
      rw [circumstancesText, flowersText, ← List.cons_append, read_append (read_circumstances _)]
      have bar (reader : Reader) : reader.readChar '|' =
          .ok { reader with part := reader.part + 1 } := rfl
      rw [read_cons (bar _), read_flowers flowers rfl]
      exact ⟨_, rfl, circumstances_eq (Nat.le_succ 1) rfl rfl⟩

/-- Every text of the grammar is read as what it means. -/
theorem read_text (text : HandText) :
    (do
      let reader ← text.text.foldlM Reader.readChar Reader.new
      reader.circumstances.accept) = text.meaning := by
  obtain ⟨after, itemsRead⟩ := read_items Reader.new.handtiles 0 text.items
  have start : Reader.new = between Reader.new.handtiles 0 := rfl
  rw [HandText.text, List.foldlM_append, start, itemsRead, HandText.meaning]
  cases text.items.mapM Item.packs with
  | error code => rfl
  | ok packs =>
      obtain ⟨reader, ended, stated⟩ := read_end text after packs.flatten
      refine (congrArg (· >>= fun reader : Reader => reader.circumstances.accept) ended).trans ?_
      exact congrArg Handtiles.accept stated

theorem stringToHandtiles_of_text {s : String} {text : HandText}
    (written : text.text = withoutBlanks s.toList) : stringToHandtiles s = text.meaning := by
  have accepted : handPattern.rmatch (withoutBlanks s.toList) = true :=
    (RegularExpression.rmatch_iff_matches' _ _).mpr (mem_handPattern.mpr ⟨text, written⟩)
  rw [stringToHandtiles, if_pos accepted, ← written]
  exact read_text text

theorem stringToHandtiles_of_no_text {s : String}
    (other : ¬ ∃ text : HandText, text.text = withoutBlanks s.toList) :
    stringToHandtiles s = .error (-1) := by
  refine if_neg fun accepted => other ?_
  exact mem_handPattern.mp ((RegularExpression.rmatch_iff_matches' _ _).mp accepted)

/-! ## Errors -/

theorem MeldTiles.kind_error {tiles : MeldTiles} {code : Int}
    (failed : tiles.kind offer = .error code) : -4 ≤ code ∧ code ≤ -2 := by
  unfold MeldTiles.kind at failed
  dsimp only at failed
  repeat' split at failed
  all_goals cases failed
  all_goals exact ⟨by decide, by decide⟩

theorem Item.packs_error {item : Item} {code : Int} (failed : item.packs = .error code) :
    -4 ≤ code ∧ code ≤ -2 := by
  cases item with
  | meld tiles mark =>
      rw [Item.packs, MeldTiles.meaning] at failed
      cases kind : tiles.kind (tiles.offer mark) with
      | error code =>
          rw [kind] at failed
          cases failed
          exact MeldTiles.kind_error kind
      | ok type =>
          rw [kind] at failed
          cases failed
  | honour letter => cases failed
  | flower letter => cases failed
  | numbers first rest suit => cases failed

theorem mapM_packs_error {items : List Item} {code : Int}
    (failed : items.mapM Item.packs = .error code) : -4 ≤ code ∧ code ≤ -2 := by
  induction items with
  | nil => cases failed
  | cons item items ih =>
      rw [List.mapM_cons] at failed
      cases here : item.packs with
      | error code =>
          rw [here] at failed
          cases failed
          exact Item.packs_error here
      | ok packs =>
          rw [here] at failed
          cases later : items.mapM Item.packs with
          | error code =>
              rw [later] at failed ih
              cases failed
              exact ih rfl
          | ok others =>
              rw [later] at failed
              cases failed

theorem generateTable_fst (handtiles : Handtiles) :
    handtiles.generateTable.1 = handtiles.fillTables := by
  unfold Handtiles.generateTable
  dsimp only
  split
  · rfl
  · split <;> rfl

theorem accept_of_padded {padded : Handtiles} (size : handtiles.padded = .ok padded) :
    handtiles.accept =
      if padded.generateTable.2 ≠ 0 then
        .error (-6)
      else if padded.fillTables.touchTables.markLast.checkWinState ≠ 0 then
        .error (-7)
      else
        .ok padded.fillTables.touchTables.markLast.sortLipaiWithoutLastOne := by
  rw [Handtiles.accept, size, ← generateTable_fst]
  rfl

theorem accept_error {code : Int} (failed : handtiles.accept = .error code) :
    -7 ≤ code ∧ code ≤ -5 := by
  cases size : handtiles.padded with
  | error other =>
      rw [Handtiles.accept, size] at failed
      cases failed
      unfold Handtiles.padded at size
      dsimp only at size
      repeat' split at size
      all_goals cases size
      exact ⟨by decide, by decide⟩
  | ok padded =>
      rw [accept_of_padded size] at failed
      repeat' split at failed
      all_goals cases failed
      all_goals exact ⟨by decide, by decide⟩

/-- The reader takes the texts of the grammar for what they mean, errors included, and
refuses every other text; it has no other error. -/
theorem stringToHandtiles_exact (s : String) :
    (∀ text : HandText, text.text = withoutBlanks s.toList → stringToHandtiles s = text.meaning) ∧
      (stringToHandtiles s = .error (-1) ↔
        ¬ ∃ text : HandText, text.text = withoutBlanks s.toList) ∧
      ∀ code, stringToHandtiles s = .error code → -7 ≤ code ∧ code ≤ -1 := by
  have codes (text : HandText) (code : Int) (failed : text.meaning = .error code) :
      -7 ≤ code ∧ code ≤ -2 := by
    unfold HandText.meaning at failed
    cases melds : text.items.mapM Item.packs with
    | error other =>
        rw [melds] at failed
        cases failed
        have range := mapM_packs_error melds
        omega
    | ok packs =>
        rw [melds] at failed
        have range := accept_error failed
        omega
  refine ⟨fun text written => stringToHandtiles_of_text written, ⟨?_, ?_⟩, ?_⟩
  · intro refused written
    obtain ⟨text, written⟩ := written
    rw [stringToHandtiles_of_text written] at refused
    exact absurd (codes text _ refused).2 (by decide)
  · exact stringToHandtiles_of_no_text
  · intro code failed
    by_cases written : ∃ text : HandText, text.text = withoutBlanks s.toList
    · obtain ⟨text, written⟩ := written
      rw [stringToHandtiles_of_text written] at failed
      have range := codes text code failed
      omega
    · rw [stringToHandtiles_of_no_text written] at failed
      cases failed
      exact ⟨by decide, by decide⟩

end GbMahjong.Mahjong.Notation
