import GbMahjong.Mahjong.ItemProperties
import GbMahjong.Mahjong.JudgeProperties

/-! The hands that have a notation, and the way there and back. -/

set_option autoImplicit false

namespace GbMahjong.Mahjong

open GbMahjong.Library Notation Shape

/-! ## Hands -/

namespace Handtiles

/-- The tables that `_GenerateTable` makes. -/
def generated (handtiles : Handtiles) : Handtiles :=
  handtiles.clearTables.fillTables.touchTables

/-- What a hand of `StringToHandtiles` looks like. -/
structure Written (handtiles : Handtiles) : Prop where
  melds : ∀ pack ∈ handtiles.fulu, pack.Written
  fourteen : handtiles.lipai.length + 3 * handtiles.fulu.length = 14
  standing : ∀ tile ∈ handtiles.lipai.dropLast,
    1 ≤ tile.tile ∧ tile.tile ≤ tileDong ∧ tile.drawflag = 0
  sorted : handtiles.lipai.dropLast.Pairwise Tile.Le
  last : ∃ last, handtiles.lipai.getLast? = some last ∧ 0 ≤ last.tile ∧ last.tile ≤ tileDong ∧
    last.drawflag = if handtiles.zimo then 1 else 2
  flowers : ∀ tile ∈ handtiles.huapai,
    tileMei ≤ tile.tile ∧ tile.tile ≤ tileDong ∧ tile.drawflag = 0
  quanfeng : tileE ≤ handtiles.quanfeng ∧ handtiles.quanfeng ≤ tileN
  menfeng : tileE ≤ handtiles.menfeng ∧ handtiles.menfeng ≤ tileN
  four : ∀ id, tile1m ≤ id → id < tileSize →
    handtiles.fuluIds.count id + handtiles.lipaiIds.count id ≤ 4
  single : ∀ id, tileMei ≤ id → id ≤ tileDong →
    handtiles.lipaiIds.count id + handtiles.huapaiIds.count id ≤ 1
  tables : handtiles.generated = handtiles
  circumstances : handtiles.checkWinState = 0

/-- The hand as a text gives it, before it is accepted. -/
def bare (handtiles : Handtiles) : Handtiles :=
  { handtiles.clearTables with lipai := (present handtiles.lipai).map Tile.ofId }

variable {handtiles : Handtiles}

/-- Every tile without a mark and in its place, the last one included. -/
def unmarked (handtiles : Handtiles) : Handtiles :=
  { handtiles.clearTables with lipai := handtiles.lipaiIds.map Tile.ofId }

theorem Written.parts (written : handtiles.Written) : ∃ before last,
    handtiles.lipai = before ++ [last] ∧ handtiles.lipai.dropLast = before ∧
      0 ≤ last.tile ∧ last.tile ≤ tileDong ∧
      last.drawflag = if handtiles.zimo then 1 else 2 := by
  obtain ⟨last, isLast, first, most, mark⟩ := written.last
  obtain ⟨before, whole⟩ := List.getLast?_eq_some_iff.mp isLast
  exact ⟨before, last, whole, by rw [whole, List.dropLast_concat], first, most, mark⟩

/-- Without an empty place there are fourteen tiles, with one thirteen. -/
theorem Written.padded (written : handtiles.Written) :
    handtiles.bare.padded = .ok handtiles.unmarked := by
  obtain ⟨before, last, whole, standing, first, most, mark⟩ := written.parts
  have fourteen := written.fourteen
  have kept : present before = before.map Tile.getId := by
    refine List.filter_eq_self.mpr ?_
    rw [List.forall_mem_map]
    intro tile member
    rw [← standing] at member
    have positive := (written.standing tile member).1
    exact decide_eq_true (show tile.tile ≠ 0 by omega)
  have bareLipai : present handtiles.lipai = before.map Tile.getId ++ present [last] := by
    rw [← kept, whole, present, List.map_append, List.filter_append]
    rfl
  rw [whole, List.length_append, List.length_singleton] at fourteen
  by_cases blank : last.tile = 0
  · have none : present [last] = [] := List.filter_cons_of_neg fun there =>
      of_decide_eq_true there blank
    have size : handtiles.bare.fulu.length * 3 + handtiles.bare.lipai.length = 13 := by
      simp only [bare, clearTables, bareLipai, none, List.append_nil, List.length_map]
      omega
    rw [Handtiles.padded, if_pos size, bare, unmarked, bareLipai, none, lipaiIds, whole]
    simp [Tile.getId, blank]
  · have one : present [last] = [last.tile] := present_cons blank
    have size : handtiles.bare.fulu.length * 3 + handtiles.bare.lipai.length = 14 := by
      simp only [bare, clearTables, bareLipai, one, List.length_append, List.length_map,
        List.length_singleton]
      omega
    rw [Handtiles.padded, if_neg (by omega), if_pos size, bare, unmarked, bareLipai, one, lipaiIds,
      whole]
    simp [Tile.getId]

theorem map_ofId_of_unmarked {tiles : List Tile} (flags : ∀ tile ∈ tiles, tile.drawflag = 0) :
    (tiles.map Tile.getId).map Tile.ofId = tiles := by
  rw [List.map_map]
  refine (List.map_congr_left fun tile member => ?_).trans (List.map_id tiles)
  obtain ⟨id, flag⟩ := tile
  exact congrArg (Tile.mk id) (flags _ member).symm

theorem lipaiIds_unmarked : handtiles.unmarked.lipaiIds = handtiles.lipaiIds := by
  rw [lipaiIds, unmarked, List.map_map]
  exact List.map_id _

/-- The marked tiles are those of the hand. -/
theorem Written.marked (written : handtiles.Written) :
    handtiles.unmarked.fillTables.touchTables.markLast = handtiles := by
  obtain ⟨before, last, whole, standing, _, _, mark⟩ := written.parts
  have tables : handtiles.unmarked.fillTables.touchTables =
      { handtiles with lipai := handtiles.unmarked.lipai } := by
    have filled : handtiles.unmarked.fillTables =
        { handtiles.clearTables.fillTables with lipai := handtiles.unmarked.lipai } := by
      unfold fillTables
      rw [lipaiIds_unmarked]
      rfl
    rw [filled]
    change { handtiles.generated with lipai := handtiles.unmarked.lipai } = _
    rw [written.tables]
  have flags : ∀ tile ∈ before, tile.drawflag = 0 := fun tile member => by
    rw [← standing] at member
    exact (written.standing tile member).2.2
  have lipai : handtiles.unmarked.lipai = before ++ [.ofId last.tile] := by
    rw [unmarked, lipaiIds, whole, List.map_append, List.map_append, map_ofId_of_unmarked flags]
    rfl
  have changed : (if handtiles.zimo then Tile.setZimo else Tile.setChonghu)
      (.ofId last.tile) = last := by
    obtain ⟨id, flag⟩ := last
    cases zimo : handtiles.zimo <;> simp [zimo] at mark <;>
      simp [Tile.setZimo, Tile.setChonghu, Tile.ofId, mark]
  rw [tables, lipai, markLast, modifyLastLipai, List.getLast?_concat, List.dropLast_concat]
  simp only [changed, ← whole]

/-- A hand of the notation is accepted as it is. -/
theorem Written.accept (written : handtiles.Written) : handtiles.bare.accept = .ok handtiles := by
  have limits : handtiles.unmarked.generateTable.2 = 0 := by
    refine (generateTable_eq_zero_iff handtiles.unmarked).mpr ?_
    rw [lipaiIds_unmarked]
    exact ⟨written.four, written.single⟩
  have sorted : handtiles.sortLipaiWithoutLastOne = handtiles := by
    obtain ⟨before, last, whole, standing, _⟩ := written.parts
    have same : Tile.sort before = before := by
      have order := written.sorted
      rw [standing] at order
      exact List.Pairwise.insertionSort_eq order
    rw [sortLipaiWithoutLastOne, standing, same, whole, List.getLast?_concat, Option.toList_some,
      ← whole]
  rw [accept_of_padded written.padded, if_neg (not_not.mpr limits), written.marked,
    if_neg (not_not.mpr written.circumstances), sorted]

end Handtiles

/-! ## Texts of hands -/

theorem wind_of_bounds {id : Int} (bounds : tileE ≤ id ∧ id ≤ tileN) :
    ∃ wind, id = windId wind ∧ (Tile.ofId id).tileChar = windText wind := by
  obtain ⟨first, last⟩ := bounds
  unfold tileE tileN at *
  interval_cases id
  · exact ⟨0, rfl, by decide +kernel⟩
  · exact ⟨1, rfl, by decide +kernel⟩
  · exact ⟨2, rfl, by decide +kernel⟩
  · exact ⟨3, rfl, by decide +kernel⟩

theorem flowers_of_bounds {tiles : List Tile}
    (flowers : ∀ tile ∈ tiles, tileMei ≤ tile.tile ∧ tile.tile ≤ tileDong ∧ tile.drawflag = 0) :
    ∃ letters : List (Fin 8), (letters.map flowerId).map Tile.ofId = tiles ∧
      letters.map flowerText = tiles.map Tile.tileChar := by
  induction tiles with
  | nil => exact ⟨[], rfl, rfl⟩
  | cons tile tiles ih =>
      obtain ⟨⟨first, last, flag⟩, later⟩ := List.forall_mem_cons.mp flowers
      obtain ⟨letters, ids, texts⟩ := ih later
      obtain ⟨letter, id⟩ := flower_iff_letter.mp ⟨first, last⟩
      have same : Tile.ofId (flowerId letter) = tile := by
        rw [← id]
        obtain ⟨_, _⟩ := tile
        exact congrArg _ flag.symm
      refine ⟨letter :: letters, ?_, ?_⟩
      · rw [List.map_cons, List.map_cons, ids, same]
      · rw [List.map_cons, List.map_cons, texts, ← same, (tileChar_flower letter).1]

namespace Handtiles

variable {handtiles : Handtiles}

theorem Written.few_flowers (written : handtiles.Written) : handtiles.huapai.length ≤ 8 := by
  have inside : ∀ id ∈ handtiles.huapaiIds, id ∈ idRange tileMei (tileDong + 1) := by
    refine List.forall_mem_map.mpr fun tile member => ?_
    obtain ⟨first, last, _⟩ := written.flowers tile member
    exact mem_idRange.mpr ⟨first, Int.lt_add_one_of_le last⟩
  have distinct : handtiles.huapaiIds.Nodup := by
    refine List.nodup_iff_count_le_one.mpr fun id => ?_
    by_cases member : id ∈ handtiles.huapaiIds
    · obtain ⟨first, last⟩ := mem_idRange.mp (inside id member)
      exact Nat.le_trans (Nat.le_add_left _ _)
        (written.single id first (Int.le_of_lt_add_one last))
    · rw [List.count_eq_zero_of_not_mem member]
      exact Nat.zero_le 1
  have few := (distinct.subperm inside).length_le
  rw [huapaiIds, List.length_map] at few
  exact few

/-- What is written for a hand is a text that means the hand. -/
theorem Written.exists_text (written : handtiles.Written) : ∃ text : HandText,
    text.text = withoutBlanks handtiles.handtilesToString.toList ∧
      text.meaning = .ok handtiles := by
  obtain ⟨before, last, whole, standing, first, most, _⟩ := written.parts
  obtain ⟨melds, meldTexts, meldIds, packs⟩ := exists_melds written.melds
  have inside : ∀ tile ∈ handtiles.lipai, 0 ≤ tile.tile ∧ tile.tile ≤ tileDong := by
    rw [whole]
    refine List.forall_mem_append.mpr ⟨fun tile member => ?_, ?_⟩
    · rw [← standing] at member
      obtain ⟨positive, bound, _⟩ := written.standing tile member
      exact ⟨by omega, bound⟩
    · exact List.forall_mem_singleton.mpr ⟨first, most⟩
  have nothing : Pending none [] [] := ⟨rfl, rfl⟩
  obtain ⟨items, spells⟩ := exists_items handtiles.fulu.length handtiles.lipai 0 nothing inside
  obtain ⟨quanfeng, quanfengId, quanfengText⟩ := wind_of_bounds written.quanfeng
  obtain ⟨menfeng, menfengId, menfengText⟩ := wind_of_bounds written.menfeng
  obtain ⟨letters, flowerIds, flowerTexts⟩ := flowers_of_bounds written.flowers
  have few : letters.length ≤ 8 := by
    have few := written.few_flowers
    rw [← flowerIds, List.length_map, List.length_map] at few
    exact few
  have some : melds ++ items ≠ [] := by
    intro empty
    obtain ⟨_, rfl⟩ := List.append_eq_nil_iff.mp empty
    have absent : present handtiles.lipai = [] := spells.ids.symm
    have fourteen := written.fourteen
    cases before with
    | nil =>
        rw [whole, List.nil_append, List.length_singleton] at fourteen
        omega
    | cons tile before =>
        have positive := (written.standing tile (by rw [standing]; exact List.mem_cons_self)).1
        rw [whole, List.cons_append, present_cons (by omega)] at absent
        cases absent
  obtain ⟨item, rest, split⟩ := List.exists_cons_of_ne_nil some
  let circumstances : Circumstances :=
    ⟨quanfeng, menfeng, handtiles.zimo, handtiles.juezhang, handtiles.haidi, handtiles.gang⟩
  refine ⟨⟨item, rest, .some (circumstances, .some (.listed letters few))⟩, ?_, ?_⟩
  · change (item :: rest).flatMap Item.text ++
      '|' :: (circumstances.text ++ '|' :: letters.map flowerText) = _
    have middle : withoutBlanks ('|' :: circumstances.text ++ ['|']) =
        '|' :: circumstances.text ++ ['|'] := by
      refine List.filter_eq_self.mpr fun c member => bne_iff_ne.mpr ?_
      revert c
      simp only [Circumstances.text, Circumstances.winds, Circumstances.flags, List.cons_append,
        List.nil_append, List.forall_mem_cons]
      exact ⟨by decide, windText_shown _, windText_shown _, flagChar_shown _, flagChar_shown _,
        flagChar_shown _, flagChar_shown _, by decide, List.forall_mem_nil _⟩
    have flowers : withoutBlanks (letters.map flowerText) = letters.map flowerText := by
      refine List.filter_eq_self.mpr fun c member => bne_iff_ne.mpr ?_
      revert c
      exact List.forall_mem_map.mpr fun letter _ => flowerText_shown letter
    have whole : handtiles.handtilesToString.toList =
        handtiles.fulu.flatMap fuluText ++
          lipaiText handtiles.fulu.length 0 none handtiles.lipai ++
          ('|' :: circumstances.text ++ ['|']) ++ letters.map flowerText := by
      rw [handtilesToString, String.toList_ofList, quanfengText, menfengText, flowerTexts]
      rfl
    rw [← split, List.flatMap_append, meldTexts, spells.text, whole, withoutBlanks_append,
      withoutBlanks_append, withoutBlanks_append, middle, flowers]
    simp
  · have packed : (item :: rest).mapM Item.packs =
        .ok ((handtiles.fulu.map fun pack => [pack]) ++ items.map fun _ => []) := by
      rw [← split, List.mapM_append, packs, spells.mapM_packs]
      rfl
    have melded : ((handtiles.fulu.map fun pack => [pack]) ++
        items.map fun _ => ([] : List Pack)).flatten = handtiles.fulu := by
      rw [List.flatten_append, Pattern.flatten_singletons]
      simp
    have ids : (item :: rest).flatMap Item.ids = present handtiles.lipai := by
      rw [← split, List.flatMap_append, meldIds, spells.ids]
      rfl
    change (item :: rest).mapM Item.packs >>= _ = _
    rw [packed]
    change Handtiles.accept _ = _
    rw [melded, ← written.accept]
    refine congrArg Handtiles.accept ?_
    change { Handtiles.new with
      fulu := handtiles.fulu
      lipai := ((item :: rest).flatMap Item.ids).map Tile.ofId
      huapai := (letters.map flowerId).map Tile.ofId
      quanfeng := windId quanfeng
      menfeng := windId menfeng
      zimo := handtiles.zimo
      juezhang := handtiles.juezhang
      haidi := handtiles.haidi
      gang := handtiles.gang } = handtiles.bare
    rw [ids, flowerIds, ← quanfengId, ← menfengId]
    rfl

/-! ## There and back -/

/-- Tables made from the same tiles in another order are a hand's own. -/
theorem generated_eq_self {other : Handtiles} (lipai : handtiles.lipaiIds.Perm other.lipaiIds)
    (fulu : handtiles.fulu = other.fulu) (huapai : handtiles.huapai = other.huapai)
    (fuluTable : handtiles.fuluTable = other.generated.fuluTable)
    (lipaiTable : handtiles.lipaiTable = other.generated.lipaiTable)
    (huapaiTable : handtiles.huapaiTable = other.generated.huapaiTable) :
    handtiles.generated = handtiles := by
  have counted := CountTable.tally_perm .empty lipai
  have sameFulu : handtiles.fuluTable = handtiles.generated.fuluTable := by
    rw [fuluTable]
    change CountTable.touch (CountTable.tally .empty other.fuluIds) _ =
      CountTable.touch (CountTable.tally .empty handtiles.fuluIds) _
    rw [fuluIds, fuluIds, fulu]
  have sameLipai : handtiles.lipaiTable = handtiles.generated.lipaiTable := by
    rw [lipaiTable]
    change CountTable.touch (CountTable.tally .empty other.lipaiIds) _ =
      CountTable.touch (CountTable.tally .empty handtiles.lipaiIds) _
    rw [counted]
  have sameHuapai : handtiles.huapaiTable = handtiles.generated.huapaiTable := by
    rw [huapaiTable]
    change CountTable.touch (CountTable.tally .empty other.huapaiIds) _ =
      CountTable.touch (CountTable.tally .empty handtiles.huapaiIds) _
    rw [huapaiIds, huapaiIds, huapai]
  calc handtiles.generated
      = { handtiles with
          fuluTable := handtiles.generated.fuluTable
          lipaiTable := handtiles.generated.lipaiTable
          huapaiTable := handtiles.generated.huapaiTable } := rfl
    _ = handtiles := by rw [← sameFulu, ← sameLipai, ← sameHuapai]

theorem Written.reads_back (written : handtiles.Written) :
    stringToHandtiles handtiles.handtilesToString = .ok handtiles := by
  obtain ⟨text, spelled, meant⟩ := written.exists_text
  rw [stringToHandtiles_of_text spelled, meant]

theorem packs_written {item : Item} {packs : List Pack} (meant : item.packs = .ok packs) :
    ∀ pack ∈ packs, pack.Written := by
  cases item with
  | meld tiles mark =>
      rw [Item.packs] at meant
      cases one : tiles.meaning mark with
      | error code =>
          rw [one] at meant
          cases meant
      | ok pack =>
          rw [one] at meant
          cases meant
          exact List.forall_mem_singleton.mpr (MeldTiles.written one)
  | honour letter =>
      cases meant
      exact List.forall_mem_nil _
  | flower letter =>
      cases meant
      exact List.forall_mem_nil _
  | numbers first rest suit =>
      cases meant
      exact List.forall_mem_nil _

theorem melds_written {items : List Item} {packs : List (List Pack)}
    (meant : items.mapM Item.packs = .ok packs) : ∀ pack ∈ packs.flatten, pack.Written := by
  induction items generalizing packs with
  | nil =>
      cases meant
      exact List.forall_mem_nil _
  | cons item items ih =>
      rw [List.mapM_cons] at meant
      cases here : item.packs with
      | error code =>
          rw [here] at meant
          cases meant
      | ok first =>
          rw [here] at meant
          cases later : items.mapM Item.packs with
          | error code =>
              rw [later] at meant
              cases meant
          | ok others =>
              rw [later] at meant ih
              cases meant
              rw [List.flatten_cons]
              exact List.forall_mem_append.mpr ⟨packs_written here, ih rfl⟩

theorem numberId_bounds (suit : SuitLetter) (digit : Fin 9) :
    1 ≤ numberId suit digit ∧ numberId suit digit ≤ 27 :=
  suited_iff_number.mpr ⟨suit, digit, rfl⟩

theorem ids_bounds (item : Item) : ∀ id ∈ item.ids, 1 ≤ id ∧ id ≤ tileDong := by
  cases item with
  | meld tiles mark => exact List.forall_mem_nil _
  | honour letter =>
      refine List.forall_mem_singleton.mpr ?_
      obtain ⟨first, last⟩ := honour_iff_letter.mpr ⟨letter, rfl⟩
      exact ⟨Int.le_trans (by decide) first, Int.le_trans last (by decide)⟩
  | flower letter =>
      refine List.forall_mem_singleton.mpr ?_
      obtain ⟨first, last⟩ := flower_iff_letter.mpr ⟨letter, rfl⟩
      exact ⟨Int.le_trans (by decide) first, last⟩
  | numbers first rest suit =>
      refine List.forall_mem_map.mpr fun digit _ => ?_
      obtain ⟨first, last⟩ := numberId_bounds suit digit
      exact ⟨first, Int.le_trans last (by decide)⟩

theorem flowers_bounds (flowers : Flowers) :
    ∀ id ∈ flowers.ids, tileMei ≤ id ∧ id ≤ tileDong := by
  cases flowers with
  | listed letters few =>
      exact List.forall_mem_map.mpr fun letter _ => flower_iff_letter.mpr ⟨letter, rfl⟩
  | counted count =>
      refine List.forall_mem_map.mpr fun i member => ?_
      obtain ⟨first, last⟩ := mem_idRange.mp member
      unfold tileMei tileDong
      omega

theorem flowerIds_bounds (text : HandText) :
    ∀ id ∈ text.flowerIds, tileMei ≤ id ∧ id ≤ tileDong := by
  unfold HandText.flowerIds
  split
  · exact flowers_bounds _
  · exact List.forall_mem_nil _

theorem windId_bounds (wind : Fin 4) : tileE ≤ windId wind ∧ windId wind ≤ tileN := by
  unfold windId tileE tileN
  omega

/-- A hand is padded to fourteen tiles or left as it is. -/
theorem padded_eq_ok {padded : Handtiles} (size : handtiles.padded = .ok padded) :
    ∃ lipai, padded = { handtiles with lipai := lipai } ∧
      lipai.length + 3 * handtiles.fulu.length = 14 ∧
      (lipai = handtiles.lipai ∨ lipai = handtiles.lipai ++ [.ofId 0]) := by
  unfold Handtiles.padded at size
  dsimp only at size
  split at size
  · cases size
    refine ⟨_, rfl, ?_, .inr rfl⟩
    rw [List.length_append, List.length_singleton]
    omega
  · split at size
    · cases size
      exact ⟨_, rfl, by omega, .inl rfl⟩
    · cases size

theorem hand_tiles (text : HandText) (packs : List Pack) : ∀ tile ∈ (text.hand packs).lipai,
    1 ≤ tile.tile ∧ tile.tile ≤ tileDong ∧ tile.drawflag = 0 := by
  refine List.forall_mem_map.mpr fun id member => ?_
  obtain ⟨item, _, inItem⟩ := List.mem_flatMap.mp member
  obtain ⟨first, last⟩ := ids_bounds item id inItem
  exact ⟨first, last, rfl⟩

/-- Fourteen places: thirteen tiles, and a tile or an empty place. -/
theorem padded_parts {text : HandText} {packs : List Pack} {lipai : List Tile}
    (fourteen : lipai.length + 3 * packs.length = 14)
    (grown : lipai = (text.hand packs).lipai ∨ lipai = (text.hand packs).lipai ++ [.ofId 0]) :
    ∃ before last, lipai = before ++ [last] ∧
      (∀ tile ∈ before, 1 ≤ tile.tile ∧ tile.tile ≤ tileDong ∧ tile.drawflag = 0) ∧
      0 ≤ last.tile ∧ last.tile ≤ tileDong ∧ last.drawflag = 0 := by
  have inside := hand_tiles text packs
  cases grown with
  | inl same =>
      rw [← same] at inside
      rcases List.eq_nil_or_concat lipai with rfl | ⟨before, last, rfl⟩
      · rw [List.length_nil] at fourteen
        omega
      · rw [List.concat_eq_append] at inside ⊢
        obtain ⟨standing, ended⟩ := List.forall_mem_append.mp inside
        obtain ⟨first, most, flag⟩ := List.forall_mem_singleton.mp ended
        exact ⟨before, last, rfl, standing, by omega, most, flag⟩
  | inr blank => exact ⟨_, _, blank, inside, by decide, by decide, rfl⟩

/-- Sorting leaves alone what the circumstances are checked against. -/
theorem checkWinState_sorted {before : List Tile} {last : Tile}
    (whole : handtiles.lipai = before ++ [last]) :
    handtiles.sortLipaiWithoutLastOne.checkWinState = handtiles.checkWinState := by
  have same : handtiles.sortLipaiWithoutLastOne.getLastLipai = handtiles.getLastLipai := by
    rw [getLastLipai, getLastLipai, sortLipaiWithoutLastOne, whole, List.getLast?_concat,
      Option.toList_some, List.getLast?_concat]
  unfold checkWinState
  rw [same]
  rfl

/-- The last tile with the mark of the circumstances. -/
def markedLast (handtiles : Handtiles) (last : Tile) : Tile :=
  (if handtiles.zimo then Tile.setZimo else Tile.setChonghu) last

theorem markedLast_tile (handtiles : Handtiles) (last : Tile) :
    (handtiles.markedLast last).getId = last.tile := by
  unfold markedLast
  cases handtiles.zimo <;> rfl

theorem markedLast_drawflag (handtiles : Handtiles) (last : Tile) :
    (handtiles.markedLast last).drawflag = if handtiles.zimo then 1 else 2 := by
  unfold markedLast
  cases handtiles.zimo <;> rfl

theorem markLast_lipai {before : List Tile} {last : Tile}
    (whole : handtiles.lipai = before ++ [last]) :
    handtiles.markLast.lipai = before ++ [handtiles.markedLast last] := by
  rw [markLast, modifyLastLipai, whole, List.getLast?_concat, List.dropLast_concat]
  rfl

theorem markLast_sorted {before : List Tile} {last : Tile}
    (whole : handtiles.lipai = before ++ [last]) :
    handtiles.markLast.sortLipaiWithoutLastOne =
      { handtiles with lipai := Tile.sort before ++ [handtiles.markedLast last] } := by
  rw [sortLipaiWithoutLastOne, markLast_lipai whole, List.dropLast_concat, List.getLast?_concat]
  rfl

/-- Whatever is accepted is a hand of the notation. -/
theorem accepted_written {text : HandText} {packs : List Pack}
    (melds : ∀ pack ∈ packs, pack.Written) (accepted : (text.hand packs).accept = .ok handtiles) :
    handtiles.Written := by
  cases size : (text.hand packs).padded with
  | error code =>
      rw [Handtiles.accept, size] at accepted
      cases accepted
  | ok padded =>
      rw [accept_of_padded size] at accepted
      obtain ⟨lipai, rfl, fourteen, grown⟩ := padded_eq_ok size
      obtain ⟨before, last, rfl, standing, first, most, flag⟩ := padded_parts fourteen grown
      generalize whole : ({ text.hand packs with lipai := before ++ [last] } : Handtiles) = padded
        at accepted size
      have cleared : padded.clearTables = padded := by
        rw [← whole]
        rfl
      have filled : padded.fillTables.touchTables = padded.generated := by
        rw [generated, cleared]
      have lipai : padded.generated.lipai = before ++ [last] := by
        rw [← whole]
        rfl
      split at accepted
      · cases accepted
      · rename_i limits
        split at accepted
        · cases accepted
        · rename_i fits
          rw [filled] at accepted fits
          rw [not_not] at limits fits
          rw [← cleared] at limits
          obtain ⟨four, single⟩ := (generateTable_eq_zero_iff padded).mp limits
          obtain rfl := Except.ok.inj accepted
          have sorted := markLast_sorted lipai
          have order : ({ padded.generated with
              lipai := Tile.sort before ++ [padded.generated.markedLast last] } :
                Handtiles).lipaiIds.Perm padded.lipaiIds := by
            rw [← whole, lipaiIds, lipaiIds, List.map_append, List.map_append, List.map_singleton,
              markedLast_tile]
            exact ((Tile.sort_perm before).map Tile.getId).append_right [last.tile]
          have tables := generated_eq_self order rfl rfl rfl rfl rfl
          have circumstances := (checkWinState_sorted (markLast_lipai lipai)).trans fits
          rw [sorted] at circumstances ⊢
          have mark := markedLast_tile padded.generated last
          subst whole
          refine ⟨melds, ?_, ?_, ?_, ?_, ?_, windId_bounds _, windId_bounds _, ?_, ?_,
            tables, circumstances⟩
          · rw [List.length_append, List.length_singleton] at fourteen ⊢
            rw [Tile.length_sort]
            exact fourteen
          · rw [List.dropLast_concat]
            exact fun tile member => standing tile ((Tile.sort_perm before).mem_iff.mp member)
          · rw [List.dropLast_concat]
            exact Tile.pairwise_sort before
          · refine ⟨_, List.getLast?_concat, ?_, ?_, markedLast_drawflag _ last⟩
            · exact Int.le_trans first mark.ge
            · exact Int.le_trans mark.le most
          · refine List.forall_mem_map.mpr fun id member => ?_
            obtain ⟨first, last⟩ := flowerIds_bounds text id member
            exact ⟨first, last, rfl⟩
          · intro id first last
            rw [order.count_eq]
            exact four id first last
          · intro id first last
            rw [order.count_eq]
            exact single id first last

end Handtiles

open Handtiles

/-- Every text that is read gives a hand of the notation. -/
theorem written_of_read {s : String} {handtiles : Handtiles}
    (read : stringToHandtiles s = .ok handtiles) : handtiles.Written := by
  by_cases spelled : ∃ text : HandText, text.text = withoutBlanks s.toList
  · obtain ⟨text, spelled⟩ := spelled
    rw [stringToHandtiles_of_text spelled, HandText.meaning] at read
    cases melds : text.items.mapM Item.packs with
    | error code =>
        rw [melds] at read
        cases read
    | ok packs =>
        rw [melds] at read
        exact accepted_written (melds_written melds) read
  · rw [stringToHandtiles_of_no_text spelled] at read
    cases read

/-- A hand is one of the notation if some text gives it, and then the text written for it
gives it back. -/
theorem stringToHandtiles_written_iff (handtiles : Handtiles) :
    (handtiles.Written ↔ ∃ s, stringToHandtiles s = .ok handtiles) ∧
      (handtiles.Written ↔ stringToHandtiles handtiles.handtilesToString = .ok handtiles) := by
  refine ⟨⟨fun written => ⟨_, written.reads_back⟩, fun some => ?_⟩,
    ⟨Written.reads_back, written_of_read⟩⟩
  obtain ⟨s, read⟩ := some
  exact written_of_read read

/-- The letters of the tiles come in the order of the library. -/
example : (stringToHandtiles "[1111s][2222m,1][4444p,3]333p88s").map handtilesToString =
    .ok "[1111s][2222m,1][4444p,3]8s333p8s|EE0000|" := by
  decide +kernel

end GbMahjong.Mahjong
