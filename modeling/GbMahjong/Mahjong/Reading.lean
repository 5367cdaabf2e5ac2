import GbMahjong.Mahjong.Search

/-! Readings of a hand: its tiles split into parts, each with the pack that it makes. The
search of `_Dfs` meets readings only, and one for every reading there is, up to the order
of the packs. -/

set_option autoImplicit false

namespace GbMahjong.Mahjong

open GbMahjong.Library

/-! ## Parts -/

/-- A suited tile or an honour. -/
def Tile.Playable (tile : Tile) : Prop :=
  tile.isShu = true ∨ tile.isZi = true

/-- The draw flags of the tiles, added up. -/
def Tile.marks : List Tile → Nat
  | [] => 0
  | tile :: rest => tile.drawflag + marks rest

theorem Tile.marks_perm {tiles others : List Tile} (same : tiles.Perm others) :
    Tile.marks tiles = Tile.marks others := by
  induction same with
  | nil => rfl
  | cons tile _ ih => simp only [marks, ih]
  | swap first second rest => simp only [marks, Nat.add_left_comm]
  | trans _ _ ih further => exact ih.trans further

theorem Tile.marks_append (tiles others : List Tile) :
    Tile.marks (tiles ++ others) = Tile.marks tiles + Tile.marks others := by
  induction tiles with
  | nil => simp [marks]
  | cons tile rest ih => simp only [List.cons_append, marks, ih, Nat.add_assoc]

/-- The tiles that make a pack. The offer gives away whether the marked tile is among
them. -/
inductive Forms : List Tile → Pack → Prop where
  | jiang {a b : Tile} (playable : a.Playable) (same : b.tile = a.tile) :
      Forms [a, b] ⟨.jiang, .ofId b.getId, 0, -((a.drawflag : Int) + b.drawflag)⟩
  | kezi {a b c : Tile} (playable : a.Playable) (same : b.tile = a.tile)
      (alike : c.tile = b.tile) :
      Forms [a, b, c] ⟨.kezi, .ofId b.getId, 0,
        -((a.drawflag : Int) + b.drawflag + c.drawflag)⟩
  | shunzi {a b c : Tile} (suited : a.isShu = true) (suitedToo : b.isShu = true)
      (suit : b.suit = a.suit) (suitToo : b.suit = c.suit) (next : b.tile = a.tile + 1)
      (after : c.tile = b.tile + 1) :
      Forms [a, b, c] ⟨.shunzi, .ofId b.getId, 0,
        -((a.drawflag : Int) + b.drawflag + c.drawflag)⟩

structure Part where
  tiles : List Tile
  pack : Pack
  forms : Forms tiles pack

namespace Part

def isPair (part : Part) : Bool :=
  part.pack.isJiang

def tilesOf (parts : List Part) : List Tile :=
  parts.flatMap tiles

def packsOf (parts : List Part) : List Pack :=
  parts.map pack

def pairsOf (parts : List Part) : Nat :=
  parts.countP isPair

def mianziOf (parts : List Part) : Nat :=
  parts.countP fun part => !part.isPair

theorem tilesOf_perm {parts others : List Part} (same : parts.Perm others) :
    (tilesOf parts).Perm (tilesOf others) :=
  same.flatMap_right _

theorem packsOf_perm {parts others : List Part} (same : parts.Perm others) :
    (packsOf parts).Perm (packsOf others) :=
  same.map _

theorem pairsOf_perm {parts others : List Part} (same : parts.Perm others) :
    pairsOf parts = pairsOf others :=
  same.countP_eq _

theorem mianziOf_perm {parts others : List Part} (same : parts.Perm others) :
    mianziOf parts = mianziOf others :=
  same.countP_eq _

end Part

/-! ## What the conditions of the search say -/

section Conditions

variable {a b c : Tile}

theorem Tile.same_pred : a.Same b.pred ↔ b.tile = a.tile + 1 := by
  change a.tile = b.tile - 1 ↔ _
  omega

theorem Tile.same_succ : b.Same a.succ ↔ b.tile = a.tile + 1 :=
  Iff.rfl

theorem Tile.suit_of_same (same : b.tile = a.tile) : b.suit = a.suit := by
  rw [Tile.suit, Tile.suit, same]

theorem Tile.Playable.of_same (playable : a.Playable) (same : b.tile = a.tile) : b.Playable := by
  rcases playable with suited | honour
  · exact .inl (by rwa [isShu, getBitmap, same])
  · exact .inr (by rwa [isZi, getBitmap, same])

theorem judge2SameOrAdjacent_iff : judge2SameOrAdjacent a b = true ↔
    (a.isShu = true ∧ a.suit = b.suit ∧ (b.tile = a.tile + 1 ∨ b.tile = a.tile)) ∨
      (a.isZi = true ∧ b.tile = a.tile) := by
  have same : a.Same b ↔ b.tile = a.tile := eq_comm
  unfold judge2SameOrAdjacent
  by_cases suited : a.isShu = true ∧ a.suit = b.suit
  · simp only [suited.1, suited.2, BEq.rfl, Bool.and_true, if_true, Bool.or_eq_true,
      decide_eq_true_eq, Tile.same_pred, same, true_and]
    exact ⟨.inl, fun either => either.elim id fun honour => .inr honour.2⟩
  · have unsuited : (a.isShu && a.suit == b.suit) = false := by simpa using suited
    rw [unsuited]
    by_cases honour : a.isZi = true
    · simp only [Bool.false_eq_true, if_false, honour, if_true, decide_eq_true_eq, same, true_and]
      refine ⟨.inr, fun either => either.elim (fun adjacent => ?_) id⟩
      exact absurd ⟨adjacent.1, adjacent.2.1⟩ suited
    · simp only [Bool.false_eq_true, if_false, honour, false_and, or_false, false_iff]
      exact fun adjacent => suited ⟨adjacent.1, adjacent.2.1⟩

theorem Tile.playable_of_adjacent (adjacent : judge2SameOrAdjacent a b = true) : a.Playable := by
  rcases judge2SameOrAdjacent_iff.mp adjacent with suited | honour
  · exact .inl suited.1
  · exact .inr honour.1

theorem judge2SameOrAdjacent_of_same (playable : a.Playable) (same : b.tile = a.tile) :
    judge2SameOrAdjacent a b = true := by
  rw [judge2SameOrAdjacent_iff]
  rcases playable with suited | honour
  · exact .inl ⟨suited, (Tile.suit_of_same same).symm, .inr same⟩
  · exact .inr ⟨honour, same⟩

theorem judge2MakePack_iff : judge2MakePack a b ≠ .invalid ↔ b.tile = a.tile := by
  unfold judge2MakePack
  split
  · rename_i same
    exact iff_of_true nofun same
  · rename_i different
    exact iff_of_false (fun valid => valid rfl) different

/-- The type that three tiles are given is the type of a pack they form. -/
theorem forms_of_judge3MakePack (playable : a.Playable)
    (adjacent : judge2SameOrAdjacent b c = true) {type : PackType}
    (judged : judge3MakePack a b c = type) (valid : type ≠ .invalid) :
    Forms [a, b, c] ⟨type, .ofId b.getId, 0,
      -((a.drawflag : Int) + b.drawflag + c.drawflag)⟩ ∧ type ≠ .jiang := by
  unfold judge3MakePack at judged
  split at judged
  · rename_i run
    subst judged
    simp only [Bool.and_eq_true, beq_iff_eq, decide_eq_true_eq, Tile.same_succ,
      Tile.same_pred] at run
    obtain ⟨⟨⟨⟨suited, suit⟩, suitToo⟩, next⟩, after⟩ := run
    have suitedToo : b.isShu = true := by
      rcases judge2SameOrAdjacent_iff.mp adjacent with suited | honour
      · exact suited.1
      · omega
    exact ⟨.shunzi suited suitedToo suit suitToo next after, by decide⟩
  · split at judged
    · rename_i set
      subst judged
      simp only [Bool.and_eq_true, decide_eq_true_eq] at set
      exact ⟨.kezi playable set.1 set.2.symm, by decide⟩
    · exact absurd judged.symm valid

theorem judge3MakePack_of_same (same : b.tile = a.tile) (alike : c.tile = b.tile) :
    judge3MakePack a b c = .kezi := by
  have apart : ¬b.Same a.succ := by
    rw [Tile.same_succ]
    omega
  have first : b.Same a := same
  have last : b.Same c := alike.symm
  simp [judge3MakePack, apart, first, last]

theorem judge3MakePack_of_run (suited : a.isShu = true) (suit : b.suit = a.suit)
    (suitToo : b.suit = c.suit) (next : b.tile = a.tile + 1) (after : c.tile = b.tile + 1) :
    judge3MakePack a b c = .shunzi := by
  have first : b.Same a.succ := Tile.same_succ.mpr next
  have last : b.Same c.pred := Tile.same_pred.mpr after
  simp [judge3MakePack, suited, suit, ← suitToo, first, last]

end Conditions

/-! ## Moves -/

section Taking

variable {Item : Type} (first second third : Item) (before between after : List Item)

theorem perm_of_taken_two : ([first, second] ++ (before ++ after)).Perm
    (first :: (before ++ second :: after)) := by
  have inner : (second :: (before ++ after)).Perm (before ++ second :: after) :=
    List.perm_middle.symm
  exact inner.cons first

theorem sublist_of_taken_two :
    (before ++ after).Sublist (first :: (before ++ second :: after)) :=
  ((List.sublist_cons_self second after).append_left before).cons first

theorem perm_of_taken_three : ([first, second, third] ++ (before ++ between ++ after)).Perm
    (first :: (before ++ second :: (between ++ third :: after))) := by
  have inner : (second :: third :: (before ++ between ++ after)).Perm
      (before ++ second :: (between ++ third :: after)) := by
    refine List.Perm.trans (List.Perm.cons second ?_) List.perm_middle.symm
    rw [List.append_assoc, ← List.append_assoc before between]
    exact List.perm_middle.symm.trans (by rw [List.append_assoc])
  exact inner.cons first

theorem sublist_of_taken_three : (before ++ between ++ after).Sublist
    (first :: (before ++ second :: (between ++ third :: after))) := by
  rw [List.append_assoc]
  have inner := (List.sublist_cons_self third after).append_left between
  exact (((inner.cons second).append_left before)).cons first

end Taking

namespace SearchNode

variable {node next : SearchNode} {first second third : Tile} {passed later : List Tile}

/-- The node after one part of its tiles was taken out. -/
structure Takes (node : SearchNode) (part : Part) (next : SearchNode) : Prop where
  packs : next.packs = node.packs ++ [part.pack]
  tiles : (part.tiles ++ next.rest).Perm node.rest
  rest : next.rest.Sublist node.rest
  first : node.rest.head? = part.tiles.head?
  wanted : if part.isPair then node.duiziCnt ≠ 0 else node.mianziCnt ≠ 0
  mianzi : next.mianziCnt = node.mianziCnt - (if part.isPair then 0 else 1 : Nat)
  duizi : next.duiziCnt = node.duiziCnt - (if part.isPair then 1 else 0 : Nat)

theorem takes_of_pair {before after : List Tile} (forms : Forms [first, second]
      ⟨.jiang, .ofId second.getId, 0, -((first.drawflag : Int) + second.drawflag)⟩)
    (whole : node.rest = first :: (before ++ second :: after)) (wanted : node.duiziCnt ≠ 0) :
    node.Takes ⟨_, _, forms⟩ (node.takePair first second (before ++ after)) :=
  ⟨rfl, whole ▸ perm_of_taken_two .., whole ▸ sublist_of_taken_two .., whole ▸ rfl,
    by simp [Part.isPair, Pack.isJiang, wanted],
    by simp [takePair, Part.isPair, Pack.isJiang],
    by simp [takePair, Part.isPair, Pack.isJiang]⟩

theorem takes_of_three {type : PackType} {before between after : List Tile}
    (notPair : type ≠ .jiang)
    (forms : Forms [first, second, third] ⟨type, .ofId second.getId, 0,
      -((first.drawflag : Int) + second.drawflag + third.drawflag)⟩)
    (whole : node.rest = first :: (before ++ second :: (between ++ third :: after)))
    (wanted : node.mianziCnt ≠ 0) :
    node.Takes ⟨_, _, forms⟩
      (node.takeThree type first second third (before ++ between ++ after)) :=
  ⟨rfl, whole ▸ perm_of_taken_three .., whole ▸ sublist_of_taken_three .., whole ▸ rfl,
    by simp [Part.isPair, Pack.isJiang, notPair, wanted],
    by simp [takeThree, Part.isPair, Pack.isJiang, notPair],
    by simp [takeThree, Part.isPair, Pack.isJiang, notPair]⟩

theorem takes_of_mem_movesOfThree (playable : first.Playable) (wanted : node.mianziCnt ≠ 0)
    (whole : node.rest = first :: (passed ++ second :: later)) (between after : List Tile)
    (split : later = between ++ after)
    (move : next ∈ node.movesOfThree first second (passed ++ between) after) :
    ∃ part, node.Takes part next := by
  induction after generalizing between with
  | nil => simp [movesOfThree] at move
  | cons third after ih =>
      rw [movesOfThree] at move
      split at move
      · cases move
      · rename_i adjacent
        rcases List.mem_append.mp move with here | further
        · split at here
          · rename_i valid
            rw [List.mem_singleton.mp here]
            have judged := forms_of_judge3MakePack playable (by simpa using adjacent) rfl
              (by simpa using valid)
            rw [split] at whole
            exact ⟨_, takes_of_three judged.2 judged.1 whole wanted⟩
          · cases here
        · refine ih (between ++ [third]) (by simpa using split) ?_
          rwa [← List.append_assoc]

theorem takes_of_mem_movesFrom (before after : List Tile)
    (whole : node.rest = first :: (before ++ after))
    (move : next ∈ node.movesFrom first before after) : ∃ part, node.Takes part next := by
  induction after generalizing before with
  | nil => simp [movesFrom] at move
  | cons second after ih =>
      rw [movesFrom] at move
      split at move
      · cases move
      · rename_i adjacent
        have playable : first.Playable := Tile.playable_of_adjacent (by simpa using adjacent)
        rcases List.mem_append.mp move with here | further
        · rcases List.mem_append.mp here with pair | three
          · split at pair
            · rename_i wanted
              simp only [Bool.and_eq_true, bne_iff_ne] at wanted
              have same := judge2MakePack_iff.mp wanted.2
              rw [List.mem_singleton.mp pair]
              exact ⟨_, takes_of_pair (.jiang playable same) whole wanted.1⟩
            · cases pair
          · split at three
            · rename_i wanted
              refine takes_of_mem_movesOfThree playable (by simpa using wanted) whole [] after
                rfl ?_
              rwa [List.append_nil]
            · cases three
        · refine ih (before ++ [second]) ?_ further
          simpa using whole

/-- Every move takes a part of the tiles. -/
theorem takes_of_mem_moves (move : next ∈ node.moves) : ∃ part, node.Takes part next := by
  unfold moves at move
  split at move
  · cases move
  · rename_i first later whole
    exact takes_of_mem_movesFrom [] later whole move

/-! ## Every part is tried -/

theorem takeThree_mem_movesOfThree {between after : List Tile}
    (adjacent : ∀ tile ∈ between ++ [third], judge2SameOrAdjacent second tile = true)
    {type : PackType} (judged : judge3MakePack first second third = type)
    (valid : type ≠ .invalid) :
    node.takeThree type first second third (passed ++ between ++ after) ∈
      node.movesOfThree first second passed (between ++ third :: after) := by
  induction between generalizing passed with
  | nil =>
      have same : judge2SameOrAdjacent second third = true := adjacent third (by simp)
      simp [movesOfThree, same, judged, valid]
  | cons tile between ih =>
      have same : judge2SameOrAdjacent second tile = true := adjacent tile (by simp)
      have further : node.takeThree type first second third (passed ++ [tile] ++ between ++ after) ∈
          node.movesOfThree first second (passed ++ [tile]) (between ++ third :: after) :=
        ih fun later member => adjacent later (List.mem_cons_of_mem _ member)
      simp only [List.cons_append, movesOfThree, same, Bool.not_true, Bool.false_eq_true, if_false]
      refine List.mem_append_right _ ?_
      simpa using further

theorem mem_movesFrom {before after : List Tile} (move : SearchNode)
    (adjacent : ∀ tile ∈ before ++ [second], judge2SameOrAdjacent first tile = true)
    (tried : move ∈ (if node.duiziCnt != 0 && judge2MakePack first second != .invalid then
          [node.takePair first second (passed ++ before ++ after)] else []) ++
        (if node.mianziCnt != 0 then
          node.movesOfThree first second (passed ++ before) after else [])) :
    move ∈ node.movesFrom first passed (before ++ second :: after) := by
  induction before generalizing passed with
  | nil =>
      have same : judge2SameOrAdjacent first second = true := adjacent second (by simp)
      rw [List.append_nil] at tried
      simp only [List.nil_append, movesFrom, same, Bool.not_true, Bool.false_eq_true, if_false]
      exact List.mem_append_left _ tried
  | cons tile before ih =>
      have same : judge2SameOrAdjacent first tile = true := adjacent tile (by simp)
      have further : move ∈
          node.movesFrom first (passed ++ [tile]) (before ++ second :: after) :=
        ih (fun later member => adjacent later (List.mem_cons_of_mem _ member))
          (by simpa using tried)
      simp only [List.cons_append, movesFrom, same, Bool.not_true, Bool.false_eq_true, if_false]
      exact List.mem_append_right _ further

/-- Between two tiles that are the same or adjacent, only such tiles lie in a sorted hand. -/
theorem adjacent_between {tile : Tile} (adjacent : judge2SameOrAdjacent first second = true)
    (lower : first.tile ≤ tile.tile) (upper : tile.tile ≤ second.tile) :
    judge2SameOrAdjacent first tile = true := by
  have apart : second.tile = first.tile + 1 ∨ second.tile = first.tile := by
    rcases judge2SameOrAdjacent_iff.mp adjacent with suited | honour
    · exact suited.2.2
    · exact .inr honour.2
  rcases (by omega : tile.tile = first.tile ∨ tile.tile = second.tile) with same | same
  · exact judge2SameOrAdjacent_of_same (Tile.playable_of_adjacent adjacent) same
  · rw [judge2SameOrAdjacent_iff, Tile.suit_of_same same, same]
    exact judge2SameOrAdjacent_iff.mp adjacent

theorem adjacent_up_to {before after : List Tile}
    (sorted : (first :: (before ++ second :: after)).Pairwise Tile.Le)
    (adjacent : judge2SameOrAdjacent first second = true) :
    ∀ tile ∈ before ++ [second], judge2SameOrAdjacent first tile = true := by
  obtain ⟨least, sorted⟩ := List.pairwise_cons.mp sorted
  obtain ⟨_, _, across⟩ := List.pairwise_append.mp sorted
  intro tile member
  rcases List.mem_append.mp member with early | last
  · exact adjacent_between adjacent (least tile (List.mem_append_left _ early))
      (across tile early second List.mem_cons_self)
  · rwa [List.mem_singleton.mp last]

theorem takePair_mem_moves {before after : List Tile}
    (whole : node.rest = first :: (before ++ second :: after))
    (sorted : node.rest.Pairwise Tile.Le) (playable : first.Playable)
    (same : second.tile = first.tile) (wanted : node.duiziCnt ≠ 0) :
    node.takePair first second (before ++ after) ∈ node.moves := by
  have adjacent := judge2SameOrAdjacent_of_same playable same
  have judged := judge2MakePack_iff.mpr same
  rw [moves, whole]
  refine mem_movesFrom _ (adjacent_up_to (whole ▸ sorted) adjacent) (List.mem_append_left _ ?_)
  simp [wanted, judged]

theorem takeThree_mem_moves {before between after : List Tile} {type : PackType}
    (whole : node.rest = first :: (before ++ second :: (between ++ third :: after)))
    (sorted : node.rest.Pairwise Tile.Le) (adjacent : judge2SameOrAdjacent first second = true)
    (further : judge2SameOrAdjacent second third = true)
    (judged : judge3MakePack first second third = type) (valid : type ≠ .invalid)
    (wanted : node.mianziCnt ≠ 0) :
    node.takeThree type first second third (before ++ between ++ after) ∈ node.moves := by
  rw [whole] at sorted
  obtain ⟨_, tail⟩ := List.pairwise_cons.mp sorted
  obtain ⟨_, tail, _⟩ := List.pairwise_append.mp tail
  rw [moves, whole]
  refine mem_movesFrom _ (adjacent_up_to sorted adjacent) (List.mem_append_right _ ?_)
  simp only [bne_iff_ne, ne_eq, wanted, not_false_eq_true, if_true, List.nil_append]
  exact takeThree_mem_movesOfThree (adjacent_up_to tail further) judged valid

/-- Two members of a list stand in it in one order or the other. -/
theorem split_at_two {whole others : List Tile}
    (members : (second :: third :: others).Perm whole) :
    ∃ x y before between after, whole = before ++ x :: (between ++ y :: after) ∧
      (before ++ between ++ after).Perm others ∧
      (x = second ∧ y = third ∨ x = third ∧ y = second) := by
  obtain ⟨before, after, rfl⟩ := List.append_of_mem (members.subset List.mem_cons_self)
  have rest : (third :: others).Perm (before ++ after) :=
    (members.trans List.perm_middle).cons_inv
  rcases List.mem_append.mp (rest.subset List.mem_cons_self) with early | late
  · obtain ⟨earliest, between, rfl⟩ := List.append_of_mem early
    refine ⟨third, second, earliest, between, after, by simp, ?_, .inr ⟨rfl, rfl⟩⟩
    have middle : (earliest ++ third :: between ++ after).Perm
        (third :: (earliest ++ between ++ after)) := by
      simp
    exact ((rest.trans middle).cons_inv).symm
  · obtain ⟨between, latest, rfl⟩ := List.append_of_mem late
    refine ⟨second, third, before, between, latest, rfl, ?_, .inl ⟨rfl, rfl⟩⟩
    have middle : (before ++ (between ++ third :: latest)).Perm
        (third :: (before ++ between ++ latest)) := by
      rw [← List.append_assoc]
      exact List.perm_middle
    exact ((rest.trans middle).cons_inv).symm

/-- Whatever part holds the first tile of a sorted hand, the loops try one with its pack. -/
theorem exists_move {part : Part} {others : List Tile}
    (whole : node.rest = first :: later) (sorted : node.rest.Pairwise Tile.Le)
    (holds : first ∈ part.tiles) (split : (part.tiles ++ others).Perm node.rest)
    (wanted : if part.isPair then node.duiziCnt ≠ 0 else node.mianziCnt ≠ 0) :
    ∃ next ∈ node.moves, next.rest.Perm others ∧
      ∃ taken : Part, node.Takes taken next ∧ taken.pack = part.pack := by
  obtain ⟨tiles, pack, forms⟩ := part
  have mine := List.perm_cons_erase holds
  have rest : (tiles.erase first ++ others).Perm later := by
    rw [whole] at split
    exact ((mine.symm.append_right others).trans split).cons_inv
  have members : ∀ tile ∈ tiles.erase first, tile ∈ tiles := fun tile => List.mem_of_mem_erase
  have marks := Tile.marks_perm mine
  cases forms with
  | @jiang a b playable same =>
      obtain ⟨second, alone⟩ := List.length_eq_one_iff.mp
        (List.length_erase_of_mem holds : ([a, b].erase first).length = 1)
      rw [alone] at marks rest members
      have alike : ∀ tile ∈ [a, b], tile.tile = a.tile := by simp [same]
      have sameFirst := alike first holds
      have sameSecond := alike second (members second List.mem_cons_self)
      have further := sameSecond.trans sameFirst.symm
      have startPlayable := playable.of_same sameFirst
      obtain ⟨before, after, rfl⟩ := List.append_of_mem (rest.subset List.mem_cons_self)
      replace wanted : node.duiziCnt ≠ 0 := by simpa [Part.isPair, Pack.isJiang] using wanted
      have move := takePair_mem_moves whole sorted startPlayable further wanted
      refine ⟨_, move, (rest.trans List.perm_middle).cons_inv.symm, _,
        takes_of_pair (.jiang startPlayable further) whole wanted, ?_⟩
      · simp only [Tile.marks] at marks
        simp only [Tile.getId, sameSecond, same, Pack.mk.injEq, true_and]
        omega
  | @kezi a b c playable same alike =>
      obtain ⟨y, z, two⟩ := List.length_eq_two.mp
        (List.length_erase_of_mem holds : ([a, b, c].erase first).length = 2)
      rw [two] at marks rest members
      have equal : ∀ tile ∈ [a, b, c], tile.tile = a.tile := by simp [same, alike]
      have sameFirst := equal first holds
      have startPlayable := playable.of_same sameFirst
      obtain ⟨second, third, before, between, after, rfl, left, order⟩ := split_at_two rest
      have sameSecond : second.tile = a.tile ∧ third.tile = a.tile ∧
          second.drawflag + third.drawflag = y.drawflag + z.drawflag := by
        have sameY := equal y (members y (by simp))
        have sameZ := equal z (members z (by simp))
        rcases order with ⟨rfl, rfl⟩ | ⟨rfl, rfl⟩
        · exact ⟨sameY, sameZ, rfl⟩
        · exact ⟨sameZ, sameY, Nat.add_comm _ _⟩
      obtain ⟨sameSecond, sameThird, flags⟩ := sameSecond
      have further := sameSecond.trans sameFirst.symm
      have furtherThird := sameThird.trans sameSecond.symm
      replace wanted : node.mianziCnt ≠ 0 := by simpa [Part.isPair, Pack.isJiang] using wanted
      have move := takeThree_mem_moves whole sorted
        (judge2SameOrAdjacent_of_same startPlayable further)
        (judge2SameOrAdjacent_of_same (startPlayable.of_same further) furtherThird)
        (judge3MakePack_of_same further furtherThird) (by decide) wanted
      refine ⟨_, move, left, _,
        takes_of_three (by decide) (.kezi startPlayable further furtherThird) whole wanted, ?_⟩
      · simp only [Tile.marks] at marks
        simp only [Tile.getId, sameSecond, same, Pack.mk.injEq, true_and]
        omega
  | @shunzi a b c suited suitedToo suit suitToo next after =>
      -- The first tile of the hand is the lowest, so it is the first of the run.
      have least : ∀ tile ∈ [a, b, c], first.tile ≤ tile.tile := by
        intro tile member
        have held : tile ∈ node.rest := split.subset (List.mem_append_left _ member)
        rw [whole] at held sorted
        rcases List.mem_cons.mp held with rfl | further
        · exact Int.le_refl _
        · exact (List.pairwise_cons.mp sorted).1 tile further
      have isFirst : first = a := by
        have lowest := least a (by simp)
        rcases List.mem_cons.mp holds with rfl | further
        · rfl
        · have higher : a.tile < first.tile := by
            rcases List.mem_cons.mp further with rfl | last
            · omega
            · rw [List.mem_singleton.mp last]
              omega
          omega
      subst isFirst
      rw [List.erase_cons_head] at rest
      obtain ⟨x, y, before, between, later, rfl, left, order⟩ := split_at_two rest
      have ordered : x = b ∧ y = c := by
        rcases order with inOrder | ⟨rfl, rfl⟩
        · exact inOrder
        · rw [whole] at sorted
          have further := (List.pairwise_append.mp (List.pairwise_cons.mp sorted).2).2.1
          have before := (List.pairwise_cons.mp further).1 y (by simp)
          change x.tile ≤ y.tile at before
          omega
      obtain ⟨rfl, rfl⟩ := ordered
      replace wanted : node.mianziCnt ≠ 0 := by simpa [Part.isPair, Pack.isJiang] using wanted
      have move := takeThree_mem_moves whole sorted
        (judge2SameOrAdjacent_iff.mpr (.inl ⟨suited, suit.symm, .inl next⟩))
        (judge2SameOrAdjacent_iff.mpr (.inl ⟨suitedToo, suitToo, .inl after⟩))
        (judge3MakePack_of_run suited suit suitToo next after) (by decide) wanted
      exact ⟨_, move, left, _,
        takes_of_three (by decide) (.shunzi suited suitedToo suit suitToo next after) whole
          wanted, rfl⟩

end SearchNode

/-! ## Leaves -/

section Leaves

variable {fuluSize : Nat} {node leaf : SearchNode}

theorem searchTree_done_iff :
    (searchTree fuluSize).done node = true ↔ node.mianziCnt = 0 ∧ node.duiziCnt = 0 := by
  simp [searchTree]

theorem mianziOf_cons (part : Part) (parts : List Part) :
    Part.mianziOf (part :: parts) = Part.mianziOf parts + if part.isPair then 0 else 1 := by
  cases pair : part.isPair <;> simp [Part.mianziOf, pair]

theorem pairsOf_cons (part : Part) (parts : List Part) :
    Part.pairsOf (part :: parts) = Part.pairsOf parts + if part.isPair then 1 else 0 := by
  cases pair : part.isPair <;> simp [Part.pairsOf, pair]

/-- The packs of a leaf are a reading of tiles of the node, with as many packs of each sort
as the node asks for. -/
theorem parts_of_leaf (below : (searchTree fuluSize).Leaf node leaf) :
    ∃ parts, leaf.packs = node.packs ++ Part.packsOf parts ∧
      (Part.tilesOf parts ++ leaf.rest).Perm node.rest ∧
      node.mianziCnt = Part.mianziOf parts ∧ node.duiziCnt = Part.pairsOf parts := by
  induction below with
  | here done =>
      obtain ⟨mianzi, duizi⟩ := searchTree_done_iff.mp done
      exact ⟨[], by simp [Part.packsOf], .refl _, mianzi, duizi⟩
  | @down node next leaf inner move below ih =>
      obtain ⟨part, takes⟩ := SearchNode.takes_of_mem_moves move
      obtain ⟨parts, packs, tiles, mianzi, duizi⟩ := ih
      refine ⟨part :: parts, ?_, ?_, ?_, ?_⟩
      · rw [packs, takes.packs]
        simp [Part.packsOf]
      · rw [show Part.tilesOf (part :: parts) = part.tiles ++ Part.tilesOf parts from rfl,
          List.append_assoc]
        exact (tiles.append_left part.tiles).trans takes.tiles
      · rw [mianziOf_cons, Nat.cast_add, ← mianzi, takes.mianzi]
        omega
      · rw [pairsOf_cons, Nat.cast_add, ← duizi, takes.duizi]
        omega

/-- Every reading of the tiles of a node is a leaf, up to the order of its packs. -/
theorem leaf_of_parts {parts : List Part} (sorted : node.rest.Pairwise Tile.Le)
    (split : (Part.tilesOf parts).Perm node.rest)
    (mianzi : node.mianziCnt = Part.mianziOf parts)
    (duizi : node.duiziCnt = Part.pairsOf parts) :
    ∃ leaf, (searchTree fuluSize).Leaf node leaf ∧
      leaf.packs.Perm (node.packs ++ Part.packsOf parts) := by
  induction size : parts.length generalizing node parts with
  | zero =>
      obtain rfl := List.length_eq_zero_iff.mp size
      exact ⟨node, .here (searchTree_done_iff.mpr ⟨mianzi, duizi⟩), by simp [Part.packsOf]⟩
  | succ size ih =>
      -- The first tile of the node is in some part; that part goes first.
      obtain ⟨first, later, whole⟩ : ∃ first later, node.rest = first :: later := by
        refine List.exists_cons_of_ne_nil fun empty => ?_
        obtain ⟨some, others, rfl⟩ := List.exists_cons_of_length_eq_add_one size
        rw [empty] at split
        obtain ⟨tiles, pack, forms⟩ := some
        cases forms <;> simp [Part.tilesOf] at split
      have held : first ∈ Part.tilesOf parts := split.symm.subset (whole ▸ List.mem_cons_self)
      obtain ⟨part, member, holds⟩ := List.mem_flatMap.mp held
      obtain ⟨before, after, rfl⟩ := List.append_of_mem member
      have reordered : (before ++ part :: after).Perm (part :: (before ++ after)) :=
        List.perm_middle
      have others := (Part.tilesOf_perm reordered).symm.trans split
      rw [Part.mianziOf_perm reordered, mianziOf_cons, Nat.cast_add] at mianzi
      rw [Part.pairsOf_perm reordered, pairsOf_cons, Nat.cast_add] at duizi
      have wanted : if part.isPair then node.duiziCnt ≠ 0 else node.mianziCnt ≠ 0 := by
        split at mianzi <;> rename_i pair <;> simp only [pair] at duizi ⊢ <;> grind
      obtain ⟨next, move, rest, taken, takes, packed⟩ :=
        SearchNode.exists_move whole sorted holds others wanted
      have samePair : taken.isPair = part.isPair := by rw [Part.isPair, packed, Part.isPair]
      obtain ⟨leaf, below, packs⟩ := ih (sorted.sublist takes.rest) rest.symm
        (by rw [takes.mianzi, mianzi, samePair]; omega)
        (by rw [takes.duizi, duizi, samePair]; omega)
        (by rw [reordered.length_eq] at size; exact Nat.succ_inj.mp size)
      refine ⟨leaf, .down ?_ move below, ?_⟩
      · rw [Bool.eq_false_iff, ne_eq, searchTree_done_iff]
        split at wanted <;> omega
      · rw [takes.packs, packed, List.append_assoc] at packs
        exact packs.trans ((Part.packsOf_perm reordered).symm.append_left _)

end Leaves

end GbMahjong.Mahjong
