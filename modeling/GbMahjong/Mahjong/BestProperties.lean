import Mathlib.Data.List.MinMax
import GbMahjong.Mahjong.JudgeProperties
import GbMahjong.Mahjong.TotalProperties

/-! `CountFan` reports the best of all the ways to count a hand: the first of the highest
score, and nothing mixed in from the others. -/

set_option autoImplicit false

namespace GbMahjong.Mahjong

open GbMahjong.Library Shape

/-- The fans that a way to count a hand finds, and their score. -/
abbrev Account := FanTable × Nat

namespace FanState

def account (state : FanState) : Account :=
  (state.fanTableRes, state.totFanRes)

/-- The state reports the first of the best accounts so far, and is ready for another. -/
structure Best (accounts : List Account) (state : FanState) : Prop where
  clear : state.tables = .empty
  first : accounts.argmax Prod.snd = some state.account

variable {state : FanState} {accounts : List Account}

/-- The table of the count before is the first to beat, with no score. -/
theorem best_clear (fan : FanState) : Best [fan.clear.account] fan.clear :=
  ⟨rfl, rfl⟩

/-- The tables count as one more account. -/
theorem Best.getMaxFan {tables : FanTables} {fanPacks : List Pack} (best : Best accounts state) :
    Best (accounts ++ [fanTableCount tables.fanTableExclude])
      (FanState.getMaxFan { state with tables, fanPacks }) := by
  have before := best.first
  rw [account] at before
  unfold FanState.getMaxFan
  dsimp only
  split
  · rename_i better
    refine ⟨rfl, ?_⟩
    rw [List.argmax_concat, before]
    exact if_pos better
  · rename_i notBetter
    refine ⟨rfl, ?_⟩
    rw [List.argmax_concat, before]
    exact if_neg notBetter

end FanState

/-! ## The ways to count -/

/-- What one reading comes to. -/
def readingAccount (handtiles : Handtiles) (zuhelongPack : Pack) (packs : List Pack) : Account :=
  fanTableCount (countBasicFan handtiles packs zuhelongPack .empty).fanTableExclude

/-- What 十三幺, 全不靠 or 七星不靠 comes to. -/
def specialAccount (handtiles : Handtiles) (f : FanKind) : Account :=
  (countSpecialFan handtiles f .new).account

/-- What 七对 or 连七对 comes to. -/
def qiduiAccount (handtiles : Handtiles) (f : FanKind) : Account :=
  (countQiduiFan handtiles f .new).account

namespace FanState

variable {state : FanState} {accounts : List Account} (handtiles : Handtiles)

/-- From a new state a count is taken over, as it scores something. -/
theorem account_getMaxFan_new (tables : FanTables) (fanPacks : List Pack) :
    (FanState.getMaxFan { new with tables, fanPacks }).account =
      fanTableCount tables.fanTableExclude := by
  unfold FanState.getMaxFan
  exact congrArg account (if_pos (fanTableCount_pos _))

theorem Best.countReading (best : Best accounts state) (zuhelongPack : Pack)
    (packs : List Pack) :
    Best (accounts ++ [readingAccount handtiles zuhelongPack packs])
      (countReading handtiles zuhelongPack packs state) := by
  unfold Mahjong.countReading readingAccount
  rw [best.clear]
  exact best.getMaxFan

theorem Best.countSpecialFan (best : Best accounts state) (f : FanKind) :
    Best (accounts ++ [specialAccount handtiles f]) (countSpecialFan handtiles f state) := by
  unfold specialAccount Mahjong.countSpecialFan
  dsimp only
  rw [account_getMaxFan_new, best.clear]
  exact best.getMaxFan

theorem Best.countQiduiFan (best : Best accounts state) (f : FanKind) :
    Best (accounts ++ [qiduiAccount handtiles f]) (countQiduiFan handtiles f state) := by
  unfold qiduiAccount Mahjong.countQiduiFan
  dsimp only
  rw [account_getMaxFan_new, best.clear]
  exact best.getMaxFan

/-- A run over readings: each adds its account. -/
theorem Best.foldl_countReading (best : Best accounts state) (zuhelongPack : Pack)
    (readings : List (List Pack)) :
    Best (accounts ++ readings.map (readingAccount handtiles zuhelongPack))
      (readings.foldl
        (fun state packs => Mahjong.countReading handtiles zuhelongPack packs state) state) := by
  induction readings generalizing accounts state with
  | nil => simpa using best
  | cons packs readings ih =>
      have further := ih (best.countReading handtiles zuhelongPack packs)
      rwa [List.append_assoc] at further

end FanState

/-! ## All of them -/

/-- The readings of some tiles beside the declared packs: each is one, and there is one for
every way to split the tiles. -/
structure ReadingsOf (handtiles : Handtiles) (tiles : List Tile) (melds : Nat)
    (readings : List (List Pack)) : Prop where
  each : ∀ reading ∈ readings, ∃ parts, reading = handtiles.fulu ++ Part.packsOf parts ∧
    Reads tiles melds (1 : Nat) parts
  all : ∀ parts, Reads tiles melds (1 : Nat) parts →
    ∃ reading ∈ readings, reading.Perm (handtiles.fulu ++ Part.packsOf parts)

/-- The accounts of the forms without melds. -/
def formAccounts (handtiles : Handtiles) : List Account :=
  (if judgeCompleteSpecialHu handtiles != .invalid then
    [specialAccount handtiles (judgeCompleteSpecialHu handtiles)] else []) ++
    if judgeQidui handtiles != .invalid then
      [qiduiAccount handtiles (judgeQidui handtiles)] else []

section Whole

variable (fan : FanState) {handtiles : Handtiles}

/-- What `CountFan` has before it searches. -/
theorem exists_best_forms (handtiles : Handtiles) : ∃ state,
    FanState.Best (fan.clear.account :: formAccounts handtiles) state ∧
      countWithoutHua fan handtiles =
        countBasic handtiles (judgeCompleteSpecialHu handtiles != .invalid) state := by
  refine ⟨_, ?_, rfl⟩
  have start := FanState.best_clear fan
  unfold formAccounts
  split
  · have special := start.countSpecialFan handtiles
      (judgeCompleteSpecialHu handtiles)
    split
    · exact special.countQiduiFan handtiles (judgeQidui handtiles)
    · exact special
  · split
    · exact start.countQiduiFan handtiles (judgeQidui handtiles)
    · exact start

/-- A search for the best reading counts readings of the tiles, all there are. -/
theorem dfs_best (whole : handtiles.Whole) {tiles : List Tile}
    (among : tiles.Subperm handtiles.lipai) {melds : Nat} (few : melds ≤ 4)
    (count : tiles.length = 3 * melds + 2) (zuhelongPack : Pack) {accounts : List Account}
    {state : FanState} (best : state.Best accounts) :
    ∃ readings, ReadingsOf handtiles (Tile.sort tiles) melds readings ∧
      FanState.Best (accounts ++ readings.map (readingAccount handtiles zuhelongPack))
        (dfs handtiles (Tile.sort tiles) melds 1 handtiles.fulu true
          (countReading handtiles zuhelongPack) state).2 := by
  have searchable := whole.searchable among handtiles.fulu
    (by omega : (tiles.length : Int) = 3 * (melds : Int) + 2 * 1) (by omega) (by omega)
  obtain ⟨readings, result, each, all⟩ := dfs_readings handtiles
    (countReading handtiles zuhelongPack) state searchable (by omega) rfl
  refine ⟨readings, ⟨each, all⟩, ?_⟩
  rw [result]
  exact best.foldl_countReading handtiles zuhelongPack readings

/-- No knitted straight: the forms and all readings compete. -/
theorem countWithoutHua_plain (whole : handtiles.Whole)
    (plain : zuhelongBitmap (judgeZuhelong handtiles.lipaiBitmap) = 0) :
    ∃ readings,
      ReadingsOf handtiles (Tile.sort handtiles.lipai) (4 - handtiles.fulu.length) readings ∧
        FanState.Best (fan.clear.account :: formAccounts handtiles ++
          readings.map (readingAccount handtiles .none)) (countWithoutHua fan handtiles) := by
  obtain ⟨state, best, result⟩ := exists_best_forms fan handtiles
  have fulu := whole.fulu
  have fourteen := whole.fourteen
  have melds : ((4 - handtiles.fulu.length : Nat) : Int) = 4 - handtiles.fulu.length := by omega
  rw [result, countBasic]
  simp only [plain, bne_self_eq_false, Bool.false_and, Bool.false_eq_true, if_false, ← melds]
  exact dfs_best whole (.refl _) (by omega) (by omega) .none best

/-- The straight that is set aside, and the tiles that are left. -/
theorem knitted_tiles (whole : handtiles.Whole)
    (knitted : zuhelongBitmap (judgeZuhelong handtiles.lipaiBitmap) ≠ 0) :
    let straight := zuhelongTiles.getD (judgeZuhelong handtiles.lipaiBitmap) []
    Knits straight ∧ (∀ id ∈ straight, id ∈ handtiles.lipaiIds) ∧
      (withoutZuhelong (zuhelongBitmap (judgeZuhelong handtiles.lipaiBitmap))
        handtiles.lipai).length + 9 = handtiles.lipai.length := by
  rcases judgeZuhelong_cases whole with ⟨knits, held⟩ | ⟨nothing, _⟩
  · refine ⟨knits, held, ?_⟩
    have listed := List.mem_of_mem_tail (knits_iff.mp knits)
    have ids := withoutZuhelong_ids (zuhelongTiles_distinct _ listed) (zuhelongTiles_fit _ listed)
      whole.listed
    have count := congrArg List.length ids
    rw [List.length_map] at count
    have split := (perm_diff_of_knits knits held).length_eq
    rw [List.length_append, (zuhelongTiles_ne _ (knits_iff.mp knits)).1,
      Handtiles.lipaiIds, List.length_map] at split
    rw [zuhelongBitmap, count]
    omega
  · rw [zuhelongBitmap, nothing] at knitted
    exact absurd rfl knitted

theorem knitted_iff (whole : handtiles.Whole) :
    zuhelongBitmap (judgeZuhelong handtiles.lipaiBitmap) ≠ 0 ↔
      ∃ straight, Knits straight ∧ ∀ id ∈ straight, id ∈ handtiles.lipaiIds := by
  rcases judgeZuhelong_cases whole with ⟨knits, held⟩ | ⟨nothing, missing⟩
  · exact iff_of_true (zuhelongTiles_ne _ (knits_iff.mp knits)).2 ⟨_, knits, held⟩
  · refine iff_of_false (fun bits => bits ?_) fun ⟨straight, knits, held⟩ =>
      missing straight knits held
    rw [zuhelongBitmap, nothing]
    rfl

/-- With a knitted straight the readings of the other tiles compete, and the straight comes
on top. -/
theorem countWithoutHua_knitted (whole : handtiles.Whole)
    (knitted : zuhelongBitmap (judgeZuhelong handtiles.lipaiBitmap) ≠ 0)
    (ordinary : judgeCompleteSpecialHu handtiles = .invalid) :
    let type := judgeZuhelong handtiles.lipaiBitmap
    ∃ readings state,
      ReadingsOf handtiles (Tile.sort (withoutZuhelong (zuhelongBitmap type) handtiles.lipai))
          (1 - handtiles.fulu.length) readings ∧
        FanState.Best (fan.clear.account :: formAccounts handtiles ++
          readings.map (readingAccount handtiles (.zuhelong type))) state ∧
        countWithoutHua fan handtiles = addZuhelong type state := by
  intro type
  obtain ⟨state, best, result⟩ := exists_best_forms fan handtiles
  obtain ⟨_, _, nine⟩ := knitted_tiles whole knitted
  have fourteen := whole.fourteen
  have melds : ((1 - handtiles.fulu.length : Nat) : Int) = 1 - handtiles.fulu.length := by omega
  have left : (withoutZuhelong (zuhelongBitmap type) handtiles.lipai).length =
      3 * (1 - handtiles.fulu.length) + 2 := by
    change (withoutZuhelong (zuhelongBitmap type) handtiles.lipai).length + 9 = _ at nine
    omega
  obtain ⟨readings, readingsOf, bestOf⟩ := dfs_best whole
    (withoutZuhelong_sublist (zuhelongBitmap type) handtiles.lipai).subperm (by omega) left
    (.zuhelong type) best
  refine ⟨readings, _, readingsOf, bestOf, ?_⟩
  have set : (zuhelongBitmap type != 0) = true := bne_iff_ne.mpr knitted
  rw [result, countBasic, ordinary]
  simp only [type, set, if_true, bne_self_eq_false, Bool.not_false, Bool.and_true, melds]

/-- Beside a hand of unrelated tiles with a knitted straight nothing is left to split. -/
theorem countWithoutHua_special (whole : handtiles.Whole)
    (knitted : zuhelongBitmap (judgeZuhelong handtiles.lipaiBitmap) ≠ 0)
    (special : judgeCompleteSpecialHu handtiles ≠ .invalid) :
    FanState.Best (fan.clear.account :: formAccounts handtiles)
      (countWithoutHua fan handtiles) := by
  obtain ⟨state, best, result⟩ := exists_best_forms fan handtiles
  obtain ⟨_, _, nine⟩ := knitted_tiles whole knitted
  have fourteen := whole.fourteen
  have set : (zuhelongBitmap (judgeZuhelong handtiles.lipaiBitmap) != 0) = true :=
    bne_iff_ne.mpr knitted
  rw [result, countBasic]
  simp only [set, bne_iff_ne.mpr special, if_true, Bool.not_true, Bool.and_false,
    Bool.false_eq_true, if_false]
  refine SearchTree.explore_invariant _ (FanState.Best _) best fun leaf state below _ => ?_
  obtain ⟨parts, _, tiles, mianzi, duizi⟩ := parts_of_leaf below
  have length := tiles.length_eq
  rw [List.length_append, Tile.length_sort] at length
  have sizes := Part.length_tilesOf parts
  dsimp only at mianzi duizi length
  omega

/-- What `CountFan` reports, flowers aside. -/
def ReportsBest (fan : FanState) (handtiles : Handtiles) : Prop :=
  let type := judgeZuhelong handtiles.lipaiBitmap
  let start := fan.clear.account :: formAccounts handtiles
  (zuhelongBitmap type = 0 → ∃ readings,
    ReadingsOf handtiles (Tile.sort handtiles.lipai) (4 - handtiles.fulu.length) readings ∧
      FanState.Best (start ++ readings.map (readingAccount handtiles .none))
        (countWithoutHua fan handtiles)) ∧
  (zuhelongBitmap type ≠ 0 → judgeCompleteSpecialHu handtiles = .invalid →
    ∃ readings state,
      ReadingsOf handtiles (Tile.sort (withoutZuhelong (zuhelongBitmap type) handtiles.lipai))
          (1 - handtiles.fulu.length) readings ∧
        FanState.Best (start ++ readings.map (readingAccount handtiles (.zuhelong type))) state ∧
        countWithoutHua fan handtiles = addZuhelong type state) ∧
  (zuhelongBitmap type ≠ 0 → judgeCompleteSpecialHu handtiles ≠ .invalid →
    FanState.Best start (countWithoutHua fan handtiles))

/-- `CountFan` reports the first of the highest accounts that a hand allows for. -/
theorem countWithoutHua_best (whole : handtiles.Whole) : ReportsBest fan handtiles :=
  ⟨countWithoutHua_plain fan whole, countWithoutHua_knitted fan whole,
    countWithoutHua_special fan whole⟩

/-- One, two and three, each four times, and a pair. -/
def drawnFours : Handtiles :=
  drawnHand [1, 1, 1, 1, 2, 2, 2, 2, 3, 3, 3, 3, 18] 18

/-- Seven pairs, four runs, or three triplets and a run: the runs make the most. -/
theorem countWithoutHua_best_fours : ∃ readings,
    ReadingsOf drawnFours (Tile.sort drawnFours.lipai) 4 readings ∧
      FanState.Best ([FanState.new.account, qiduiAccount drawnFours .qidui] ++
        readings.map (readingAccount drawnFours .none)) (countWithoutHua .new drawnFours) ∧
      (qiduiAccount drawnFours .qidui).2 = 33 ∧
      (countWithoutHua .new drawnFours).totFanRes = 60 := by
  have plain : zuhelongBitmap (judgeZuhelong drawnFours.lipaiBitmap) = 0 := by decide +kernel
  have special : judgeCompleteSpecialHu drawnFours = .invalid := by decide +kernel
  have pairs : judgeQidui drawnFours = .qidui := by decide +kernel
  have forms : formAccounts drawnFours = [qiduiAccount drawnFours .qidui] := by
    simp [formAccounts, special, pairs]
  have whole : drawnFours.Whole := drawnHand_whole rfl (by decide)
  obtain ⟨readings, readingsOf, best⟩ := (countWithoutHua_best .new whole).1 plain
  rw [forms] at best
  exact ⟨readings, readingsOf, best, by decide +kernel, by decide +kernel⟩

/-! ## Hands that are counted -/

/-- A count that was made scores something, and as much as its fans make. -/
def Account.Scored (account : Account) : Prop :=
  0 < account.2 ∧ account.1.count = account.2

theorem scored_fanTableCount (table : FanTable) : Account.Scored (fanTableCount table) :=
  ⟨fanTableCount_pos table, count_fanTableCount table⟩

theorem readingAccount_scored (handtiles : Handtiles) (zuhelongPack : Pack) (packs : List Pack) :
    (readingAccount handtiles zuhelongPack packs).Scored :=
  scored_fanTableCount _

theorem specialAccount_scored (handtiles : Handtiles) (f : FanKind) :
    (specialAccount handtiles f).Scored := by
  unfold specialAccount countSpecialFan
  rw [FanState.account_getMaxFan_new]
  exact scored_fanTableCount _

theorem qiduiAccount_scored (handtiles : Handtiles) (f : FanKind) :
    (qiduiAccount handtiles f).Scored := by
  unfold qiduiAccount countQiduiFan
  rw [FanState.account_getMaxFan_new]
  exact scored_fanTableCount _

theorem formAccounts_scored : ∀ account ∈ formAccounts handtiles, account.Scored := by
  intro account member
  rcases List.mem_append.mp member with special | pairs
  · split at special
    · rw [List.mem_singleton.mp special]
      exact specialAccount_scored _ _
    · cases special
  · split at pairs
    · rw [List.mem_singleton.mp pairs]
      exact qiduiAccount_scored _ _
    · cases pairs

theorem accounts_scored (zuhelongPack : Pack) (readings : List (List Pack)) :
    ∀ account ∈ formAccounts handtiles ++ readings.map (readingAccount handtiles zuhelongPack),
      account.Scored := by
  refine List.forall_mem_append.mpr ⟨formAccounts_scored, fun account member => ?_⟩
  obtain ⟨reading, _, rfl⟩ := List.mem_map.mp member
  exact readingAccount_scored handtiles zuhelongPack reading

theorem formAccounts_eq_nil_iff : formAccounts handtiles = [] ↔
    judgeCompleteSpecialHu handtiles = .invalid ∧ judgeQidui handtiles = .invalid := by
  rw [formAccounts, List.append_eq_nil_iff]
  refine and_congr ?_ ?_ <;> split <;> simp_all

section Counted

variable {fan} {state : FanState} {accounts : List Account}

/-- Either nothing was counted and the table is still that of the count before, or the best
account is one that was made. -/
theorem FanState.Best.cases (best : Best (fan.clear.account :: accounts) state)
    (scored : ∀ account ∈ accounts, account.Scored) :
    accounts = [] ∧ state.account = fan.clear.account ∨
      accounts ≠ [] ∧ state.account.Scored := by
  cases accounts with
  | nil =>
      have first := best.first
      rw [List.argmax_singleton] at first
      exact .inl ⟨rfl, (Option.some.inj first).symm⟩
  | cons account accounts =>
      refine .inr ⟨List.cons_ne_nil _ _, ?_⟩
      have most := List.le_of_mem_argmax (f := Prod.snd)
        (List.mem_cons_of_mem fan.clear.account List.mem_cons_self) best.first
      have positive := (scored account List.mem_cons_self).1
      cases List.mem_cons.mp (List.argmax_mem (f := Prod.snd) best.first) with
      | inl start =>
          have zero : state.account.2 = 0 := congrArg Prod.snd start
          omega
      | inr member => exact scored _ member

theorem FanState.Best.total_eq_zero_iff (best : Best (fan.clear.account :: accounts) state)
    (scored : ∀ account ∈ accounts, account.Scored) : state.totFanRes = 0 ↔ accounts = [] := by
  rcases best.cases scored with ⟨nothing, start⟩ | ⟨something, made⟩
  · exact iff_of_true (congrArg Prod.snd start) nothing
  · exact iff_of_false (Nat.ne_of_gt made.1) something

theorem FanState.Best.tallied_iff (best : Best (fan.clear.account :: accounts) state)
    (scored : ∀ account ∈ accounts, account.Scored) :
    state.Tallied ↔ fan.fanTableRes.count = 0 ∨ accounts ≠ [] := by
  rcases best.cases scored with ⟨nothing, start⟩ | ⟨something, made⟩
  · have table : state.fanTableRes = fan.fanTableRes := congrArg Prod.fst start
    have total : state.totFanRes = 0 := congrArg Prod.snd start
    rw [Tallied, table, total, nothing]
    exact ⟨.inl, Or.rec id (absurd rfl)⟩
  · exact iff_of_true made.2 (.inr something)

end Counted

theorem ReadingsOf.eq_nil_iff {tiles : List Tile} {melds : Nat} {readings : List (List Pack)}
    (readingsOf : ReadingsOf handtiles tiles melds readings) :
    readings = [] ↔ ¬∃ parts, Reads tiles melds (1 : Nat) parts := by
  constructor
  · intro nothing some
    obtain ⟨parts, reads⟩ := some
    obtain ⟨reading, member, _⟩ := readingsOf.all parts reads
    rw [nothing] at member
    cases member
  · intro none
    refine List.eq_nil_iff_forall_not_mem.mpr fun reading member => ?_
    obtain ⟨parts, _, reads⟩ := readingsOf.each reading member
    exact none ⟨parts, reads⟩

theorem exists_reads_sort_iff {tiles : List Tile} (listed : ∀ tile ∈ tiles, tile.Listed)
    {melds : Nat} : (∃ parts, Reads (Tile.sort tiles) melds (1 : Nat) parts) ↔
      Splits (tiles.map Tile.getId) melds 1 := by
  have same := Tile.sort_perm tiles
  have ids := same.map Tile.getId
  rw [reads_iff_splits fun tile member => listed tile (same.subset member)]
  exact ⟨Splits.of_perm ids, Splits.of_perm ids.symm⟩

/-- Beside a knitted straight a hand of packs has no room. -/
theorem judgeBasicHu_of_knitted (whole : handtiles.Whole)
    (knitted : zuhelongBitmap (judgeZuhelong handtiles.lipaiBitmap) ≠ 0) :
    ¬ judgeBasicHu handtiles = true := by
  obtain ⟨straight, knits, held⟩ := (knitted_iff whole).mp knitted
  rw [judgeBasicHu_iff whole]
  intro splits
  have nine := splits.nine_le knits held
  omega

theorem judgeZuhelongBasicHu_of_knitted (whole : handtiles.Whole)
    (knitted : zuhelongBitmap (judgeZuhelong handtiles.lipaiBitmap) ≠ 0) :
    judgeZuhelongBasicHu handtiles = true ↔
      Splits ((withoutZuhelong (zuhelongBitmap (judgeZuhelong handtiles.lipaiBitmap))
        handtiles.lipai).map Tile.getId) (1 - handtiles.fulu.length) 1 := by
  obtain ⟨_, _, nine⟩ := knitted_tiles whole knitted
  have fourteen := whole.fourteen
  have melds : ((1 - handtiles.fulu.length : Nat) : Int) = 1 - handtiles.fulu.length := by omega
  rw [judgeZuhelongBasicHu, if_pos (bne_iff_ne.mpr knitted), ← melds,
    dfs_sort_found_iff whole (withoutZuhelong_sublist _ handtiles.lipai).subperm (by omega)
      (by omega)]

/-- What `CountFan` comes to: the best account of a complete hand, or what was there before,
and a knitted straight on top. -/
theorem exists_counted (whole : handtiles.Whole) : ∃ accounts state,
    FanState.Best (fan.clear.account :: accounts) state ∧
      (∀ account ∈ accounts, account.Scored) ∧
      (accounts = [] ↔ ¬ judgeHu handtiles = true) ∧
      (countWithoutHua fan handtiles = state ∧
          (zuhelongBitmap (judgeZuhelong handtiles.lipaiBitmap) ≠ 0 → judgeHu handtiles = true) ∨
        countWithoutHua fan handtiles =
            addZuhelong (judgeZuhelong handtiles.lipaiBitmap) state ∧
          zuhelongBitmap (judgeZuhelong handtiles.lipaiBitmap) ≠ 0) := by
  by_cases knitted : zuhelongBitmap (judgeZuhelong handtiles.lipaiBitmap) = 0
  · obtain ⟨readings, readingsOf, best⟩ := countWithoutHua_plain fan whole knitted
    rw [List.cons_append] at best
    refine ⟨_, _, best, accounts_scored .none readings, ?_, .inl ⟨rfl, absurd knitted⟩⟩
    have basic : readings = [] ↔ ¬judgeBasicHu handtiles = true := by
      rw [readingsOf.eq_nil_iff, exists_reads_sort_iff whole.listed, judgeBasicHu_iff whole]
      rfl
    have unknitted : judgeZuhelongBasicHu handtiles = false := by
      unfold judgeZuhelongBasicHu
      simp only [knitted, bne_self_eq_false, Bool.false_eq_true, if_false]
    rw [List.append_eq_nil_iff, List.map_eq_nil_iff, formAccounts_eq_nil_iff, basic, judgeHu,
      unknitted]
    simp only [Bool.or_eq_true, bne_iff_ne, ne_eq, or_false, Bool.false_eq_true]
    tauto
  · by_cases special : judgeCompleteSpecialHu handtiles = .invalid
    · obtain ⟨readings, state, readingsOf, best, result⟩ :=
        countWithoutHua_knitted fan whole knitted special
      rw [List.cons_append] at best
      refine ⟨_, state, best, accounts_scored _ readings, ?_, .inr ⟨result, knitted⟩⟩
      have sublist := withoutZuhelong_sublist
        (zuhelongBitmap (judgeZuhelong handtiles.lipaiBitmap)) handtiles.lipai
      have beside : readings = [] ↔ ¬judgeZuhelongBasicHu handtiles = true := by
        rw [readingsOf.eq_nil_iff, exists_reads_sort_iff fun tile member =>
          whole.listed tile (sublist.subset member), judgeZuhelongBasicHu_of_knitted whole knitted]
      have basic := judgeBasicHu_of_knitted whole knitted
      rw [List.append_eq_nil_iff, List.map_eq_nil_iff, formAccounts_eq_nil_iff, beside, judgeHu]
      simp only [Bool.or_eq_true, bne_iff_ne, ne_eq, basic]
      tauto
    · have judged : judgeHu handtiles = true := by
        rw [judgeHu, bne_iff_ne.mpr special]
        rfl
      refine ⟨_, _, countWithoutHua_special fan whole knitted special, formAccounts_scored, ?_,
        .inl ⟨rfl, fun _ => judged⟩⟩
      rw [formAccounts_eq_nil_iff]
      exact iff_of_false (fun both => special both.1) (not_not.mpr judged)

/-- A hand scores, flowers aside, if it is complete or has a knitted straight. -/
theorem countWithoutHua_pos_iff (whole : handtiles.Whole) :
    0 < (countWithoutHua fan handtiles).totFanRes ↔
      judgeHu handtiles = true ∨
        ∃ straight, Knits straight ∧ ∀ id ∈ straight, id ∈ handtiles.lipaiIds := by
  rw [← knitted_iff whole]
  obtain ⟨accounts, state, best, scored, nothing, plain | knitted⟩ :=
    @exists_counted fan handtiles whole
  · rw [plain.1, Nat.pos_iff_ne_zero, ne_eq, best.total_eq_zero_iff scored, nothing, not_not]
    exact ⟨.inl, Or.rec id plain.2⟩
  · rw [knitted.1]
    exact iff_of_true (Nat.lt_of_lt_of_le (by decide : 0 < FanKind.zuhelong.score)
      (Nat.le_add_left _ _)) (.inr knitted.2)

/-- The total of a complete hand is the score of its table. Of another hand it is so only if
the table of the count before scores nothing. -/
theorem countWithoutHua_tallied_iff (whole : handtiles.Whole) :
    (countWithoutHua fan handtiles).Tallied ↔
      fan.fanTableRes.count = 0 ∨ judgeHu handtiles = true := by
  obtain ⟨accounts, state, best, scored, nothing, plain | knitted⟩ :=
    @exists_counted fan handtiles whole
  · rw [plain.1, best.tallied_iff scored, ne_eq, nothing, not_not]
  · rw [knitted.1, FanState.tallied_addZuhelong_iff, best.tallied_iff scored, ne_eq, nothing,
      not_not]

end Whole

end GbMahjong.Mahjong
