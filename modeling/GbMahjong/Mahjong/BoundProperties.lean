import Mathlib.Algebra.Order.BigOperators.Group.List
import GbMahjong.Mahjong.BestProperties
import GbMahjong.Mahjong.CombinationProperties

/-! How much a hand can score: far less than an `int` holds. -/

set_option autoImplicit false

namespace GbMahjong.Mahjong

open GbMahjong.Library

/-! ## Entries that marks add -/

/-- The entries that marks add. -/
def Mark.adds (marks : List Mark) : Nat :=
  (marks.filterMap Mark.added).length

namespace Mark

variable {marks others : List Mark}

@[simp] theorem adds_nil : adds [] = 0 :=
  rfl

@[simp] theorem adds_append : adds (marks ++ others) = adds marks + adds others := by
  simp [adds]

@[simp] theorem adds_cons_add (kind : FanKind) (places : List Nat) :
    adds (.add kind places :: marks) = adds marks + 1 :=
  rfl

@[simp] theorem adds_cons_exclude (kind : FanKind) (places : List Nat) :
    adds (.exclude kind places :: marks) = adds marks :=
  rfl

theorem adds_eq_zero (none : ∀ mark ∈ marks, mark.added = none) : adds marks = 0 := by
  rw [adds, List.filterMap_eq_nil_iff.mpr none, List.length_nil]

theorem adds_excludes {Item : Type} (items : List Item) (kind : Item → FanKind)
    (places : Item → List Nat) :
    adds (items.map fun item => .exclude (kind item) (places item)) = 0 := by
  refine adds_eq_zero fun mark member => ?_
  obtain ⟨item, _, rfl⟩ := List.mem_map.mp member
  rfl

theorem adds_flatten_le {groups : List (List Mark)} (each : ∀ group ∈ groups, adds group ≤ 1) :
    adds groups.flatten ≤ groups.length := by
  induction groups with
  | nil => exact Nat.le_refl _
  | cons group groups ih =>
      obtain ⟨first, rest⟩ := List.forall_mem_cons.mp each
      rw [List.flatten_cons, adds_append, List.length_cons]
      have later := ih rest
      omega

theorem adds_flatMap_le {Item : Type} {items : List Item} {marks : Item → List Mark}
    {most : Nat} (each : ∀ item ∈ items, adds (marks item) ≤ most) :
    adds (items.flatMap marks) ≤ items.length * most := by
  induction items with
  | nil => exact Nat.zero_le _
  | cons item items ih =>
      obtain ⟨first, rest⟩ := List.forall_mem_cons.mp each
      have later := ih rest
      rw [List.flatMap_cons, adds_append, List.length_cons, Nat.add_mul]
      omega

end Mark

theorem adds_award (holds : Bool) (kind : FanKind) (replaced : List FanKind) :
    Mark.adds (award holds kind replaced) ≤ 1 := by
  unfold award
  split
  · rw [Mark.adds_cons_add, Mark.adds_excludes]
  · exact Nat.zero_le 1

/-! ## The score of a table -/

namespace FanTable

theorem count_le_of_length_le {table other : FanTable}
    (fewer : ∀ kind, (table kind).length ≤ (other kind).length) : table.count ≤ other.count := by
  rw [count_eq_sum, count_eq_sum]
  exact List.sum_le_sum fun kind _ => Nat.mul_le_mul_right _ (fewer kind)

theorem count_push_le (table : FanTable) (kind : FanKind) (places : List Nat) :
    (table.push kind places).count ≤ table.count + 88 := by
  by_cases valid : kind = .invalid
  · subst valid
    refine Nat.le_add_right_of_le (Nat.le_of_eq ?_)
    rw [count_eq_sum, count_eq_sum]
    refine congrArg List.sum (List.map_congr_left fun kind member => ?_)
    rw [push, if_neg (FanKind.mem_all.mp member)]
  · rw [count_push table valid]
    exact Nat.add_le_add_left kind.score_le _

end FanTable

namespace FanTables

theorem count_fanTableExclude_le (tables : FanTables) :
    tables.fanTableExclude.count ≤ tables.fanTable.count :=
  FanTable.count_le_of_length_le fun _ => (List.diff_sublist _ _).length_le

theorem count_putAll_le (tables : FanTables) (marks : List Mark) :
    (tables.putAll marks).fanTable.count ≤ tables.fanTable.count + 88 * Mark.adds marks := by
  induction marks generalizing tables with
  | nil => exact Nat.le_add_right _ _
  | cons mark marks ih =>
      have later := ih (tables.put mark)
      cases mark with
      | add kind places =>
          have pushed := tables.fanTable.count_push_le kind places
          rw [Mark.adds_cons_add]
          refine Nat.le_trans later ?_
          change (tables.fanTable.push kind places).count + _ ≤ _
          omega
      | exclude => exact later

end FanTables

/-! ## The rules, group by group -/

section Rules

variable (handtiles : Handtiles) (packs : List Pack) (zuhelongPack : Pack) (ting : List Tile)
  (tables : FanTables)

theorem adds_excludeYaojiuke (packs : List Pack) : Mark.adds (excludeYaojiuke packs) = 0 :=
  Mark.adds_excludes _ _ _

theorem adds_jiulianbaodeng : Mark.adds (jiulianbaodeng handtiles packs) ≤ 1 := by
  unfold jiulianbaodeng
  split
  · rw [Mark.adds_append]
    exact adds_award _ _ _
  · exact Nat.zero_le 1

theorem adds_qingyaojiu (bitmap : Bitmap) : Mark.adds (qingyaojiu bitmap packs) ≤ 1 := by
  unfold qingyaojiu
  split
  · have excluded : ∀ mark ∈ withLater (fun (first : Pack × Nat) later =>
        later.flatMap fun (second : Pack × Nat) =>
          if first.1.isKeGang && second.1.isKeGang && first.1.tile.rank == second.1.tile.rank then
            [Mark.exclude .shuangtongke [first.2, second.2]]
          else
            []) packs.zipIdx, mark.added = none := by
      refine forall_withLater fun first later _ _ mark member => ?_
      obtain ⟨second, _, held⟩ := List.mem_flatMap.mp member
      split at held
      · rw [List.mem_singleton.mp held]
        rfl
      · cases held
    rw [Mark.adds_append, Mark.adds_append, adds_excludeYaojiuke, Mark.adds_eq_zero excluded]
    exact adds_award _ _ _
  · exact Nat.zero_le 1

theorem adds_ziyise (bitmap : Bitmap) : Mark.adds (ziyise bitmap packs) ≤ 1 := by
  unfold ziyise
  split
  · rw [Mark.adds_append, adds_excludeYaojiuke]
    exact adds_award _ _ _
  · exact Nat.zero_le 1

theorem adds_hunyaojiu (bitmap : Bitmap) : Mark.adds (hunyaojiu bitmap packs) ≤ 1 := by
  unfold hunyaojiu
  split
  · rw [Mark.adds_append, adds_excludeYaojiuke]
    exact adds_award _ _ _
  · exact Nat.zero_le 1

theorem adds_plainAttrFan : Mark.adds (plainAttrFan handtiles packs) ≤ 19 := by
  unfold plainAttrFan
  dsimp only
  refine Mark.adds_flatten_le ?_
  simp only [List.forall_mem_cons, adds_award, adds_jiulianbaodeng, adds_qingyaojiu, adds_ziyise,
    adds_hunyaojiu, List.not_mem_nil, false_imp_iff, implies_true, and_self]

theorem adds_siguiyi : Mark.adds (siguiyi handtiles packs) ≤ 42 := by
  refine Mark.adds_flatMap_le fun id _ => (?_ : _ ≤ 1)
  split
  · exact Nat.zero_le 1
  · exact adds_award _ _ _

theorem adds_countOverallAttrFan :
    Mark.adds (countOverallAttrFan handtiles packs zuhelongPack) ≤ 64 := by
  have plain : Mark.adds (if zuhelongPack.zuhelongType == 0 then plainAttrFan handtiles packs
      else []) ≤ 19 := by
    split
    · exact adds_plainAttrFan handtiles packs
    · exact Nat.zero_le 19
  have four := adds_siguiyi handtiles packs
  unfold countOverallAttrFan
  simp only [Mark.adds_append]
  refine Nat.le_trans (Nat.add_le_add (Nat.add_le_add (Nat.add_le_add (Nat.add_le_add plain
    (adds_award _ _ _)) (adds_award _ _ _)) four) (adds_award _ _ _)) (Nat.le_refl _)

theorem adds_keGangFan (angang minggang anke : List Nat) :
    Mark.adds (keGangFan angang minggang anke) ≤ 2 := by
  unfold keGangFan
  repeat' split
  all_goals simp

theorem adds_countSinglePackFan :
    Mark.adds (countSinglePackFan handtiles packs) ≤ packs.length * 4 := by
  unfold countSinglePackFan
  rw [← List.length_zipIdx (l := packs)]
  refine Mark.adds_flatMap_le fun entry _ => ?_
  obtain ⟨pack, i⟩ := entry
  dsimp only
  split
  · simp only [Mark.adds_append]
    split <;> split <;> split <;> split <;> simp
  · exact Nat.zero_le 4

theorem adds_waitingFan :
    Mark.adds (waitingFan handtiles packs zuhelongPack ting) ≤ 1 := by
  unfold waitingFan
  dsimp only
  repeat' split
  all_goals simp

theorem adds_winModeFan :
    Mark.adds (winModeFan handtiles packs zuhelongPack ting) ≤ 9 := by
  unfold winModeFan
  dsimp only
  refine Mark.adds_flatten_le ?_
  simp only [List.forall_mem_cons, adds_award, adds_waitingFan, List.not_mem_nil, false_imp_iff,
    implies_true, and_self, and_true, true_and]
  constructor <;> split <;> simp

theorem count_countKeGangFan_le :
    (countKeGangFan packs tables).fanTable.count ≤ tables.fanTable.count + 176 := by
  unfold countKeGangFan
  dsimp only
  generalize placesOf packs (fun pack => pack.isGang && pack.isAnshou) = angang
  generalize placesOf packs (fun pack => pack.isGang && !pack.isAnshou) = minggang
  generalize placesOf packs (fun pack => pack.isKezi && pack.isAnshou) = anke
  have kinds := FanTables.count_putAll_le tables (keGangFan angang minggang anke)
  have two := adds_keGangFan angang minggang anke
  -- The marks after that only exclude.
  have kept : ∀ (tables : FanTables) (holds : Bool) (marks : List Mark), Mark.adds marks = 0 →
      (if holds then tables.putAll marks else tables).fanTable.count ≤ tables.fanTable.count := by
    intro tables holds marks none
    split
    · have more := FanTables.count_putAll_le tables marks
      rwa [none, Nat.mul_zero, Nat.add_zero] at more
    · exact Nat.le_refl _
  refine Nat.le_trans (kept _ _ _ rfl) (Nat.le_trans (kept _ _ _ rfl)
    (Nat.le_trans (kept _ _ _ ?_) (by omega)))
  rw [Mark.adds_cons_exclude, Mark.adds_excludes]

theorem count_countWinModeFan_le :
    (countWinModeFan handtiles packs zuhelongPack ting tables).fanTable.count ≤
      tables.fanTable.count + 880 := by
  have marks := FanTables.count_putAll_le tables (winModeFan handtiles packs zuhelongPack ting)
  have nine := adds_winModeFan handtiles packs zuhelongPack ting
  unfold countWinModeFan
  dsimp only
  generalize tables.putAll (winModeFan handtiles packs zuhelongPack ting) = after at marks
  have zimo := FanTables.count_putAll_le after [.add .zimo []]
  change (after.put (.add .zimo [])).fanTable.count ≤ _ + 88 * 1 at zimo
  split
  · split
    · change (after.put (.add .zimo [])).fanTable.count ≤ _
      omega
    · omega
  · omega

theorem fanTableCount_le (table : FanTable) : (fanTableCount table).2 ≤ max 8 table.count := by
  rcases fanTableCount_cases table with ⟨_, counted⟩ | ⟨_, counted⟩ <;> rw [counted]
  · exact Nat.le_max_left 8 _
  · exact Nat.le_max_right 8 _

/-- What one reading can score: of 100 entries none is worth more than 88. -/
theorem readingAccount_le {packs : List Pack} (few : packs.length ≤ 5) :
    (readingAccount handtiles zuhelongPack packs).2 ≤ 8800 := by
  have overall := FanTables.count_putAll_le .empty
    (countOverallAttrFan handtiles packs zuhelongPack)
  have overallAdds := adds_countOverallAttrFan handtiles packs zuhelongPack
  have combined : Mark.adds (countAssociatedCombinationFan packs) ≤ 4 := by
    rw [Mark.adds, added_countAssociatedCombinationFan, List.length_map]
    exact (chosen_best few).2.1
  have single := adds_countSinglePackFan handtiles packs
  have excluded := FanTables.count_fanTableExclude_le
    (countBasicFan handtiles packs zuhelongPack .empty)
  refine Nat.le_trans (fanTableCount_le _) (Nat.max_le.mpr ⟨by decide, ?_⟩)
  refine Nat.le_trans excluded ?_
  unfold countBasicFan
  dsimp only
  have nothing : FanTables.empty.fanTable.count = 0 := FanTable.count_empty
  rw [nothing] at overall
  generalize FanTables.putAll .empty (countOverallAttrFan handtiles packs zuhelongPack) = first
    at overall ⊢
  have kongs := count_countKeGangFan_le packs first
  generalize countKeGangFan packs first = second at kongs ⊢
  have joined := FanTables.count_putAll_le second (countAssociatedCombinationFan packs)
  generalize second.putAll (countAssociatedCombinationFan packs) = third at joined ⊢
  have alone := FanTables.count_putAll_le third (countSinglePackFan handtiles packs)
  generalize third.putAll (countSinglePackFan handtiles packs) = fourth at alone ⊢
  have last := count_countWinModeFan_le handtiles packs zuhelongPack (calcTing handtiles) fourth
  omega

theorem count_onlyZimo_le :
    (onlyZimo handtiles tables).fanTable.count ≤ tables.fanTable.count + 1 := by
  unfold onlyZimo
  split
  · have updated := tables.fanTable.count_update (by decide : FanKind.zimo ≠ .invalid) [[]]
    have one : FanKind.zimo.score = 1 := by decide
    rw [one, List.length_singleton, Nat.mul_one] at updated
    dsimp only
    omega
  · exact Nat.le_add_right _ 1

theorem count_put_le (kind : FanKind) (places : List Nat) :
    (tables.put (.add kind places)).fanTable.count ≤ tables.fanTable.count + 88 :=
  tables.fanTable.count_push_le kind places

theorem specialAccount_le (f : FanKind) :
    (specialAccount handtiles f).2 ≤ 8800 := by
  unfold specialAccount countSpecialFan
  dsimp only
  rw [FanState.account_getMaxFan_new]
  refine Nat.le_trans (fanTableCount_le _) (Nat.max_le.mpr ⟨by decide, ?_⟩)
  refine Nat.le_trans (FanTables.count_fanTableExclude_le _) ?_
  refine Nat.le_trans (count_onlyZimo_le handtiles _) ?_
  have nothing : FanTables.empty.fanTable.count = 0 := FanTable.count_empty
  have form := count_put_le .empty f []
  change (FanState.new.tables.put (.add f [])).fanTable.count ≤ _ at form
  generalize FanState.new.tables.put (.add f []) = first at form ⊢
  have won := count_countWinModeFan_le handtiles [] .none [] first
  generalize countWinModeFan handtiles [] .none [] first = second at won ⊢
  have straight : (if judgeZuhelong handtiles.lipaiBitmap != 0 then
      second.put (.add .zuhelong [0]) else second).fanTable.count ≤
        second.fanTable.count + 88 := by
    split
    · exact count_put_le _ _ _
    · exact Nat.le_add_right _ _
  generalize (if judgeZuhelong handtiles.lipaiBitmap != 0 then
    second.put (.add .zuhelong [0]) else second) = third at straight ⊢
  have excluded := FanTables.count_putAll_le third
    [.exclude .buqiuren [], .exclude .menqianqing []]
  rw [Mark.adds_cons_exclude, Mark.adds_cons_exclude, Mark.adds_nil] at excluded
  omega

theorem qiduiAccount_le (f : FanKind) :
    (qiduiAccount handtiles f).2 ≤ 8800 := by
  unfold qiduiAccount countQiduiFan
  dsimp only
  rw [FanState.account_getMaxFan_new]
  refine Nat.le_trans (fanTableCount_le _) (Nat.max_le.mpr ⟨by decide, ?_⟩)
  refine Nat.le_trans (FanTables.count_fanTableExclude_le _) ?_
  refine Nat.le_trans (count_onlyZimo_le handtiles _) ?_
  have nothing : FanTables.empty.fanTable.count = 0 := FanTable.count_empty
  have form := count_put_le .empty f []
  change (FanState.new.tables.put (.add f [])).fanTable.count ≤ _ at form
  generalize FanState.new.tables.put (.add f []) = first at form ⊢
  have overall := FanTables.count_putAll_le first (countOverallAttrFan handtiles [] .none)
  have overallAdds := adds_countOverallAttrFan handtiles [] .none
  generalize first.putAll (countOverallAttrFan handtiles [] .none) = second at overall ⊢
  have won := count_countWinModeFan_le handtiles [] .none [] second
  generalize countWinModeFan handtiles [] .none [] second = third at won ⊢
  have none : Mark.adds ([.exclude .buqiuren [], .exclude .menqianqing []] ++
      if f == .lianqidui then [.exclude .qingyise [], .exclude .wuzi []] else []) = 0 := by
    split <;> rfl
  have excluded := FanTables.count_putAll_le third
    ([.exclude .buqiuren [], .exclude .menqianqing []] ++
      if f == .lianqidui then [.exclude .qingyise [], .exclude .wuzi []] else [])
  rw [none] at excluded
  omega

end Rules

/-! ## All hands of the right size -/

section Whole

variable {fan : FanState} {handtiles : Handtiles}

theorem formAccounts_le : ∀ account ∈ formAccounts handtiles, account.2 ≤ 8800 := by
  intro account member
  rcases List.mem_append.mp member with special | pairs
  · split at special
    · rw [List.mem_singleton.mp special]
      exact specialAccount_le _ _
    · cases special
  · split at pairs
    · rw [List.mem_singleton.mp pairs]
      exact qiduiAccount_le _ _
    · cases pairs

theorem ReadingsOf.few {tiles : List Tile} {melds : Nat} {readings : List (List Pack)}
    (readingsOf : ReadingsOf handtiles tiles melds readings)
    (fit : handtiles.fulu.length + melds ≤ 4) : ∀ reading ∈ readings, reading.length ≤ 5 := by
  intro reading member
  obtain ⟨parts, rfl, reads⟩ := readingsOf.each reading member
  have count := Part.length_eq parts
  have mianzi := reads.mianzi
  have duizi := reads.duizi
  rw [List.length_append, Part.packsOf, List.length_map]
  omega

/-- A state that reports one of the accounts scores no more than each of them may. -/
theorem FanState.Best.total_le {state : FanState} {accounts : List Account} {most : Nat}
    (best : Best (fan.clear.account :: accounts) state)
    (each : ∀ account ∈ accounts, account.2 ≤ most) : state.totFanRes ≤ most := by
  rcases List.mem_cons.mp (List.argmax_mem (f := Prod.snd) best.first) with start | member
  · exact Nat.le_trans (Nat.le_of_eq (congrArg Prod.snd start)) (Nat.zero_le most)
  · exact each _ member

/-- No hand comes near the limits of an `int`. -/
theorem countWithoutHua_le (whole : handtiles.Whole) :
    (countWithoutHua fan handtiles).totFanRes ≤ 8812 := by
  have fulu := whole.fulu
  have fourteen := whole.fourteen
  have both {zuhelongPack : Pack} {readings : List (List Pack)}
      (few : ∀ reading ∈ readings, reading.length ≤ 5) :
      ∀ account ∈ formAccounts handtiles ++
        readings.map (readingAccount handtiles zuhelongPack), account.2 ≤ 8800 := by
    refine List.forall_mem_append.mpr ⟨formAccounts_le, fun account member => ?_⟩
    obtain ⟨reading, held, rfl⟩ := List.mem_map.mp member
    exact readingAccount_le handtiles _ (few reading held)
  by_cases knitted : zuhelongBitmap (judgeZuhelong handtiles.lipaiBitmap) = 0
  · obtain ⟨readings, readingsOf, best⟩ := countWithoutHua_plain fan whole knitted
    have most := best.total_le (both (readingsOf.few (by omega)))
    omega
  · by_cases special : judgeCompleteSpecialHu handtiles = .invalid
    · obtain ⟨readings, state, readingsOf, best, result⟩ :=
        countWithoutHua_knitted fan whole knitted special
      obtain ⟨_, _, nine⟩ := knitted_tiles whole knitted
      have most := best.total_le (both (readingsOf.few (by omega)))
      have added : (addZuhelong (judgeZuhelong handtiles.lipaiBitmap) state).totFanRes ≤
          state.totFanRes + 12 := by
        unfold addZuhelong FanState.withoutWufanhu
        have twelve : FanKind.zuhelong.score = 12 := by decide
        rw [twelve]
        split
        · exact Nat.le_add_left _ _
        · exact Nat.le_refl _
      rw [result]
      omega
    · have most := (countWithoutHua_special fan whole knitted special).total_le formAccounts_le
      omega

end Whole

end GbMahjong.Mahjong
