import Mathlib.Algebra.BigOperators.Group.List.Basic
import Mathlib.Data.Nat.Digits.Lemmas
import GbMahjong.Mahjong.Combinations

/-! The choice among the combinations of packs: those chosen form no loop, and none that
form no loop score more. -/

set_option autoImplicit false

namespace GbMahjong.Mahjong

open GbMahjong.Library Parents

/-! ## What is stored -/

theorem forall_withLater {Item Result : Type} {body : Item → List Item → List Result}
    {property : Result → Prop} {items : List Item}
    (each : ∀ item later, item ∈ items → (∀ other ∈ later, other ∈ items) →
      ∀ result ∈ body item later, property result) :
    ∀ result ∈ withLater body items, property result := by
  induction items with
  | nil => exact List.forall_mem_nil _
  | cons item later ih =>
      refine List.forall_mem_append.mpr ⟨?_, ih fun other rest member among => ?_⟩
      · exact each item later List.mem_cons_self fun other => List.mem_cons_of_mem item
      · exact each other rest (List.mem_cons_of_mem item member) fun another held =>
          List.mem_cons_of_mem item (among another held)

theorem mem_placesOf {packs : List Pack} {sort : Pack → Bool} {place : Nat} :
    place ∈ placesOf packs sort ↔ ∃ pack, packs[place]? = some pack ∧ sort pack = true := by
  simp only [placesOf, List.mem_map, List.mem_filter, Prod.exists, exists_eq_right,
    List.mem_zipIdx_iff_getElem?]

theorem lt_of_mem_placesOf {packs : List Pack} {sort : Pack → Bool} {place : Nat}
    (member : place ∈ placesOf packs sort) : place < packs.length := by
  obtain ⟨pack, found, _⟩ := mem_placesOf.mp member
  exact (List.getElem?_eq_some_iff.mp found).1

/-- A fan of two packs of the hand or more. -/
structure Combination.Proper (size : Nat) (combination : Combination) : Prop where
  valid : combination.1 ≠ .invalid
  several : 2 ≤ combination.2.length
  inside : ∀ place ∈ combination.2, place < size

section Stored

variable {packs : List Pack}

theorem windCombinations_proper :
    ∀ combination ∈ windCombinations packs, combination.Proper packs.length := by
  have kongs : ∀ place ∈ placesOf packs fun pack => pack.tile.isFeng && pack.isKeGang,
      place < packs.length := fun _ => lt_of_mem_placesOf
  have pairs : ∀ place ∈ placesOf packs fun pack => pack.tile.isFeng && !pack.isKeGang,
      place < packs.length := fun _ => lt_of_mem_placesOf
  unfold windCombinations
  grind [Combination.Proper]

theorem dragonCombinations_proper :
    ∀ combination ∈ dragonCombinations packs, combination.Proper packs.length := by
  have kongs : ∀ place ∈ placesOf packs fun pack => pack.tile.isJian && pack.isKeGang,
      place < packs.length := fun _ => lt_of_mem_placesOf
  have pairs : ∀ place ∈ placesOf packs fun pack => pack.tile.isJian && !pack.isKeGang,
      place < packs.length := fun _ => lt_of_mem_placesOf
  unfold dragonCombinations
  grind [Combination.Proper]

theorem lt_of_mem_shunziId {place : Nat} (member : place ∈ shunziId packs) :
    place < packs.length :=
  lt_of_mem_placesOf member

theorem lt_of_mem_kegangId {place : Nat} (member : place ∈ kegangId packs) :
    place < packs.length :=
  lt_of_mem_placesOf member

theorem lt_of_mem_jiangId {place : Nat} (member : place ∈ jiangId packs) :
    place < packs.length :=
  lt_of_mem_placesOf member

theorem shuanglonghui_proper :
    ∀ combination ∈ shuanglonghui packs, combination.Proper packs.length := by
  have runs : ∀ place ∈ shunziId packs, place < packs.length := fun _ => lt_of_mem_shunziId
  have pairs : ∀ place ∈ jiangId packs, place < packs.length := fun _ => lt_of_mem_jiangId
  unfold shuanglonghui
  dsimp only
  split
  · rename_i i j k l jiang _ lower upper pair
    have low : ∀ place ∈ [i, j], place ∈ shunziId packs := fun place member =>
      (List.mem_filter.mp (lower ▸ member)).1
    have high : ∀ place ∈ [k, l], place ∈ shunziId packs := fun place member =>
      (List.mem_filter.mp (upper ▸ member)).1
    grind [Combination.Proper]
  · exact List.forall_mem_nil _

theorem yisetongshun_proper :
    ∀ combination ∈ yisetongshun packs, combination.Proper packs.length := by
  have runs : ∀ place ∈ shunziId packs, place < packs.length := fun _ => lt_of_mem_shunziId
  unfold yisetongshun
  refine forall_withLater fun i later _ among => forall_withLater fun j later _ amongToo => ?_
  split
  · refine List.forall_mem_cons.mpr ⟨by grind [Combination.Proper], ?_⟩
    refine forall_withLater fun k later _ amongThree => ?_
    grind [Combination.Proper]
  · exact List.forall_mem_nil _

theorem mem_sortByRank {places : List Nat} {place : Nat} :
    place ∈ sortByRank packs places ↔ place ∈ places :=
  (List.perm_insertionSort _ places).mem_iff

theorem jiegao_proper : ∀ combination ∈ jiegao packs, combination.Proper packs.length := by
  have triplets : ∀ place ∈ sortByRank packs
      ((kegangId packs).filter fun i => (tileAt packs i).isShu), place < packs.length :=
    fun place member =>
      lt_of_mem_kegangId (List.mem_filter.mp (mem_sortByRank.mp member)).1
  unfold jiegao
  refine forall_withLater fun i later _ among => forall_withLater fun j later _ amongToo => ?_
  split
  · exact List.forall_mem_nil _
  · refine forall_withLater fun k later _ amongThree => ?_
    grind [Combination.Proper]

theorem yisebugao_proper : ∀ combination ∈ yisebugao packs, combination.Proper packs.length := by
  have runs : ∀ place ∈ sortByRank packs (shunziId packs), place < packs.length :=
    fun place member => lt_of_mem_shunziId (mem_sortByRank.mp member)
  unfold yisebugao
  refine forall_withLater fun i later _ among => forall_withLater fun j later _ amongToo => ?_
  dsimp only
  split
  · exact List.forall_mem_nil _
  · refine forall_withLater fun k later _ amongThree => ?_
    grind [Combination.Proper]

theorem sansesanbugao_proper :
    ∀ combination ∈ sansesanbugao packs, combination.Proper packs.length := by
  have runs : ∀ place ∈ sortByRank packs (shunziId packs), place < packs.length :=
    fun place member => lt_of_mem_shunziId (mem_sortByRank.mp member)
  unfold sansesanbugao
  refine forall_withLater fun i later _ among => forall_withLater fun j later _ amongToo => ?_
  grind [Combination.Proper]

theorem long_proper : ∀ combination ∈ long packs, combination.Proper packs.length := by
  have runs : ∀ place ∈ shunziId packs, place < packs.length := fun _ => lt_of_mem_shunziId
  unfold long
  dsimp only
  simp only [List.forall_mem_flatMap, List.mem_filter]
  intro i lower j middle k upper
  grind [Combination.Proper]

theorem tongke_proper : ∀ combination ∈ tongke packs, combination.Proper packs.length := by
  have triplets : ∀ place ∈ kegangId packs, place < packs.length := fun _ => lt_of_mem_kegangId
  unfold tongke
  refine forall_withLater fun i later _ among => forall_withLater fun j later _ amongToo => ?_
  grind [Combination.Proper]

theorem sansesantongshun_proper :
    ∀ combination ∈ sansesantongshun packs, combination.Proper packs.length := by
  have runs : ∀ place ∈ shunziId packs, place < packs.length := fun _ => lt_of_mem_shunziId
  unfold sansesantongshun
  refine forall_withLater fun i later _ among => forall_withLater fun j later _ amongToo => ?_
  grind [Combination.Proper]

theorem shunziPairs_proper :
    ∀ combination ∈ shunziPairs packs, combination.Proper packs.length := by
  have runs : ∀ place ∈ shunziId packs, place < packs.length := fun _ => lt_of_mem_shunziId
  unfold shunziPairs
  refine forall_withLater fun i later _ among => ?_
  grind [Combination.Proper]

/-- Every combination that is stored is a fan of two or more packs of the reading. -/
theorem combinations_proper :
    ∀ combination ∈ combinations packs, combination.Proper packs.length := by
  rw [combinations, List.forall_mem_flatten]
  simp only [List.forall_mem_cons]
  exact ⟨windCombinations_proper, dragonCombinations_proper, shuanglonghui_proper,
    yisetongshun_proper, jiegao_proper, yisebugao_proper, sansesanbugao_proper, long_proper,
    tongke_proper, sansesantongshun_proper, shunziPairs_proper, List.forall_mem_nil _⟩

end Stored

/-! ## The states of the search -/

/-- The packs of chosen combinations. -/
def groupsOf (e : List Combination) (ids : List Nat) : List (List Nat) :=
  ids.map fun id => (e.getD id (.invalid, [])).2

/-- What chosen combinations score. -/
def scoreOf (e : List Combination) (ids : List Nat) : Nat :=
  (ids.map fun id => (e.getD id (.invalid, [])).1.score).sum

/-- A choice in which the combinations of packs form no loop. -/
structure Selection (e : List Combination) (ids : List Nat) : Prop where
  stored : ∀ id ∈ ids, id < e.length
  loopFree : LoopFree (groupsOf e ids)

namespace Status

variable {e : List Combination} {status other further : Status} {id : Nat}

/-- What a state of the search stands for. -/
structure Valid (e : List Combination) (status : Status) : Prop where
  falling : status.f.Falling
  size : status.f.length = 5
  selection : Selection e status.eid
  represents : status.f.Represents (groupsOf e status.eid)
  worth : status.fanCnt = scoreOf e status.eid
  room : status.eid.length + status.f.classes ≤ 5

theorem valid_new : Valid e new where
  falling := falling_separate 5
  size := rfl
  selection := ⟨List.forall_mem_nil _, loopFree_nil⟩
  represents := represents_separate 5
  worth := rfl
  room := by decide

theorem uni_eq_some_iff : status.uni e id = some further ↔
    ((e.getD id (.invalid, [])).2.Pairwise fun i j => status.f.find i ≠ status.f.find j) ∧
      further = {
        f := status.f.uniteAll (e.getD id (.invalid, [])).2
        eid := status.eid ++ [id]
        fanCnt := status.fanCnt + (e.getD id (.invalid, [])).1.score } := by
  simp only [uni, Option.ite_none_right_eq_some, Option.some.injEq]
  exact and_congr_right fun _ => eq_comm

theorem mem_next_iff : further ∈ (statusSearch e).next status ↔
    ∃ id, id < e.length ∧ status.uni e id = some further := by
  simp only [statusSearch, List.mem_filterMap, List.mem_range]

section Proper

variable (proper : ∀ combination ∈ e, combination.Proper 5)

include proper

theorem proper_getD (stored : id < e.length) :
    Combination.Proper 5 (e.getD id (.invalid, [])) := by
  rw [List.getD_eq_getElem?_getD, List.getElem?_eq_getElem stored, Option.getD_some]
  exact proper _ (List.getElem_mem stored)

/-- The members of a combination are in different classes: it closes no loop. -/
theorem Valid.uni (valid : status.Valid e) (stored : id < e.length)
    (joins : status.uni e id = some further) :
    further.Valid e ∧ further.f.classes < status.f.classes := by
  obtain ⟨apart, rfl⟩ := uni_eq_some_iff.mp joins
  obtain ⟨_, several, inside⟩ := proper_getD proper stored
  have inside : ∀ place ∈ (e.getD id (.invalid, [])).2, place < status.f.length := by
    rwa [valid.size]
  obtain ⟨falling, size, _⟩ := uniteAll_spec valid.falling inside
  have fewer := classes_uniteAll_lt valid.falling inside several apart
  have groups : groupsOf e (status.eid ++ [id]) =
      groupsOf e status.eid ++ [(e.getD id (.invalid, [])).2] := List.map_append
  refine ⟨⟨falling, size.trans valid.size, ⟨?_, ?_⟩, ?_, ?_, ?_⟩, fewer⟩
  · exact List.forall_mem_append.mpr ⟨valid.selection.stored, by simpa using stored⟩
  · rw [groups, loopFree_concat]
    exact ⟨valid.selection.loopFree,
      apart.imp fun apart joined => apart ((valid.represents _ _).mpr joined)⟩
  · rw [groups]
    exact valid.represents.uniteAll valid.falling inside
  · simp only [scoreOf, valid.worth, List.map_append, List.sum_append, List.map_cons,
      List.map_nil, List.sum_singleton]
  · have room := valid.room
    rw [List.length_append, List.length_singleton]
    dsimp only
    omega

theorem valid_of_reaches (reaches : (statusSearch e).Reaches new status) : status.Valid e := by
  induction reaches with
  | refl => exact valid_new
  | step _ move ih =>
      obtain ⟨id, stored, joins⟩ := mem_next_iff.mp move
      exact (ih.uni proper stored joins).1

/-- Every choice without a loop is met, whatever its order. -/
theorem exists_reaches {ids : List Nat} (selection : Selection e ids) :
    ∃ status, (statusSearch e).Reaches new status ∧ status.eid = ids := by
  induction ids using List.reverseRecOn with
  | nil => exact ⟨new, .refl, rfl⟩
  | append_singleton ids id ih =>
      obtain ⟨stored, storedLast⟩ := List.forall_mem_append.mp selection.stored
      have free := selection.loopFree
      rw [show groupsOf e (ids ++ [id]) = groupsOf e ids ++ [(e.getD id (.invalid, [])).2] from
        List.map_append, loopFree_concat] at free
      obtain ⟨status, reaches, rfl⟩ := ih ⟨stored, free.1⟩
      have valid := valid_of_reaches proper reaches
      have apart : (e.getD id (.invalid, [])).2.Pairwise fun i j =>
          status.f.find i ≠ status.f.find j :=
        free.2.imp fun apart same => apart ((valid.represents _ _).mp same)
      refine ⟨_, .step reaches (mem_next_iff.mpr ⟨id, storedLast id List.mem_cons_self,
        uni_eq_some_iff.mpr ⟨apart, rfl⟩⟩), rfl⟩

end Proper

/-! ## The hash -/

/-- The hash spells the roots out. -/
theorem find_eq_of_hash (valid : status.Valid e) (validToo : other.Valid e)
    (same : status.hash = other.hash) (number : Nat) :
    status.f.find number = other.f.find number := by
  have digits (status : Status) : status.hash =
      Nat.ofDigits 5 ((List.range 5).reverse.map status.f.find) := by
    simp [hash, List.range_succ, Nat.ofDigits]
    ring
  have small (status : Status) (valid : status.Valid e) :
      ∀ digit ∈ (List.range 5).reverse.map status.f.find, digit < 5 := by
    intro digit member
    obtain ⟨place, held, rfl⟩ := List.mem_map.mp member
    have below : status.f.find place ≤ place := find_le valid.falling
    rw [List.mem_reverse, List.mem_range] at held
    omega
  rw [digits, digits] at same
  have roots := Nat.ofDigits_inj_of_len_eq (by decide) (by simp) (small status valid)
    (small other validToo) same
  rcases Nat.lt_or_ge number 5 with inside | outside
  · exact List.map_inj_left.mp roots number (by simpa using inside)
  · rw [find_of_outside (valid.size ▸ outside), find_of_outside (validToo.size ▸ outside)]

/-- States of one hash can take the same combinations, and are of one hash afterwards. -/
theorem uni_of_hash (proper : ∀ combination ∈ e, combination.Proper 5) (valid : status.Valid e)
    (validToo : other.Valid e) (same : status.hash = other.hash) (stored : id < e.length)
    (joins : status.uni e id = some further) :
    ∃ after, other.uni e id = some after ∧ after.hash = further.hash ∧
      after.fanCnt + status.fanCnt = further.fanCnt + other.fanCnt := by
  obtain ⟨apart, rfl⟩ := uni_eq_some_iff.mp joins
  have roots := find_eq_of_hash valid validToo same
  have inside : ∀ place ∈ (e.getD id (.invalid, [])).2, place < other.f.length := by
    rw [validToo.size]
    exact (proper_getD proper stored).inside
  refine ⟨_, uni_eq_some_iff.mpr ⟨?_, rfl⟩, ?_, ?_⟩
  · simpa only [roots] using apart
  · have rootsAfter := find_uniteAll_eq validToo.falling valid.falling
      (validToo.size.trans valid.size.symm) (fun number => (roots number).symm) inside
    simp only [hash, rootsAfter]
  · dsimp only
    omega

/-- The search for a choice does what a relaxation has to. -/
theorem statusSearch_sound (proper : ∀ combination ∈ e, combination.Proper 5) :
    (statusSearch e).Sound new fun status => status.f.classes where
  nothing := rfl
  follows := by
    intro state other further reaches reachesToo same value move
    obtain ⟨id, stored, joins⟩ := mem_next_iff.mp move
    obtain ⟨after, joinsToo, sameAfter, worth⟩ := uni_of_hash proper
      (valid_of_reaches proper reaches) (valid_of_reaches proper reachesToo) same stored joins
    refine ⟨after, mem_next_iff.mpr ⟨id, stored, joinsToo⟩, sameAfter, ?_⟩
    change state.fanCnt ≤ other.fanCnt at value
    change further.fanCnt ≤ after.fanCnt
    omega
  gains := by
    intro state further move
    obtain ⟨id, stored, joins⟩ := mem_next_iff.mp move
    obtain ⟨_, rfl⟩ := uni_eq_some_iff.mp joins
    exact Nat.lt_of_lt_of_le (FanKind.score_pos (proper_getD proper stored).valid)
      (Nat.le_add_left _ _)
  falls := by
    intro state further reaches move
    obtain ⟨id, stored, joins⟩ := mem_next_iff.mp move
    exact ((valid_of_reaches proper reaches).uni proper stored joins).2

end Status

/-! ## The best choice -/

/-- The search chooses combinations that form no loop, and none score more that form none. -/
theorem bestStatus_best {e : List Combination}
    (proper : ∀ combination ∈ e, combination.Proper 5) :
    (bestStatus e).Valid e ∧
      ∀ ids, Selection e ids → scoreOf e ids ≤ scoreOf e (bestStatus e).eid := by
  obtain ⟨reaches, most⟩ := Relaxation.run_top (Status.statusSearch_sound proper)
    (by decide : Parents.classes (Parents.separate 5) < 6)
  have valid : (bestStatus e).Valid e := Status.valid_of_reaches proper reaches
  refine ⟨valid, fun ids selection => ?_⟩
  obtain ⟨status, reachesToo, rfl⟩ := Status.exists_reaches proper selection
  have worth := (Status.valid_of_reaches proper reachesToo).worth
  rw [← worth, ← valid.worth]
  exact most status reachesToo

theorem added_replacedByCombination (packs : List Pack) (kind : FanKind) (places : List Nat) :
    (replacedByCombination packs kind places).filterMap Mark.added = [] := by
  refine List.filterMap_eq_nil_iff.mpr fun mark member => ?_
  unfold replacedByCombination at member
  split at member <;> simp only [List.mem_cons, List.mem_flatMap, List.mem_map,
    List.not_mem_nil, or_false] at member <;> grind [Mark.added]

theorem added_countAssociatedCombinationFan (packs : List Pack) :
    (countAssociatedCombinationFan packs).filterMap Mark.added =
      (bestStatus (combinations packs)).eid.map
        fun id => (combinations packs).getD id (.invalid, []) := by
  rw [countAssociatedCombinationFan]
  generalize (bestStatus (combinations packs)).eid = ids
  induction ids with
  | nil => rfl
  | cons id ids ih =>
      rw [List.flatMap_cons, List.filterMap_append, ih, List.map_cons, List.filterMap_cons,
        added_replacedByCombination]
      rfl

/-- What is chosen for a reading: four combinations of its packs at most. -/
theorem chosen_best {packs : List Pack} (few : packs.length ≤ 5) :
    let e := combinations packs
    Selection e (bestStatus e).eid ∧ (bestStatus e).eid.length ≤ 4 ∧
      ∀ ids, Selection e ids → scoreOf e ids ≤ scoreOf e (bestStatus e).eid := by
  intro e
  have proper : ∀ combination ∈ e, combination.Proper 5 := fun combination member =>
    have within := combinations_proper combination member
    ⟨within.valid, within.several,
      fun place held => Nat.lt_of_lt_of_le (within.inside place held) few⟩
  obtain ⟨valid, most⟩ := bestStatus_best proper
  refine ⟨valid.selection, ?_, most⟩
  have room := valid.room
  have root : 0 < (bestStatus e).f.classes := by
    have falls : (bestStatus e).f.getD 0 0 = 0 := Nat.le_zero.mp (valid.falling 0)
    refine List.countP_pos_iff.mpr ⟨0, ?_, beq_iff_eq.mpr falls⟩
    rw [valid.size]
    decide
  omega

/-- Of what the packs of a reading allow for, the combinations counted form no loop and
score the most that any without a loop do. -/
theorem associated_best {packs : List Pack} (few : packs.length ≤ 5) :
    let e := combinations packs
    ∃ ids, (countAssociatedCombinationFan packs).filterMap Mark.added =
        ids.map (fun id => e.getD id (.invalid, [])) ∧
      Selection e ids ∧ ids.length ≤ 4 ∧
      ∀ others, Selection e others → scoreOf e others ≤ scoreOf e ids :=
  ⟨_, added_countAssociatedCombinationFan packs, chosen_best few⟩

/-- The same run four times in a suit: of eleven combinations the one of four is best. -/
theorem associated_best_sameRuns :
    let packs : List Pack := List.replicate 4 ⟨.shunzi, .ofId 2, 0, 0⟩
    ∃ ids, (countAssociatedCombinationFan packs).filterMap Mark.added =
        ids.map (fun id => (combinations packs).getD id (.invalid, [])) ∧
      Selection (combinations packs) ids ∧ ids.length ≤ 4 ∧
      ∀ others, Selection (combinations packs) others →
        scoreOf (combinations packs) others ≤ scoreOf (combinations packs) ids :=
  associated_best (by decide)

example : (countAssociatedCombinationFan (List.replicate 4 ⟨.shunzi, .ofId 2, 0, 0⟩)).filterMap
    Mark.added = [(.yisesitongshun, [0, 1, 2, 3])] := by
  decide +kernel

end GbMahjong.Mahjong
