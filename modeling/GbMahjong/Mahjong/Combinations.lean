import GbMahjong.Library.Relaxation
import GbMahjong.Library.UnionFind
import GbMahjong.Mahjong.FanRules

/-! Fans made of several packs, `_CountAssociatedCombinationFan`: all that the packs allow
for, and the choice among them by a search over union-find states. -/

set_option autoImplicit false

namespace GbMahjong.Mahjong

open GbMahjong.Library

/-- What `_StoreFan` stores: a fan and the places of its packs. -/
abbrev Combination := FanKind × List Nat

/-! ## What the packs allow for -/

section Stored

variable (packs : List Pack)

def tileAt (i : Nat) : Tile :=
  (packs.getD i .none).tile

def rankAt (i : Nat) : Int :=
  (tileAt packs i).rank

def suitAt (i : Nat) : Suit :=
  (tileAt packs i).suit

/-- `packs[i] == packs[j]`. -/
def samePack (i j : Nat) : Bool :=
  (packs.getD i .none).type == (packs.getD j .none).type &&
    decide ((tileAt packs i).Same (tileAt packs j))

def shunziId : List Nat :=
  placesOf packs Pack.isShunzi

def kegangId : List Nat :=
  placesOf packs Pack.isKeGang

def jiangId : List Nat :=
  placesOf packs Pack.isJiang

/-- 大四喜, 小四喜 and 三风刻. -/
def windCombinations : List Combination :=
  let fengKegang := placesOf packs fun pack => pack.tile.isFeng && pack.isKeGang
  let fengJiang := placesOf packs fun pack => pack.tile.isFeng && !pack.isKeGang
  (if fengKegang.length == 4 then [(.dasixi, fengKegang)] else []) ++
    (if fengKegang.length == 3 && fengJiang.length == 1 then
      [(.xiaosixi, fengKegang ++ fengJiang)] else []) ++
    (if fengKegang.length == 3 then [(.sanfengke, fengKegang)] else [])

/-- 大三元, 小三元 and 双箭刻. -/
def dragonCombinations : List Combination :=
  let jianKegang := placesOf packs fun pack => pack.tile.isJian && pack.isKeGang
  let jianJiang := placesOf packs fun pack => pack.tile.isJian && !pack.isKeGang
  (if jianKegang.length == 3 then [(.dasanyuan, jianKegang)] else []) ++
    (if jianKegang.length == 2 && jianJiang.length == 1 then
      [(.xiaosanyuan, jianKegang ++ jianJiang)] else []) ++
    (if jianKegang.length == 2 then [(.shuangjianke, jianKegang)] else [])

/-- 一色双龙会 and 三色双龙会. -/
def shuanglonghui : List Combination :=
  let shunzi123 := (shunziId packs).filter fun i => rankAt packs i == 2
  let shunzi789 := (shunziId packs).filter fun i => rankAt packs i == 8
  match shunzi123, shunzi789, jiangId packs with
  | [i, j], [k, l], jiang :: _ =>
      let suit := suitAt packs
      if rankAt packs jiang != 5 then
        []
      else if suit i == suit j && suit i == suit k && suit i == suit l &&
          suit i == suit jiang then
        [(.yiseshuanglonghui, [i, j, k, l, jiang])]
      else if (suit i == suit k && suit j == suit l || suit i == suit l && suit j == suit k) &&
          suit i != suit j && suit i != suit jiang && suit j != suit jiang then
        [(.sanseshuanglonghui, [i, j, k, l, jiang])]
      else
        []
  | _, _, _ => []

/-- 一般高, 一色三同顺 and 一色四同顺. -/
def yisetongshun : List Combination :=
  let same := samePack packs
  withLater (fun i later => withLater (fun j later =>
    if same i j then
      (.yibangao, [i, j]) :: withLater (fun k later =>
        if same j k then
          (.yisesantongshun, [i, j, k]) :: later.flatMap fun l =>
            if same k l then [(.yisesitongshun, [i, j, k, l])] else []
        else []) later
    else []) later) (shunziId packs)

/-- Places sorted by the ranks of their packs. -/
def sortByRank (places : List Nat) : List Nat :=
  places.insertionSort fun i j =>
    rankAt packs i < rankAt packs j ∨ rankAt packs i = rankAt packs j ∧ i ≤ j

/-- 三色三节高, 一色三节高 and 一色四节高. The loop over the fourth pack asks for its suit
only. -/
def jiegao : List Combination :=
  let rank := rankAt packs
  let suit := suitAt packs
  withLater (fun i later => withLater (fun j later =>
    if rank i != rank j - 1 then [] else
    withLater (fun k later =>
      if rank j != rank k - 1 then []
      else if suit i != suit j && suit i != suit k && suit j != suit k then
        (.sansesanjiegao, [i, j, k]) :: later.flatMap fun l =>
          if suit i == suit j && suit i == suit k && suit i == suit l then
            [(.yisesijiegao, [i, j, k, l])] else []
      else if suit i == suit j && suit i == suit k then
        (.yisesanjiegao, [i, j, k]) :: later.flatMap fun l =>
          if suit i == suit j && suit i == suit k && suit i == suit l then
            [(.yisesijiegao, [i, j, k, l])] else []
      else []) later) later)
    (sortByRank packs ((kegangId packs).filter fun i => (tileAt packs i).isShu))

/-- 一色三步高 and 一色四步高. -/
def yisebugao : List Combination :=
  let rank := rankAt packs
  let suit := suitAt packs
  let apart (step : Int) (i j : Nat) : Bool := step != 1 && step != 2 || suit i != suit j
  withLater (fun i later => withLater (fun j later =>
    let step1 := rank j - rank i
    if apart step1 i j then [] else
    withLater (fun k later =>
      let step2 := rank k - rank j
      if apart step2 j k then [] else
      (if step1 == step2 then [(.yisesanbugao, [i, j, k])] else []) ++
        later.flatMap fun l =>
          let step3 := rank l - rank k
          if apart step3 k l then []
          else if step1 == step2 && step1 == step3 then [(.yisesibugao, [i, j, k, l])]
          else []) later) later)
    (sortByRank packs (shunziId packs))

/-- 三色三步高. -/
def sansesanbugao : List Combination :=
  let rank := rankAt packs
  let suit := suitAt packs
  withLater (fun i later => withLater (fun j later =>
    if rank j - rank i != 1 || suit i == suit j then [] else
    later.flatMap fun k =>
      if rank k - rank j != 1 || suit i == suit k || suit j == suit k then []
      else [(.sansesanbugao, [i, j, k])]) later)
    (sortByRank packs (shunziId packs))

/-- 清龙 and 花龙. -/
def long : List Combination :=
  let suit := suitAt packs
  let rank (number : Int) := (shunziId packs).filter fun i => rankAt packs i == number
  (rank 2).flatMap fun i => (rank 5).flatMap fun j => (rank 8).flatMap fun k =>
    (if suit i == suit j && suit i == suit k then [(.qinglong, [i, j, k])] else []) ++
      (if suit i != suit j && suit i != suit k && suit j != suit k then
        [(.hualong, [i, j, k])] else [])

/-- 双同刻 and 三同刻. -/
def tongke : List Combination :=
  let rank := rankAt packs
  withLater (fun i later => withLater (fun j later =>
    if (tileAt packs i).isShu && rank i == rank j then
      (.shuangtongke, [i, j]) :: later.flatMap fun k =>
        if rank j == rank k then [(.santongke, [i, j, k])] else []
    else []) later) (kegangId packs)

/-- 三色三同顺. -/
def sansesantongshun : List Combination :=
  let rank := rankAt packs
  let suit := suitAt packs
  withLater (fun i later => withLater (fun j later =>
    if rank i != rank j || suit i == suit j then [] else
    later.flatMap fun k =>
      if rank j == rank k && suit i != suit k && suit j != suit k then
        [(.sansesantongshun, [i, j, k])] else []) later) (shunziId packs)

/-- 喜相逢, 连六 and 老少副. -/
def shunziPairs : List Combination :=
  let rank := rankAt packs
  let suit := suitAt packs
  withLater (fun i later => later.flatMap fun j =>
    if suit i != suit j then
      if rank i == rank j then [(.xixiangfeng, [i, j])] else []
    else if rank i == rank j + 3 || rank i == rank j - 3 then [(.lianliu, [i, j])]
    else if rank i == rank j + 6 || rank i == rank j - 6 then [(.laoshaofu, [i, j])]
    else []) (shunziId packs)

/-- The vector `e`. -/
def combinations : List Combination :=
  [windCombinations packs, dragonCombinations packs, shuanglonghui packs, yisetongshun packs,
    jiegao packs, yisebugao packs, sansesanbugao packs, long packs, tongke packs,
    sansesantongshun packs, shunziPairs packs].flatten

end Stored

/-! ## The choice -/

/-- `_Status`. -/
structure Status where
  f : Parents
  eid : List Nat
  fanCnt : Nat

namespace Status

def new : Status where
  f := .separate 5
  eid := []
  fanCnt := 0

/-- `uni(id, e)`: none where two of the packs are joined already. -/
def uni (e : List Combination) (status : Status) (id : Nat) : Option Status :=
  let combination := e.getD id (.invalid, [])
  if combination.2.Pairwise fun i j => status.f.find i ≠ status.f.find j then
    some {
      f := status.f.uniteAll combination.2
      eid := status.eid ++ [id]
      fanCnt := status.fanCnt + combination.1.score }
  else
    none

def hash (status : Status) : Nat :=
  (List.range 5).foldl (fun ret i => ret * 5 + status.f.find i) 0

end Status

/-- The loop over `e` for a state from the queue, the hash it is filed under and its worth. -/
def statusSearch (e : List Combination) : Relaxation Status Nat where
  next status := (List.range e.length).filterMap (status.uni e)
  key := Status.hash
  value := Status.fanCnt

/-- The search. Every combination joins some of the five packs, so that the queue is empty
after five rounds; `fan_cnt` is that of `mx` all along. -/
def bestStatus (e : List Combination) : Status :=
  ((statusSearch e).run 6 [.new] ⟨fun _ => 0, .new⟩).top

/-- What a chosen combination takes the place of. -/
def replacedByCombination (packs : List Pack) (kind : FanKind) (places : List Nat) :
    List Mark :=
  let fengPlaces := places.filter fun i => (tileAt packs i).isFeng
  let jianPlaces := places.filter fun i => (tileAt packs i).isJian
  match kind with
  | .dasixi => .exclude .pengpenghu [] :: fengPlaces.flatMap fun i =>
      [.exclude .quanfengke [i], .exclude .menfengke [i], .exclude .yaojiuke [i]]
  | .dasanyuan | .xiaosanyuan | .shuangjianke => jianPlaces.flatMap fun i =>
      [.exclude .jianke [i], .exclude .yaojiuke [i]]
  | .xiaosixi | .sanfengke => fengPlaces.map fun i => .exclude .yaojiuke [i]
  | .yiseshuanglonghui =>
      [.exclude .qingyise [], .exclude .pinghu [], .exclude .wuzi []]
  | .yisesitongshun =>
      [.exclude .siguiyi [], .exclude .siguiyi [], .exclude .siguiyi []]
  | .yisesijiegao => [.exclude .pengpenghu []]
  | .sanseshuanglonghui => [.exclude .pinghu []]
  | _ => []

/-- `_CountAssociatedCombinationFan`. -/
def countAssociatedCombinationFan (packs : List Pack) : List Mark :=
  let e := combinations packs
  (bestStatus e).eid.flatMap fun id =>
    let combination := e.getD id (.invalid, [])
    .add combination.1 combination.2 :: replacedByCombination packs combination.1 combination.2

end GbMahjong.Mahjong
