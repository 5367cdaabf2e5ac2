import Mathlib.Algebra.Ring.Nat
import GbMahjong.Mahjong.Handtiles

/-! The library's fan evaluator, `mahjong/fan.h`. The search for the best
reading of a hand is a parameter; its tables and the shape of its result are
the library's. -/

set_option autoImplicit false

namespace GbMahjong.Mahjong

/-- `FAN_SCORE`. -/
def fanScore : List Nat := [
  0,
  88, 88, 88, 88, 88, 88, 88,
  64, 64, 64, 64, 64, 64,
  48, 48,
  32, 32, 32,
  24, 24, 24, 24, 24, 24, 24, 24, 24,
  16, 16, 16, 16, 16, 16,
  12, 12, 12, 12, 12,
  8, 8, 8, 8, 8, 8, 8, 8, 8,
  6, 6, 6, 6, 6, 6, 6,
  4, 4, 4, 4,
  2, 2, 2, 2, 2, 2, 2, 2, 2, 2,
  1, 1, 1, 1, 1, 1, 1, 1, 1, 1, 1, 1, 1,
  5]

/-- `FAN_NAME`. -/
def fanName : List String := [
  "无效番种",
  "大四喜", "大三元", "绿一色", "九莲宝灯", "四杠", "连七对", "十三幺",
  "清幺九", "小四喜", "小三元", "字一色", "四暗刻", "一色双龙会",
  "一色四同顺", "一色四节高",
  "一色四步高", "三杠", "混幺九",
  "七对", "七星不靠", "全双刻", "清一色", "一色三同顺", "一色三节高", "全大", "全中",
  "全小",
  "清龙", "三色双龙会", "一色三步高", "全带五", "三同刻", "三暗刻",
  "全不靠", "组合龙", "大于五", "小于五", "三风刻",
  "花龙", "推不倒", "三色三同顺", "三色三节高", "无番和", "妙手回春", "海底捞月", "杠上开花",
  "抢杠和",
  "碰碰和", "混一色", "三色三步高", "五门齐", "全求人", "双暗杠", "双箭刻",
  "全带幺", "不求人", "双明杠", "和绝张",
  "箭刻", "圈风刻", "门风刻", "门前清", "平和", "四归一", "双同刻", "双暗刻", "暗杠", "断幺",
  "一般高", "喜相逢", "连六", "老少副", "幺九刻", "明杠", "缺一门", "无字", "边张", "坎张",
  "单钓将", "自摸", "花牌",
  "明暗杠"]

/-- `FAN_SIZE`, one past the last `fan_t`. -/
def fanSize : Nat := 83

example : fanScore.length = fanSize ∧ fanName.length = fanSize := by decide

/-! The `fan_t` values that decide the form of a winning hand. -/

def fanLianqidui : Nat := 6
def fanShisanyao : Nat := 7
def fanQidui : Nat := 19
def fanQixingbukao : Nat := 20
def fanQuanbukao : Nat := 34

example : [fanLianqidui, fanShisanyao, fanQidui, fanQixingbukao, fanQuanbukao].map
    (fun fanIndex => fanName.getD fanIndex "") =
    ["连七对", "十三幺", "七对", "七星不靠", "全不靠"] := by decide

/-- What `CountFan` leaves in a `Fan`: for every fan the groups of packs that
make it, and the total, an `int` that only ever adds scores up. -/
structure Fan where
  fanTableRes : Nat → List (List Int)
  totFanRes : Nat
  isInt : totFanRes < 2 ^ 31

/-- `Fan::JudgeHu` and `Fan::CountFan`. -/
structure FanLibrary where
  judgeHu : Handtiles → Bool
  countFan : Handtiles → Fan

end GbMahjong.Mahjong
