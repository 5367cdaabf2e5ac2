import GbMahjong.Mahjong.Fan

/-! The fans by name, `fan_t`, with their scores. -/

set_option autoImplicit false

namespace GbMahjong.Mahjong

/-- `fan_t`, in its order. -/
inductive FanKind where
  | invalid | dasixi | dasanyuan | lvyise | jiulianbaodeng | sigang | lianqidui | shisanyao
  | qingyaojiu | xiaosixi | xiaosanyuan | ziyise | sianke | yiseshuanglonghui | yisesitongshun
  | yisesijiegao | yisesibugao | sangang | hunyaojiu | qidui | qixingbukao | quanshuangke
  | qingyise | yisesantongshun | yisesanjiegao | quanda | quanzhong | quanxiao | qinglong
  | sanseshuanglonghui | yisesanbugao | quandaiwu | santongke | sananke | quanbukao | zuhelong
  | dayuwu | xiaoyuwu | sanfengke | hualong | tuibudao | sansesantongshun | sansesanjiegao
  | wufanhu | miaoshouhuichun | haidilaoyue | gangshangkaihua | qiangganghu | pengpenghu
  | hunyise | sansesanbugao | wumenqi | quanqiuren | shuangangang | shuangjianke | quandaiyao
  | buqiuren | shuangminggang | hujuezhang | jianke | quanfengke | menfengke | menqianqing
  | pinghu | siguiyi | shuangtongke | shuanganke | angang | duanyao | yibangao | xixiangfeng
  | lianliu | laoshaofu | yaojiuke | minggang | queyimen | wuzi | bianzhang | kanzhang
  | dandiaojiang | zimo | huapai | mingangang
  deriving DecidableEq, Repr

namespace FanKind

/-- The value of the enumerator. -/
def index (kind : FanKind) : Nat :=
  kind.ctorIdx

/-- `FAN_SCORE[f]`. -/
def score (kind : FanKind) : Nat :=
  fanScore.getD kind.index 0

/-- The values that a loop from 1 to `FAN_SIZE` takes. -/
def all : List FanKind :=
  (List.range (fanSize - 1)).map fun offset => FanKind.ofNat (offset + 1)

theorem index_ofNat : ∀ index < fanSize, (FanKind.ofNat index).index = index := by
  decide

theorem mem_all {kind : FanKind} : kind ∈ all ↔ kind ≠ .invalid := by
  cases kind <;> decide

theorem nodup_all : all.Nodup := by
  decide

theorem score_pos {kind : FanKind} (valid : kind ≠ .invalid) : 0 < kind.score := by
  cases kind <;> first | exact absurd rfl valid | decide

theorem score_le (kind : FanKind) : kind.score ≤ 88 := by
  cases kind <;> decide

example : (lianqidui.index, shisanyao.index, qidui.index, qixingbukao.index, quanbukao.index) =
    (fanLianqidui, fanShisanyao, fanQidui, fanQixingbukao, fanQuanbukao) := by
  decide

end FanKind

end GbMahjong.Mahjong
