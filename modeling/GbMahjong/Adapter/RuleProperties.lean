import GbMahjong.Adapter.AdmissionProperties
import GbMahjong.Mahjong.FlowerProperties

/-! The switches of the rule configuration. Both handlers insist on a configuration, and
of all its fields they read the base points; the hand is built without the switches. -/

set_option autoImplicit false

namespace GbMahjong.Adapter

open GbMahjong.Library GbMahjong.Library.Checked GbMahjong.Mahjong GbMahjong.Engine
open GbMahjong.Library.ProtoEnum (asI32)

/-! ## Hands under rules -/

/-- A hand that the adapter evaluates for a request with these rules. -/
inductive EvaluatedUnder (rules : RuleConfig) : WinDescription → Handtiles → Prop where
  | validation (request : ValidateActionRequest) (actorState : EnginePlayerState)
      (privateHand : PrivateHandContext) (winType lastTile : Int) (handtiles : Handtiles)
      (ruled : request.ruleConfig = some rules)
      (seated : (findActorSeat request).2 = some actorState)
      (held : request.actorPrivateHand = some privateHand)
      (typed : extractWinType (candidateActionOf request) = .ok winType)
      (named : lastTileOf (candidateActionOf request) winType privateHand = .ok lastTile)
      (built : buildWinningHandtilesForValidation request = .ok handtiles) :
      EvaluatedUnder rules (validatedWin request actorState privateHand winType lastTile)
        handtiles
  | scoring (score : CalculateScoreRequest) (hand : HandSnapshot) (handtiles : Handtiles)
      (ruled : score.ruleConfig = some rules)
      (built : buildWinningHandtilesForScoring score hand = .ok handtiles) :
      EvaluatedUnder rules (settledWin score hand) handtiles

theorem EvaluatedUnder.builds {rules : RuleConfig} {win : WinDescription}
    {handtiles : Handtiles} (evaluated : EvaluatedUnder rules win handtiles) :
    win.Builds handtiles := by
  cases evaluated with
  | validation request actorState privateHand winType lastTile handtiles ruled seated held
      typed named built =>
      exact (Evaluated.validation _ _ _ _ _ _ seated held typed named built).builds
  | scoring score hand handtiles ruled built => exact (Evaluated.scoring _ _ _ built).builds

/-- What each switch promises of the hand when it is off. A robbed kong may be refused
instead. -/
structure Honours (library : FanLibrary) (rules : RuleConfig) (handtiles : Handtiles) :
    Prop where
  flowers : rules.enableFlowerTiles = false → handtiles.huapaiCount = .ok 0
  lastTile : rules.enableLastTileBonus = false → handtiles.haidi = false
  kongDraw : rules.enableKongDraw = false → ¬ (handtiles.gang = true ∧ handtiles.zimo = true)
  robbingKong : rules.enableRobbingKong = false →
    ¬ (handtiles.gang = true ∧ handtiles.zimo = false) ∨ library.judgeHu handtiles = false

/-- The win makes no use of a feature that is switched off, or its robbed kong is refused
as no winning hand. -/
structure Unused (library : FanLibrary) (rules : RuleConfig) (win : WinDescription) :
    Prop where
  flowers : rules.enableFlowerTiles = false → ∀ tile ∈ win.flowers,
    ¬ (asI32 Engine.Tile.flowerPlum ≤ tile ∧ tile ≤ asI32 Engine.Tile.seasonWinter)
  lastTile : rules.enableLastTileBonus = false → win.isLastTile = false
  kongDraw : rules.enableKongDraw = false → win.winType ≠ asI32 WinType.kongDraw
  robbingKong : rules.enableRobbingKong = false → win.winType ≠ asI32 WinType.robKong ∨
    ∀ handtiles, win.Builds handtiles → library.judgeHu handtiles = false

/-! ## One hand -/

/-- A description has one hand. -/
theorem WinDescription.Builds.unique {win : WinDescription} {handtiles others : Handtiles}
    (builds : win.Builds handtiles) (buildsToo : win.Builds others) : handtiles = others := by
  obtain ⟨_, _, _, east, south, decoded, _, _, _, _, rfl⟩ := win.builds_iff.mp builds
  obtain ⟨_, _, _, eastToo, southToo, decodedToo, _, _, _, _, rfl⟩ :=
    win.builds_iff.mp buildsToo
  rw [east] at eastToo
  rw [south] at southToo
  rw [decoded] at decodedToo
  cases eastToo
  cases southToo
  cases decodedToo
  rfl

/-- The flowers counted are those with the number of one. -/
theorem huapaiCount_eq_zero_iff {win : WinDescription} {handtiles : Handtiles}
    (builds : win.Builds handtiles) :
    handtiles.huapaiCount = .ok 0 ↔ ∀ tile ∈ win.flowers,
      ¬ (asI32 Engine.Tile.flowerPlum ≤ tile ∧ tile ≤ asI32 Engine.Tile.seasonWinter) := by
  rw [builds.tabled.huapaiCount]
  obtain ⟨quanfeng, menfeng, packs, _, _, _, _, _, _, _, rfl⟩ := win.builds_iff.mp builds
  have ids : (win.handOf quanfeng menfeng packs).huapaiIds =
      win.flowers.map fun number => number - 1 := List.map_map
  rw [Except.ok.injEq, List.countP_eq_zero, ids, List.forall_mem_map]
  refine forall₂_congr fun number _ => ?_
  rw [decide_eq_true_eq]
  change ¬ (35 ≤ number - 1 ∧ number - 1 ≤ 42) ↔ ¬ (36 ≤ number ∧ number ≤ 43)
  omega

section OneHand

variable {library : FanLibrary} {rules : RuleConfig} {win : WinDescription}
  {handtiles : Handtiles}

theorem WinDescription.Builds.circumstances (builds : win.Builds handtiles) :
    handtiles.haidi = win.isLastTile ∧ handtiles.gang = isKongWin win.winType ∧
      handtiles.zimo = isDrawnWin win.winType := by
  obtain ⟨_, _, _, _, _, _, _, _, _, _, rfl⟩ := win.builds_iff.mp builds
  exact ⟨rfl, rfl, rfl⟩

/-- The adapter keeps what the switches promise exactly where they make no difference. -/
theorem honours_iff_unused (builds : win.Builds handtiles) :
    Honours library rules handtiles ↔ Unused library rules win := by
  obtain ⟨haidi, gang, zimo⟩ := builds.circumstances
  obtain ⟨drawn, robbed⟩ := isKongWin_iff win.winType
  rw [← gang, ← zimo] at drawn robbed
  have refused : library.judgeHu handtiles = false ↔
      ∀ others, win.Builds others → library.judgeHu others = false :=
    ⟨fun refused others buildsToo => builds.unique buildsToo ▸ refused,
      fun refused => refused handtiles builds⟩
  constructor
  · intro honours
    exact ⟨fun off => (huapaiCount_eq_zero_iff builds).mp (honours.flowers off),
      fun off => haidi ▸ honours.lastTile off,
      fun off => drawn.not.mp (honours.kongDraw off),
      fun off => (honours.robbingKong off).imp robbed.not.mp refused.mp⟩
  · intro unused
    exact ⟨fun off => (huapaiCount_eq_zero_iff builds).mpr (unused.flowers off),
      fun off => haidi.trans (unused.lastTile off),
      fun off => drawn.not.mpr (unused.kongDraw off),
      fun off => (unused.robbingKong off).imp robbed.not.mpr refused.mpr⟩

end OneHand

/-! ## Two requests -/

/-- The win with every feature that is switched off taken out. -/
def restrict (rules : RuleConfig) (win : WinDescription) : WinDescription :=
  { win with
    winType :=
      if rules.enableKongDraw = false ∧ win.winType = asI32 WinType.kongDraw then
        asI32 WinType.selfDraw
      else if rules.enableRobbingKong = false ∧ win.winType = asI32 WinType.robKong then
        asI32 WinType.discard
      else
        win.winType
    isLastTile := rules.enableLastTileBonus && win.isLastTile
    flowers := if rules.enableFlowerTiles then win.flowers else [] }

/-- The hand but for its flowers. -/
def withoutFlowers (handtiles : Handtiles) : Handtiles :=
  { handtiles with huapai := [], huapaiTable := .empty }

/-- `CountFan` reads the flowers of a hand through `HuapaiCount` alone. -/
def CountsFlowers (library : FanLibrary) : Prop :=
  ∀ handtiles others, withoutFlowers handtiles = withoutFlowers others →
    handtiles.huapaiCount = others.huapaiCount →
    library.countFan handtiles = library.countFan others

theorem gbMahjong_countFan (undefined : Fan) {handtiles : Handtiles} {state : FanState}
    (counted : countFan .new handtiles = .ok state) (isInt : state.totFanRes < 2 ^ 31) :
    ((gbMahjong undefined).countFan handtiles).fanTableRes = state.tableRes ∧
      ((gbMahjong undefined).countFan handtiles).totFanRes = state.totFanRes := by
  unfold gbMahjong
  simp only [counted, isInt, dif_pos, and_self]

/-- The bundled library does so. -/
theorem gbMahjong_countsFlowers (undefined : Fan) : CountsFlowers (gbMahjong undefined) := by
  intro handtiles others same counts
  have start := countWithoutHua_withFlowers handtiles [] .empty .new
  have startToo := countWithoutHua_withFlowers others [] .empty .new
  change countWithoutHua .new (withoutFlowers handtiles) = _ at start
  change countWithoutHua .new (withoutFlowers others) = _ at startToo
  have states : countFan .new handtiles = countFan .new others := by
    unfold countFan
    rw [← start, ← startToo, same, counts]
  unfold gbMahjong
  simp only [states]

/-- Two winning hands that differ only in what is switched off have the same total. -/
def SameTotal (library : FanLibrary) (rules : RuleConfig) (win other : WinDescription)
    (handtiles others : Handtiles) : Prop :=
  restrict rules win = restrict rules other →
    library.judgeHu handtiles = true → library.judgeHu others = true →
    (library.countFan handtiles).totFanRes = (library.countFan others).totFanRes

section TwoHands

variable {library : FanLibrary} {rules : RuleConfig} {win other : WinDescription}
  {handtiles others : Handtiles}

/-- Of a judged win that uses nothing switched off, only the flowers are taken out. -/
theorem restrict_of_unused (unused : Unused library rules win) (builds : win.Builds handtiles)
    (judged : library.judgeHu handtiles = true) :
    restrict rules win =
      { win with flowers := if rules.enableFlowerTiles then win.flowers else [] } := by
  have noKongDraw : ¬ (rules.enableKongDraw = false ∧
      win.winType = asI32 WinType.kongDraw) := fun used => unused.kongDraw used.1 used.2
  have noRobKong : ¬ (rules.enableRobbingKong = false ∧
      win.winType = asI32 WinType.robKong) := by
    intro used
    cases unused.robbingKong used.1 with
    | inl otherwise => exact otherwise used.2
    | inr refused =>
        rw [refused handtiles builds] at judged
        cases judged
  have lastTile : (rules.enableLastTileBonus && win.isLastTile) = win.isLastTile := by
    cases switch : rules.enableLastTileBonus with
    | true => rfl
    | false => exact (unused.lastTile switch).symm
  unfold restrict
  rw [if_neg noKongDraw, if_neg noRobKong, lastTile]

/-- Taking the flowers out of the win takes them out of its hand. -/
theorem WinDescription.Builds.withoutFlowers (builds : win.Builds handtiles) :
    ∃ bare, { win with flowers := [] : WinDescription }.Builds bare ∧
      Adapter.withoutFlowers handtiles = Adapter.withoutFlowers bare := by
  obtain ⟨quanfeng, menfeng, packs, east, south, decoded, _, concealed, last, thirteen, rfl⟩ :=
    win.builds_iff.mp builds
  refine ⟨_, (WinDescription.builds_iff _).mpr ⟨quanfeng, menfeng, packs, east, south, decoded,
    nofun, concealed, last, thirteen, rfl⟩, rfl⟩

theorem sameTotal_of_unused (flowersCounted : CountsFlowers library)
    (builds : win.Builds handtiles) (buildsToo : other.Builds others)
    (unused : Unused library rules win) (unusedToo : Unused library rules other) :
    SameTotal library rules win other handtiles others := by
  intro restricted judged judgedToo
  rw [restrict_of_unused unused builds judged,
    restrict_of_unused unusedToo buildsToo judgedToo] at restricted
  have bareWins : { win with flowers := [] : WinDescription } =
      { other with flowers := [] } :=
    congrArg (fun described : WinDescription => { described with flowers := [] }) restricted
  obtain ⟨bare, bareBuilds, same⟩ := builds.withoutFlowers
  obtain ⟨bareToo, bareBuildsToo, sameToo⟩ := buildsToo.withoutFlowers
  have bareHands : bare = bareToo := bareBuilds.unique (bareWins ▸ bareBuildsToo)
  have counted : handtiles.huapaiCount = others.huapaiCount := by
    cases switch : rules.enableFlowerTiles with
    | true =>
        rw [switch, if_pos rfl, if_pos rfl] at restricted
        have sameWin : win = other := restricted
        rw [builds.unique (sameWin ▸ buildsToo)]
    | false =>
        rw [(huapaiCount_eq_zero_iff builds).mpr (unused.flowers switch),
          (huapaiCount_eq_zero_iff buildsToo).mpr (unusedToo.flowers switch)]
  rw [flowersCounted handtiles others (same.trans (bareHands ▸ sameToo.symm)) counted]

/-- Both hands keep their promises and have one total exactly when neither win uses what
is switched off. -/
theorem switches_honoured_iff_unused (flowersCounted : CountsFlowers library)
    (evaluated : EvaluatedUnder rules win handtiles)
    (evaluatedToo : EvaluatedUnder rules other others) :
    Honours library rules handtiles ∧ Honours library rules others ∧
        SameTotal library rules win other handtiles others ↔
      Unused library rules win ∧ Unused library rules other := by
  have builds := evaluated.builds
  have buildsToo := evaluatedToo.builds
  rw [honours_iff_unused builds, honours_iff_unused buildsToo, ← and_assoc]
  exact and_iff_left_of_imp fun unused =>
    sameTotal_of_unused flowersCounted builds buildsToo unused.1 unused.2

end TwoHands

/-- Flowers and kongs count, the last tile and a robbed kong do not. -/
def kongRules : RuleConfig :=
  ⟨"gb", 4, true, false, true, false, 1⟩

def flowerKongSnapshot : HandSnapshot :=
  winnerSnapshot flowerKongRequest flowerKongPlayer flowerKongHand

def flowerKongSettlement : CalculateScoreRequest where
  roomId := "room"
  matchId := "room-match"
  roundId := "room-round"
  ruleConfig := some kongRules
  roundContext := flowerKongRequest.roundContext
  winType := asI32 WinType.kongDraw
  winnerSeat := asI32 Seat.east
  discarderSeat := asI32 Seat.unspecified
  winningTile := asI32 Engine.Tile.eastWind
  hands := [flowerKongSnapshot]
  settlementFlags := []
  terminalAction := none

/-- The draw after the kong and the flower are within the rules, and the validation and the
settlement of the win have one total. -/
theorem switches_honoured_iff_unused_flowerKong :
    ∃ undefined handtiles others,
      EvaluatedUnder kongRules flowerKongWin handtiles ∧
      EvaluatedUnder kongRules (settledWin flowerKongSettlement flowerKongSnapshot) others ∧
      handtiles.huapaiCount = .ok 1 ∧ handtiles.gang = true ∧
      Honours (gbMahjong undefined) kongRules handtiles ∧
      Honours (gbMahjong undefined) kongRules others ∧
      ((gbMahjong undefined).countFan handtiles).totFanRes =
        ((gbMahjong undefined).countFan others).totFanRes := by
  have validated : (buildWinningHandtilesForValidation
      { flowerKongRequest with ruleConfig := some kongRules }).map (fun handtiles =>
        (handtiles.huapaiCount, handtiles.gang, judgeHu handtiles)) = .ok (.ok 1, true, true) := by
    decide +kernel
  have settled : (buildWinningHandtilesForScoring flowerKongSettlement flowerKongSnapshot).map
      judgeHu = .ok true := by decide +kernel
  obtain ⟨handtiles, built, fields⟩ := map_eq_ok_iff.mp validated
  obtain ⟨others, rebuilt, judgedToo⟩ := map_eq_ok_iff.mp settled
  simp only [Prod.mk.injEq] at fields
  obtain ⟨flowers, kong, judged⟩ := fields
  have evaluated : EvaluatedUnder kongRules flowerKongWin handtiles :=
    .validation { flowerKongRequest with ruleConfig := some kongRules } _ _ _ _ handtiles
      rfl rfl rfl rfl rfl built
  have evaluatedToo : EvaluatedUnder kongRules
      (settledWin flowerKongSettlement flowerKongSnapshot) others :=
    .scoring _ _ others rfl rebuilt
  have undefined : Fan := ⟨fun _ => [], 0, by decide⟩
  have unused : Unused (gbMahjong undefined) kongRules flowerKongWin :=
    ⟨nofun, fun _ => rfl, nofun, fun _ => .inl (by decide)⟩
  obtain ⟨honours, honoursToo, sameTotal⟩ := (switches_honoured_iff_unused
    (gbMahjong_countsFlowers undefined) evaluated evaluatedToo).mpr ⟨unused, unused⟩
  exact ⟨undefined, handtiles, others, evaluated, evaluatedToo, flowers, kong, honours,
    honoursToo, sameTotal rfl judged judgedToo⟩

def allOff : RuleConfig :=
  ⟨"gb", 4, false, false, false, false, 1⟩

/-- East declares the orphans won on the last tile, after a kong, with a flower laid down
and every switch off. -/
def switchedOffRequest : ValidateActionRequest :=
  { kongDrawRequest with
    ruleConfig := some allOff
    roundContext := some { defaultRoundContext with
      prevailingWind := asI32 Seat.east
      isLastTile := true }
    players := [{ orphansPlayer with flowers := [asI32 Engine.Tile.flowerPlum] }] }

/-- The flower, the last tile and the kong all count. -/
theorem switchedOff_not_honoured :
    ∃ handtiles, switchedOffRequest.ruleConfig = some allOff ∧
      buildWinningHandtilesForValidation switchedOffRequest = .ok handtiles ∧
      handtiles.huapaiCount = .ok 1 ∧ handtiles.haidi = true ∧
      handtiles.gang = true ∧ handtiles.zimo = true ∧
      ∀ library, ¬ Honours library allOff handtiles := by
  have counted : (buildWinningHandtilesForValidation switchedOffRequest).map
      (fun handtiles => (handtiles.huapaiCount, handtiles.haidi, handtiles.gang,
        handtiles.zimo)) = .ok (.ok 1, true, true, true) := by decide +kernel
  obtain ⟨handtiles, built, counted⟩ := map_eq_ok_iff.mp counted
  simp only [Prod.mk.injEq] at counted
  obtain ⟨flowers, lastTile, kong, drawn⟩ := counted
  exact ⟨handtiles, rfl, built, flowers, lastTile, kong, drawn,
    fun library honours => honours.kongDraw rfl ⟨kong, drawn⟩⟩

end GbMahjong.Adapter
