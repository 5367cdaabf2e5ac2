import GbMahjong.Room.Handled

/-! The phase of a room and the announcement of a round. The phase is recomputed
by ready requests only, from slots that the other commands touch as well. -/

set_option autoImplicit false

namespace GbMahjong.Room

open GbMahjong.Library GbMahjong.Client

namespace RoomState

/-! ## Phase -/

structure FullyReady (room : RoomState) : Prop where
  occupied : ∀ seat ∈ seatOrder, ∃ player, room.playersBySeat seat = some player
  ready : ∀ {seat player}, room.playersBySeat seat = some player →
    player.status = .ready

structure PhaseExact (room : RoomState) : Prop where
  dealing : room.phase = .dealing ↔ room.FullyReady
  lobby : ¬ room.FullyReady → room.phase = .lobby

theorem Seating.playerCount_eq_seatCount_iff {room : RoomState} (seating : room.Seating) :
    room.playerCount = room.roomConfig.seatCount ↔
      ∀ seat ∈ seatOrder, ∃ player, room.playersBySeat seat = some player := by
  obtain ⟨count, bounded, filled⟩ := seating.filled
  rw [seating.seatCount, playerCount_of_filled bounded filled]
  simp only [← Option.isSome_iff_exists, filled]
  revert bounded
  match count with
  | 0 | 1 | 2 | 3 | 4 => intro; decide
  | count + 5 => intro bounded; omega

/-- The test of `handle_ready` in a room with consistent seats. -/
theorem Seating.allReady_iff {room : RoomState} (seating : room.Seating) :
    room.allReady = true ↔ room.FullyReady := by
  simp only [allReady, Bool.and_eq_true, beq_iff_eq, seating.playerCount_eq_seatCount_iff,
    List.all_eq_true, Option.all_eq_true]
  constructor
  · intro test
    obtain ⟨occupied, ready⟩ := test
    exact ⟨occupied, fun {seat player} found =>
      ready seat (ProtoEnum.complete seat) player found⟩
  · intro full
    exact ⟨full.occupied, fun seat _ player found => full.ready found⟩

/-- The phase is the one that `handle_ready` would compute. -/
def PhaseKept (room : RoomState) : Prop :=
  room.phase = if room.allReady then .dealing else .lobby

theorem PhaseKept.exact {room : RoomState} (kept : room.PhaseKept)
    (seating : room.Seating) : room.PhaseExact := by
  unfold PhaseKept at kept
  constructor
  · rw [kept, ← seating.allReady_iff]
    cases room.allReady <;> simp
  · intro waiting
    rw [← seating.allReady_iff] at waiting
    rw [kept, if_neg waiting]

theorem allReady_replace {room next : RoomState} {seat : Seat} {before after : PlayerSlot}
    (found : room.playersBySeat seat = some before)
    (slots : next.playersBySeat = Function.update room.playersBySeat seat (some after))
    (status : after.status = before.status)
    (config : next.roomConfig = room.roomConfig) : next.allReady = room.allReady := by
  have counted : next.playerCount = room.playerCount := by
    unfold playerCount
    congr 1
    apply List.filter_congr
    intro other _
    rw [slots, update_some_isSome_of_some found]
  have tested : ∀ other, ((next.playersBySeat other).all fun player =>
      player.status == .ready) = (room.playersBySeat other).all fun player =>
        player.status == .ready := by
    intro other
    rw [slots]
    by_cases same : other = seat
    · subst same
      simp [found, status]
    · simp [same]
  simp only [allReady, counted, config, tested]

theorem PhaseKept.replace {room next : RoomState} (kept : room.PhaseKept) {seat : Seat}
    {before after : PlayerSlot} (found : room.playersBySeat seat = some before)
    (slots : next.playersBySeat = Function.update room.playersBySeat seat (some after))
    (status : after.status = before.status) (config : next.roomConfig = room.roomConfig)
    (phase : next.phase = room.phase) : next.PhaseKept := by
  unfold PhaseKept
  rw [phase, allReady_replace found slots status config]
  exact kept

theorem PhaseKept.settle {room : RoomState} (kept : room.PhaseKept)
    (consistent : room.Consistent) (command : RoomCommand) :
    (room.settle command).PhaseKept := by
  obtain ⟨next, books, later, step⟩ := consistent.exists_settled command
  rw [books]
  cases step with
  | refused => exact kept
  | joined requestId connection request seat unknown opened =>
      -- The seat was vacant before and its player is not ready now.
      have before : room.allReady ≠ true := by
        intro test
        have full := consistent.allReady_iff.mp test
        obtain ⟨player, found⟩ := full.occupied seat (List.mem_of_find?_eq_some opened)
        rw [nextOpenSeat_vacant opened] at found
        cases found
      have after : (room.seatPlayer seat connection request).allReady ≠ true := by
        intro test
        have full := later.allReady_iff.mp test
        have ready := @full.ready seat (room.joinedPlayer seat connection request)
          (by simp [RoomState.seatPlayer])
        cases ready
      unfold PhaseKept at kept ⊢
      rw [if_neg before] at kept
      rw [if_neg after]
      exact kept
  | readied => exact rfl
  | resumed requestId connection request seat player known found token =>
      exact kept.replace found rfl rfl rfl rfl
  | toggled requestId connectionId request seat player enabled bound found =>
      exact kept.replace found rfl rfl rfl rfl
  | disconnected connectionId userId seat player bound known found =>
      exact kept.replace found rfl rfl rfl rfl

theorem PhaseKept.exec {room : RoomState} (kept : room.PhaseKept)
    (consistent : room.Consistent) (inputs : List RoomInput) :
    (roomTask.exec room inputs).PhaseKept := by
  have holds : (roomTask.exec room inputs).Consistent ∧
      (roomTask.exec room inputs).PhaseKept := by
    refine @exec_of_settle (fun state => state.Consistent ∧ state.PhaseKept) ?_ ?_ _
      ⟨consistent, kept⟩ inputs
    · intro state eventSeq holds
      exact ⟨holds.1.withEventSeq eventSeq, holds.2⟩
    · intro state command holds
      exact ⟨holds.1.settle command, holds.2.settle holds.1 command⟩
  exact holds.2

theorem PhaseKept.new (roomId : String) : (RoomState.new roomId).PhaseKept := rfl

theorem Reachable.phaseKept {room : RoomState} (reachable : room.Reachable) :
    room.PhaseKept := by
  obtain ⟨roomId, inputs, rfl⟩ := reachable
  exact (PhaseKept.new roomId).exec (.new roomId) inputs

theorem Reachable.phaseExact {room : RoomState} (reachable : room.Reachable) :
    room.PhaseExact :=
  reachable.phaseKept.exact reachable.consistent.toSeating

/-- In every reachable room of four seats the phase is Dealing exactly when all
seats are taken by ready players, and Lobby otherwise, and every command, whatever
the rule engine answers, leaves a room of which the same holds. -/
theorem phase_exact_of_run (roomId : String) (inputs : List RoomInput) :
    let room := roomTask.exec (RoomState.new roomId) inputs
    room.roomConfig.seatCount = 4 ∧ room.PhaseExact ∧
      ∀ command around, (room.handleCommand command around).1.PhaseExact := by
  intro room
  have reachable : room.Reachable := ⟨roomId, inputs, rfl⟩
  refine ⟨reachable.consistent.seatCount, reachable.phaseExact, ?_⟩
  intro command around
  exact (reachable.exec [(command, around)]).phaseExact

/-! ## The announcement of a round -/

def StartsRound (frame : ServerFrame) : Prop :=
  ∃ sync, frame.payload = .syncState sync ∧
    sync.reason = ProtoEnum.asI32 SyncReason.roundStart

/-- Only the move from Lobby to Dealing is announced, and all four seats hear it. -/
structure AnnouncesOnce (room next : RoomState) (sent : List Delivery) : Prop where
  moves : ∀ delivery ∈ sent, StartsRound delivery.frame →
    room.phase = .lobby ∧ next.phase = .dealing
  everySeat : (∃ delivery ∈ sent, StartsRound delivery.frame) → ∀ seat ∈ seatOrder,
    ∃ delivery ∈ sent, delivery.via = .slot seat ∧ StartsRound delivery.frame

structure AnnouncesRound (room : RoomState) (command : RoomCommand) (next : RoomState)
    (sent : List Delivery) : Prop where
  byReady : (∃ delivery ∈ sent, StartsRound delivery.frame) →
    (∃ requestId connectionId seat, command = .ready requestId connectionId ⟨true⟩ ∧
      room.seatForConnection connectionId = some seat) ∧
      next.phase = .dealing ∧ next.FullyReady
  onMove : room.phase = .lobby → next.phase = .dealing →
    ∃ delivery ∈ sent, StartsRound delivery.frame
  heard : (∃ delivery ∈ sent, StartsRound delivery.frame) → ∀ seat,
    (∃ delivery ∈ sent, delivery.via = .slot seat ∧ StartsRound delivery.frame) ↔
      ∃ player, next.playersBySeat seat = some player ∧ player.connected = true

theorem not_startsRound_sync {room : RoomState} {eventSeq : Nat} {around : Surroundings}
    {delivery : Delivery} {reason : SyncReason} (other : reason ≠ .roundStart)
    (member : delivery ∈ room.syncDeliveries eventSeq reason around) :
    ¬ StartsRound delivery.frame := by
  obtain ⟨seat, _, channel, _, rfl⟩ := mem_fanOut.mp member
  intro starts
  obtain ⟨sync, payload, announced⟩ := starts
  cases payload
  exact other (ProtoEnum.asI32_injective announced)

theorem not_startsRound_changed {room : RoomState} {eventSeq : Nat} {player : PlayerSlot}
    {seat : Seat} {connected : Bool} {around : Surroundings} {delivery : Delivery}
    (member : delivery ∈ room.changedDeliveries eventSeq player seat connected around) :
    ¬ StartsRound delivery.frame := by
  obtain ⟨target, _, channel, _, rfl⟩ := mem_fanOut.mp member
  intro starts
  obtain ⟨sync, payload, _⟩ := starts
  cases payload

/-- Only a ready request that finds everybody ready announces a round. -/
theorem Handled.announcement {room next : RoomState} {around : Surroundings}
    {command : RoomCommand} {sent : List Delivery}
    (handled : room.Handled around command next sent) {delivery : Delivery}
    (member : delivery ∈ sent) (starts : StartsRound delivery.frame) :
    ∃ requestId connectionId request seat, ∃ player : PlayerSlot,
      command = .ready requestId connectionId request ∧
      room.seatForConnection connectionId = some seat ∧
      next.playersBySeat seat = some { player with
        status := if request.ready then .ready else .joined } ∧
      next.allReady = true ∧ next.phase = .dealing ∧
      sent = next.syncDeliveries room.nextEventSeq .roundStart around := by
  cases handled with
  | ignored => cases member
  | joinRefused | resumeRefused | actionRejected =>
      obtain ⟨sync, payload, _⟩ := starts
      rw [List.mem_singleton.mp member] at payload
      cases payload
  | joined =>
      rcases List.mem_append.mp member with earlier | changed
      · rcases List.mem_cons.mp earlier with rfl | synced
        · obtain ⟨sync, payload, _⟩ := starts
          cases payload
        · exact absurd starts (not_startsRound_sync (by decide) synced)
      · exact absurd starts (not_startsRound_changed changed)
  | readied requestId connectionId request seat player books bound found updated =>
      cases test : books.allReady with
      | false =>
          simp only [test, Bool.false_eq_true, ↓reduceIte] at member
          exact absurd starts (not_startsRound_sync (by decide) member)
      | true =>
          subst updated
          refine ⟨requestId, connectionId, request, seat, player, rfl, bound,
            Function.update_self .., test, ?_, ?_⟩
          · exact if_pos test
          · simp only [↓reduceIte]
            rfl
  | resumed =>
      rcases List.mem_cons.mp member with rfl | changed
      · obtain ⟨sync, payload, announced⟩ := starts
        cases payload
        exact absurd (ProtoEnum.asI32_injective announced) (by decide)
      · exact absurd starts (not_startsRound_changed changed)
  | toggled => exact absurd starts (not_startsRound_sync (by decide) member)
  | disconnected =>
      rcases List.mem_append.mp member with synced | changed
      · exact absurd starts (not_startsRound_sync (by decide) synced)
      · exact absurd starts (not_startsRound_changed changed)

private theorem Consistent.announces_onMove {room next : RoomState}
    {around : Surroundings} {command : RoomCommand} {sent : List Delivery}
    (consistent : room.Consistent) (later : next.Consistent)
    (handled : room.Handled around command next sent) (waiting : room.phase = .lobby)
    (dealing : next.phase = .dealing) :
    ∃ delivery ∈ sent, StartsRound delivery.frame := by
  have stays : next.phase ≠ room.phase := by
    rw [waiting, dealing]
    decide
  cases handled with
  | ignored | joinRefused | resumeRefused | actionRejected => exact absurd rfl stays
  | joined _ _ _ _ _ _ _ books | resumed _ _ _ _ _ _ _ _ _ books
  | toggled _ _ _ _ _ _ _ _ _ books | disconnected _ _ _ _ _ _ _ _ books =>
      subst books
      exact absurd rfl stays
  | readied requestId connectionId request seat player books bound found updated =>
      have test : books.allReady = true := by
        subst updated
        by_contra unready
        exact absurd ((if_neg unready).symm.trans dealing) (by decide)
      obtain ⟨holder, _, occupied, named, _⟩ := consistent.bound_sender bound
      rw [found] at occupied
      cases occupied
      have live : player.connected = true := by
        rw [(consistent.wired found).1, named]
        rfl
      have after : (books.advanceSeq 1).playersBySeat seat = some { player with
          status := if request.ready then .ready else .joined } := by
        rw [updated]
        exact Function.update_self ..
      obtain ⟨channel, _, member⟩ := later.syncDeliveries_through after live
        room.nextEventSeq .roundStart around
      rw [if_pos test]
      exact ⟨_, member, _, rfl, rfl⟩

/-- In every run a round is announced only by the ready request, of a registered
connection, that leaves all four players ready and the room dealing; the command
that moves the phase from Lobby to Dealing announces it; and it is heard at
exactly the seats that are connected. -/
theorem round_announced_by_ready (roomId : String) (inputs : List RoomInput)
    (command : RoomCommand) (around : Surroundings) :
    let room := roomTask.exec (RoomState.new roomId) inputs
    room.AnnouncesRound command (room.handleCommand command around).1
      (deliveries (room.handleCommand command around).2) := by
  intro room
  have reachable : room.Reachable := ⟨roomId, inputs, rfl⟩
  have consistent := reachable.consistent
  obtain ⟨next, sent, state, frames, later, handled⟩ :=
    consistent.exists_handled command around
  rw [state, frames]
  refine ⟨?_, consistent.announces_onMove later handled, ?_⟩
  · intro announced
    obtain ⟨delivery, member, starts⟩ := announced
    obtain ⟨requestId, connectionId, request, seat, player, rfl, bound, after, test,
      dealing, _⟩ := handled.announcement member starts
    have full := later.allReady_iff.mp test
    have ready := full.ready after
    obtain ⟨ready'⟩ := request
    cases ready' with
    | false => cases ready
    | true => exact ⟨⟨requestId, connectionId, seat, rfl, bound⟩, dealing, full⟩
  · intro announced seat
    obtain ⟨delivery, member, starts⟩ := announced
    obtain ⟨_, _, _, _, _, _, _, _, _, _, rfl⟩ := handled.announcement member starts
    constructor
    · intro heard
      obtain ⟨other, sent, through, _⟩ := heard
      obtain ⟨target, _, channel, live, rfl⟩ := mem_fanOut.mp sent
      cases through
      obtain ⟨player, found, connected, _⟩ := liveChannel?_eq_some_iff.mp live
      exact ⟨player, found, connected⟩
    · intro present
      obtain ⟨player, found, connected⟩ := present
      obtain ⟨channel, _, through⟩ := later.syncDeliveries_through found connected
        room.nextEventSeq .roundStart around
      exact ⟨_, through, rfl, _, rfl, rfl⟩

def joins (userId connectionId : String) : RoomInput :=
  (.join "join" ⟨connectionId, ⟨connectionId⟩⟩ ⟨"room", userId, "", userId, "1"⟩,
    Surroundings.noop)

def readies (connectionId : String) : RoomInput :=
  (.ready "ready" connectionId ⟨true⟩, Surroundings.noop)

def fourJoin : List RoomInput :=
  [joins "alice" "conn-1", joins "bob" "conn-2", joins "carol" "conn-3",
    joins "dave" "conn-4"]

def retriedReadyRun : List RoomInput :=
  fourJoin ++ [readies "conn-1", readies "conn-2", readies "conn-3", readies "conn-4"]

/-- Alice gets ready and loses her connection before dave gets ready. -/
def leftReadyRun : List RoomInput :=
  fourJoin ++ [readies "conn-1", readies "conn-2", readies "conn-3",
    (.disconnect "conn-1", Surroundings.noop)]

/-- A retried request announces the round again, and a player who lost the
connection does not hear the announcement. -/
theorem announcement_repeats_and_misses :
    let started := roomTask.exec (RoomState.new "room") retriedReadyRun
    let retry := started.handleCommand (.ready "retry" "conn-1" ⟨true⟩) Surroundings.noop
    let left := roomTask.exec (RoomState.new "room") leftReadyRun
    let last := left.handleCommand (.ready "ready" "conn-4" ⟨true⟩) Surroundings.noop
    ¬ started.AnnouncesOnce retry.1 (deliveries retry.2) ∧
      ¬ left.AnnouncesOnce last.1 (deliveries last.2) := by
  intro started retry left last
  constructor
  · intro once
    have moved := once.moves _ (.head _) ⟨_, rfl, rfl⟩
    exact absurd moved.1 (by decide)
  · intro once
    obtain ⟨delivery, member, through, _⟩ :=
      once.everySeat ⟨_, .head _, _, rfl, rfl⟩ .east (by decide)
    have elsewhere : ∀ other ∈ deliveries last.2, other.via ≠ .slot .east := by decide
    exact elsewhere delivery member through

end RoomState

end GbMahjong.Room
