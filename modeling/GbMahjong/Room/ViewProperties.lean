import GbMahjong.Room.Handled

/-! What clients see. A client folds the frames it gets into a view; the room's
state has a projection to the same kind of view. The two are equal after every
command. -/

set_option autoImplicit false

namespace GbMahjong.Room

open GbMahjong.Library GbMahjong.Client

/-! ## Views -/

structure PlayerView where
  userId : String
  displayName : String
  seat : Int
  status : Int
  score : Int
  isDealer : Bool
  isConnected : Bool
  autoPlayEnabled : Bool
  deriving DecidableEq, Repr

structure ClientView where
  selfSeat : Int
  phase : Int
  players : List PlayerView
  deriving DecidableEq, Repr

def viewEntry (entry : PlayerState) : PlayerView where
  userId := entry.userId
  displayName := entry.displayName
  seat := entry.seat
  status := entry.status
  score := entry.score
  isDealer := entry.isDealer
  isConnected := entry.isConnected
  autoPlayEnabled := entry.autoPlayEnabled

def PlayerView.change (changed : PlayerConnectionChanged) (entry : PlayerView) :
    PlayerView :=
  if entry.seat = changed.seat then
    { entry with status := changed.status, isConnected := changed.connected }
  else entry

/-- A snapshot replaces the view, a connection change updates one entry. -/
def applyFrame (view : Option ClientView) (frame : ServerFrame) : Option ClientView :=
  match frame.payload with
  | .syncState sync => sync.snapshot.map fun snapshot => {
      selfSeat := snapshot.selfSeat
      phase := snapshot.phase
      players := snapshot.players.map viewEntry }
  | .playerConnectionChanged changed => view.map fun view =>
      { view with players := view.players.map (PlayerView.change changed) }
  | .joinRoom _ | .actionRejected _ | .pong _ => view

def viewOf (frames : List ServerFrame) : Option ClientView :=
  frames.foldl applyFrame none

theorem viewOf_append (earlier later : List ServerFrame) :
    viewOf (earlier ++ later) = later.foldl applyFrame (viewOf earlier) :=
  List.foldl_append

namespace RoomState

def playerView (room : RoomState) (player : PlayerSlot) : PlayerView where
  userId := player.userId
  displayName := player.displayName
  seat := ProtoEnum.asI32 player.seat
  status := ProtoEnum.asI32 player.status
  score := player.score
  isDealer := player.seat == room.dealerSeat
  isConnected := player.connected
  autoPlayEnabled := player.autoPlayEnabled

/-- The room as the player at this seat is meant to see it. -/
def project (room : RoomState) (seat : Seat) : ClientView where
  selfSeat := ProtoEnum.asI32 seat
  phase := ProtoEnum.asI32 room.phase
  players := seatOrder.filterMap fun seat =>
    (room.playersBySeat seat).map room.playerView

/-! ## What the room's frames do to a view -/

theorem applyFrame_sync (room : RoomState) (seat : Seat) (eventSeq : Nat)
    (reason : SyncReason) (unixTimeMs : Nat) (view : Option ClientView) :
    applyFrame view (room.buildSyncStateFor seat eventSeq reason unixTimeMs) =
      some (room.project seat) := by
  simp only [applyFrame, buildSyncStateFor, Option.map_some, project, List.map_filterMap,
    Option.map_map]
  rfl

@[simp] theorem applyFrame_joinRoom (view : Option ClientView) (eventSeq : Nat)
    (requestId : String) (accepted : Bool) (rejectCode : RejectCode)
    (roomId matchId : String) (seat : Seat) (connectionId token : String)
    (roomConfig : Option RoomConfig) (message : String) :
    applyFrame view (buildJoinRoomResponse eventSeq requestId accepted rejectCode roomId
      matchId seat connectionId token roomConfig message) = view := rfl

@[simp] theorem applyFrame_rejected (view : Option ClientView) (eventSeq : Nat)
    (requestId : String) (rejectCode : RejectCode) (message : String)
    (expectedEventSeq actionWindowId : Nat) :
    applyFrame view (buildActionRejected eventSeq requestId rejectCode message
      expectedEventSeq actionWindowId) = view := rfl

/-- A connection change about one slot turns the view of the room before the
change of that slot into the view after it. -/
theorem applyFrame_changed {room next : RoomState} {target : Seat}
    {before after : PlayerSlot} (seating : room.Seating)
    (found : room.playersBySeat target = some before)
    (foundNext : next.playersBySeat target = some after)
    (others : ∀ seat, seat ≠ target → next.playersBySeat seat = room.playersBySeat seat)
    (phase : next.phase = room.phase) (dealer : next.dealerSeat = room.dealerSeat)
    (entry : next.playerView after = { room.playerView before with
      status := ProtoEnum.asI32 after.status, isConnected := after.connected })
    (seat : Seat) (eventSeq : Nat) (roomId matchId userId : String) (unixTimeMs : Nat) :
    applyFrame (some (room.project seat))
        (buildPlayerConnectionChanged eventSeq roomId matchId userId target after.status
          after.connected unixTimeMs) =
      some (next.project seat) := by
  simp only [applyFrame, buildPlayerConnectionChanged, Option.map_some, project, phase,
    List.map_filterMap, Option.some.injEq, ClientView.mk.injEq, true_and]
  apply List.filterMap_congr
  intro other _
  by_cases same : other = target
  · subst same
    rw [found, foundNext, Option.map_some, Option.map_some, Option.map_some, entry]
    have home : (room.playerView before).seat = ProtoEnum.asI32 other :=
      congrArg ProtoEnum.asI32 (seating.seat_of_slot found)
    simp [PlayerView.change, home]
  · rw [others other same]
    cases occupied : room.playersBySeat other with
    | none => rfl
    | some player =>
        have away : (room.playerView player).seat ≠ ProtoEnum.asI32 target := by
          intro coded
          rw [← seating.seat_of_slot occupied] at same
          exact same (ProtoEnum.asI32_injective coded)
        have unchanged : next.playerView player = room.playerView player := by
          simp only [playerView, dealer]
        simp [PlayerView.change, away, unchanged]

/-! ## What reaches a player -/

/-- The frames that a command sends through one slot. -/
def through (seat : Seat) (sent : List Delivery) : List ServerFrame :=
  (sent.filter fun delivery => delivery.via = .slot seat).map (·.frame)

/-- The frames that a command sends through one slot or directly to the
connection it came from. -/
def addressed (connectionId : String) (seat : Seat) (sent : List Delivery) :
    List ServerFrame :=
  (sent.filter fun delivery =>
    delivery.via = .requester connectionId ∨ delivery.via = .slot seat).map (·.frame)

@[simp] theorem through_append (seat : Seat) (first second : List Delivery) :
    through seat (first ++ second) = through seat first ++ through seat second := by
  simp [through]

@[simp] theorem through_requester (seat : Seat) (connectionId : String)
    (channel : ConnectionSender) (frame : ServerFrame) (rest : List Delivery) :
    through seat (⟨.requester connectionId, channel, frame⟩ :: rest) = through seat rest := by
  simp [through]

@[simp] theorem addressed_append (connectionId : String) (seat : Seat)
    (first second : List Delivery) :
    addressed connectionId seat (first ++ second) =
      addressed connectionId seat first ++ addressed connectionId seat second := by
  simp [addressed]

@[simp] theorem addressed_requester (connectionId : String) (seat : Seat)
    (channel : ConnectionSender) (frame : ServerFrame) (rest : List Delivery) :
    addressed connectionId seat (⟨.requester connectionId, channel, frame⟩ :: rest) =
      frame :: addressed connectionId seat rest := by
  simp [addressed]

@[simp] theorem addressed_fanOut (connectionId : String) (seat : Seat) (room : RoomState)
    (seats : List Seat) (frame : Seat → ServerFrame) :
    addressed connectionId seat (room.fanOut seats frame) =
      through seat (room.fanOut seats frame) := by
  refine congrArg _ (List.filter_congr fun delivery sent => ?_)
  obtain ⟨target, _, _, _, rfl⟩ := mem_fanOut.mp sent
  simp

@[simp] theorem addressed_syncDeliveries (connectionId : String) (seat : Seat)
    (room : RoomState) (eventSeq : Nat) (reason : SyncReason) (around : Surroundings) :
    addressed connectionId seat (room.syncDeliveries eventSeq reason around) =
      through seat (room.syncDeliveries eventSeq reason around) :=
  addressed_fanOut ..

@[simp] theorem addressed_changedDeliveries (connectionId : String) (seat : Seat)
    (room : RoomState) (eventSeq : Nat) (player : PlayerSlot) (changed : Seat)
    (connected : Bool) (around : Surroundings) :
    addressed connectionId seat
        (room.changedDeliveries eventSeq player changed connected around) =
      through seat (room.changedDeliveries eventSeq player changed connected around) :=
  addressed_fanOut ..

theorem through_fanOut {room : RoomState} {seats : List Seat} {seat : Seat}
    (distinct : seats.Nodup) (member : seat ∈ seats) {channel : ConnectionSender}
    (live : room.liveChannel? seat = some channel) (frame : Seat → ServerFrame) :
    through seat (room.fanOut seats frame) = [frame seat] := by
  rw [through, fanOut_filter_slot distinct member, live]
  rfl

theorem Consistent.live {room : RoomState} (consistent : room.Consistent) {seat : Seat}
    {player : PlayerSlot} (found : room.playersBySeat seat = some player)
    (connected : player.connected = true) :
    ∃ channel, room.liveChannel? seat = some channel := by
  obtain ⟨flag, sender⟩ := consistent.wired found
  rw [← flag, connected, Option.isSome_iff_exists] at sender
  obtain ⟨channel, sender⟩ := sender
  exact ⟨channel, liveChannel?_eq_some_iff.mpr ⟨player, found, connected, sender⟩⟩

theorem Consistent.view_synced {room : RoomState} (consistent : room.Consistent)
    {seat : Seat} {player : PlayerSlot} (found : room.playersBySeat seat = some player)
    (connected : player.connected = true) (eventSeq : Nat) (reason : SyncReason)
    (around : Surroundings) (view : Option ClientView) :
    (through seat (room.syncDeliveries eventSeq reason around)).foldl applyFrame view =
      some (room.project seat) := by
  obtain ⟨channel, live⟩ := consistent.live found connected
  rw [syncDeliveries,
    through_fanOut seatOrder_nodup (consistent.mem_seatOrder found) live]
  exact applyFrame_sync room seat eventSeq reason (around.syncTimeMs seat) view

theorem Consistent.view_changed {room next : RoomState} (consistent : room.Consistent)
    (consistentNext : next.Consistent) {target : Seat} {before after : PlayerSlot}
    (found : room.playersBySeat target = some before)
    (foundNext : next.playersBySeat target = some after)
    (others : ∀ seat, seat ≠ target → next.playersBySeat seat = room.playersBySeat seat)
    (phase : next.phase = room.phase) (dealer : next.dealerSeat = room.dealerSeat)
    (entry : next.playerView after = { room.playerView before with
      status := ProtoEnum.asI32 after.status, isConnected := after.connected })
    {seat : Seat} {player : PlayerSlot} (occupied : next.playersBySeat seat = some player)
    (connected : player.connected = true) (eventSeq : Nat) (around : Surroundings) :
    (through seat (next.changedDeliveries eventSeq after target after.connected
        around)).foldl applyFrame (some (room.project seat)) =
      some (next.project seat) := by
  obtain ⟨channel, live⟩ := consistentNext.live occupied connected
  rw [changedDeliveries,
    through_fanOut around.slotOrder.nodup (around.slotOrder.complete seat) live]
  exact applyFrame_changed consistent.toSeating found foundNext others phase dealer entry
    seat eventSeq next.roomId next.matchId after.userId around.changedTimeMs

/-! ## Inboxes -/

/-- For each slot the frames its player got since the last accepted join or
resume of the slot. -/
abbrev Inbox := Seat → List ServerFrame

def inboxAfter (room : RoomState) (inbox : Inbox) (command : RoomCommand)
    (sent : List Delivery) : Inbox := fun seat =>
  if room.boundSeat? command = some seat then addressed command.connectionId seat sent
  else inbox seat ++ through seat sent

/-- Every connected player's view is the projection of the room. -/
def Faithful (room : RoomState) (inbox : Inbox) : Prop :=
  ∀ seat player, room.playersBySeat seat = some player → player.connected = true →
    viewOf (inbox seat) = some (room.project seat)

theorem Consistent.of_advanceSeq {room : RoomState} {count : Nat}
    (consistent : (room.advanceSeq count).Consistent) : room.Consistent :=
  { consistent with }

private theorem Faithful.untouched {room : RoomState} {inbox : Inbox}
    (faithful : room.Faithful inbox) {command : RoomCommand}
    (unbound : room.boundSeat? command = none) {sent : List Delivery}
    (silent : ∀ seat view, (through seat sent).foldl applyFrame view = view) :
    room.Faithful (room.inboxAfter inbox command sent) := by
  intro seat player found connected
  simp only [inboxAfter, unbound, reduceCtorEq, ↓reduceIte, viewOf_append, silent]
  exact faithful seat player found connected

private theorem Consistent.faithful_synced {room next : RoomState} {inbox : Inbox}
    (consistent : next.Consistent) (command : RoomCommand)
    (unbound : room.boundSeat? command = none) (eventSeq : Nat) (reason : SyncReason)
    (around : Surroundings) :
    next.Faithful (room.inboxAfter inbox command
      (next.syncDeliveries eventSeq reason around)) := by
  intro seat player found connected
  simp only [inboxAfter, unbound, reduceCtorEq, ↓reduceIte, viewOf_append]
  exact consistent.view_synced found connected ..

private theorem Consistent.view_repeated {room : RoomState} (consistent : room.Consistent)
    {target : Seat} {changed : PlayerSlot}
    (found : room.playersBySeat target = some changed) {seat : Seat} {player : PlayerSlot}
    (occupied : room.playersBySeat seat = some player) (connected : player.connected = true)
    (eventSeq : Nat) (around : Surroundings) :
    (through seat (room.changedDeliveries eventSeq changed target changed.connected
        around)).foldl applyFrame (some (room.project seat)) =
      some (room.project seat) :=
  consistent.view_changed consistent found found (fun _ _ => rfl) rfl rfl rfl occupied
    connected eventSeq around

/-- The state of an accepted join or resume: the frames that it sends decide
every view. -/
private theorem Faithful.bound {room next : RoomState} {inbox : Inbox}
    {command : RoomCommand} {seat : Seat} {sent : List Delivery}
    (bound : room.boundSeat? command = some seat)
    (own : ∀ player, next.playersBySeat seat = some player → player.connected = true →
      viewOf (addressed command.connectionId seat sent) = some (next.project seat))
    (others : ∀ other player, other ≠ seat → next.playersBySeat other = some player →
      player.connected = true →
      (through other sent).foldl applyFrame (viewOf (inbox other)) =
        some (next.project other)) :
    next.Faithful (room.inboxAfter inbox command sent) := by
  intro other player found connected
  by_cases same : other = seat
  · subst same
    simp only [inboxAfter, bound, ↓reduceIte]
    exact own player found connected
  · have elsewhere : some seat ≠ some other := fun home => same (Option.some.inj home).symm
    simp only [inboxAfter, bound, elsewhere, ↓reduceIte, viewOf_append]
    exact others other player same found connected

theorem Faithful.handled {room next : RoomState} {inbox : Inbox} {around : Surroundings}
    {command : RoomCommand} {sent : List Delivery} (faithful : room.Faithful inbox)
    (consistent : room.Consistent) (consistentNext : next.Consistent)
    (handled : room.Handled around command next sent) :
    next.Faithful (room.inboxAfter inbox command sent) := by
  cases handled with
  | ignored _ unbound => exact faithful.untouched unbound fun _ _ => rfl
  | joinRefused requestId connection request rejectCode seat message refused =>
      exact faithful.untouched (by simpa [boundSeat?] using refused)
        fun _ _ => by simp [through]
  | resumeRefused requestId connection request rejectCode message refused =>
      exact faithful.untouched (by simp [boundSeat?, refused])
        fun _ _ => by simp [through]
  | actionRejected requestId connectionId request seat player outboundTx rejectCode =>
      apply faithful.untouched rfl
      intro target view
      by_cases same : seat = target <;> simp [through, same]
  | joined requestId connection request seat next unknown opened books =>
      have live := consistentNext.of_advanceSeq
      have seated : next.playersBySeat seat =
          some (room.joinedPlayer seat connection request) := by
        rw [books]
        exact Function.update_self ..
      have view : ∀ other player earlier, next.playersBySeat other = some player →
          player.connected = true →
          (through other (next.changedDeliveries (room.nextEventSeq + 2)
              (room.joinedPlayer seat connection request) seat true around)).foldl applyFrame
            ((through other (next.syncDeliveries (room.nextEventSeq + 1) .serverResync
              around)).foldl applyFrame earlier) = some (next.project other) := by
        intro other player earlier found connected
        rw [live.view_synced found connected]
        exact live.view_repeated seated found connected ..
      refine Faithful.bound (joinSeat?_eq_some_iff.mpr ⟨unknown, opened⟩) ?_ ?_
      · intro player found connected
        simp only [RoomCommand.connectionId, List.cons_append, addressed_requester,
          addressed_append, addressed_syncDeliveries, addressed_changedDeliveries, viewOf,
          List.foldl_cons, List.foldl_append, applyFrame_joinRoom]
        exact view seat player none found connected
      · intro other player _ found connected
        simp only [List.cons_append, through_requester, through_append, List.foldl_append]
        exact view other player _ found connected
  | readied requestId connectionId request =>
      exact consistentNext.of_advanceSeq.faithful_synced
        (.ready requestId connectionId request) rfl _ _ around
  | resumed requestId connection request seat player next known found token books =>
      have live := consistentNext.of_advanceSeq
      have rebound : next.playersBySeat seat = some (player.reboundTo connection) := by
        rw [books]
        exact Function.update_self ..
      have accepted : room.boundSeat? (.resumeSession requestId connection request) =
          some seat := by
        simp [boundSeat?, resumeSlot?_eq_some_iff.mpr ⟨known, found, token⟩]
      refine Faithful.bound accepted ?_ ?_
      · intro holder occupied connected
        simp only [RoomCommand.connectionId, addressed_requester,
          addressed_changedDeliveries, viewOf, List.foldl_cons, applyFrame_sync]
        exact live.view_repeated rebound occupied connected ..
      · intro other holder different occupied connected
        have before : room.playersBySeat other = some holder := by
          have kept : next.playersBySeat other = room.playersBySeat other := by
            rw [books]
            exact Function.update_of_ne different ..
          exact kept ▸ occupied
        rw [through_requester, faithful other holder before connected]
        exact consistent.view_changed live found rebound
          (fun target away => by rw [books]; exact Function.update_of_ne away ..)
          (by rw [books]; rfl) (by rw [books]; rfl) (by rw [books]; rfl) occupied
          connected ..
  | toggled requestId connectionId request =>
      exact consistentNext.of_advanceSeq.faithful_synced
        (.playerAction requestId connectionId request) rfl _ _ around
  | disconnected connectionId userId seat player next bound known found books =>
      have live := consistentNext.of_advanceSeq
      have released : next.playersBySeat seat = some player.released := by
        rw [books]
        exact Function.update_self ..
      intro other holder occupied connected
      simp only [inboxAfter, boundSeat?, reduceCtorEq, ↓reduceIte, viewOf_append,
        through_append, List.foldl_append]
      rw [live.view_synced occupied connected]
      exact live.view_repeated released occupied connected ..

end RoomState

/-- The room task together with the inboxes of its players. -/
def watchedRoom : Machine (RoomState × RoomState.Inbox) RoomInput Effect where
  step watched input :=
    let handled := watched.1.handleCommand input.1 input.2
    ((handled.1, watched.1.inboxAfter watched.2 input.1 (deliveries handled.2)), handled.2)

theorem watchedRoom_exec (room : RoomState) (inbox : RoomState.Inbox)
    (inputs : List RoomInput) :
    (watchedRoom.exec (room, inbox) inputs).1 = roomTask.exec room inputs := by
  induction inputs generalizing room inbox with
  | nil => rfl
  | cons input rest ih => exact ih _ _

/-- After every run, every connected player's view of the frames since the last
accepted join or resume of the slot is the room's own projection. -/
theorem views_match_projection (roomId : String) (inputs : List RoomInput) :
    let watched := watchedRoom.exec (RoomState.new roomId, fun _ => []) inputs
    watched.1 = roomTask.exec (RoomState.new roomId) inputs ∧
      ∀ seat player, watched.1.playersBySeat seat = some player →
        player.connected = true →
        viewOf (watched.2 seat) = some (watched.1.project seat) := by
  intro watched
  refine ⟨watchedRoom_exec .., ?_⟩
  have holds : watched.1.Consistent ∧ watched.1.Faithful watched.2 := by
    refine @Machine.exec_invariant _ _ _ watchedRoom
      (fun watched => watched.1.Consistent ∧ watched.1.Faithful watched.2) (fun _ => True)
      ?_ _ ⟨.new roomId, fun _ _ found => by cases found⟩ inputs fun _ _ => trivial
    rintro ⟨room, inbox⟩ input _ ⟨consistent, faithful⟩
    have consistentNext : (room.handleCommand input.1 input.2).1.Consistent :=
      consistent.exec [input]
    exact ⟨consistentNext,
      faithful.handled consistent consistentNext (consistent.handled input.1 input.2)⟩
  exact holds.2

end GbMahjong.Room
