import GbMahjong.Library.Numbering
import GbMahjong.Room.Handled

/-! The event numbers of one room over a whole run. -/

set_option autoImplicit false

namespace GbMahjong.Room

open GbMahjong.Library GbMahjong.Client

/-- The sequence number inside the payload, where there is one, is the frame's. -/
def EmbedsOwnSeq (frame : ServerFrame) : Prop :=
  match frame.payload with
  | .joinRoom response => response.latestEventSeq = frame.eventSeq
  | .syncState sync => ∃ snapshot, sync.snapshot = some snapshot ∧
      snapshot.latestEventSeq = frame.eventSeq
  | .actionRejected rejected => rejected.actualEventSeq = frame.eventSeq
  | .playerConnectionChanged _ => True
  | .pong pong => pong.latestEventSeq = frame.eventSeq

/-- The frame without its recipient and its clock reading. -/
def forAnyone (frame : ServerFrame) : ServerFrame :=
  match frame.payload with
  | .syncState sync => { frame with payload := .syncState { sync with
      serverTimeMs := 0
      snapshot := sync.snapshot.map fun snapshot => { snapshot with selfSeat := 0 } } }
  | _ => frame

def IsBroadcast (frame : ServerFrame) : Prop :=
  match frame.payload with
  | .syncState _ | .playerConnectionChanged _ => True
  | .joinRoom _ | .actionRejected _ | .pong _ => False

/-- Two copies of one broadcast, sent through different slots. -/
def CopyOf (earlier later : Delivery) : Prop :=
  ∃ first second, first ≠ second ∧ earlier.via = .slot first ∧ later.via = .slot second ∧
    IsBroadcast earlier.frame ∧ forAnyone earlier.frame = forAnyone later.frame

/-- The event numbers of the deliveries run from `start` up to `stop`. -/
abbrev Sequenced (start stop : Nat) (sent : List Delivery) : Prop :=
  Numbered (fun delivery => delivery.frame.eventSeq) CopyOf start stop sent

namespace RoomState

theorem sequenced_fanOut {room : RoomState} {seats : List Seat} (distinct : seats.Nodup)
    {eventSeq : Nat} {frame : Seat → ServerFrame}
    (stamped : ∀ seat, (frame seat).eventSeq = eventSeq)
    (broadcast : ∀ seat, IsBroadcast (frame seat))
    (alike : ∀ first second, forAnyone (frame first) = forAnyone (frame second)) :
    Sequenced eventSeq (eventSeq + 1) (room.fanOut seats frame) := by
  refine .round ?_ ?_
  · intro delivery sent
    obtain ⟨seat, _, _, _, rfl⟩ := mem_fanOut.mp sent
    exact stamped seat
  · refine (fanOut_pairwise distinct frame).imp ?_
    intro earlier later copies
    obtain ⟨first, second, different, viaFirst, viaSecond, same, sameLater⟩ := copies
    refine ⟨first, second, different, viaFirst, viaSecond, ?_, ?_⟩
    · rw [same]
      exact broadcast first
    · rw [same, sameLater]
      exact alike first second

theorem sequenced_sync (room : RoomState) (eventSeq : Nat) (reason : SyncReason)
    (around : Surroundings) :
    Sequenced eventSeq (eventSeq + 1) (room.syncDeliveries eventSeq reason around) :=
  sequenced_fanOut seatOrder_nodup (fun _ => rfl) (fun _ => trivial) fun _ _ => rfl

theorem sequenced_changed (room : RoomState) (eventSeq : Nat) (player : PlayerSlot)
    (seat : Seat) (connected : Bool) (around : Surroundings) :
    Sequenced eventSeq (eventSeq + 1)
      (room.changedDeliveries eventSeq player seat connected around) :=
  sequenced_fanOut around.slotOrder.nodup (fun _ => rfl) (fun _ => trivial) fun _ _ => rfl

/-- One command uses the numbers between the counter before and after it. -/
theorem Handled.sequenced {room next : RoomState} {around : Surroundings}
    {command : RoomCommand} {sent : List Delivery}
    (handled : room.Handled around command next sent) :
    Sequenced room.nextEventSeq next.nextEventSeq sent := by
  cases handled with
  | ignored => exact .nil _
  | joinRefused | resumeRefused | actionRejected => exact .single rfl
  | joined requestId connection request seat next unknown opened books =>
      subst books
      refine Numbered.append ?_ (sequenced_changed ..)
      exact .cons rfl (sequenced_sync ..)
  | readied requestId connectionId request seat player next bound found books =>
      subst books
      exact sequenced_sync ..
  | resumed requestId connection request seat player next known found token books =>
      subst books
      exact .cons rfl (sequenced_changed ..)
  | toggled requestId connectionId request seat player enabled next bound found books =>
      subst books
      exact sequenced_sync ..
  | disconnected connectionId userId seat player next bound known found books =>
      subst books
      exact (sequenced_sync ..).append (sequenced_changed ..)

theorem Handled.embedsOwnSeq {room next : RoomState} {around : Surroundings}
    {command : RoomCommand} {sent : List Delivery}
    (handled : room.Handled around command next sent) :
    ∀ delivery ∈ sent, EmbedsOwnSeq delivery.frame := by
  have synced : ∀ (state : RoomState) (eventSeq : Nat) (reason : SyncReason),
      ∀ delivery ∈ state.syncDeliveries eventSeq reason around,
        EmbedsOwnSeq delivery.frame := by
    intro state eventSeq reason delivery member
    obtain ⟨seat, _, _, _, rfl⟩ := mem_fanOut.mp member
    exact ⟨_, rfl, rfl⟩
  have changed : ∀ (state : RoomState) (eventSeq : Nat) (player : PlayerSlot) (seat : Seat)
      (connected : Bool),
      ∀ delivery ∈ state.changedDeliveries eventSeq player seat connected around,
        EmbedsOwnSeq delivery.frame := by
    intro state eventSeq player seat connected delivery member
    obtain ⟨seat, _, _, _, rfl⟩ := mem_fanOut.mp member
    trivial
  intro delivery member
  cases handled with
  | ignored => cases member
  | joinRefused | resumeRefused | actionRejected =>
      rw [List.mem_singleton.mp member]
      rfl
  | joined =>
      rcases List.mem_append.mp member with earlier | later
      · rcases List.mem_cons.mp earlier with rfl | later
        · rfl
        · exact synced _ _ _ delivery later
      · exact changed _ _ _ _ _ delivery later
  | readied => exact synced _ _ _ delivery member
  | resumed =>
      rcases List.mem_cons.mp member with rfl | later
      · exact ⟨_, rfl, rfl⟩
      · exact changed _ _ _ _ _ delivery later
  | toggled => exact synced _ _ _ delivery member
  | disconnected =>
      rcases List.mem_append.mp member with earlier | later
      · exact synced _ _ _ delivery earlier
      · exact changed _ _ _ _ _ delivery later

theorem Consistent.sequenced_run {room : RoomState} (consistent : room.Consistent)
    (inputs : List RoomInput) :
    Sequenced room.nextEventSeq (roomTask.exec room inputs).nextEventSeq
        (deliveries (roomTask.trace room inputs)) ∧
      ∀ delivery ∈ deliveries (roomTask.trace room inputs),
        EmbedsOwnSeq delivery.frame := by
  induction inputs generalizing room with
  | nil => exact ⟨.nil _, by simp⟩
  | cons input rest ih =>
      have handled := consistent.handled input.1 input.2
      have consistentNext : (room.handleCommand input.1 input.2).1.Consistent :=
        consistent.exec [input]
      obtain ⟨sequenced, embeds⟩ := ih consistentNext
      rw [Machine.trace_cons, deliveries_append]
      refine ⟨handled.sequenced.append sequenced, fun delivery member => ?_⟩
      rcases List.mem_append.mp member with now | later
      · exact handled.embedsOwnSeq delivery now
      · exact embeds delivery later

/-- The event numbers of a run. -/
theorem event_numbers_of_run (roomId : String) (inputs : List RoomInput) :
    let room := roomTask.exec (RoomState.new roomId) inputs
    let sent := deliveries (roomTask.trace (RoomState.new roomId) inputs)
    (∀ delivery ∈ sent, 1 ≤ delivery.frame.eventSeq ∧
      delivery.frame.eventSeq ≤ room.nextEventSeq - 1 ∧ EmbedsOwnSeq delivery.frame) ∧
    (sent.Pairwise fun earlier later =>
      earlier.frame.eventSeq ≤ later.frame.eventSeq ∧
        (earlier.frame.eventSeq = later.frame.eventSeq → CopyOf earlier later)) ∧
    ∀ seat, ((sent.filter fun delivery => delivery.via = .slot seat).map
      (·.frame.eventSeq)).Pairwise (· < ·) := by
  intro room sent
  obtain ⟨sequenced, embeds⟩ := (Consistent.new roomId).sequenced_run inputs
  refine ⟨fun delivery member => ?_, ?_, fun seat => ?_⟩
  · have range : 1 ≤ delivery.frame.eventSeq ∧
        delivery.frame.eventSeq < room.nextEventSeq := sequenced.within delivery member
    exact ⟨range.1, by omega, embeds delivery member⟩
  · refine sequenced.ordered.imp ?_
    rintro earlier later (below | ⟨same, copied⟩)
    · exact ⟨by omega, fun same => by omega⟩
    · exact ⟨by omega, fun _ => copied⟩
  · refine sequenced.strictly_increasing List.filter_sublist ?_
    intro earlier early later late copies
    obtain ⟨first, second, different, viaFirst, viaSecond, _⟩ := copies
    have earlySeat := (List.mem_filter.mp early).2
    have lateSeat := (List.mem_filter.mp late).2
    simp only [viaFirst, viaSecond, decide_eq_true_eq, Via.slot.injEq] at earlySeat lateSeat
    exact different (earlySeat.trans lateSeat.symm)

end RoomState

end GbMahjong.Room
