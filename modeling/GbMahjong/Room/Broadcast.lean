import GbMahjong.Room.Commands
import Mathlib.Data.List.Basic

/-! The deliveries of the three ways a room sends: the two broadcasts fan one
event number out over the live slots, a reject goes to at most one slot. -/

set_option autoImplicit false

namespace GbMahjong.Room

open GbMahjong.Library GbMahjong.Client

namespace RoomState

/-- The channel a broadcast uses for this seat, if it sends there. -/
def liveChannel? (room : RoomState) (seat : Seat) : Option ConnectionSender :=
  match room.playersBySeat seat with
  | none => none
  | some player => if !player.connected then none else player.outboundTx

/-- One frame for each live slot, in the order of `seats`. -/
def fanOut (room : RoomState) (seats : List Seat) (frame : Seat → ServerFrame) :
    List Delivery :=
  seats.filterMap fun seat =>
    (room.liveChannel? seat).map fun channel => ⟨.slot seat, channel, frame seat⟩

theorem liveChannel?_eq_some_iff {room : RoomState} {seat : Seat}
    {channel : ConnectionSender} :
    room.liveChannel? seat = some channel ↔
      ∃ player, room.playersBySeat seat = some player ∧ player.connected = true ∧
        player.outboundTx = some channel := by
  unfold liveChannel?
  cases found : room.playersBySeat seat with
  | none => simp
  | some player => cases live : player.connected <;> simp [live]

theorem mem_fanOut {room : RoomState} {seats : List Seat} {frame : Seat → ServerFrame}
    {delivery : Delivery} :
    delivery ∈ room.fanOut seats frame ↔
      ∃ seat ∈ seats, ∃ channel, room.liveChannel? seat = some channel ∧
        delivery = ⟨.slot seat, channel, frame seat⟩ := by
  simp only [fanOut, List.mem_filterMap, Option.map_eq_some_iff]
  constructor
  · intro sent
    obtain ⟨seat, member, channel, live, rfl⟩ := sent
    exact ⟨seat, member, channel, live, rfl⟩
  · intro sent
    obtain ⟨seat, member, channel, live, rfl⟩ := sent
    exact ⟨seat, member, channel, live, rfl⟩

theorem fanOut_pairwise {room : RoomState} {seats : List Seat}
    (distinct : seats.Nodup) (frame : Seat → ServerFrame) :
    (room.fanOut seats frame).Pairwise fun earlier later =>
      ∃ first second, first ≠ second ∧ earlier.via = .slot first ∧
        later.via = .slot second ∧ earlier.frame = frame first ∧
        later.frame = frame second := by
  refine List.Pairwise.filterMap _ ?_ distinct
  intro first second different earlier sentEarlier later sentLater
  obtain ⟨_, _, rfl⟩ := Option.map_eq_some_iff.mp sentEarlier
  obtain ⟨_, _, rfl⟩ := Option.map_eq_some_iff.mp sentLater
  exact ⟨first, second, different, rfl, rfl, rfl, rfl⟩

private theorem fanOut_filter_absent {room : RoomState} {seats : List Seat} {seat : Seat}
    (absent : seat ∉ seats) (frame : Seat → ServerFrame) :
    (room.fanOut seats frame).filter (fun delivery => delivery.via = .slot seat) = [] := by
  rw [List.filter_eq_nil_iff]
  intro delivery sent
  obtain ⟨other, member, _, _, rfl⟩ := mem_fanOut.mp sent
  simp only [decide_eq_true_eq, Via.slot.injEq]
  intro same
  subst same
  exact absent member

theorem fanOut_filter_slot {room : RoomState} {seats : List Seat} {seat : Seat}
    (distinct : seats.Nodup) (member : seat ∈ seats) (frame : Seat → ServerFrame) :
    (room.fanOut seats frame).filter (fun delivery => delivery.via = .slot seat) =
      ((room.liveChannel? seat).map fun channel =>
        (⟨.slot seat, channel, frame seat⟩ : Delivery)).toList := by
  induction seats with
  | nil => cases member
  | cons first rest ih =>
      obtain ⟨fresh, distinct⟩ := List.nodup_cons.mp distinct
      have unfolded : room.fanOut (first :: rest) frame =
          ((room.liveChannel? first).map fun channel =>
            (⟨.slot first, channel, frame first⟩ : Delivery)).toList ++
            room.fanOut rest frame := by
        unfold fanOut
        cases live : room.liveChannel? first <;> simp [live]
      rw [unfolded, List.filter_append]
      rcases List.mem_cons.mp member with rfl | member
      · rw [fanOut_filter_absent fresh, List.append_nil]
        cases room.liveChannel? seat <;> simp
      · have different : first ≠ seat := fun same => fresh (same ▸ member)
        rw [ih distinct member]
        cases room.liveChannel? first <;> simp [different]

theorem seatOrder_nodup : seatOrder.Nodup := by decide

@[simp] theorem deliveries_broadcastSyncState (room : RoomState) (reason : SyncReason)
    (around : Surroundings) :
    deliveries (room.broadcastSyncState reason around).2 =
      room.fanOut seatOrder fun seat =>
        room.buildSyncStateFor seat room.nextEventSeq reason (around.syncTimeMs seat) := by
  simp only [broadcastSyncState, deliveries, fanOut, List.filterMap_filterMap]
  apply List.filterMap_congr
  intro seat _
  simp only [liveChannel?, allocateEventSeq]
  cases room.playersBySeat seat with
  | none => rfl
  | some player =>
      cases live : player.connected <;> cases sender : player.outboundTx <;>
        simp only [live, sender] <;> rfl

theorem deliveries_broadcastConnectionChanged {room : RoomState} {seat : Seat}
    {player : PlayerSlot} (found : room.playersBySeat seat = some player)
    (connected : Bool) (around : Surroundings) :
    deliveries (room.broadcastConnectionChanged seat connected around).2 =
      room.fanOut around.slotOrder.seats fun _ =>
        buildPlayerConnectionChanged room.nextEventSeq room.roomId room.matchId
          player.userId seat player.status connected around.changedTimeMs := by
  simp only [broadcastConnectionChanged, found, deliveries, fanOut,
    List.filterMap_filterMap, allocateEventSeq]
  apply List.filterMap_congr
  intro target _
  simp only [liveChannel?]
  cases room.playersBySeat target with
  | none => rfl
  | some holder =>
      cases live : holder.connected <;> cases sender : holder.outboundTx <;>
        simp only [live, sender] <;> rfl

end RoomState

end GbMahjong.Room
