import GbMahjong.Room.ReplyProperties

/-! Player actions. The five gates of the handler decide whether the rule engine
is asked, and whatever it answers, the sender of the action gets one reject; only
a toggle for the current round changes a slot. -/

set_option autoImplicit false

namespace GbMahjong.Room

open GbMahjong.Library GbMahjong.Client

def Effect.consultation? : Effect → Option Engine.ValidateActionRequest
  | .send _ => none
  | .validateAction request => some request

/-- The requests put to the rule engine, in order. -/
def consultations (effects : List Effect) : List Engine.ValidateActionRequest :=
  effects.filterMap Effect.consultation?

namespace RoomState

/-- The action names the current match and round. -/
def NamesRound (room : RoomState) (request : PlayerActionRequest) : Prop :=
  request.matchId = room.matchId ∧ request.roundId = room.roundId

/-- The action passes every gate before the rule engine, which is asked this. -/
def Consults (room : RoomState) (seat : Seat) (request : PlayerActionRequest)
    (translated : Engine.ValidateActionRequest) : Prop :=
  room.NamesRound request ∧
    (∃ action, request.action = some action ∧
      ∀ toggle, action ≠ .autoPlayToggle toggle) ∧
    room.buildValidateActionRequest seat request = .ok translated

def Toggles (room : RoomState) (request : PlayerActionRequest) (enabled : Bool) : Prop :=
  room.NamesRound request ∧ request.action = some (.autoPlayToggle ⟨enabled⟩)

/-! ## The gates -/

/-- The reject of an action, through the slot of its connection. -/
def actionReject (room : RoomState) (seat : Seat) (outboundTx : ConnectionSender)
    (requestId : String) (request : PlayerActionRequest) (rejectCode : RejectCode)
    (message : String) : Delivery :=
  ⟨.slot seat, outboundTx, buildActionRejected room.nextEventSeq requestId rejectCode
    message request.expectedEventSeq request.actionWindowId⟩

/-- What becomes of the action of a connection that sits in this slot. -/
inductive Acted (room : RoomState) (seat : Seat) (player : PlayerSlot)
    (outboundTx : ConnectionSender) (requestId : String) (request : PlayerActionRequest)
    (around : Surroundings) : RoomState × List Effect → Prop where
  | toggled (enabled : Bool) (toggles : room.Toggles request enabled) :
      Acted room seat player outboundTx requestId request around
        ((room.setPlayer seat
          { player with autoPlayEnabled := enabled }).broadcastSyncState .serverResync around)
  | refused (rejectCode : RejectCode) (message : String)
      (other : ∀ enabled, ¬ room.Toggles request enabled)
      (unasked : ∀ translated, ¬ room.Consults seat request translated) :
      Acted room seat player outboundTx requestId request around
        (room.advanceSeq 1,
          [.send (room.actionReject seat outboundTx requestId request rejectCode message)])
  | answered (translated : Engine.ValidateActionRequest) (rejectCode : RejectCode)
      (message : String) (consults : room.Consults seat request translated) :
      Acted room seat player outboundTx requestId request around
        (room.advanceSeq 1, [.validateAction translated,
          .send (room.actionReject seat outboundTx requestId request rejectCode message)])

theorem Consults.not_toggles {room : RoomState} {seat : Seat}
    {request : PlayerActionRequest} {translated : Engine.ValidateActionRequest}
    (consults : room.Consults seat request translated) (enabled : Bool) :
    ¬ room.Toggles request enabled := by
  intro toggles
  obtain ⟨_, ⟨action, requested, other⟩, _⟩ := consults
  obtain ⟨_, toggled⟩ := toggles
  rw [requested] at toggled
  exact other _ (Option.some.inj toggled)

theorem handlePlayerAction_acted {room : RoomState} {seat : Seat} {player : PlayerSlot}
    {outboundTx : ConnectionSender} {connectionId : String}
    (bound : room.seatForConnection connectionId = some seat)
    (found : room.playersBySeat seat = some player)
    (sender : player.outboundTx = some outboundTx) (requestId : String)
    (request : PlayerActionRequest) (around : Surroundings) :
    room.Acted seat player outboundTx requestId request around
      (room.handlePlayerAction requestId connectionId request around) := by
  unfold handlePlayerAction
  simp only [bound, sendRejectToConnection_bound bound found sender]
  split
  · rename_i otherMatch
    exact .refused _ _ (fun _ toggles => otherMatch toggles.1.1)
      (fun _ consults => otherMatch consults.1.1)
  · rename_i sameMatch
    split
    · rename_i otherRound
      exact .refused _ _ (fun _ toggles => otherRound toggles.1.2)
        (fun _ consults => otherRound consults.1.2)
    · rename_i sameRound
      have names : room.NamesRound request :=
        ⟨Decidable.not_not.mp sameMatch, Decidable.not_not.mp sameRound⟩
      split
      · rename_i toggle requested
        simp only [handleAutoPlayToggle, found]
        exact .toggled toggle.enabled ⟨names, requested⟩
      · rename_i absent
        refine .refused _ _ (fun _ toggles => ?_) (fun _ consults => ?_)
        · rw [toggles.2] at absent
          cases absent
        · obtain ⟨_, ⟨_, requested, _⟩, _⟩ := consults
          rw [requested] at absent
          cases absent
      · rename_i action other requested
        cases translation : room.buildValidateActionRequest seat request with
        | error error =>
            refine .refused _ _ (fun enabled toggles => ?_) (fun _ consults => ?_)
            · rw [toggles.2] at requested
              exact other _ (Option.some.inj requested).symm
            · have translated := consults.2.2
              rw [translation] at translated
              cases translated
        | ok translated =>
            have consults : room.Consults seat request translated :=
              ⟨names, ⟨action, requested, other⟩, translation⟩
            cases answer : around.validateAction translated with
            | error error =>
                simp only [answer]
                exact .answered translated _ _ consults
            | ok response =>
                simp only [answer]
                split
                · exact .answered translated _ _ consults
                · exact .answered translated _ _ consults

/-! ## What the sender and the others get -/

/-- A delivery of the room's state to a connected slot. -/
def SyncsSlot (room : RoomState) (delivery : Delivery) : Prop :=
  ∃ seat player sync, room.playersBySeat seat = some player ∧ player.connected = true ∧
    delivery.via = .slot seat ∧ player.outboundTx = some delivery.channel ∧
    delivery.frame.payload = .syncState sync

/-- What becomes of the action of the player in this slot, with this channel. -/
structure ActionAnswered (room : RoomState) (seat : Seat) (player : PlayerSlot)
    (channel : ConnectionSender) (requestId : String) (request : PlayerActionRequest)
    (outcome : RoomState × List Effect) : Prop where
  asked : ∀ translated, room.Consults seat request translated →
    consultations outcome.2 = [translated]
  unasked : (∀ translated, ¬ room.Consults seat request translated) →
    consultations outcome.2 = []
  rejected : (∀ enabled, ¬ room.Toggles request enabled) →
    ∃ delivery rejected, deliveries outcome.2 = [delivery] ∧ delivery.via = .slot seat ∧
      delivery.channel = channel ∧ delivery.frame.payload = .actionRejected rejected ∧
      rejected.requestId = requestId ∧
      rejected.expectedEventSeq = request.expectedEventSeq ∧
      rejected.actionWindowId = request.actionWindowId
  synced : ∀ enabled, room.Toggles request enabled →
    (∀ delivery ∈ deliveries outcome.2, room.SyncsSlot delivery) ∧
      ∀ target holder, room.playersBySeat target = some holder →
        holder.connected = true →
        ((deliveries outcome.2).filter fun delivery =>
          delivery.via = .slot target).length = 1
  toggled : ∀ enabled, room.Toggles request enabled →
    outcome.1 = (room.setPlayer seat { player with autoPlayEnabled := enabled }).advanceSeq 1

theorem liveChannel?_toggled {room : RoomState} {seat : Seat} {player : PlayerSlot}
    (found : room.playersBySeat seat = some player) (enabled : Bool) (target : Seat) :
    (room.setPlayer seat { player with autoPlayEnabled := enabled }).liveChannel? target =
      room.liveChannel? target := by
  unfold liveChannel? setPlayer
  by_cases same : target = seat
  · subst same
    simp [found]
  · simp [same]

theorem Consistent.liveChannel?_of_connected {room : RoomState}
    (consistent : room.Consistent) {seat : Seat} {player : PlayerSlot}
    (found : room.playersBySeat seat = some player) (connected : player.connected = true) :
    ∃ channel, room.liveChannel? seat = some channel := by
  have wired := consistent.wired found
  have present : player.outboundTx.isSome := by rw [wired.2, ← wired.1, connected]
  obtain ⟨channel, sender⟩ := Option.isSome_iff_exists.mp present
  exact ⟨channel, liveChannel?_eq_some_iff.mpr ⟨player, found, connected, sender⟩⟩

theorem consultations_broadcastSyncState (room : RoomState) (reason : SyncReason)
    (around : Surroundings) : consultations (room.broadcastSyncState reason around).2 = [] := by
  apply List.filterMap_eq_nil_iff.mpr
  intro effect member
  obtain ⟨seat, _, sent⟩ := List.mem_filterMap.mp member
  cases effect with
  | send delivery => rfl
  | validateAction request =>
      exfalso
      split at sent
      · cases sent
      · split at sent
        · cases sent
        · obtain ⟨_, _, same⟩ := Option.map_eq_some_iff.mp sent
          cases same

theorem Acted.answered_by {room : RoomState} {seat : Seat} {player : PlayerSlot}
    {channel : ConnectionSender} {requestId : String} {request : PlayerActionRequest}
    {around : Surroundings} {outcome : RoomState × List Effect}
    (consistent : room.Consistent) (found : room.playersBySeat seat = some player)
    (acted : room.Acted seat player channel requestId request around outcome) :
    room.ActionAnswered seat player channel requestId request outcome := by
  cases acted with
  | toggled enabled toggles =>
      have same : ∀ other, room.Toggles request other → other = enabled := by
        intro other otherToggles
        have action := otherToggles.2.symm.trans toggles.2
        cases action
        rfl
      constructor
      · intro translated consults
        exact absurd toggles (consults.not_toggles enabled)
      · exact fun _ => consultations_broadcastSyncState _ _ _
      · exact fun other => absurd toggles (other enabled)
      · intro other _
        rw [deliveries_broadcastSyncState]
        constructor
        · intro delivery sent
          obtain ⟨target, _, targetChannel, live, rfl⟩ := mem_fanOut.mp sent
          rw [liveChannel?_toggled found] at live
          obtain ⟨holder, occupied, connected, sender⟩ := liveChannel?_eq_some_iff.mp live
          exact ⟨target, holder, _, occupied, connected, rfl, sender, rfl⟩
        · intro target holder occupied connected
          obtain ⟨targetChannel, live⟩ :=
            consistent.liveChannel?_of_connected occupied connected
          rw [fanOut_filter_slot seatOrder_nodup (consistent.mem_seatOrder occupied),
            liveChannel?_toggled found, live]
          rfl
      · intro other otherToggles
        rw [same other otherToggles]
        rfl
  | refused rejectCode message other unasked =>
      constructor
      · exact fun translated consults => absurd consults (unasked translated)
      · exact fun _ => rfl
      · exact fun _ => ⟨_, _, rfl, rfl, rfl, rfl, rfl, rfl, rfl⟩
      · exact fun enabled toggles => absurd toggles (other enabled)
      · exact fun enabled toggles => absurd toggles (other enabled)
  | answered translated rejectCode message consults =>
      constructor
      · intro other otherConsults
        have same := consults.2.2.symm.trans otherConsults.2.2
        rw [← Except.ok.inj same]
        rfl
      · exact fun unasked => absurd consults (unasked translated)
      · exact fun _ => ⟨_, _, rfl, rfl, rfl, rfl, rfl, rfl, rfl⟩
      · exact fun enabled toggles => absurd toggles (consults.not_toggles enabled)
      · exact fun enabled toggles => absurd toggles (consults.not_toggles enabled)

/-- In every reachable room, and for every answer of the engine, the action of a
registered connection is answered through the slot that names the connection. -/
theorem action_answered (roomId : String) (inputs : List RoomInput)
    (requestId connectionId userId : String) (request : PlayerActionRequest)
    (around : Surroundings)
    (registered : (roomTask.exec (RoomState.new roomId) inputs).connectionToUser
      connectionId = some userId) :
    let room := roomTask.exec (RoomState.new roomId) inputs
    ∃ seat player channel, room.userToSeat userId = some seat ∧
      room.playersBySeat seat = some player ∧
      player.connectionId = some connectionId ∧ player.outboundTx = some channel ∧
      (∀ channelOf, (∀ input ∈ inputs, input.1.UsesChannel channelOf) →
        channel = channelOf connectionId) ∧
      room.ActionAnswered seat player channel requestId request
        (room.handleCommand (.playerAction requestId connectionId request) around) := by
  intro room
  have consistent : room.Consistent := (Consistent.new roomId).exec inputs
  obtain ⟨seat, player, found, rfl, _⟩ := consistent.bound registered
  have known := consistent.user_of_slot found
  have bound : room.seatForConnection connectionId = some seat := by
    unfold seatForConnection
    rw [show room.connectionToUser connectionId = some player.userId from registered]
    exact known
  obtain ⟨holder, channel, occupied, names, sender⟩ := consistent.bound_sender bound
  rw [found] at occupied
  cases occupied
  refine ⟨seat, player, channel, known, found, names, sender, ?_, ?_⟩
  · intro channelOf uses
    have wired : room.Wired channelOf := (Wired.new channelOf roomId).exec inputs uses
    have own := (wired.bound_channel bound found).2
    rw [sender] at own
    exact Option.some.inj own
  · exact (handlePlayerAction_acted bound found sender requestId request around).answered_by
      consistent found

/-- Alice discards a tile in the first round of her room. -/
def aliceDiscards : PlayerActionRequest where
  roomId := "room"
  matchId := "match-room"
  roundId := "hand-1"
  expectedEventSeq := 3
  actionWindowId := 0
  action := some (.discard ⟨2, false⟩)

theorem action_answered_alice :
    let room := roomTask.exec (RoomState.new "room") [aliceJoins]
    ∃ seat player channel, room.userToSeat "alice" = some seat ∧
      room.playersBySeat seat = some player ∧
      player.connectionId = some "conn-1" ∧ player.outboundTx = some channel ∧
      (∀ channelOf, (∀ input ∈ [aliceJoins], input.1.UsesChannel channelOf) →
        channel = channelOf "conn-1") ∧
      room.ActionAnswered seat player channel "discard" aliceDiscards
        (room.handleCommand (.playerAction "discard" "conn-1" aliceDiscards)
          Surroundings.noop) :=
  action_answered "room" [aliceJoins] "discard" "conn-1" "alice" aliceDiscards
    Surroundings.noop rfl

end RoomState

end GbMahjong.Room
