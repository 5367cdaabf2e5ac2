import GbMahjong.Library.Separator
import GbMahjong.Room.ReconnectProperties
import GbMahjong.Room.SeatingProperties

/-! Resume tokens: which token a room accepts for a user, for which rooms and users
the tokens coincide, and what the frames of a room mate say about them. -/

set_option autoImplicit false

namespace GbMahjong.Room

open GbMahjong.Library GbMahjong.Client

/-- The token that the room with this id hands to this user. -/
def tokenOf (roomId userId : String) : String := s!"resume-{roomId}-{userId}"

/-- A resume is answered with the session's state instead of a reject. -/
def ResumeAccepted (sent : List Delivery) : Prop :=
  ∃ delivery ∈ sent, ∃ sync, delivery.frame.payload = .syncState sync ∧
    sync.reason = ProtoEnum.asI32 SyncReason.reconnect

namespace RoomState

/-! ## The token a room accepts -/

/-- Every slot holds the token of its user in this room. -/
structure TokensKept (roomId : String) (room : RoomState) : Prop where
  consistent : room.Consistent
  named : room.roomId = roomId
  token : ∀ {seat player}, room.playersBySeat seat = some player →
    player.resumeToken = tokenOf roomId player.userId

private theorem TokensKept.replace {roomId : String} {room next : RoomState}
    (kept : room.TokensKept roomId) (consistent : next.Consistent) {seat : Seat}
    {before after : PlayerSlot} (found : room.playersBySeat seat = some before)
    (slots : next.playersBySeat = Function.update room.playersBySeat seat (some after))
    (owner : before.SameOwner after) (named : next.roomId = room.roomId) :
    next.TokensKept roomId := by
  refine ⟨consistent, named.trans kept.named, ?_⟩
  intro other player occupied
  rw [slots, update_some_eq_some_iff] at occupied
  rcases occupied with ⟨rfl, rfl⟩ | ⟨_, occupied⟩
  · rw [owner.resumeToken, owner.userId]
    exact kept.token found
  · exact kept.token occupied

theorem TokensKept.settle {roomId : String} {room : RoomState}
    (kept : room.TokensKept roomId) (command : RoomCommand) :
    (room.settle command).TokensKept roomId := by
  obtain ⟨next, books, later, step⟩ := kept.consistent.exists_settled command
  rw [books]
  cases step with
  | refused => exact kept
  | joined requestId connection request seat unknown opened =>
      refine ⟨later, kept.named, ?_⟩
      intro other player occupied
      simp only [RoomState.seatPlayer, update_some_eq_some_iff] at occupied
      rcases occupied with ⟨rfl, rfl⟩ | ⟨_, occupied⟩
      · rw [← kept.named]
        rfl
      · exact kept.token occupied
  | readied requestId connectionId request seat player bound found =>
      exact kept.replace later found rfl ⟨rfl, rfl, rfl, rfl, rfl⟩ rfl
  | resumed requestId connection request seat player known found token =>
      exact kept.replace later found rfl (player.sameOwner_reboundTo connection) rfl
  | toggled requestId connectionId request seat player enabled bound found =>
      exact kept.replace later found rfl ⟨rfl, rfl, rfl, rfl, rfl⟩ rfl
  | disconnected connectionId userId seat player bound known found =>
      exact kept.replace later found rfl player.sameOwner_released rfl

theorem TokensKept.exec {roomId : String} {room : RoomState}
    (kept : room.TokensKept roomId) (inputs : List RoomInput) :
    (roomTask.exec room inputs).TokensKept roomId :=
  exec_of_settle
    (fun _ eventSeq holds =>
      ⟨holds.consistent.withEventSeq eventSeq, holds.named, holds.token⟩)
    (fun _ command holds => holds.settle command) kept inputs

theorem TokensKept.new (roomId : String) : (RoomState.new roomId).TokensKept roomId where
  consistent := .new roomId
  named := rfl
  token found := by cases found

/-- A room accepts, for a seated user, that user's token and no other. -/
theorem TokensKept.resumeAccepted_iff {roomId : String} {room : RoomState}
    (kept : room.TokensKept roomId) (requestId : String) (connection : ConnectionHandle)
    (request : ResumeSessionRequest) (around : Surroundings) :
    ResumeAccepted (deliveries
        (room.handleResume requestId connection request around).2) ↔
      (room.userToSeat request.userId).isSome ∧
        request.resumeToken = tokenOf roomId request.userId := by
  obtain ⟨next, sent, _, frames, _, handled⟩ :=
    kept.consistent.exists_handled (.resumeSession requestId connection request) around
  simp only [handleCommand] at frames
  rw [frames]
  cases handled with
  | ignored _ _ _ _ other => exact absurd rfl (other requestId connection request)
  | resumeRefused _ _ _ rejectCode message refused =>
      constructor
      · intro accepted
        obtain ⟨delivery, member, sync, payload, _⟩ := accepted
        rw [List.mem_singleton.mp member] at payload
        cases payload
      · intro known
        obtain ⟨present, token⟩ := known
        obtain ⟨seat, seated⟩ := Option.isSome_iff_exists.mp present
        obtain ⟨player, found, named⟩ := kept.consistent.slot_of_user seated
        have held := kept.token found
        rw [named, ← token] at held
        have accepted := resumeSlot?_eq_some_iff.mpr ⟨seated, found, held⟩
        rw [refused] at accepted
        cases accepted
  | resumed _ _ _ seat player next known found token =>
      constructor
      · intro _
        refine ⟨by rw [known]; rfl, ?_⟩
        rw [← token, kept.token found, kept.consistent.owner_of_seat known found]
      · intro _
        exact ⟨_, .head _, _, rfl, rfl⟩

/-! ## Tokens of different rooms and users -/

/-- Some run of the room accepts a join of this user with this token. -/
def TokenIssued (roomId userId token : String) : Prop :=
  ∃ (inputs : List RoomInput) (requestId : String) (connection : ConnectionHandle)
    (request : JoinRoomRequest) (around : Surroundings),
    request.roomId = roomId ∧ request.userId = userId ∧
      ∃ delivery ∈ deliveries ((roomTask.exec (RoomState.new roomId) inputs).handleJoin
          requestId connection request around).2,
        ∃ response, delivery.frame.payload = .joinRoom response ∧
          response.accepted = true ∧ response.resumeToken = token

/-- Some run of the room accepts this token for this user. -/
def TokenAccepted (roomId userId token : String) : Prop :=
  ∃ (inputs : List RoomInput) (requestId : String) (connection : ConnectionHandle)
    (request : ResumeSessionRequest) (around : Surroundings),
    request.roomId = roomId ∧ request.userId = userId ∧ request.resumeToken = token ∧
      ResumeAccepted (deliveries ((roomTask.exec (RoomState.new roomId)
        inputs).handleResume requestId connection request around).2)

/-- A token issued to the first user is accepted for the second only if the rooms
and the users are the same. -/
def TokenBound (roomId userId roomId' userId' : String) : Prop :=
  ∀ token, TokenIssued roomId userId token → TokenAccepted roomId' userId' token →
    roomId = roomId' ∧ userId = userId'

theorem TokensKept.issued {roomId : String} {room : RoomState}
    (kept : room.TokensKept roomId) {requestId : String} {connection : ConnectionHandle}
    {request : JoinRoomRequest} {around : Surroundings} {delivery : Delivery}
    (sent : delivery ∈ deliveries (room.handleJoin requestId connection request around).2)
    {response : JoinRoomResponse} (payload : delivery.frame.payload = .joinRoom response)
    (accepted : response.accepted = true) :
    response.resumeToken = tokenOf roomId request.userId := by
  obtain ⟨next, all, _, frames, _, handled⟩ :=
    kept.consistent.exists_handled (.join requestId connection request) around
  simp only [handleCommand] at frames
  rw [frames] at sent
  cases handled with
  | ignored _ _ _ other => exact absurd rfl (other requestId connection request)
  | joinRefused =>
      rw [List.mem_singleton.mp sent] at payload
      cases payload
      cases accepted
  | joined =>
      have silent : ∀ notice, IsNotice notice →
          notice.payload ≠ ServerPayload.joinRoom response := by
        intro notice quiet named
        have unnumbered := quiet.1
        simp [frameRequestId?, named] at unnumbered
      rcases List.mem_append.mp sent with earlier | changed
      · rcases List.mem_cons.mp earlier with rfl | synced
        · cases payload
          rw [← kept.named]
          rfl
        · exact absurd payload (silent _ (syncDeliveries_isNotice delivery synced))
      · exact absurd payload (silent _ (changedDeliveries_isNotice delivery changed))

theorem tokenIssued_iff (roomId userId token : String) :
    TokenIssued roomId userId token ↔ token = tokenOf roomId userId := by
  constructor
  · intro issued
    obtain ⟨inputs, requestId, connection, request, around, _, rfl, delivery, sent,
      response, payload, accepted, rfl⟩ := issued
    exact ((TokensKept.new roomId).exec inputs).issued sent payload accepted
  · intro same
    subst same
    exact ⟨[], "join", ⟨"conn-1", ⟨"conn-1"⟩⟩, ⟨roomId, userId, "", "", ""⟩,
      Surroundings.noop, rfl, rfl, _, .head _, _, rfl, rfl, rfl⟩

theorem tokenAccepted_iff (roomId userId token : String) :
    TokenAccepted roomId userId token ↔ token = tokenOf roomId userId := by
  constructor
  · intro accepted
    obtain ⟨inputs, requestId, connection, request, around, _, rfl, rfl, accepted⟩ :=
      accepted
    exact ((((TokensKept.new roomId).exec inputs).resumeAccepted_iff requestId connection
      request around).mp accepted).2
  · intro same
    subst same
    let join : RoomInput :=
      (.join "join" ⟨"conn-1", ⟨"conn-1"⟩⟩ ⟨roomId, userId, "", "", ""⟩, Surroundings.noop)
    have seated : (roomTask.exec (RoomState.new roomId) [join]).userToSeat userId =
        some .east := Function.update_self ..
    refine ⟨[join], "resume", ⟨"conn-2", ⟨"conn-2"⟩⟩,
      ⟨roomId, userId, tokenOf roomId userId, 0⟩, Surroundings.noop, rfl, rfl, rfl, ?_⟩
    refine (((TokensKept.new roomId).exec [join]).resumeAccepted_iff _ _ _ _).mpr ⟨?_, rfl⟩
    simp only [seated, Option.isSome_some]

theorem tokenOf_eq_iff (roomId userId roomId' userId' : String) :
    tokenOf roomId userId = tokenOf roomId' userId' ↔
      (roomId = roomId' ∧ userId = userId') ∨
        SeparatorCollision "-" roomId userId roomId' userId' := by
  have single : "-".toList = ['-'] := by decide
  rw [← joined_eq_iff single]
  have shape : ∀ room user : String,
      tokenOf room user = "resume-" ++ (room ++ "-" ++ user) := by
    intro room user
    simp only [tokenOf, toString, String.append_assoc]
  rw [shape, shape, String.append_right_inj]

/-- A token stays with its room and its user exactly when the two pairs of ids do
not collide at a "-" that one of the ids contains. -/
theorem token_bound_iff (roomId userId roomId' userId' : String) :
    TokenBound roomId userId roomId' userId' ↔
      ¬ SeparatorCollision "-" roomId userId roomId' userId' := by
  constructor
  · intro bound collides
    have same := (tokenOf_eq_iff roomId userId roomId' userId').mpr (.inr collides)
    have pair := bound _ ((tokenIssued_iff ..).mpr rfl) ((tokenAccepted_iff ..).mpr same)
    exact collides.different (by decide) pair.1
  · intro apart token issued accepted
    have same := ((tokenIssued_iff ..).mp issued).symm.trans
      ((tokenAccepted_iff ..).mp accepted)
    rcases (tokenOf_eq_iff ..).mp same with pair | collides
    · exact pair
    · exact absurd collides apart

/-- The token of b-c in room a opens the seat of c in room a-b. -/
theorem token_opens_other_room : ¬ TokenBound "a" "b-c" "a-b" "c" := by
  intro bound
  have issued : TokenIssued "a" "b-c" "resume-a-b-c" := (tokenIssued_iff ..).mpr (by decide)
  have accepted : TokenAccepted "a-b" "c" "resume-a-b-c" :=
    (tokenAccepted_iff ..).mpr (by decide)
  exact absurd (bound _ issued accepted).1 (by decide)

/-! ## What a room mate can tell -/

def frameRoomId? (frame : ServerFrame) : Option String :=
  match frame.payload with
  | .joinRoom response => some response.roomId
  | .syncState sync => some sync.roomId
  | .playerConnectionChanged changed => some changed.roomId
  | .actionRejected _ | .pong _ => none

/-- The delivery goes to the slot or to a connection of this user. -/
def reachesUser (room : RoomState) (userId : String) (delivery : Delivery) : Bool :=
  match delivery.via with
  | .requester connectionId => room.connectionToUser connectionId == some userId
  | .slot seat => (room.playersBySeat seat).any fun player => player.userId == userId

/-- The frames delivered to a user in a run. -/
def seenBy (userId : String) (room : RoomState) : List RoomInput → List ServerFrame
  | [] => []
  | input :: rest =>
      let handled := roomTask.step room input
      ((deliveries handled.2).filter (reachesUser handled.1 userId)).map (·.frame) ++
        seenBy userId handled.1 rest

/-- At some moment of the run the first user is seated and the second is connected. -/
def MeetsIn (roomId : String) (inputs : List RoomInput) (userId mate : String) : Prop :=
  ∃ seen rest, inputs = seen ++ rest ∧
    let room := roomTask.exec (RoomState.new roomId) seen
    (room.userToSeat userId).isSome ∧
      ∃ seat player, room.playersBySeat seat = some player ∧ player.userId = mate ∧
        player.connected = true

/-- After the run, the token that the room accepts for a user is the one the
function computes from what a room mate saw. -/
def GuessesToken (guess : List ServerFrame → String → String) (roomId : String)
    (inputs : List RoomInput) (userId mate : String) : Prop :=
  ∀ requestId connection (request : ResumeSessionRequest) around,
    request.userId = userId →
    (ResumeAccepted (deliveries ((roomTask.exec (RoomState.new roomId)
        inputs).handleResume requestId connection request around).2) ↔
      request.resumeToken = guess (seenBy mate (RoomState.new roomId) inputs) userId)

/-- The function does so for any two users of any room that meet in a run. -/
def GuessesTokens (guess : List ServerFrame → String → String) : Prop :=
  ∀ roomId inputs userId mate, userId ≠ mate → MeetsIn roomId inputs userId mate →
    GuessesToken guess roomId inputs userId mate

/-- What room mates see does not determine each other's tokens. -/
def TokensPrivate : Prop := ¬ ∃ guess, GuessesTokens guess

/-- The room id of the first frame that carries one, put together with the user. -/
def tokenFromView (seen : List ServerFrame) (userId : String) : String :=
  match seen.findSome? frameRoomId? with
  | none => ""
  | some roomId => tokenOf roomId userId

theorem frameRoomId?_sync {room : RoomState} {eventSeq : Nat} {reason : SyncReason}
    {around : Surroundings} {delivery : Delivery}
    (member : delivery ∈ room.syncDeliveries eventSeq reason around) :
    frameRoomId? delivery.frame = some room.roomId := by
  obtain ⟨seat, _, channel, _, rfl⟩ := mem_fanOut.mp member
  rfl

theorem frameRoomId?_changed {room : RoomState} {eventSeq : Nat} {player : PlayerSlot}
    {seat : Seat} {connected : Bool} {around : Surroundings} {delivery : Delivery}
    (member : delivery ∈ room.changedDeliveries eventSeq player seat connected around) :
    frameRoomId? delivery.frame = some room.roomId := by
  obtain ⟨target, _, channel, _, rfl⟩ := mem_fanOut.mp member
  rfl

theorem Handled.frameRoomId {room next : RoomState} {around : Surroundings}
    {command : RoomCommand} {sent : List Delivery}
    (handled : room.Handled around command next sent) {delivery : Delivery}
    (member : delivery ∈ sent) {roomId : String}
    (carried : frameRoomId? delivery.frame = some roomId) : roomId = room.roomId := by
  cases handled with
  | ignored => cases member
  | joinRefused =>
      rw [List.mem_singleton.mp member] at carried
      exact (Option.some.inj carried).symm
  | resumeRefused | actionRejected =>
      rw [List.mem_singleton.mp member] at carried
      cases carried
  | joined _ _ _ _ next _ _ books =>
      subst books
      rcases List.mem_append.mp member with earlier | changed
      · rcases List.mem_cons.mp earlier with rfl | synced
        · exact (Option.some.inj carried).symm
        · rw [frameRoomId?_sync synced] at carried
          exact (Option.some.inj carried).symm
      · rw [frameRoomId?_changed changed] at carried
        exact (Option.some.inj carried).symm
  | readied _ _ _ _ _ next _ _ books | toggled _ _ _ _ _ _ next _ _ books =>
      subst books
      rw [frameRoomId?_sync member] at carried
      exact (Option.some.inj carried).symm
  | resumed _ _ _ _ _ next _ _ _ books =>
      subst books
      rcases List.mem_cons.mp member with rfl | changed
      · exact (Option.some.inj carried).symm
      · rw [frameRoomId?_changed changed] at carried
        exact (Option.some.inj carried).symm
  | disconnected _ _ _ _ next _ _ _ books =>
      subst books
      rcases List.mem_append.mp member with synced | changed
      · rw [frameRoomId?_sync synced] at carried
        exact (Option.some.inj carried).symm
      · rw [frameRoomId?_changed changed] at carried
        exact (Option.some.inj carried).symm

theorem Consistent.seated_sees {room : RoomState} (consistent : room.Consistent)
    {userId : String} (unknown : room.userToSeat userId = none) {command : RoomCommand}
    {around : Surroundings}
    (seated : ((room.handleCommand command around).1.userToSeat userId).isSome) :
    ∃ delivery ∈ deliveries (room.handleCommand command around).2,
      reachesUser (room.handleCommand command around).1 userId delivery = true ∧
        (frameRoomId? delivery.frame).isSome := by
  obtain ⟨next, sent, state, frames, _, handled⟩ :=
    consistent.exists_handled command around
  rw [state] at seated
  rw [state, frames]
  have absent : next.userToSeat = room.userToSeat → False := by
    intro same
    rw [same, unknown] at seated
    cases seated
  cases handled with
  | ignored | joinRefused | resumeRefused | actionRejected => exact (absent rfl).elim
  | readied _ _ _ _ _ _ _ _ books | resumed _ _ _ _ _ _ _ _ _ books
  | toggled _ _ _ _ _ _ _ _ _ books | disconnected _ _ _ _ _ _ _ _ books =>
      subst books
      exact (absent rfl).elim
  | joined requestId connection request seat next fresh opened books =>
      subst books
      have same : userId = request.userId := by
        by_contra different
        change (Function.update room.userToSeat request.userId (some seat)
          userId).isSome at seated
        rw [Function.update_of_ne different, unknown] at seated
        cases seated
      refine ⟨_, .head _, ?_, rfl⟩
      simp [reachesUser, advanceSeq, RoomState.seatPlayer, same]

theorem TokensKept.seenBy_roomId {roomId : String} {room : RoomState}
    (kept : room.TokensKept roomId) (userId : String) (inputs : List RoomInput) :
    ∀ frame ∈ seenBy userId room inputs, ∀ carried,
      frameRoomId? frame = some carried → carried = roomId := by
  induction inputs generalizing room with
  | nil =>
      intro frame member
      cases member
  | cons input rest ih =>
      intro frame member carried named
      rcases List.mem_append.mp member with now | later
      · obtain ⟨delivery, filtered, rfl⟩ := List.mem_map.mp now
        rw [← kept.named]
        exact (kept.consistent.handled input.1 input.2).frameRoomId
          (List.mem_of_mem_filter filtered) named
      · exact ih (kept.exec [input]) frame later carried named

theorem Consistent.seenBy_named {room : RoomState} (consistent : room.Consistent)
    {userId : String} (unknown : room.userToSeat userId = none) (inputs : List RoomInput)
    (seated : ((roomTask.exec room inputs).userToSeat userId).isSome) :
    ∃ frame ∈ seenBy userId room inputs, (frameRoomId? frame).isSome := by
  induction inputs generalizing room with
  | nil =>
      rw [Machine.exec_nil, unknown] at seated
      cases seated
  | cons input rest ih =>
      cases known : (roomTask.step room input).1.userToSeat userId with
      | none =>
          obtain ⟨frame, member, named⟩ := ih (consistent.step input) known seated
          exact ⟨frame, List.mem_append_right _ member, named⟩
      | some seat =>
          have joined : ((room.handleCommand input.1 input.2).1.userToSeat userId).isSome := by
            change ((roomTask.step room input).1.userToSeat userId).isSome
            rw [known]
            rfl
          obtain ⟨delivery, sent, reaches, named⟩ := consistent.seated_sees unknown joined
          refine ⟨delivery.frame, List.mem_append_left _ ?_, named⟩
          exact List.mem_map_of_mem (List.mem_filter.mpr ⟨sent, reaches⟩)

/-- From the view of a seated mate the room's tokens can be written down. -/
theorem tokenFromView_seenBy {roomId : String} {inputs : List RoomInput} {mate : String}
    (seated : ((roomTask.exec (RoomState.new roomId) inputs).userToSeat mate).isSome)
    (userId : String) :
    tokenFromView (seenBy mate (RoomState.new roomId) inputs) userId =
      tokenOf roomId userId := by
  obtain ⟨frame, member, named⟩ :=
    (Consistent.new roomId).seenBy_named (by rfl) inputs seated
  unfold tokenFromView
  cases first : (seenBy mate (RoomState.new roomId) inputs).findSome? frameRoomId? with
  | none =>
      rw [List.findSome?_eq_none_iff.mp first frame member] at named
      cases named
  | some carried =>
      obtain ⟨witness, seen, holds⟩ := List.exists_of_findSome?_eq_some first
      rw [(TokensKept.new roomId).seenBy_roomId mate inputs witness seen carried holds]

theorem Consistent.exec_seated {room : RoomState} (consistent : room.Consistent)
    (inputs : List RoomInput) {userId : String}
    (seated : (room.userToSeat userId).isSome) :
    ((roomTask.exec room inputs).userToSeat userId).isSome := by
  obtain ⟨seat, known⟩ := Option.isSome_iff_exists.mp seated
  obtain ⟨player, found, named⟩ := consistent.slot_of_user known
  obtain ⟨later, occupied, owner⟩ := consistent.exec_sameOwner inputs found
  have home := (consistent.exec inputs).user_of_slot occupied
  rw [owner.userId, named] at home
  rw [home]
  rfl

theorem MeetsIn.later {roomId : String} {inputs : List RoomInput} {userId mate : String}
    (meets : MeetsIn roomId inputs userId mate) :
    ((roomTask.exec (RoomState.new roomId) inputs).userToSeat userId).isSome ∧
      ((roomTask.exec (RoomState.new roomId) inputs).userToSeat mate).isSome := by
  obtain ⟨seen, rest, rfl, seated, seat, player, found, named, _⟩ := meets
  have consistent := (Consistent.new roomId).exec seen
  have mateSeated : ((roomTask.exec (RoomState.new roomId) seen).userToSeat mate).isSome := by
    rw [← named, consistent.user_of_slot found]
    rfl
  rw [roomTask.exec_append]
  exact ⟨consistent.exec_seated rest seated, consistent.exec_seated rest mateSeated⟩

theorem guessesToken_tokenFromView {roomId : String} {inputs : List RoomInput}
    {userId mate : String}
    (seated : ((roomTask.exec (RoomState.new roomId) inputs).userToSeat userId).isSome)
    (mateSeated : ((roomTask.exec (RoomState.new roomId) inputs).userToSeat mate).isSome) :
    GuessesToken tokenFromView roomId inputs userId mate := by
  intro requestId connection request around user
  rw [tokenFromView_seenBy mateSeated,
    ((TokensKept.new roomId).exec inputs).resumeAccepted_iff, user]
  exact and_iff_right seated

/-- One function reads every room's tokens off what a room mate sees: for any seated
user it gives the token that the room accepts, and no other is accepted. -/
theorem room_mate_reads_token {roomId : String} {inputs : List RoomInput}
    {userId mate : String} (meets : MeetsIn roomId inputs userId mate) :
    GuessesToken tokenFromView roomId inputs userId mate := by
  obtain ⟨seated, mateSeated⟩ := meets.later
  exact guessesToken_tokenFromView seated mateSeated

def twoJoin : List RoomInput := [
  (.join "join" ⟨"conn-1", ⟨"conn-1"⟩⟩ ⟨"room", "alice", "", "", ""⟩, Surroundings.noop),
  (.join "join" ⟨"conn-2", ⟨"conn-2"⟩⟩ ⟨"room", "bob", "", "", ""⟩, Surroundings.noop)]

theorem bob_reads_token_of_alice :
    GuessesToken tokenFromView "room" twoJoin "alice" "bob" := by
  have meets : MeetsIn "room" twoJoin "alice" "bob" := by
    refine ⟨twoJoin, [], rfl, by decide, .south, _, rfl, ?_, ?_⟩
    · rfl
    · rfl
  exact room_mate_reads_token meets

theorem tokens_not_private : ¬ TokensPrivate := by
  intro hidden
  apply hidden
  refine ⟨tokenFromView, ?_⟩
  intro roomId inputs userId mate _ meets
  obtain ⟨seated, mateSeated⟩ := meets.later
  exact guessesToken_tokenFromView seated mateSeated

end RoomState

end GbMahjong.Room
