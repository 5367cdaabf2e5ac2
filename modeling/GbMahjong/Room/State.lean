import GbMahjong.Client.Protocol
import GbMahjong.Engine.Protocol

/-! The state of one room task, the commands it takes from its channel and the
effects a command has outside it. The three `HashMap`s are partial functions;
`rule_engine` is not part of the state but of the surroundings of a command. -/

set_option autoImplicit false

namespace GbMahjong.Room

open GbMahjong.Library GbMahjong.Client

def roomCommandBuffer : Nat := 256

def reconnectGraceMs : Nat := 30000

def initialScore : Int := 25000

def seatOrder : List Seat := [.east, .south, .west, .north]

/-- The sending end of a connection's outbound channel. Clones of one sender
are one channel, so only its identity matters. -/
structure ConnectionSender where
  channel : String
  deriving DecidableEq, Repr

structure ConnectionHandle where
  connectionId : String
  outboundTx : ConnectionSender
  deriving DecidableEq, Repr

structure PlayerSlot where
  userId : String
  displayName : String
  seat : Seat
  status : PlayerStatus
  score : Int
  connected : Bool
  autoPlayEnabled : Bool
  connectionId : Option String
  outboundTx : Option ConnectionSender
  resumeToken : String
  deriving DecidableEq, Repr

structure RoomState where
  roomId : String
  matchId : String
  roomConfig : RoomConfig
  phase : GamePhase
  prevailingWind : Seat
  dealerSeat : Seat
  currentTurnSeat : Seat
  handNumber : Nat
  dealerStreak : Nat
  wallTilesRemaining : Nat
  deadWallTilesRemaining : Nat
  nextEventSeq : Nat
  playersBySeat : Seat → Option PlayerSlot
  userToSeat : String → Option Seat
  connectionToUser : String → Option String

inductive RoomCommand where
  | join (requestId : String) (connection : ConnectionHandle) (request : JoinRoomRequest)
  | ready (requestId : String) (connectionId : String) (request : ReadyRequest)
  | resumeSession (requestId : String) (connection : ConnectionHandle)
      (request : ResumeSessionRequest)
  | playerAction (requestId : String) (connectionId : String)
      (request : PlayerActionRequest)
  | disconnect (connectionId : String)
  deriving DecidableEq, Repr

/-- The connection a command comes from. -/
def RoomCommand.connectionId : RoomCommand → String
  | .join _ connection _ => connection.connectionId
  | .ready _ connectionId _ => connectionId
  | .resumeSession _ connection _ => connection.connectionId
  | .playerAction _ connectionId _ => connectionId
  | .disconnect connectionId => connectionId

/-- The request id a reply to the command has to echo; a disconnect expects none. -/
def RoomCommand.requestId : RoomCommand → Option String
  | .join requestId _ _ => some requestId
  | .ready requestId _ _ => some requestId
  | .resumeSession requestId _ _ => some requestId
  | .playerAction requestId _ _ => some requestId
  | .disconnect _ => none

/-- The two commands by which a connection can register in a room. -/
def RoomCommand.Registers : RoomCommand → Prop
  | .join _ _ _ | .resumeSession _ _ _ => True
  | .ready _ _ _ | .playerAction _ _ _ | .disconnect _ => False

/-- The handle a command brings, if any, sends to the channel of its connection. -/
def RoomCommand.UsesChannel (channelOf : String → ConnectionSender) :
    RoomCommand → Prop
  | .join _ connection _ => connection.outboundTx = channelOf connection.connectionId
  | .resumeSession _ connection _ =>
      connection.outboundTx = channelOf connection.connectionId
  | .ready _ _ _ | .playerAction _ _ _ | .disconnect _ => True

/-- The order in which `HashMap::values` visits the slots. The library leaves
it open, so it may differ from one command to the next. -/
structure SlotOrder where
  seats : List Seat
  complete : ∀ seat, seat ∈ seats
  nodup : seats.Nodup

/-- What the room task reads from outside while it processes one command: the
clock readings (`unix_time_ms`) for the frames it builds, the rule engine's
answer, and the iteration order of the slot map. -/
structure Surroundings where
  syncTimeMs : Seat → Nat
  changedTimeMs : Nat
  validateAction : Engine.ValidateActionRequest →
    Except String Engine.ValidateActionResponse
  slotOrder : SlotOrder

/-- `NoopRuleEngine::validate_action`, the engine of a default `RoomManager`. -/
def noopValidateAction (_ : Engine.ValidateActionRequest) :
    Except String Engine.ValidateActionResponse :=
  .ok {
    isLegal := true
    rejectCode := ProtoEnum.asI32 Engine.ValidationRejectCode.unspecified
    derivedActionType := ProtoEnum.asI32 Engine.ActionKind.unspecified
    meldResult := none
    winningContext := none
    suggestedFollowUps := []
    explanation := "noop rule engine accepted action" }

/-- Surroundings with the default engine, a stopped clock and the slots in seat
order. -/
def Surroundings.noop : Surroundings where
  syncTimeMs := fun _ => 0
  changedTimeMs := 0
  validateAction := noopValidateAction
  slotOrder := ⟨ProtoEnum.values, ProtoEnum.complete, by decide⟩

/-- How a frame reaches its channel: through the handle the command brought, or
through the `outbound_tx` stored in a slot. -/
inductive Via where
  | requester (connectionId : String)
  | slot (seat : Seat)
  deriving DecidableEq, Repr

structure Delivery where
  via : Via
  channel : ConnectionSender
  frame : ServerFrame
  deriving DecidableEq, Repr

/-- What a command does outside the room state. -/
inductive Effect where
  | send (delivery : Delivery)
  | validateAction (request : Engine.ValidateActionRequest)
  deriving DecidableEq, Repr

def Effect.delivery? : Effect → Option Delivery
  | .send delivery => some delivery
  | .validateAction _ => none

/-- The frames put on channels, in order. -/
def deliveries (effects : List Effect) : List Delivery :=
  effects.filterMap Effect.delivery?

@[simp] theorem deliveries_nil : deliveries [] = [] := rfl

@[simp] theorem deliveries_send (delivery : Delivery) (effects : List Effect) :
    deliveries (.send delivery :: effects) = delivery :: deliveries effects := rfl

@[simp] theorem deliveries_validateAction (request : Engine.ValidateActionRequest)
    (effects : List Effect) :
    deliveries (.validateAction request :: effects) = deliveries effects := rfl

@[simp] theorem deliveries_append (first second : List Effect) :
    deliveries (first ++ second) = deliveries first ++ deliveries second :=
  List.filterMap_append

@[simp] theorem deliveries_map_send (sent : List Delivery) :
    deliveries (sent.map .send) = sent := by
  induction sent with
  | nil => rfl
  | cons delivery rest ih => simp [ih]

theorem mem_deliveries {delivery : Delivery} {effects : List Effect} :
    delivery ∈ deliveries effects ↔ .send delivery ∈ effects := by
  simp only [deliveries, List.mem_filterMap]
  constructor
  · intro delivered
    obtain ⟨effect, member, sent⟩ := delivered
    cases effect with
    | send other =>
        cases sent
        exact member
    | validateAction request => cases sent
  · intro member
    exact ⟨_, member, rfl⟩

def ConnectionHandle.sendFrame (connection : ConnectionHandle) (frame : ServerFrame) :
    Effect :=
  .send ⟨.requester connection.connectionId, connection.outboundTx, frame⟩

namespace RoomState

def new (roomId : String) : RoomState where
  roomId := roomId
  matchId := s!"match-{roomId}"
  roomConfig := {
    rulesetId := "gb_mahjong_cn_v1"
    seatCount := 4
    enableFlowerTiles := true
    enableRobbingKong := true
    enableKongDraw := true
    reconnectGraceSeconds := reconnectGraceMs / 1000
    actionTimeoutMs := 15000 }
  phase := .lobby
  prevailingWind := .east
  dealerSeat := .east
  currentTurnSeat := .east
  handNumber := 1
  dealerStreak := 0
  wallTilesRemaining := 144
  deadWallTilesRemaining := 14
  nextEventSeq := 1
  playersBySeat := fun _ => none
  userToSeat := fun _ => none
  connectionToUser := fun _ => none

/-- Returns the number and the state that has used it up. -/
def allocateEventSeq (room : RoomState) : Nat × RoomState :=
  (room.nextEventSeq, { room with nextEventSeq := room.nextEventSeq + 1 })

def currentEventSeq (room : RoomState) : Nat := room.nextEventSeq - 1

def roundId (room : RoomState) : String := s!"hand-{room.handNumber}"

def nextOpenSeat (room : RoomState) : Option Seat :=
  seatOrder.find? fun seat => (room.playersBySeat seat).isNone

def seatForConnection (room : RoomState) (connectionId : String) : Option Seat :=
  match room.connectionToUser connectionId with
  | none => none
  | some userId => room.userToSeat userId

/-- `players_by_seat.len()`. -/
def playerCount (room : RoomState) : Nat :=
  ((ProtoEnum.values : List Seat).filter fun seat => (room.playersBySeat seat).isSome).length

end RoomState

end GbMahjong.Room
