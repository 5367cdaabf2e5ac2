import GbMahjong.Library.Machine
import GbMahjong.Library.Numbering
import GbMahjong.Library.PartialMap
import GbMahjong.Library.ProtoEnum
import GbMahjong.Library.Checked
import GbMahjong.Library.Payoff
import GbMahjong.Library.Interleaving
import GbMahjong.Library.Separator
import GbMahjong.Library.Bitmap
import GbMahjong.Library.Packing
import GbMahjong.Library.Search
import GbMahjong.Library.Relaxation
import GbMahjong.Library.UnionFind
import GbMahjong.Library.Pattern
import GbMahjong.Client.Protocol
import GbMahjong.Engine.Protocol
import GbMahjong.Room.State
import GbMahjong.Room.Frames
import GbMahjong.Room.EngineRequest
import GbMahjong.Room.Commands
import GbMahjong.Room.CommandProperties
import GbMahjong.Room.Consistency
import GbMahjong.Room.Broadcast
import GbMahjong.Room.Handled
import GbMahjong.Room.SeatingProperties
import GbMahjong.Room.ConnectionProperties
import GbMahjong.Room.ReconnectProperties
import GbMahjong.Room.ReplyProperties
import GbMahjong.Room.ViewProperties
import GbMahjong.Room.SequenceProperties
import GbMahjong.Room.HolderProperties
import GbMahjong.Room.PhaseProperties
import GbMahjong.Room.ConfinementProperties
import GbMahjong.Room.CommutationProperties
import GbMahjong.Room.TokenProperties
import GbMahjong.Room.TranslationProperties
import GbMahjong.Room.ActionProperties
import GbMahjong.Gateway.Server
import GbMahjong.Gateway.Steps
import GbMahjong.Gateway.Sockets
import GbMahjong.Gateway.NumberProperties
import GbMahjong.Gateway.DisconnectProperties
import GbMahjong.Gateway.SessionProperties
import GbMahjong.Gateway.RoomManager
import GbMahjong.Mahjong.Tile
import GbMahjong.Mahjong.Handtiles
import GbMahjong.Mahjong.Fan
import GbMahjong.Mahjong.Admission
import GbMahjong.Mahjong.Representation
import GbMahjong.Mahjong.TileKinds
import GbMahjong.Mahjong.Search
import GbMahjong.Mahjong.Reading
import GbMahjong.Mahjong.Pruning
import GbMahjong.Mahjong.Shapes
import GbMahjong.Mahjong.SevenPairs
import GbMahjong.Mahjong.Judge
import GbMahjong.Mahjong.JudgeProperties
import GbMahjong.Mahjong.TingProperties
import GbMahjong.Mahjong.Play
import GbMahjong.Mahjong.FanKind
import GbMahjong.Mahjong.FanTable
import GbMahjong.Mahjong.FanRules
import GbMahjong.Mahjong.Combinations
import GbMahjong.Mahjong.CombinationProperties
import GbMahjong.Mahjong.CountFan
import GbMahjong.Mahjong.TotalProperties
import GbMahjong.Mahjong.BestProperties
import GbMahjong.Mahjong.BoundProperties
import GbMahjong.Mahjong.FlowerProperties
import GbMahjong.Mahjong.Notation
import GbMahjong.Mahjong.Grammar
import GbMahjong.Mahjong.GrammarProperties
import GbMahjong.Mahjong.ItemProperties
import GbMahjong.Mahjong.NotationProperties
import GbMahjong.Mahjong.TextProperties
import GbMahjong.Adapter.Conversion
import GbMahjong.Adapter.Scoring
import GbMahjong.Adapter.Validation
import GbMahjong.Adapter.MeldProperties
import GbMahjong.Adapter.WinningHand
import GbMahjong.Adapter.RangeProperties
import GbMahjong.Adapter.ValidationProperties
import GbMahjong.Adapter.SnapshotProperties
import GbMahjong.Adapter.SettlementProperties
import GbMahjong.Adapter.WinnerProperties
import GbMahjong.Adapter.ArithmeticProperties
import GbMahjong.Adapter.AgreementProperties
import GbMahjong.Adapter.AdmissionProperties
import GbMahjong.Adapter.RepresentationProperties
import GbMahjong.Adapter.RuleProperties
import GbMahjong.Adapter.TableProperties
import GbMahjong.Adapter.RoomRequestProperties
import GbMahjong.Adapter.KindProperties
import GbMahjong.Adapter.MeldResultProperties
import GbMahjong.Adapter.EvaluatorProperties
