import Gowaves.GoLib.Outcome
import Gowaves.GoLib.BigEndian
import Gowaves.GoLib.Reader
import Gowaves.GoLib.Slice
import Gowaves.GoLib.GoMap
import Gowaves.GoLib.Strconv
import Gowaves.GoLib.Protowire
import Gowaves.Util.Common
import Gowaves.Util.CheckedArith
import Gowaves.GoLib.Decimal
import Gowaves.Ride.Meta
import Gowaves.Ride.Ast
import Gowaves.Ride.Complexity
import Gowaves.Ride.Values
import Gowaves.Ride.Scope
import Gowaves.Ride.TreeEvaluator
import Gowaves.Ride.Natives
import Gowaves.Ride.Catalogue
import Gowaves.Ride.Lexical
import Gowaves.Ride.ComplexityLimit
import Gowaves.Ride.EstimatorV4
import Gowaves.Ride.EstimatorSoundness
import Gowaves.Ride.MetaProto
import Gowaves.Ride.Serializer
import Gowaves.Ride.Parser
import Gowaves.Ride.ScriptCodec
import Gowaves.Ride.ScriptRoundTrip
import Gowaves.Ride.ParseSafety
import Gowaves.Proto.Header
import Gowaves.Proto.Messages
import Gowaves.Proto.MessageCodec
import Gowaves.Proto.Binary
import Gowaves.Proto.Transfer
import Gowaves.Proto.TransactionDecoding
import Gowaves.GoLib.Strings
import Gowaves.Ride.Strings
import Gowaves.GoLib.Heap
import Gowaves.Ride.Lists
import Gowaves.GoLib.ContainerHeap
import Gowaves.Miner.UtxPool
import Gowaves.Node.BlockSync
import Gowaves.State.BalanceDiff
import Gowaves.Ride.Numeric
import Gowaves.Networking.Session
import Gowaves.State.HistoryRecord
import Gowaves.KeyValue.KeyVal
import Gowaves.Lib.Merkle
import Gowaves.Crypto.MerkleTree
import Gowaves.Ride.FunctionsProto
import Gowaves.State.Rewards
import Gowaves.State.OrdersVolume
import Gowaves.Proto.MicroBlock
import Gowaves.Proto.EthAbi
import Gowaves.Lib.SignedDivision
import Gowaves.Ride.IntDivision
import Gowaves.Lib.TwosComplement
import Gowaves.Util.BigIntCodec
import Gowaves.Ride.BigIntBytes
import Gowaves.Lib.VersionLog
import Gowaves.State.StateDB
import Gowaves.State.HistoryStorage
import Gowaves.State.StateManager
import Gowaves.State.HistoryInvariant
import Gowaves.State.HistoryRefinement
