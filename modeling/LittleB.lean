import LittleB.Foundations.Bytes
import LittleB.Foundations.Rope
import LittleB.Foundations.Framing
import LittleB.Foundations.Wire
import LittleB.Foundations.Run
import LittleB.Foundations.Prog
import LittleB.Foundations.Pool
import LittleB.Foundations.Serial
import LittleB.Foundations.Clients
import LittleB.Foundations.Keeping
import LittleB.Foundations.Serving
import LittleB.Foundations.Machine
import LittleB.Folly
import LittleB.Messages
import LittleB.Protobuf
import LittleB.Formats
import LittleB.Redis
import LittleB.DataManager
import LittleB.Service
import LittleB.Registration
import LittleB.RegistrationRace
import LittleB.EraseRole
import LittleB.Tasks
import LittleB.TaskErrors
import LittleB.TaskUpdates
import LittleB.TaskRace
import LittleB.Handlers.LengthFieldBasedFrameDecoder
import LittleB.Handlers.LengthFieldPrepender
import LittleB.Handlers.FrameLengths
import LittleB.Handlers.FrameRoundTrip
import LittleB.Handlers.Request
import LittleB.Commands
import LittleB.Registered
import LittleB.Handlers.CommandDistributor
import LittleB.Handlers.Rejection
import LittleB.Handlers.Response
import LittleB.Handlers.RoleInjectHandler
import LittleB.Answers
import LittleB.Sessions
import LittleB.Connections
import LittleB.SessionRole
import LittleB.ReadOnly
import LittleB.Writes
import LittleB.Records
import LittleB.LoggedIn
import LittleB.SessionCache
import LittleB.PlayerIds
import LittleB.TaskPrivacy
import LittleB.RoleCalls
import LittleB.FirstVisit
import LittleB.Credentials
import LittleB.Isolation
import LittleB.LoginRace
import LittleB.Pipeline.Decoder
import LittleB.Pipeline.Encoder
import LittleB.Pipeline.Reassembly
import LittleB.Pipeline.Recovery
import LittleB.Pipeline.Inbound
import LittleB.Pipeline.Exchange
import LittleB.Threads
import LittleB.Serializable
import LittleB.Linearizable
import LittleB.Provenance
import LittleB.AccountIds
import LittleB.Authentication
import LittleB.Pipeline.Streams
import LittleB.Pipeline.Sockets
import LittleB.Doubles
import LittleB.RoundTrips
import LittleB.ResponseSizes
import LittleB.Carried
import LittleB.Capacity
import LittleB.Pipeline.Conversations
import LittleB.Game
import LittleB.Pipeline.Playing
