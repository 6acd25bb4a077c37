import ChatProject.Library.Coroutine
import ChatProject.Library.Transition
import ChatProject.Library.Ordered
import ChatProject.Library.Passage
import ChatProject.Library.Table
import ChatProject.Library.Json
import ChatProject.Library.JsonText
import ChatProject.Library.Endian
import ChatProject.Message.Ids
import ChatProject.Message.Node
import ChatProject.Message.RoundTrip
import ChatProject.Message.Stream
import ChatProject.Message.Buffer
import ChatProject.Store.Redis
import ChatProject.Store.Tables
import ChatProject.Chat.Requests
import ChatProject.Chat.Handlers
import ChatProject.Store.Keys
import ChatProject.Library.Queue
import ChatProject.Server.Session
import ChatProject.Server.ChatServer
import ChatProject.Server.Step
import ChatProject.Server.Invariants
import ChatProject.Server.Handling
import ChatProject.Server.Identity
import ChatProject.Server.Registry
import ChatProject.Chat.Footprint
import ChatProject.Chat.Forwarding
import ChatProject.Chat.Replies
import ChatProject.Chat.Conduct
import ChatProject.Chat.Notification
import ChatProject.Chat.Dispatch
import ChatProject.Server.Harmless
import ChatProject.Chat.Sizes
import ChatProject.Server.Lookup
import ChatProject.Server.Rejection
import ChatProject.Server.Deadline
import ChatProject.Server.Outgoing
import ChatProject.Server.Stopped
import ChatProject.Server.Turns
import ChatProject.Cluster.Step
import ChatProject.Cluster.Run
import ChatProject.Cluster.History
import ChatProject.Cluster.Friends
import ChatProject.Cluster.Calls
import ChatProject.Cluster.Deliveries
import ChatProject.Cluster.Impersonation
import ChatProject.Cluster.Consistency
import ChatProject.Cluster.Agreement
import ChatProject.Cluster.Carried
import ChatProject.Cluster.Deadlock
import ChatProject.Cluster.Login
import ChatProject.Library.Stream
import ChatProject.Cluster.Refusal
import ChatProject.Cluster.Repetition
import ChatProject.Server.Closing
import ChatProject.Chat.Counting
import ChatProject.Server.Load
import ChatProject.Cluster.Solo
import ChatProject.Cluster.Figure
import ChatProject.Cluster.Relay
import ChatProject.Chat.Routing
import ChatProject.Cluster.Fleet
import ChatProject.Library.OrderedMap
import ChatProject.Status.StatusService
import ChatProject.Status.TokenChecks
import ChatProject.Status.Selection
import ChatProject.Status.StatusServer
import ChatProject.Library.Shell
import ChatProject.Verify.MailClient
import ChatProject.Verify.Quoting
import ChatProject.Verify.MailQueue
import ChatProject.Verify.VerifyService
import ChatProject.Verify.Served
import ChatProject.Verify.OneCode
import ChatProject.Gate.Dispatcher
import ChatProject.Gate.UserRepo
import ChatProject.Gate.Passwords
import ChatProject.Gate.Registration
import ChatProject.Library.Latest
import ChatProject.Gate.Login
import ChatProject.Gate.CurrentPassword
import ChatProject.Chat.WholeBody
import ChatProject.Chat.FaceValue
import ChatProject.Cluster.Columns
import ChatProject.Library.Numeral
import ChatProject.Client.ParseLine
import ChatProject.Client.ChatClient
import ChatProject.Cluster.Destination
import ChatProject.Cluster.World
import ChatProject.Cluster.Records
import ChatProject.Cluster.OwnCodes
import ChatProject.Cluster.Tokens
import ChatProject.Cluster.Accounts
import ChatProject.Cluster.CachedUsers
import ChatProject.Server.Intake
import ChatProject.Cluster.Chats
import ChatProject.Cluster.Order
import ChatProject.Cluster.Owners
import ChatProject.Cluster.Warrants
import ChatProject.Server.InTurn
import ChatProject.Gate.HandleRequest
import ChatProject.Gate.HttpServer
import ChatProject.Gate.Connections
import ChatProject.Gate.Refinement
import ChatProject.Gate.Credentials
import ChatProject.Client.Main
import ChatProject.Verify.Mailing
