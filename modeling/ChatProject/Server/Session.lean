import ChatProject.Library.Queue
import ChatProject.Chat.Handlers

namespace ChatModel

/-- Where the coroutine `reader` is. `headerRead` and `bodyRead`: the read is complete and its
    completion queued; `waiting`: a store has not answered; `resuming`: it has; `calling`: the
    thread itself waits for the peer. -/
inductive Reader where
  | unstarted
  | readingHeader
  | headerRead (readMsg : MsgNode)
  | readingBody (readMsg : MsgNode)
  | bodyRead (readMsg : MsgNode)
  | waiting (readMsg : MsgNode) (ledger : Ledger) (op : Op) (next : op.Res → Awaitable ChannelMessage)
  | resuming (readMsg : MsgNode) (ledger : Ledger) (rest : Awaitable ChannelMessage)
  | calling (readMsg : MsgNode) (ledger : Ledger) (request : NotifyRequest)
      (next : Option Int32 → Awaitable ChannelMessage)
  | finished

namespace Reader

/-- Before or in one of the two reads. -/
def isReading : Reader → Bool
  | readingHeader | headerRead _ | readingBody _ => true
  | _ => false

/-- The handler that runs: its frame, what it has been told, and what is left of it. -/
def task : Reader → Option (MsgNode × Ledger × Awaitable ChannelMessage)
  | waiting readMsg ledger op next => some (readMsg, ledger, .call op next)
  | resuming readMsg ledger rest => some (readMsg, ledger, rest)
  | calling readMsg ledger request next => some (readMsg, ledger, .call (.notify request) next)
  | _ => none

end Reader

inductive Writer where
  | unstarted
  | receiving
  | received (out : ChannelMessage)
  | writing (out : ChannelMessage)
  | written (out : ChannelMessage)
  | finished

/-- The coroutine `check_login_deadline`; `expired` and `aborted` are queued completions. -/
inductive Deadline where
  | unstarted
  | armed
  | expired
  | aborted
  | finished
deriving DecidableEq, Repr

structure Session where
  incoming : Bytes := []
  started : Bool := false
  stopped : Bool := false
  uid : Int64
  isAuthenticated : Bool := false
  channel : BoundedQueue 64 ChannelMessage := {}
  reader : Reader := .unstarted
  writer : Writer := .unstarted
  loginDeadline : Deadline := .unstarted

namespace Session

def cancelDeadline (session : Session) : Session :=
  match session.loginDeadline with
  | .armed => { session with loginDeadline := .aborted }
  | _ => session

/-- `channel_.try_send`: a receiver that waits gets the message at once. -/
def trySend (msg : ChannelMessage) (session : Session) : Option Session :=
  match session.writer with
  | .receiving => some { session with writer := .received msg }
  | _ => (session.channel.trySend msg).map fun channel => { session with channel }

/-- `channel_.async_receive`. -/
def receive (session : Session) : Session :=
  match session.channel.tryReceive with
  | some (out, channel) => { session with channel, writer := .received out }
  | none => { session with writer := .receiving }

/-- What the client has sent and no complete frame of it has been taken over yet. -/
def unread (session : Session) : Bytes :=
  match session.reader with
  | .headerRead readMsg | .readingBody readMsg => readMsg.data.take prefixLen ++ session.incoming
  | .bodyRead readMsg => readMsg.data.take prefixLen ++ readMsg.body ++ session.incoming
  | _ => session.incoming

end Session

/-- What can be seen of a server from outside its coroutines. -/
inductive Event where
  | handed (addr : Addr) (readMsg : MsgNode)
  | replied (addr : Addr) (readMsg : MsgNode) (ledger : Ledger) (reply : ChannelMessage)
  | enqueued (addr : Addr) (msg : ChannelMessage)
  | dropped (addr : Addr) (msg : ChannelMessage)
  | written (addr : Addr) (msg : ChannelMessage)

end ChatModel
