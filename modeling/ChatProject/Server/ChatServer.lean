import ChatProject.Library.Ordered
import ChatProject.Server.Session

namespace ChatModel

/-- A chat server: the registry, the sessions (of every address, also of those not in use yet),
    the session whose handler blocks the only thread, and the tasks posted by the gRPC threads. -/
structure ChatServer where
  name : String
  participants : OrderedSet Addr := .empty
  session : Addr → Session
  blocked : Option Addr := none
  tasks : List NotifyRequest := []
  log : List Event := []

namespace ChatServer

def fresh (name : String) : ChatServer := { name, session := fun _ => { uid := 0 } }

def modify (addr : Addr) (change : Session → Session) (server : ChatServer) : ChatServer :=
  { server with session := fun other =>
      if other = addr then change (server.session other) else server.session other }

def record (event : Event) (server : ChatServer) : ChatServer := { server with log := event :: server.log }

def join (addr : Addr) (server : ChatServer) : ChatServer :=
  { server with participants := server.participants.insert addr }

def leave (addr : Addr) (server : ChatServer) : ChatServer :=
  { server with participants := server.participants.erase addr }

/-- The size, as a `uint32_t`. -/
def participantCount (server : ChatServer) : Nat := server.participants.size % 2 ^ 32

def getParticipant (uid : Int64) (server : ChatServer) : Option Addr :=
  server.participants.first fun addr => (server.session addr).uid = uid

def deliver (addr : Addr) (msg : ChannelMessage) (server : ChatServer) : ChatServer :=
  match (server.session addr).trySend msg with
  | some session => (server.modify addr fun _ => session).record (.enqueued addr msg)
  | none => server.record (.dropped addr msg)

def setReader (addr : Addr) (reader : Reader) (server : ChatServer) : ChatServer :=
  server.modify addr fun session => { session with reader }

def setWriter (addr : Addr) (writer : Writer) (server : ChatServer) : ChatServer :=
  server.modify addr fun session => { session with writer }

def setDeadline (addr : Addr) (loginDeadline : Deadline) (server : ChatServer) : ChatServer :=
  server.modify addr fun session => { session with loginDeadline }

/-- The constructor, which leaves `uid_` as it finds it, and `start`. -/
def start (addr : Addr) (uid : Int64) (server : ChatServer) : ChatServer :=
  (server.modify addr fun _ => { uid, started := true }).join addr

def stop (addr : Addr) (server : ChatServer) : ChatServer :=
  (server.leave addr).modify addr fun session => { session.cancelDeadline with stopped := true }

def setUid (addr : Addr) (uid : Int64) (server : ChatServer) : ChatServer :=
  server.modify addr fun session => { session with uid }

def markAuthenticated (addr : Addr) (server : ChatServer) : ChatServer :=
  server.modify addr fun session => { session.cancelDeadline with isAuthenticated := true }

/-- What a handler of the session `self` asks of its own server is answered at once. -/
def execLocal (self : Addr) : (op : Op) → ChatServer → Option (op.Res × ChatServer)
  | .uid, server => some ((server.session self).uid, server)
  | .setUid uid, server => some ((), server.setUid self uid)
  | .isAuthenticated, server => some ((server.session self).isAuthenticated, server)
  | .markAuthenticated, server => some ((), server.markAuthenticated self)
  | .serverName, server => some (server.name, server)
  | .participantCount, server => some (server.participantCount, server)
  | .getParticipant uid, server => some (server.getParticipant uid, server)
  | .deliver target msg, server => some ((), server.deliver target msg)
  | .redisGet _, _ | .redisSet _ _, _ | .redisHset _ _ _, _ | .getUserInfo _, _ | .addFriendApply _ _, _
  | .authFriendApply _ _, _ | .getFriendApplies _, _ | .getFriends _, _ | .notify _, _ => none

def execRecorded (self : Addr) (op : Op) (state : ChatServer × Ledger) :
    Option (op.Res × ChatServer × Ledger) :=
  (execLocal self op state.1).map fun (answer, server) => (answer, server, ⟨op, answer⟩ :: state.2)

/-- What becomes of the reader when its handler has stopped at a call, or is through. -/
def settle (addr : Addr) (readMsg : MsgNode) :
    Awaitable ChannelMessage × ChatServer × Ledger → ChatServer
  | (.ret reply, server, ledger) =>
    ((server.record (.replied addr readMsg ledger reply)).deliver addr reply).setReader addr .readingHeader
  | (.throw _, server, _) => (server.stop addr).setReader addr .finished
  | (.call (.notify request) next, server, ledger) =>
    { server.setReader addr (.calling readMsg ledger request next) with blocked := some addr }
  | (.call op next, server, ledger) => server.setReader addr (.waiting readMsg ledger op next)

def runHandler (addr : Addr) (readMsg : MsgNode) (ledger : Ledger) (rest : Awaitable ChannelMessage)
    (server : ChatServer) : ChatServer :=
  settle addr readMsg (rest.advance (execRecorded addr) (server, ledger))

/-- `notify_session`: the task that the gRPC thread has posted. -/
def serveNotify (request : NotifyRequest) (server : ChatServer) : ChatServer :=
  let (uid, msg) := notifySession request
  match server.getParticipant uid with
  | some addr => server.deliver addr { msg }
  | none => server

/-! ## What each of these leaves alone -/

section Frame

variable (server : ChatServer) (addr other : Addr) (change : Session → Session)

@[simp] theorem modify_session_self : (server.modify addr change).session addr = change (server.session addr) :=
  if_pos rfl

@[simp] theorem modify_session_other {addr other : Addr} (different : other ≠ addr) :
    (server.modify addr change).session other = server.session other := if_neg different

@[simp] theorem modify_participants : (server.modify addr change).participants = server.participants := rfl
@[simp] theorem modify_log : (server.modify addr change).log = server.log := rfl
@[simp] theorem modify_blocked : (server.modify addr change).blocked = server.blocked := rfl
@[simp] theorem modify_tasks : (server.modify addr change).tasks = server.tasks := rfl
@[simp] theorem modify_name : (server.modify addr change).name = server.name := rfl

@[simp] theorem record_session (event : Event) : (server.record event).session = server.session := rfl
@[simp] theorem record_participants (event : Event) : (server.record event).participants = server.participants := rfl
@[simp] theorem record_log (event : Event) : (server.record event).log = event :: server.log := rfl
@[simp] theorem record_blocked (event : Event) : (server.record event).blocked = server.blocked := rfl
@[simp] theorem record_tasks (event : Event) : (server.record event).tasks = server.tasks := rfl
@[simp] theorem record_name (event : Event) : (server.record event).name = server.name := rfl

end Frame

end ChatServer

end ChatModel
