import ChatProject.Gate.HandleRequest

/-! The connections of the gate server, and the server that keeps them. -/

namespace ChatModel

/-- What a handler has been told so far, the newest first. -/
abbrev GateLedger := List ((op : GateOp) × op.Res)

/-- A response as it is written: the handler's, with the fields that all responses have. -/
structure HttpReply where
  response : HttpResponse
  version : Nat
  keepAlive : Bool
deriving DecidableEq

def HttpReply.answering (request : HttpRequest) (response : HttpResponse) : HttpReply :=
  { response, version := request.version, keepAlive := request.keepAlive }

/-- Where the coroutine `run` of a connection is. A handler waits for a store to execute its call, and then for its turn to go
    on with the answer. -/
inductive Serving where
  | reading
  | handling (request : HttpRequest) (told : GateLedger) (op : GateOp) (next : op.Res → RequestHandler)
  | resuming (request : HttpRequest) (told : GateLedger) (rest : RequestHandler)
  | writing (request : HttpRequest) (reply : HttpReply)
  | finished

structure HttpConnection where
  uuid : String
  /-- the `io_context` of its socket -/
  context : Nat
  serving : Serving := .reading

/-- The stores execute the calls of the handlers. What a handler responds is decided as soon as it has nothing more to ask for,
    but the handler comes to it later. -/
inductive HttpEvent where
  | received (id : Nat) (request : HttpRequest)
  | executed (id : Nat) (request : HttpRequest) (op : GateOp)
  | decided (id : Nat) (request : HttpRequest) (response : HttpResponse)
  | handled (id : Nat) (request : HttpRequest) (response : HttpResponse)
  | written (id : Nat) (reply : HttpReply)
deriving DecidableEq

/-- `ContextPool`: the number of its threads, and whose turn it is. -/
structure ContextPool where
  size : Nat
  nextIoContext : Nat := 0

def ContextPool.getIoContext (pool : ContextPool) : Nat × ContextPool :=
  (pool.nextIoContext, { pool with nextIoContext := (pool.nextIoContext + 1) % pool.size })

/-- The server after `init`, with the stores that it shares with others. The connections are numbered as they come. -/
structure HttpServer (weight : Collation) where
  running : Bool := true
  redis : Redis
  users : UserTable weight := {}
  pool : ContextPool := { size := 4 }
  accepted : Nat := 0
  connection : Nat → Option HttpConnection := fun _ => none
  sessions : String → Option Nat := fun _ => none
  history : List HttpEvent := []

/-- How the verification service and the status server answer: the thread waits for them. -/
structure GateRpc where
  getVerifyCode : String → Option GetVerifyResponse
  getChatServer : GetChatServerRequest → Option GetChatServerResponse

/-- A read that yields no request has failed, or the client is through. What the 30 seconds for a handler cut off ends
    like a call that fails. -/
inductive HttpAct where
  | accept (uuid : String)
  | read (id : Nat) (request : Option HttpRequest) (rpc : GateRpc)
  | exec (id : Nat) (getting : Outcome) (storing : MysqlOutcome)
  | resume (id : Nat) (rpc : GateRpc)
  | write (id : Nat) (done : Bool)
  | stop
  | others (redis : Redis)

namespace HttpServer

variable {weight : Collation}

def record (event : HttpEvent) (server : HttpServer weight) : HttpServer weight :=
  { server with history := event :: server.history }

def setServing (id : Nat) (serving : Serving) (server : HttpServer weight) : HttpServer weight :=
  let changed := (server.connection id).map fun connection => { connection with serving }
  { server with connection := Function.update server.connection id changed }

def addSession (uuid : String) (id : Nat) (server : HttpServer weight) : HttpServer weight :=
  { server with sessions := Function.update server.sessions uuid (some id) }

def clearSession (uuid : String) (server : HttpServer weight) : HttpServer weight :=
  { server with sessions := Function.update server.sessions uuid none }

/-- A turn of the loop in `run`. -/
def accept (uuid : String) (server : HttpServer weight) : HttpServer weight :=
  let (context, pool) := server.pool.getIoContext
  let id := server.accepted
  let connection := Function.update server.connection id (some { uuid, context })
  { server with pool, accepted := id + 1, connection }.addSession uuid id

/-- `clean_up`, after which the coroutine returns. -/
def cleanUp (id : Nat) (uuid : String) (server : HttpServer weight) : HttpServer weight :=
  (server.clearSession uuid).setServing id .finished

/-- An RPC is answered at once. -/
def execRpc (rpc : GateRpc) : (op : GateOp) → GateLedger → Option (op.Res × GateLedger)
  | .getVerifyCode email, told => some (rpc.getVerifyCode email, ⟨.getVerifyCode email, rpc.getVerifyCode email⟩ :: told)
  | .getChatServer request, told =>
    some (rpc.getChatServer request, ⟨.getChatServer request, rpc.getChatServer request⟩ :: told)
  | .redisGet _, _ | .createUser _, _ | .resetPassword _, _ | .checkPassword _, _ => none

/-- The stores answer what an RPC does not. -/
def execStore (getting : Outcome) (storing : MysqlOutcome) (server : HttpServer weight) :
    (op : GateOp) → Option (op.Res × UserTable weight)
  | .redisGet key => some (Gate.redisGet key getting server.redis, server.users)
  | .createUser request => some (UserRepo.createUser request storing server.users)
  | .resetPassword request => some (UserRepo.resetPassword request storing server.users)
  | .checkPassword request => some (UserRepo.checkPassword request storing server.users, server.users)
  | .getVerifyCode _ | .getChatServer _ => none

/-- What becomes of the connection when its handler has stopped at a call, or is through. -/
def settle (id : Nat) (request : HttpRequest) (server : HttpServer weight) : RequestHandler × GateLedger → HttpServer weight
  | (.ret response, _) =>
    (server.record (.handled id request response)).setServing id (.writing request (.answering request response))
  -- the coroutine is gone without `clean_up`
  | (.throw _, _) => server.setServing id .finished
  | (.call op next, told) => server.setServing id (.handling request told op next)

/-- What the handler has left to do is no more than to respond. -/
def decideOn (id : Nat) (request : HttpRequest) (rest : RequestHandler) (server : HttpServer weight) : HttpServer weight :=
  match rest with
  | .ret response => server.record (.decided id request response)
  | _ => server

def resume (id : Nat) (request : HttpRequest) (told : GateLedger) (rest : RequestHandler) (rpc : GateRpc)
    (server : HttpServer weight) : HttpServer weight :=
  server.settle id request (rest.advance (execRpc rpc) told)

def step (lib : GateLib) (server : HttpServer weight) (act : HttpAct) : Option (HttpServer weight) :=
  -- `main` stops its `io_context` together with the server
  if server.running = false then none
  else
    match act with
    | .accept uuid => some (server.accept uuid)
    | .read id request rpc =>
      match server.connection id with
      | some ⟨uuid, _, .reading⟩ =>
        match request with
        | none => some (server.cleanUp id uuid)
        | some request =>
          let handler := Dispatcher.handleRequest lib request
          some (((server.record (.received id request)).decideOn id request handler).resume id request [] handler rpc)
      | _ => none
    | .exec id getting storing =>
      match server.connection id with
      | some ⟨_, _, .handling request told op next⟩ =>
        (server.execStore getting storing op).map fun (answer, users) =>
          (({ server with users }.record (.executed id request op)).decideOn id request (next answer)).setServing id
            (.resuming request (⟨op, answer⟩ :: told) (next answer))
      | _ => none
    | .resume id rpc =>
      match server.connection id with
      | some ⟨_, _, .resuming request told rest⟩ => some (server.resume id request told rest rpc)
      | _ => none
    | .write id done =>
      match server.connection id with
      | some ⟨uuid, _, .writing _ reply⟩ =>
        if done then
          let server := server.record (.written id reply)
          some (if reply.keepAlive then server.setServing id .reading else server.cleanUp id uuid)
        else some (server.cleanUp id uuid)
      | _ => none
    | .stop => some { server with running := false, sessions := fun _ => none }
    | .others redis => some { server with redis }

/-! ## What a decision, and what a turn of a handler leaves alone -/

section Frame

variable (server : HttpServer weight) (id : Nat) (request : HttpRequest) (rest : RequestHandler)

@[simp] theorem decideOn_running : (server.decideOn id request rest).running = server.running := by cases rest <;> rfl
@[simp] theorem decideOn_redis : (server.decideOn id request rest).redis = server.redis := by cases rest <;> rfl
@[simp] theorem decideOn_users : (server.decideOn id request rest).users = server.users := by cases rest <;> rfl
@[simp] theorem decideOn_pool : (server.decideOn id request rest).pool = server.pool := by cases rest <;> rfl
@[simp] theorem decideOn_accepted : (server.decideOn id request rest).accepted = server.accepted := by cases rest <;> rfl
@[simp] theorem decideOn_connection : (server.decideOn id request rest).connection = server.connection := by cases rest <;> rfl
@[simp] theorem decideOn_sessions : (server.decideOn id request rest).sessions = server.sessions := by cases rest <;> rfl

theorem resume_users (told : GateLedger) (rpc : GateRpc) : (server.resume id request told rest rpc).users = server.users := by
  unfold resume settle
  split <;> rfl

end Frame

end HttpServer

end ChatModel
