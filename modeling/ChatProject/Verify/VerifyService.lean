import ChatProject.Library.Coroutine
import ChatProject.Store.Redis
import ChatProject.Verify.MailClient

namespace ChatModel

structure GetVerifyRequest where
  email : String
deriving DecidableEq

structure GetVerifyResponse where
  error : Int32 := 0
  email : String := ""
  code : String := ""
deriving DecidableEq

/-- What `get_verify_code` asks for: of Redis, and of the generator of uuids. -/
inductive VerifyOp where
  | get (key : String)
  | uuid
  | setExpired (key value : String) (ttl : Nat)

namespace VerifyOp

abbrev Res : VerifyOp → Type
  | get _ => Option String
  | uuid => String
  | setExpired _ _ _ => Bool

end VerifyOp

namespace VerifyService

def getVerifyCode (email : String) : Coroutine VerifyOp VerifyOp.Res Int32 String :=
  let key := email
  .call (.get key) fun getResult : Option String =>
    match getResult with
    | some value => .ret value
    -- nothing found, or the call failed
    | none => .call .uuid fun code : String =>
      .call (.setExpired key code 600) fun stored : Bool =>
        if stored then .ret code else .throw (-1)

def verifyMail (email code : String) : Task :=
  { recipient := bytesOf email
    subject := bytesOf "verify code"
    body := bytesOf ("您的验证码为" ++ code ++ "请三分钟内完成注册") }

/-- The rest of the coroutine that `GetVerifyCode` spawns: its response, and the mails that it queues. -/
def reply (email : String) (uniqueId : Except Int32 String) : GetVerifyResponse × List Task :=
  match uniqueId with
  | .error _ => ({ error := -1, email }, [])
  | .ok code => ({ email, code }, [verifyMail email code, verifyMail "chitanda@localhost" code])

end VerifyService

/-- A call of `GetVerifyCode` that has not been answered. -/
structure VerifyCall where
  email : String
  running : Coroutine VerifyOp VerifyOp.Res Int32 String

/-- What happened at the service, with the time in seconds. -/
inductive VerifyEvent where
  | generated (email code : String)
  | stored (time : Nat) (email code : String)
  | answered (time : Nat) (response : GetVerifyResponse)

/-- The calls on their way, the mails queued so far, and what happened, the newest first. -/
structure VerifyServer where
  call : Nat → Option VerifyCall := fun _ => none
  mails : List Task := []
  history : List VerifyEvent := []

inductive VerifyAct where
  | receive (id : Nat) (request : GetVerifyRequest)
  | get (id : Nat) (outcome : Outcome)
  | uuid (id : Nat) (code : String)
  | setex (id : Nat) (outcome : Outcome)

namespace VerifyServer

def record (event : VerifyEvent) (server : VerifyServer) : VerifyServer :=
  { server with history := event :: server.history }

def setCall (id : Nat) (call : Option VerifyCall) (server : VerifyServer) : VerifyServer :=
  { server with call := Function.update server.call id call }

def finish (id : Nat) (email : String) (uniqueId : Except Int32 String) (now : Nat) (server : VerifyServer) :
    VerifyServer :=
  let (response, mails) := VerifyService.reply email uniqueId
  { (server.setCall id none).record (.answered now response) with mails := server.mails ++ mails }

/-- The coroutine goes on to its next call or to its end. -/
def resume (id : Nat) (email : String) (rest : Coroutine VerifyOp VerifyOp.Res Int32 String) (now : Nat)
    (server : VerifyServer) : VerifyServer :=
  match rest with
  | .ret code => server.finish id email (.ok code) now
  | .throw error => server.finish id email (.error error) now
  | .call op next => server.setCall id (some ⟨email, .call op next⟩)

/-- A step of one of the coroutines, with the Redis that the service shares. -/
def step (server : VerifyServer) (redis : Redis) : VerifyAct → Option (VerifyServer × Redis)
  | .receive id request =>
    match server.call id with
    | none => some (server.setCall id (some ⟨request.email, VerifyService.getVerifyCode request.email⟩), redis)
    | some _ => none
  | .get id outcome =>
    match server.call id with
    | some ⟨email, .call (.get key) next⟩ =>
      let (answer, redis) := RedisClient.get key outcome redis
      some (server.resume id email (next answer) redis.now, redis)
    | _ => none
  | .uuid id code =>
    match server.call id with
    | some ⟨email, .call .uuid next⟩ =>
      some ((server.record (.generated email code)).resume id email (next code) redis.now, redis)
    | _ => none
  | .setex id outcome =>
    match server.call id with
    | some ⟨email, .call (.setExpired key value ttl) next⟩ =>
      let (stored, after) := RedisClient.setExpired key value ttl outcome redis
      let recorded := if outcome = .error then server else server.record (.stored redis.now key value)
      some (recorded.resume id email (next stored) redis.now, after)
    | _ => none

end VerifyServer

/-! ## The service and Redis by themselves -/

structure CodeSystem where
  server : VerifyServer := {}
  redis : Redis

inductive CodeAct where
  | serve (act : VerifyAct)
  | tick (seconds : Nat)

namespace CodeSystem

def step (system : CodeSystem) : CodeAct → Option CodeSystem
  | .serve act => (system.server.step system.redis act).map fun (server, redis) => { server, redis }
  | .tick seconds => some { system with redis := system.redis.tick seconds }

end CodeSystem

end ChatModel
