import ChatProject.Status.StatusService

namespace ChatModel

/-- Where a call of `GetChatServer` is: it asks for the figures, it has chosen a server, or it has made a token that Redis
    is to store. -/
inductive StatusCall where
  | counting (request : GetChatServerRequest)
  | chosen (request : GetChatServerRequest) (index : Int32)
  | storing (request : GetChatServerRequest) (index : Int32) (token : String)

inductive StatusEvent where
  | generated (uid : Int32) (token : String)
  | answered (id : Nat) (response : Option GetChatServerResponse)
deriving DecidableEq

/-- The calls on their way, those of them whose `SET` the one connection to Redis has got, in its order, and what happened,
    the newest first. -/
structure StatusServer where
  call : Nat → Option StatusCall := fun _ => none
  commands : List Nat := []
  history : List StatusEvent := []

/-- Redis executes the first of the commands. -/
inductive StatusAct where
  | count (id : Nat) (outcome : Outcome)
  | uuid (id : Nat) (token : String)
  | setToken (outcome : Outcome)

namespace StatusServer

def setCall (id : Nat) (call : Option StatusCall) (server : StatusServer) : StatusServer :=
  { server with call := Function.update server.call id call }

/-- The coroutine that a call of `GetChatServer` spawns. -/
def receive (id : Nat) (request : GetChatServerRequest) (server : StatusServer) : StatusServer :=
  server.setCall id (some (.counting request))

def response (chatServers : List ChatServerConfig) (index : Int32) (token : String) (stored : Bool) :
    Option GetChatServerResponse :=
  if stored then
    (StatusService.serverAt chatServers index).map fun config => { host := config.host, port := config.port, token }
  else some { error := 1 }

def step (chatServers : List ChatServerConfig) (server : StatusServer) (redis : Redis) :
    StatusAct → Option (StatusServer × Redis)
  | .count id outcome =>
    match server.call id with
    | some (.counting request) =>
      let (fields, redis) := RedisClient.hgetall loginCountKey outcome redis
      some (server.setCall id (some (.chosen request (StatusService.getServerIndex chatServers (.ofList fields)))), redis)
    | _ => none
  -- the command is handed to the connection as soon as the token is made, and then the coroutine waits
  | .uuid id token =>
    match server.call id with
    | some (.chosen request index) =>
      some ({ server.setCall id (some (.storing request index token)) with
        commands := server.commands ++ [id]
        history := .generated request.uid token :: server.history }, redis)
    | _ => none
  | .setToken outcome =>
    match server.commands with
    | id :: commands =>
      match server.call id with
      | some (.storing request index token) =>
        let (stored, redis) := RedisClient.set (StatusService.tokenKey request.uid) token outcome redis
        some ({ server.setCall id none with
          commands
          history := .answered id (response chatServers index token stored) :: server.history }, redis)
      | _ => none
    | [] => none

section Calls

variable {chatServers : List ChatServerConfig} {server : StatusServer} {redis : Redis} {id : Nat} {request : GetChatServerRequest}
  {index : Int32} {token : String}

theorem step_count (outcome : Outcome) (waits : server.call id = some (.counting request)) :
    server.step chatServers redis (.count id outcome) = some (server.setCall id (some (.chosen request
      (StatusService.getServerIndex chatServers (.ofList (RedisClient.hgetall loginCountKey outcome redis).1)))), redis) := by
  simp only [step, waits, RedisClient.hgetall_redis]

theorem step_uuid (token : String) (waits : server.call id = some (.chosen request index)) :
    server.step chatServers redis (.uuid id token) = some ({ server.setCall id (some (.storing request index token)) with
      commands := server.commands ++ [id], history := .generated request.uid token :: server.history }, redis) := by
  simp only [step, waits]

theorem step_setToken (outcome : Outcome) {commands : List Nat} (first : server.commands = id :: commands)
    (waits : server.call id = some (.storing request index token)) :
    server.step chatServers redis (.setToken outcome) = some ({ server.setCall id none with
      commands
      history := .answered id (response chatServers index token
        (RedisClient.set (StatusService.tokenKey request.uid) token outcome redis).1) :: server.history },
      (RedisClient.set (StatusService.tokenKey request.uid) token outcome redis).2) := by
  simp only [step, first, waits]

end Calls

/-- A call that nobody disturbs is answered as `getChatServer` says. -/
theorem step_alone (chatServers : List ChatServerConfig) (server : StatusServer) (redis : Redis) (id : Nat)
    (request : GetChatServerRequest) (token : String) (counting setting : Outcome) (free : server.commands = []) : ∃ after,
    ((server.receive id request).step chatServers redis (.count id counting)).bind
        (fun counted => (counted.1.step chatServers counted.2 (.uuid id token)).bind
          fun made => made.1.step chatServers made.2 (.setToken setting)) =
      some (after, (StatusService.getChatServer chatServers token request counting setting redis).2) ∧
    after.history = .answered id (StatusService.getChatServer chatServers token request counting setting redis).1 ::
      .generated request.uid token :: server.history := by
  let index := StatusService.getServerIndex chatServers (.ofList (RedisClient.hgetall loginCountKey counting redis).1)
  let chosen := (server.receive id request).setCall id (some (.chosen request index))
  let storing : StatusServer := { chosen.setCall id (some (.storing request index token)) with
    commands := [id], history := .generated request.uid token :: server.history }
  have counted : (server.receive id request).step chatServers redis (.count id counting) = some (chosen, redis) :=
    step_count counting (Function.update_self _ _ _)
  have made : chosen.step chatServers redis (.uuid id token) = some (storing, redis) := by
    rw [step_uuid token (Function.update_self _ _ _)]
    have none : chosen.commands = [] := free
    rw [none]
    rfl
  rw [counted, Option.bind_some, made, Option.bind_some,
    step_setToken setting (show storing.commands = id :: [] from rfl) (Function.update_self _ _ _)]
  have answers : StatusService.getChatServer chatServers token request counting setting redis =
      (response chatServers index token (RedisClient.set (StatusService.tokenKey request.uid) token setting redis).1,
        (RedisClient.set (StatusService.tokenKey request.uid) token setting redis).2) := by
    unfold StatusService.getChatServer response
    dsimp only
    rw [RedisClient.hgetall_redis]
    split <;> rfl
  rw [answers]
  exact ⟨_, rfl, rfl⟩

end StatusServer

end ChatModel
