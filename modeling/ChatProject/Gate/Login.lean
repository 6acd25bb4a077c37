import ChatProject.Library.Coroutine
import ChatProject.Gate.Dispatcher
import ChatProject.Status.StatusService

namespace ChatModel

/-! ## What a client sends and gets, which is not what it sends to a chat server -/

namespace Gate

structure UserLoginRequest where
  user : String
  passwd : String
deriving DecidableEq, Repr

structure UserLoginResponse where
  id : Int64
  user : String
  token : String
  host : String
  port : Int32
deriving DecidableEq, Repr

def UserLoginRequest.fromJson (document : Json Number) : Option UserLoginRequest :=
  match stringField "user" document, stringField "passwd" document with
  | some user, some passwd => some { user, passwd }
  | _, _ => none

def UserLoginResponse.toJson (response : UserLoginResponse) : Json Int :=
  ((((Json.null.set "id" (int64 response.id)).set "user" (.str response.user)).set "token" (.str response.token)).set
    "host" (.str response.host)).set "port" (.num response.port.toInt)

end Gate

namespace UserTable

variable {weight : Collation}

/-- `SELECT id FROM user WHERE name = {0} AND pwd = {1}`. -/
def selectId (user passwd : String) (users : UserTable weight) : List Int32 :=
  (users.rows.filter fun row => weight row.name = weight user && weight row.pwd = weight passwd).map UserRow.id

end UserTable

namespace UserRepo

variable {weight : Collation}

def checkPassword (request : Gate.UserLoginRequest) (outcome : MysqlOutcome) (users : UserTable weight) :
    Except Nat (Except ServiceError Int64) :=
  let (result, _) := outcome.settle (.ok (users.selectId request.user request.passwd), users) users
  result.map fun
    | [] => .error .userOrPasswordInvalid
    | id :: _ => .ok id.toInt64

end UserRepo

namespace Gate

variable {weight : Collation}

/-- The call of `get_chat_server`, which may end without a response. -/
abbrev Login := Coroutine GetChatServerRequest (fun _ => Option GetChatServerResponse) GateException HttpResponse

/-- What `user_login` makes of the answer of the status server. -/
def loginReply (request : UserLoginRequest) (id : Int64) (response : Option GetChatServerResponse) : HttpResponse :=
  match response with
  | none => internalServerError
  | some response =>
    if response.error ≠ 0 then nlohmannJsonResponse (responsePayloadEmpty .rpcReturnError)
    else nlohmannJsonResponse (responsePayload (some (UserLoginResponse.toJson
      { id, user := request.user, token := response.token, host := response.host, port := response.port })) .success)

def userLogin (lib : JsonLib) (body : Bytes) (checking : MysqlOutcome) (users : UserTable weight) : Login :=
  match parseJson lib UserLoginRequest.fromJson body with
  | none => .ret (badRequest "Invalid JSON body")
  | some request =>
    match UserRepo.checkPassword request checking users with
    | .error code => .throw (.mysql code)
    | .ok (.error err) => .ret (nlohmannJsonResponse (responsePayloadEmpty err))
    | .ok (.ok id) =>
      -- `request.set_uid(id)`: the field is an `int32`
      .call { uid := id.toInt32 } fun response => .ret (loginReply request id response)

end Gate

/-! ## Runs -/

/-- What a client has sent and got. -/
inductive GateRecord where
  | userRegister (body : Bytes) (response : HttpResponse)
  | resetPassword (body : Bytes) (response : HttpResponse)

/-- The gate server with its table, the Redis it looks into, and what it has answered, the newest first. -/
structure GateSystem (weight : Collation) where
  redis : Redis
  users : UserTable weight := {}
  history : List GateRecord := []

/-- Redis belongs to other services. -/
inductive GateAct where
  | userRegister (body : Bytes) (getting : Outcome) (storing : MysqlOutcome)
  | resetPassword (body : Bytes) (getting : Outcome) (storing : MysqlOutcome)
  | userLogin (body : Bytes) (checking : MysqlOutcome)
  | others (redis : Redis)

namespace GateSystem

variable {weight : Collation}

def step (lib : JsonLib) (gate : GateSystem weight) : GateAct → Option (GateSystem weight)
  | .userRegister body getting storing =>
    let (response, users) := Gate.respond (Gate.userRegister lib body getting storing gate.redis gate.users)
    some { gate with users, history := .userRegister body response :: gate.history }
  | .resetPassword body getting storing =>
    let (response, users) := Gate.respond (Gate.resetPassword lib body getting storing gate.redis gate.users)
    some { gate with users, history := .resetPassword body response :: gate.history }
  -- it reads the table, and changes nothing
  | .userLogin _ _ => some gate
  | .others redis => some { gate with redis }

end GateSystem

end ChatModel
