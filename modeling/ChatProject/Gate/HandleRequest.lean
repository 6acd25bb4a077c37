import ChatProject.Gate.Login
import ChatProject.Verify.VerifyService

/-! What the gate server makes of an HTTP request. -/

namespace ChatModel

inductive Verb where
  | get
  | post
  | other (name : String)
deriving DecidableEq, Repr

/-- A request as it has been read; `keepAlive` is what its version and its `Connection` field say. -/
structure HttpRequest where
  method : Verb
  target : String
  version : Nat := 11
  keepAlive : Bool := true
  contentType : Option String := none
  body : Bytes := []
deriving DecidableEq

/-- The decoded parts of a target. -/
structure UrlView where
  path : String
  params : List (String × String) := []

/-- What reads targets and bodies. The body of `/get_verify_code` is read by another JSON library than the others. -/
structure GateLib where
  json : JsonLib
  parseOriginForm : String → Option UrlView
  parseGetVerifyCodeRequest : Bytes → Option String

/-! ## What a handler asks for -/

inductive GateOp where
  | redisGet (key : String)
  | createUser (request : UserRegisterRequest)
  | resetPassword (request : UserResetPasswordRequest)
  | checkPassword (request : Gate.UserLoginRequest)
  | getVerifyCode (email : String)
  | getChatServer (request : GetChatServerRequest)
deriving DecidableEq

namespace GateOp

/-- What throws in the source answers with the exception; an RPC may end without a response. -/
abbrev Res : GateOp → Type
  | redisGet _ => Except GateException (Option String)
  | createUser _ => Except Nat (Except ServiceError UserRegisterResponse)
  | resetPassword _ => Except Nat Bool
  | checkPassword _ => Except Nat (Except ServiceError Int64)
  | getVerifyCode _ => Option GetVerifyResponse
  | getChatServer _ => Option GetChatServerResponse

end GateOp

abbrev RequestHandler := Coroutine GateOp GateOp.Res GateException HttpResponse

/-! ## The handlers -/

namespace Endpoint

def getTest (params : List (String × String)) : RequestHandler :=
  .ret {
    contentType := some "text/plain"
    body := "receive get_test req" ++ "\n" ++ String.join (params.map fun (key, value) => key ++ " = " ++ value ++ "\n") }

/-- The fields come in the order of the declaration, not of their names. -/
def jsonResponse (email code : String) : HttpResponse :=
  { contentType := some "application/json", body := (Json.obj [("email", .str email), ("code", .str code)] : Json Int).dump }

def getVerifyCode (lib : GateLib) (request : HttpRequest) : RequestHandler :=
  if request.contentType ≠ some "application/json" then
    .ret (Gate.badRequest "Invalid Content-Type: expected 'application/json'")
  else
    match lib.parseGetVerifyCodeRequest request.body with
    | none => .ret (Gate.badRequest "Invalid JSON body")
    | some email => .call (.getVerifyCode email) fun response : Option GetVerifyResponse =>
      match response with
      | none => .ret Gate.internalServerError
      | some response =>
        if response.error ≠ 0 then .ret Gate.internalServerError
        else .ret (jsonResponse email response.code)

/-- What `user_register` and `reset_password` do first: the rest needs the code that Redis has for the e-mail. -/
def checkVerifyCode (email verifyCode : String) (verified : RequestHandler) : RequestHandler :=
  .call (.redisGet email) fun result : Except GateException (Option String) =>
    match result with
    | .error exception => .throw exception
    | .ok result =>
      if result ≠ some verifyCode then .ret (Gate.nlohmannJsonResponse (Gate.responsePayloadEmpty .invalidVerifyCode)) else verified

def userRegister (lib : JsonLib) (body : Bytes) : RequestHandler :=
  match parseJson lib UserRegisterRequest.fromJson body with
  | none => .ret (Gate.badRequest "Invalid JSON body")
  | some request => checkVerifyCode request.email request.verifyCode
      (.call (.createUser request) fun userInfo : Except Nat (Except ServiceError UserRegisterResponse) =>
        match userInfo with
        | .error code => .throw (.mysql code)
        | .ok (.error _) => .ret (Gate.nlohmannJsonResponse (Gate.responsePayloadEmpty .userOrEmailExist))
        | .ok (.ok userInfo) => .ret (Gate.nlohmannJsonResponse (Gate.responsePayload (some userInfo.toJson) .success)))

def resetPassword (lib : JsonLib) (body : Bytes) : RequestHandler :=
  match parseJson lib UserResetPasswordRequest.fromJson body with
  | none => .ret (Gate.badRequest "Invalid JSON body")
  | some request => checkVerifyCode request.email request.verifyCode
      (.call (.resetPassword request) fun success : Except Nat Bool =>
        match success with
        | .error code => .throw (.mysql code)
        | .ok false => .ret (Gate.nlohmannJsonResponse (Gate.responsePayloadEmpty .userOrEmailInvalid))
        | .ok true => .ret (Gate.nlohmannJsonResponse (Gate.responsePayloadEmpty .success)))

def userLogin (lib : JsonLib) (body : Bytes) : RequestHandler :=
  match parseJson lib Gate.UserLoginRequest.fromJson body with
  | none => .ret (Gate.badRequest "Invalid JSON body")
  | some request => .call (.checkPassword request) fun result : Except Nat (Except ServiceError Int64) =>
    match result with
    | .error code => .throw (.mysql code)
    | .ok (.error err) => .ret (Gate.nlohmannJsonResponse (Gate.responsePayloadEmpty err))
    | .ok (.ok id) => .call (.getChatServer { uid := id.toInt32 }) fun response : Option GetChatServerResponse =>
      .ret (Gate.loginReply request id response)

end Endpoint

/-! ## `Dispatcher` -/

namespace Dispatcher

/-- The table, as `handlers_init` makes it. -/
def handlersInit : List (String × Verb × (GateLib → HttpRequest → UrlView → RequestHandler)) :=
  [("/get_test", .get, fun _ _ target => Endpoint.getTest target.params),
   ("/get_verify_code", .post, fun lib request _ => Endpoint.getVerifyCode lib request),
   ("/user_register", .post, fun lib request _ => Endpoint.userRegister lib.json request.body),
   ("/reset_password", .post, fun lib request _ => Endpoint.resetPassword lib.json request.body),
   ("/user_login", .post, fun lib request _ => Endpoint.userLogin lib.json request.body)]

def handleRequest (lib : GateLib) (request : HttpRequest) : RequestHandler :=
  match lib.parseOriginForm request.target with
  | none => .ret (Gate.badRequest "Invalid request target")
  | some target =>
    match handlersInit.filter fun entry => entry.1 = target.path with
    | [] => .ret (Gate.errorResponse 404 "The requested endpoint does not exist")
    | entries =>
      match entries.find? fun entry => entry.2.1 = request.method with
      | none => .ret (Gate.errorResponse 405 "Unsupported HTTP method")
      -- whatever is thrown, the client does not get to see it
      | some (_, _, handler) => (handler lib request target).catchWith fun _ => .ret Gate.internalServerError

end Dispatcher

end ChatModel
