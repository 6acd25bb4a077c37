import ChatProject.Gate.Connections
import ChatProject.Gate.CurrentPassword

/-! However the handlers of the connections interleave, the accounts are those of one request after the other. -/

namespace ChatProof

open ChatModel

/-! ## Which handler a request gets -/

/-- A POST request for this path. -/
def isPost (lib : GateLib) (path : String) (request : HttpRequest) : Bool :=
  request.method = .post ∧ (lib.parseOriginForm request.target).map UrlView.path = some path

/-- What the system of the accounts has to say of a request that has been handled. -/
def recordOf (lib : GateLib) (request : HttpRequest) (response : HttpResponse) : Option GateRecord :=
  if isPost lib "/user_register" request then some (.userRegister request.body response)
  else if isPost lib "/reset_password" request then some (.resetPassword request.body response)
  else none

/-- The requests with the responses that have been decided, the last one first. -/
def recordsOf (lib : GateLib) (history : List HttpEvent) : List GateRecord :=
  history.filterMap fun
    | .decided _ request response => recordOf lib request response
    | _ => none

/-- What an operation can do to the accounts is nothing. -/
def readsOnly : GateOp → Bool
  | .createUser _ | .resetPassword _ => false
  | _ => true

/-- `catch`: the client hears of no exception. -/
def caught (handler : RequestHandler) : RequestHandler := handler.catchWith fun _ => .ret Gate.internalServerError

inductive HandledBy (lib : GateLib) (request : HttpRequest) : RequestHandler → Prop
  | userRegister : isPost lib "/user_register" request = true →
      HandledBy lib request (caught (Endpoint.userRegister lib.json request.body))
  | resetPassword : isPost lib "/user_register" request = false → isPost lib "/reset_password" request = true →
      HandledBy lib request (caught (Endpoint.resetPassword lib.json request.body))
  | other {handler : RequestHandler} : isPost lib "/user_register" request = false → isPost lib "/reset_password" request = false →
      handler.AsksOnly (fun op => readsOnly op = true) → HandledBy lib request handler

section Handlers

variable {lib : GateLib} {request : HttpRequest}

theorem getVerifyCode_readsOnly (lib : GateLib) (request : HttpRequest) :
    (Endpoint.getVerifyCode lib request).AsksOnly fun op => readsOnly op = true := by
  unfold Endpoint.getVerifyCode
  split
  · trivial
  · split
    · trivial
    · refine ⟨rfl, fun response => ?_⟩
      cases response with
      | none => trivial
      | some response =>
        dsimp only
        split <;> trivial

theorem userLogin_readsOnly (lib : JsonLib) (body : Bytes) :
    (Endpoint.userLogin lib body).AsksOnly fun op => readsOnly op = true := by
  unfold Endpoint.userLogin
  split
  · trivial
  · refine ⟨rfl, fun result => ?_⟩
    cases result with
    | error code => trivial
    | ok checked =>
      cases checked with
      | error err => trivial
      | ok id => exact ⟨rfl, fun _ => trivial⟩

theorem isPost_parsed {target : UrlView} (parsed : lib.parseOriginForm request.target = some target) (path : String) :
    isPost lib path request = (decide (request.method = .post) && decide (target.path = path)) := by
  simp [isPost, parsed]

/-- There is one handler for each path. -/
theorem dispatched {target : UrlView} (parsed : lib.parseOriginForm request.target = some target) (path : String) (verb : Verb)
    (handler : GateLib → HttpRequest → UrlView → RequestHandler)
    (entry : Dispatcher.handlersInit.filter (fun entry => entry.1 = path) = [(path, verb, handler)]) (here : target.path = path) :
    Dispatcher.handleRequest lib request = if verb = request.method then caught (handler lib request target)
      else .ret (Gate.errorResponse 405 "Unsupported HTTP method") := by
  unfold Dispatcher.handleRequest
  rw [parsed]
  simp only [here, entry, List.find?_cons, List.find?_nil]
  by_cases same : verb = request.method
  · simp only [same, decide_true, if_true]
    rfl
  · simp only [same, decide_false, if_false]

theorem handleRequest_by (lib : GateLib) (request : HttpRequest) :
    HandledBy lib request (Dispatcher.handleRequest lib request) := by
  cases parsed : lib.parseOriginForm request.target with
  | none =>
    have nowhere : ∀ path, isPost lib path request = false := by
      intro path
      simp [isPost, parsed]
    have refused : Dispatcher.handleRequest lib request = .ret (Gate.badRequest "Invalid request target") := by
      unfold Dispatcher.handleRequest
      rw [parsed]
    rw [refused]
    exact .other (nowhere _) (nowhere _) trivial
  | some target =>
    have post := isPost_parsed parsed
    have named : ∀ {path}, target.path ≠ path → isPost lib path request = false := by
      intro path different
      rw [post, decide_eq_false different, Bool.and_false]
    -- a handler that only reads, behind the right verb
    have reading : ∀ {verb : Verb} {handler : RequestHandler}, handler.AsksOnly (fun op => readsOnly op = true) →
        target.path ≠ "/user_register" → target.path ≠ "/reset_password" → HandledBy lib request
          (if verb = request.method then caught handler else .ret (Gate.errorResponse 405 "Unsupported HTTP method")) := by
      intro verb handler asks first second
      split
      · exact .other (named first) (named second) (asks.catchWith fun _ => trivial)
      · exact .other (named first) (named second) trivial
    by_cases register : target.path = "/user_register"
    · rw [dispatched parsed _ .post (fun lib request _ => Endpoint.userRegister lib.json request.body)
        (by simp [Dispatcher.handlersInit]) register]
      by_cases verb : Verb.post = request.method
      · rw [if_pos verb]
        apply HandledBy.userRegister
        rw [post, register, ← verb]
        rfl
      · have wrong : ∀ path, isPost lib path request = false := by
          intro path
          rw [post, decide_eq_false (Ne.symm verb), Bool.false_and]
        rw [if_neg verb]
        exact .other (wrong _) (wrong _) trivial
    by_cases reset : target.path = "/reset_password"
    · rw [dispatched parsed _ .post (fun lib request _ => Endpoint.resetPassword lib.json request.body)
        (by simp [Dispatcher.handlersInit]) reset]
      by_cases verb : Verb.post = request.method
      · rw [if_pos verb]
        apply HandledBy.resetPassword (named register)
        rw [post, reset, ← verb]
        rfl
      · have wrong : ∀ path, isPost lib path request = false := by
          intro path
          rw [post, decide_eq_false (Ne.symm verb), Bool.false_and]
        rw [if_neg verb]
        exact .other (wrong _) (wrong _) trivial
    by_cases test : target.path = "/get_test"
    · rw [dispatched parsed _ .get (fun _ _ target => Endpoint.getTest target.params) (by simp [Dispatcher.handlersInit]) test]
      exact reading trivial register reset
    by_cases code : target.path = "/get_verify_code"
    · rw [dispatched parsed _ .post (fun lib request _ => Endpoint.getVerifyCode lib request) (by simp [Dispatcher.handlersInit]) code]
      exact reading (getVerifyCode_readsOnly lib request) register reset
    by_cases login : target.path = "/user_login"
    · rw [dispatched parsed _ .post (fun lib request _ => Endpoint.userLogin lib.json request.body)
        (by simp [Dispatcher.handlersInit]) login]
      exact reading (userLogin_readsOnly lib.json request.body) register reset
    have missing : Dispatcher.handleRequest lib request = .ret (Gate.errorResponse 404 "The requested endpoint does not exist") := by
      unfold Dispatcher.handleRequest
      rw [parsed]
      simp [Dispatcher.handlersInit, Ne.symm register, Ne.symm reset, Ne.symm test, Ne.symm code, Ne.symm login]
    rw [missing]
    exact .other (named register) (named reset) trivial

end Handlers

/-! ## The handlers that change the accounts -/

/-- What such a handler asks for: the code, and then its change, if the code is right. -/
def CodeAsks (email verifyCode : String) (op : GateOp) (told : GateLedger) (asked : GateOp) : Prop :=
  told = [] ∧ asked = .redisGet email ∨ told = [⟨.redisGet email, .ok (some verifyCode)⟩] ∧ asked = op

inductive CodeEnds (email verifyCode : String) (op : GateOp) (reply : op.Res → HttpResponse) :
    GateLedger → Except GateException HttpResponse → Prop
  | lost (exception : GateException) :
      CodeEnds email verifyCode op reply [⟨.redisGet email, .error exception⟩] (.ok Gate.internalServerError)
  | mismatch {result : Option String} : result ≠ some verifyCode → CodeEnds email verifyCode op reply
      [⟨.redisGet email, .ok result⟩] (.ok (Gate.nlohmannJsonResponse (Gate.responsePayloadEmpty .invalidVerifyCode)))
  | stored (answer : op.Res) : CodeEnds email verifyCode op reply
      [⟨op, answer⟩, ⟨.redisGet email, .ok (some verifyCode)⟩] (.ok (reply answer))

theorem checkVerifyCode_guided {email verifyCode : String} {op : GateOp} {next : op.Res → RequestHandler} {reply : op.Res → HttpResponse}
    (replies : ∀ answer, caught (next answer) = .ret (reply answer)) :
    (caught (Endpoint.checkVerifyCode email verifyCode (.call op next))).Guided (CodeAsks email verifyCode op)
      (CodeEnds email verifyCode op reply) [] := by
  refine ⟨.inl ⟨rfl, rfl⟩, fun result => ?_⟩
  cases result with
  | error exception => exact .lost exception
  | ok result =>
    by_cases right : result = some verifyCode
    · subst right
      have goes : caught ((if some verifyCode ≠ some verifyCode then
          .ret (Gate.nlohmannJsonResponse (Gate.responsePayloadEmpty .invalidVerifyCode)) else .call op next)) =
          .call op fun answer => .ret (reply answer) := by
        rw [if_neg (not_not.mpr rfl)]
        exact congrArg (Coroutine.call op) (funext replies)
      change Coroutine.Guided _ _ (caught _) _
      rw [goes]
      exact ⟨.inr ⟨rfl, rfl⟩, fun answer => .stored answer⟩
    · have stops : caught ((if result ≠ some verifyCode then
          .ret (Gate.nlohmannJsonResponse (Gate.responsePayloadEmpty .invalidVerifyCode)) else .call op next)) =
          .ret (Gate.nlohmannJsonResponse (Gate.responsePayloadEmpty .invalidVerifyCode)) := by
        rw [if_pos right]
        rfl
      change Coroutine.Guided _ _ (caught _) _
      rw [stops]
      exact .mismatch right

/-- The same request as an action of the system of the accounts. -/
structure Account (lib : JsonLib) (weight : Collation) (email verifyCode : String) (op : GateOp) (reply : op.Res → HttpResponse)
    (act : Outcome → MysqlOutcome → GateAct) (record : HttpResponse → GateRecord) : Prop where
  changes : readsOnly op = false
  lost : ∀ (gate : GateSystem weight) getting storing exception, Gate.redisGet email getting gate.redis = .error exception →
    gate.step lib (act getting storing) = some { gate with history := record Gate.internalServerError :: gate.history }
  mismatch : ∀ (gate : GateSystem weight) getting storing result, Gate.redisGet email getting gate.redis = .ok result →
    result ≠ some verifyCode → gate.step lib (act getting storing) = some { gate with
      history := record (Gate.nlohmannJsonResponse (Gate.responsePayloadEmpty .invalidVerifyCode)) :: gate.history }
  stored : ∀ (gate : GateSystem weight) (server : HttpServer weight) getting reading storing answer users,
    Gate.redisGet email getting gate.redis = .ok (some verifyCode) → gate.users = server.users →
    server.execStore reading storing op = some (answer, users) →
    gate.step lib (act getting storing) = some { gate with users, history := record (reply answer) :: gate.history }

def registerReply : Except Nat (Except ServiceError UserRegisterResponse) → HttpResponse
  | .error _ => Gate.internalServerError
  | .ok (.error _) => Gate.nlohmannJsonResponse (Gate.responsePayloadEmpty .userOrEmailExist)
  | .ok (.ok userInfo) => Gate.nlohmannJsonResponse (Gate.responsePayload (some userInfo.toJson) .success)

def resetReply : Except Nat Bool → HttpResponse
  | .error _ => Gate.internalServerError
  | .ok false => Gate.nlohmannJsonResponse (Gate.responsePayloadEmpty .userOrEmailInvalid)
  | .ok true => Gate.nlohmannJsonResponse (Gate.responsePayloadEmpty .success)

section Accounts

variable {lib : JsonLib} {weight : Collation} {body : Bytes}

theorem userRegister_guided {request : UserRegisterRequest} (parsed : parseJson lib UserRegisterRequest.fromJson body = some request) :
    (caught (Endpoint.userRegister lib body)).Guided (CodeAsks request.email request.verifyCode (.createUser request))
      (CodeEnds request.email request.verifyCode (.createUser request) registerReply) [] := by
  rw [Endpoint.userRegister, parsed]
  apply checkVerifyCode_guided
  intro answer
  rcases answer with code | err | userInfo <;> rfl

theorem resetPassword_guided {request : UserResetPasswordRequest}
    (parsed : parseJson lib UserResetPasswordRequest.fromJson body = some request) :
    (caught (Endpoint.resetPassword lib body)).Guided (CodeAsks request.email request.verifyCode (.resetPassword request))
      (CodeEnds request.email request.verifyCode (.resetPassword request) resetReply) [] := by
  rw [Endpoint.resetPassword, parsed]
  apply checkVerifyCode_guided
  intro answer
  rcases answer with code | success
  · rfl
  · cases success <;> rfl

theorem register_account {request : UserRegisterRequest} (parsed : parseJson lib UserRegisterRequest.fromJson body = some request) :
    Account lib weight request.email request.verifyCode (.createUser request) registerReply
      (.userRegister body) (.userRegister body) where
  changes := rfl
  lost gate getting storing exception failed := by
    simp only [GateSystem.step, Gate.userRegister, parsed, failed, Gate.respond]
  mismatch gate getting storing result found wrong := by
    simp only [GateSystem.step, Gate.userRegister, parsed, found, if_pos wrong, Gate.respond]
  stored gate server getting reading storing answer users found same executed := by
    have done : UserRepo.createUser request storing server.users = (answer, users) := Option.some.inj executed
    simp only [GateSystem.step, Gate.userRegister, parsed, found, ne_eq, not_true_eq_false, if_false, same, done]
    rcases answer with code | err | userInfo <;> rfl

theorem reset_account {request : UserResetPasswordRequest}
    (parsed : parseJson lib UserResetPasswordRequest.fromJson body = some request) :
    Account lib weight request.email request.verifyCode (.resetPassword request) resetReply
      (.resetPassword body) (.resetPassword body) where
  changes := rfl
  lost gate getting storing exception failed := by
    simp only [GateSystem.step, Gate.resetPassword, parsed, failed, Gate.respond]
  mismatch gate getting storing result found wrong := by
    simp only [GateSystem.step, Gate.resetPassword, parsed, found, if_pos wrong, Gate.respond]
  stored gate server getting reading storing answer users found same executed := by
    have done : UserRepo.resetPassword request storing server.users = (answer, users) := Option.some.inj executed
    simp only [GateSystem.step, Gate.resetPassword, parsed, found, ne_eq, not_true_eq_false, if_false, same, done]
    rcases answer with code | success
    · rfl
    · cases success <;> rfl

end Accounts

/-! ## What the system of the accounts makes of one turn of a handler -/

/-- The texts of the requests, the outcomes of MySQL and the states of Redis that a run is about. -/
structure Bounds where
  asked : Bytes → Prop
  stored : MysqlOutcome → Prop
  seen : Redis → Prop
  answered : stored .answered

def Bounds.Allows (bounds : Bounds) : GateAct → Prop
  | .userRegister body _ storing | .resetPassword body _ storing => bounds.asked body ∧ bounds.stored storing
  | .userLogin _ _ => True
  | .others redis => bounds.seen redis

/-- What Redis has answered to a handler it has answered in one of its states. -/
def Genuine (bounds : Bounds) (told : GateLedger) : Prop :=
  ∀ key result, (⟨.redisGet key, result⟩ : (op : GateOp) × op.Res) ∈ told →
    ∃ getting redis, bounds.seen redis ∧ Gate.redisGet key getting redis = result

/-- What a request for a handler comes to, where the accounts are concerned. -/
inductive Course (lib : GateLib) (weight : Collation) (request : HttpRequest) : Prop
  | refused {response : HttpResponse} {record : GateRecord} (act : GateAct) :
      Dispatcher.handleRequest lib request = .ret response → recordOf lib request response = some record →
      (∀ gate : GateSystem weight, gate.step lib.json act = some { gate with history := record :: gate.history }) →
      (∀ bounds : Bounds, bounds.asked request.body → bounds.Allows act) → Course lib weight request
  | coded {email verifyCode : String} {op : GateOp} {reply : op.Res → HttpResponse} {act : Outcome → MysqlOutcome → GateAct}
      {record : HttpResponse → GateRecord} : Account lib.json weight email verifyCode op reply act record →
      (Dispatcher.handleRequest lib request).Guided (CodeAsks email verifyCode op) (CodeEnds email verifyCode op reply) [] →
      (∀ response, recordOf lib request response = some (record response)) →
      (∀ (bounds : Bounds) getting storing, bounds.asked request.body → bounds.stored storing → bounds.Allows (act getting storing)) →
      Course lib weight request
  | other : (∀ response, recordOf lib request response = none) →
      (Dispatcher.handleRequest lib request).AsksOnly (fun op => readsOnly op = true) → Course lib weight request

section Turns

variable {lib : GateLib} {weight : Collation} {request : HttpRequest}

theorem course (lib : GateLib) (weight : Collation) (request : HttpRequest) : Course lib weight request := by
  have handled := handleRequest_by lib request
  generalize same : Dispatcher.handleRequest lib request = handler at handled
  cases handled with
  | userRegister post =>
    have record : ∀ response, recordOf lib request response = some (.userRegister request.body response) := by
      intro response
      rw [recordOf, if_pos post]
    cases parsed : parseJson lib.json UserRegisterRequest.fromJson request.body with
    | none =>
      have refuses : Dispatcher.handleRequest lib request = .ret (Gate.badRequest "Invalid JSON body") := by
        rw [same, Endpoint.userRegister, parsed]
        rfl
      refine .refused (.userRegister request.body .ok .answered) refuses (record _) ?_ fun bounds asked => ⟨asked, bounds.answered⟩
      intro gate
      simp only [GateSystem.step, Gate.userRegister, parsed, Gate.respond]
    | some register =>
      refine .coded (register_account parsed) ?_ record fun bounds getting storing asked stored => ⟨asked, stored⟩
      rw [same]
      exact userRegister_guided parsed
  | resetPassword first post =>
    have record : ∀ response, recordOf lib request response = some (.resetPassword request.body response) := by
      intro response
      rw [recordOf, if_neg (by rw [first]; exact Bool.false_ne_true), if_pos post]
    cases parsed : parseJson lib.json UserResetPasswordRequest.fromJson request.body with
    | none =>
      have refuses : Dispatcher.handleRequest lib request = .ret (Gate.badRequest "Invalid JSON body") := by
        rw [same, Endpoint.resetPassword, parsed]
        rfl
      refine .refused (.resetPassword request.body .ok .answered) refuses (record _) ?_ fun bounds asked => ⟨asked, bounds.answered⟩
      intro gate
      simp only [GateSystem.step, Gate.resetPassword, parsed, Gate.respond]
    | some reset =>
      refine .coded (reset_account parsed) ?_ record fun bounds getting storing asked stored => ⟨asked, stored⟩
      rw [same]
      exact resetPassword_guided parsed
  | other first second asks =>
    refine .other ?_ (by rw [same]; exact asks)
    intro response
    rw [recordOf, if_neg (by rw [first]; exact Bool.false_ne_true), if_neg (by rw [second]; exact Bool.false_ne_true)]

/-- What a handler has just been told: nothing but its request, or the answer of a store; and what that has left in the table. -/
inductive HasHeard (lib : GateLib) (bounds : Bounds) (server : HttpServer weight) (request : HttpRequest) :
    GateLedger → UserTable weight → Prop
  | received : HasHeard lib bounds server request [] server.users
  | executed {told : GateLedger} {op : GateOp} {next : op.Res → RequestHandler} {answer : op.Res} {users : UserTable weight}
      {getting : Outcome} {storing : MysqlOutcome} : (Dispatcher.handleRequest lib request).Leads told (.call op next) →
      Genuine bounds told → bounds.stored storing → server.execStore getting storing op = some (answer, users) →
      HasHeard lib bounds server request (⟨op, answer⟩ :: told) users

theorem Genuine.executed {bounds : Bounds} {server : HttpServer weight} {told : GateLedger} {op : GateOp} {answer : op.Res}
    {users : UserTable weight} {getting : Outcome} {storing : MysqlOutcome} (genuine : Genuine bounds told)
    (seen : bounds.seen server.redis) (executed : server.execStore getting storing op = some (answer, users)) :
    Genuine bounds (⟨op, answer⟩ :: told) := by
  intro key result member
  rcases List.mem_cons.mp member with new | old
  · cases new
    cases executed
    exact ⟨_, server.redis, seen, rfl⟩
  · exact genuine key result old

theorem Genuine.rpcs {bounds : Bounds} {heard told : GateLedger} (genuine : Genuine bounds told)
    (rpcs : ∀ entry ∈ heard, isRpc entry.1 = true) : Genuine bounds (heard ++ told) := by
  intro key result member
  rcases List.mem_append.mp member with rpc | before
  · cases rpcs _ rpc
  · exact genuine key result before

theorem execStore_reads {server : HttpServer weight} {op : GateOp} {answer : op.Res} {users : UserTable weight} {getting : Outcome}
    {storing : MysqlOutcome} (reads : readsOnly op = true) (executed : server.execStore getting storing op = some (answer, users)) :
    users = server.users := by
  cases op <;> cases reads <;> cases executed <;> rfl

variable {bounds : Bounds} {server : HttpServer weight} {told : GateLedger} {users : UserTable weight}

/-- As long as the handler has something to ask for, the table is what it was. -/
theorem Course.suspends (course : Course lib weight request) (begins : HasHeard lib bounds server request told users)
    {op : GateOp} {next : op.Res → RequestHandler}
    (leads : (Dispatcher.handleRequest lib request).Leads told (.call op next)) : users = server.users := by
  cases begins with
  | received => rfl
  | @executed told asked _ answer _ getting storing before genuine stored executed =>
    cases course with
    | refused act returns _ _ _ => cases (before.of_ret returns).2
    | other _ asks => exact execStore_reads (before.asksOnly asks).1 executed
    | coded account guided _ _ =>
      rcases (before.guided guided).1 with ⟨_, same⟩ | ⟨same, _⟩
      · subst same
        exact execStore_reads rfl executed
      · -- the change has been the last that the handler has asked for
        subst same
        rcases (leads.guided guided).1 with ⟨nothing, _⟩ | ⟨one, _⟩
        · cases nothing
        · have length := congrArg List.length one
          simp at length

/-- The handler has had its answers from the stores at different times, the account system has the same ones at once: it
    sees the Redis of then. -/
theorem Account.returns {lib : JsonLib} {email verifyCode : String} {op asked : GateOp} {reply : op.Res → HttpResponse}
    {act : Outcome → MysqlOutcome → GateAct} {record : HttpResponse → GateRecord} {answer : asked.Res}
    {getting : Outcome} {storing : MysqlOutcome} {response : HttpResponse}
    (account : Account lib weight email verifyCode op reply act record) (asks : CodeAsks email verifyCode op told asked)
    (genuine : Genuine bounds told) (executed : server.execStore getting storing asked = some (answer, users))
    (ends : CodeEnds email verifyCode op reply (⟨asked, answer⟩ :: told) (.ok response)) (seen : bounds.seen server.redis)
    (allowed : ∀ getting, bounds.Allows (act getting storing))
    {gate : GateSystem weight} (same : gate.users = server.users) (redis : gate.redis = server.redis) :
    ∃ actions, (∀ act ∈ actions, bounds.Allows act) ∧
      Transition.Run (GateSystem.step lib) gate actions { gate with users, history := record response :: gate.history } := by
  rcases asks with ⟨nothing, first⟩ | ⟨one, second⟩
  · subst nothing first
    have found : Gate.redisGet email getting server.redis = answer ∧ server.users = users :=
      Prod.mk.inj (Option.some.inj executed)
    obtain ⟨found, unchanged⟩ := found
    subst unchanged
    rw [← same]
    refine ⟨[act getting storing], List.forall_mem_singleton.mpr (allowed getting), .single ?_⟩
    cases ends with
    | lost exception => exact account.lost gate getting storing exception (by rw [redis, found])
    | @mismatch result wrong => exact account.mismatch gate getting storing result (by rw [redis, found]) wrong
  · subst one second
    cases ends with
    | stored answer =>
      obtain ⟨before, earlier, known, found⟩ := genuine email _ List.mem_cons_self
      refine ⟨[.others earlier, act before storing, .others server.redis], ?_, ?_⟩
      · intro other member
        simp only [List.mem_cons, List.not_mem_nil, or_false] at member
        rcases member with first | second | third
        · rw [first]
          exact known
        · rw [second]
          exact allowed before
        · rw [third]
          exact seen
      · have stored := account.stored { gate with redis := earlier } server before getting storing answer users found same executed
        refine .cons rfl (.cons stored (.single ?_))
        simp only [GateSystem.step, ← redis]

/-- When the response is decided, the system of the accounts does the same at once. -/
theorem Course.returns (course : Course lib weight request) (begins : HasHeard lib bounds server request told users)
    (asked : bounds.asked request.body) (seen : bounds.seen server.redis)
    {response : HttpResponse} (leads : (Dispatcher.handleRequest lib request).Leads told (.ret response))
    {gate : GateSystem weight} (same : gate.users = server.users) (redis : gate.redis = server.redis) :
    ∃ actions, (∀ act ∈ actions, bounds.Allows act) ∧ Transition.Run (GateSystem.step lib.json) gate actions
      { gate with users, history := (recordOf lib request response).toList ++ gate.history } := by
  cases course with
  | refused act returns recorded does allowed =>
    obtain ⟨nothing, stopped⟩ := leads.of_ret returns
    cases stopped
    cases begins with
    | received =>
      refine ⟨[act], List.forall_mem_singleton.mpr (allowed bounds asked), .single ?_⟩
      rw [does, recorded, ← same]
      rfl
    | executed before _ _ _ => cases (before.of_ret returns).2
  | other silent asks =>
    have unchanged : users = gate.users := by
      rw [same]
      cases begins with
      | received => rfl
      | executed before _ _ executed => exact execStore_reads (before.asksOnly asks).1 executed
    subst unchanged
    rw [silent response]
    exact ⟨[], List.forall_mem_nil _, .nil gate⟩
  | @coded email verifyCode op reply act record account guided recorded allowed =>
    rw [recorded response]
    have ends : CodeEnds email verifyCode op reply told (.ok response) := leads.guided guided
    cases begins with
    | received => cases ends
    | executed before genuine stored executed =>
      exact account.returns (before.guided guided).1 genuine executed ends seen
        (fun getting => allowed bounds getting _ asked stored) same redis

/-- No handler whose requests count asks another server for anything. -/
theorem Course.noRpc (course : Course lib weight request) {op : GateOp} {next : op.Res → RequestHandler}
    (leads : (Dispatcher.handleRequest lib request).Leads told (.call op next)) :
    isRpc op = false ∨ ∀ response, recordOf lib request response = none := by
  cases course with
  | refused act returns _ _ _ => cases (leads.of_ret returns).2
  | other silent _ => exact .inr silent
  | coded account guided _ _ =>
    left
    rcases (leads.guided guided).1 with ⟨_, same⟩ | ⟨_, same⟩
    · rw [same]
      rfl
    · have changes := account.changes
      rw [← same] at changes
      cases op <;> cases changes <;> rfl

end Turns

/-! ## The simulation -/

structure Simulates {weight : Collation} (lib : GateLib) (bounds : Bounds) (server : HttpServer weight) (gate : GateSystem weight) :
    Prop where
  users : gate.users = server.users
  redis : gate.redis = server.redis
  history : gate.history = recordsOf lib server.history
  seen : bounds.seen server.redis
  asked : ∀ id connection request told rest, server.connection id = some connection →
    Serving.task connection.serving = some (request, told, rest) → bounds.asked request.body ∧ Genuine bounds told

/-- What the accounts do while the server takes a step. -/
def Accompanied {weight : Collation} (lib : GateLib) (bounds : Bounds) (after : HttpServer weight) (gate : GateSystem weight) : Prop :=
  ∃ actions gate', Transition.Run (GateSystem.step lib.json) gate actions gate' ∧ (∀ act ∈ actions, bounds.Allows act) ∧
    Simulates lib bounds after gate'

def Bounds.Meets (bounds : Bounds) : HttpAct → Prop
  | .read _ (some request) _ => bounds.asked request.body
  | .exec _ _ storing => bounds.stored storing
  | .others redis => bounds.seen redis
  | _ => True

section Simulation

variable {weight : Collation} {lib : GateLib} {bounds : Bounds} {server ready after : HttpServer weight} {gate : GateSystem weight}

theorem recordsOf_decided (lib : GateLib) (id : Nat) (request : HttpRequest) (response : HttpResponse) (history : List HttpEvent) :
    recordsOf lib (.decided id request response :: history) = (recordOf lib request response).toList ++ recordsOf lib history := by
  cases recorded : recordOf lib request response <;> simp [recordsOf, recorded]

namespace Simulates

/-- The accounts have nothing to do. -/
theorem still (simulates : Simulates lib bounds server gate) (users : after.users = server.users) (redis : after.redis = server.redis)
    (history : recordsOf lib after.history = recordsOf lib server.history)
    (working : ∀ id connection request told rest, after.connection id = some connection →
      Serving.task connection.serving = some (request, told, rest) → bounds.asked request.body ∧ Genuine bounds told) :
    Simulates lib bounds after gate := by
  refine ⟨?_, ?_, ?_, ?_, working⟩
  · rw [users, simulates.users]
  · rw [redis, simulates.redis]
  · rw [history, simulates.history]
  · rw [redis]
    exact simulates.seen

theorem accompanied (simulates : Simulates lib bounds server gate) : Accompanied lib bounds server gate :=
  ⟨[], gate, .nil gate, List.forall_mem_nil _, simulates⟩

/-- One connection goes on. -/
theorem setServing (simulates : Simulates lib bounds server gate) (id : Nat) {serving : Serving}
    (works : ∀ request told rest, Serving.task serving = some (request, told, rest) → bounds.asked request.body ∧ Genuine bounds told) :
    Simulates lib bounds (server.setServing id serving) gate := by
  refine simulates.still rfl rfl rfl ?_
  intro other connection request told rest found task
  by_cases own : other = id
  · subst own
    simp only [HttpServer.setServing, Function.update_self, Option.map_eq_some_iff] at found
    obtain ⟨before, _, same⟩ := found
    rw [← same] at task
    exact works request told rest task
  · rw [setServing_other server own] at found
    exact simulates.asked other connection request told rest found task

theorem record (simulates : Simulates lib bounds server gate) {event : HttpEvent}
    (silent : recordsOf lib (event :: server.history) = recordsOf lib server.history) :
    Simulates lib bounds (server.record event) gate := simulates.still rfl rfl silent simulates.asked

theorem cleanUp (simulates : Simulates lib bounds server gate) (id : Nat) (uuid : String) :
    Simulates lib bounds (server.cleanUp id uuid) gate := by
  have cleared : Simulates lib bounds (server.clearSession uuid) gate := simulates.still rfl rfl rfl simulates.asked
  apply cleared.setServing
  intro request told rest task
  cases task

theorem turn (simulates : Simulates lib bounds server gate) {id : Nat} {request : HttpRequest} {told : GateLedger}
    (turn : HttpTurn lib id request told server after) (asked : bounds.asked request.body) (genuine : Genuine bounds told) :
    Simulates lib bounds after gate := by
  cases turn with
  | returned leads rpcs =>
    refine (simulates.record rfl).setServing id ?_
    intro asking told rest task
    cases task
  | suspended leads rpcs =>
    apply simulates.setServing
    intro asking told rest task
    cases task
    exact ⟨asked, genuine.rpcs rpcs⟩

/-- The accounts do what has just been decided. -/
theorem decideOn (simulates : Simulates lib bounds server gate) {id : Nat} {request : HttpRequest} {told : GateLedger}
    {users : UserTable weight} {rest : RequestHandler} (event : HttpEvent) (begins : HasHeard lib bounds server request told users)
    (leads : (Dispatcher.handleRequest lib request).Leads told rest) (asked : bounds.asked request.body)
    (silent : recordsOf lib (event :: server.history) = recordsOf lib server.history) :
    Accompanied lib bounds (({ server with users }.record event).decideOn id request rest) gate := by
  have course := course lib weight request
  cases rest with
  | ret response =>
    obtain ⟨actions, allowed, run⟩ := course.returns begins asked simulates.seen leads simulates.users simulates.redis
    refine ⟨actions, _, run, allowed, rfl, simulates.redis, ?_, simulates.seen, simulates.asked⟩
    change _ = recordsOf lib (.decided id request response :: event :: server.history)
    rw [recordsOf_decided, silent, simulates.history]
  | call op next =>
    have same := course.suspends begins leads
    subst same
    have recorded := simulates.record silent
    exact recorded.accompanied
  | throw error =>
    obtain ⟨response, same⟩ := leads.ends (handleRequest_returns lib request)
    cases same

theorem step (simulates : Simulates lib bounds server gate) (attended : Attended lib server) {act : HttpAct} (meets : bounds.Meets act)
    (taken : server.step lib act = some after) : Accompanied lib bounds after gate := by
  cases (http_steps taken).2 with
  | accept uuid =>
    apply accompanied
    refine simulates.still rfl rfl rfl ?_
    intro id connection request told rest found task
    by_cases own : id = server.accepted
    · subst own
      cases (Function.update_self server.accepted _ server.connection).symm.trans found
      cases task
    · exact simulates.asked id connection request told rest ((Function.update_of_ne own _ server.connection).symm.trans found) task
  | @unread id uuid context rpc here => exact (simulates.cleanUp id uuid).accompanied
  | @received id uuid context request rpc here =>
    obtain ⟨actions, gate', run, allowed, later⟩ := simulates.decideOn (.received id request) .received .start meets rfl
    have genuine : Genuine bounds [] := fun _ _ absent => absurd absent List.not_mem_nil
    exact ⟨actions, gate', run, allowed, later.turn (resume_turn .start rpc _) meets genuine⟩
  | @executed id uuid context request told op next answer users getting storing here executed =>
    obtain ⟨asked, genuine⟩ := simulates.asked id _ request told _ here rfl
    obtain ⟨requests, requested, before, leads⟩ := (attended.progress id _ here).working rfl
    obtain ⟨actions, gate', run, allowed, later⟩ := simulates.decideOn (.executed id request op)
      (.executed leads genuine meets executed) (leads.answer answer) asked rfl
    refine ⟨actions, gate', run, allowed, later.setServing id ?_⟩
    intro asking told rest task
    cases task
    exact ⟨asked, genuine.executed simulates.seen executed⟩
  | @resumed id uuid context request told rest rpc here =>
    obtain ⟨asked, genuine⟩ := simulates.asked id _ request told _ here rfl
    obtain ⟨requests, requested, before, leads⟩ := (attended.progress id _ here).working rfl
    exact (simulates.turn (resume_turn leads rpc server) asked genuine).accompanied
  | @unwritten id uuid context request reply here => exact (simulates.cleanUp id uuid).accompanied
  | @again id uuid context request reply here keeps =>
    refine ((simulates.record rfl).setServing id ?_).accompanied
    intro asking told rest task
    cases task
  | @last id uuid context request reply here closes =>
    exact ((simulates.record rfl).cleanUp id uuid).accompanied
  | stop =>
    apply accompanied
    exact simulates.still rfl rfl rfl simulates.asked
  | others redis =>
    refine ⟨[.others redis], { gate with redis }, .single rfl, List.forall_mem_singleton.mpr meets, ?_⟩
    exact ⟨simulates.users, rfl, simulates.history, meets, simulates.asked⟩

end Simulates

theorem simulates_start (lib : GateLib) {redis : Redis} (users : UserTable weight) (pool : ContextPool) (seen : bounds.seen redis) :
    Simulates lib bounds ({ redis, users, pool } : HttpServer weight) { redis, users } := by
  refine ⟨rfl, rfl, rfl, seen, ?_⟩
  intro id connection request told rest found
  cases found

/-- The requests that are read, the outcomes of MySQL and the states of Redis that there are in a run. -/
def boundsOf (redis : Redis) (acts : List HttpAct) : Bounds where
  asked body := ∃ id request rpc, .read id (some request) rpc ∈ acts ∧ request.body = body
  stored outcome := outcome = .answered ∨ ∃ id getting, .exec id getting outcome ∈ acts
  seen other := other = redis ∨ .others other ∈ acts
  answered := .inl rfl

theorem boundsOf_meets (redis : Redis) {acts : List HttpAct} : ∀ act ∈ acts, (boundsOf redis acts).Meets act := by
  intro act member
  cases act with
  | read id request rpc =>
    cases request with
    | none => trivial
    | some request => exact ⟨id, request, rpc, member, rfl⟩
  | exec id getting storing => exact .inr ⟨id, getting, member⟩
  | others other => exact .inr member
  | _ => trivial

theorem simulates_run {redis : Redis} {users : UserTable weight} {pool : ContextPool} {acts : List HttpAct}
    (run : Transition.Run (HttpServer.step lib) { redis, users, pool } acts server) :
    ∃ actions gate, Transition.Run (GateSystem.step lib.json) { redis, users } actions gate ∧
      (∀ act ∈ actions, (boundsOf redis acts).Allows act) ∧ Simulates lib (boundsOf redis acts) server gate := by
  have start : Simulates lib (boundsOf redis acts) ({ redis, users, pool } : HttpServer weight) { redis, users } :=
    simulates_start lib users pool (.inl rfl)
  exact run.refines (fun _ _ _ _ attended simulates meets taken => simulates.step attended meets taken)
    (fun _ _ _ attended taken => attended.step taken) (boundsOf_meets redis) (start_attended lib redis users) start

end Simulation

/-! ## The responses follow the decisions -/

/-- The registrations and resets of a connection with the responses that have been decided, the last one first. -/
def decidedOf (lib : GateLib) (id : Nat) (history : List HttpEvent) : List GateRecord :=
  history.filterMap fun
    | .decided other request response => if other = id then recordOf lib request response else none
    | _ => none

/-- Those whose handlers have come to their end. -/
def handledOf (lib : GateLib) (id : Nat) (history : List HttpEvent) : List GateRecord :=
  history.filterMap fun
    | .handled other request response => if other = id then recordOf lib request response else none
    | _ => none

/-- What the handler of a connection is about to respond. -/
def waitingRecord (lib : GateLib) (connection : Option HttpConnection) : List GateRecord :=
  match connection.map HttpConnection.serving with
  | some (.resuming request _ (.ret response)) => (recordOf lib request response).toList
  | _ => []

/-- Every connection responds as it has been decided, and in that order. -/
def KeepsPace {weight : Collation} (lib : GateLib) (server : HttpServer weight) : Prop :=
  ∀ id, decidedOf lib id server.history = waitingRecord lib (server.connection id) ++ handledOf lib id server.history

section KeepsPace

variable {weight : Collation} {lib : GateLib} {server ready after : HttpServer weight} {id other : Nat}

theorem decidedOf_decided (request : HttpRequest) (response : HttpResponse) (history : List HttpEvent) :
    decidedOf lib id (.decided id request response :: history) = (recordOf lib request response).toList ++ decidedOf lib id history := by
  cases recorded : recordOf lib request response <;> simp [decidedOf, recorded]

theorem handledOf_handled (request : HttpRequest) (response : HttpResponse) (history : List HttpEvent) :
    handledOf lib id (.handled id request response :: history) = (recordOf lib request response).toList ++ handledOf lib id history := by
  cases recorded : recordOf lib request response <;> simp [handledOf, recorded]

theorem decidedOf_other (different : id ≠ other) (request : HttpRequest) (response : HttpResponse) (history : List HttpEvent) :
    decidedOf lib other (.decided id request response :: history) = decidedOf lib other history := by
  simp [decidedOf, different]

theorem handledOf_other (different : id ≠ other) (request : HttpRequest) (response : HttpResponse) (history : List HttpEvent) :
    handledOf lib other (.handled id request response :: history) = handledOf lib other history := by
  simp [handledOf, different]

theorem handledOf_decideOn (server : HttpServer weight) (id : Nat) (request : HttpRequest) (rest : RequestHandler) :
    handledOf lib other (server.decideOn id request rest).history = handledOf lib other server.history := by
  cases rest <;> rfl

theorem decidedOf_decideOn (different : id ≠ other) (server : HttpServer weight) (request : HttpRequest) (rest : RequestHandler) :
    decidedOf lib other (server.decideOn id request rest).history = decidedOf lib other server.history := by
  cases rest with
  | ret response => exact decidedOf_other different request response _
  | _ => rfl

namespace KeepsPace

/-- One connection has taken a step, with these events. -/
theorem move (keepsPace : KeepsPace lib server) (others : ∀ other, other ≠ id → after.connection other = server.connection other ∧
      decidedOf lib other after.history = decidedOf lib other server.history ∧
      handledOf lib other after.history = handledOf lib other server.history)
    (own : decidedOf lib id after.history = waitingRecord lib (after.connection id) ++ handledOf lib id after.history) :
    KeepsPace lib after := by
  intro other
  by_cases same : other = id
  · rw [same]
    exact own
  · obtain ⟨connection, decided, handled⟩ := others other same
    rw [connection, decided, handled]
    exact keepsPace other

/-- One connection goes on to another state. -/
theorem goes (keepsPace : KeepsPace lib server) {connection : HttpConnection} {serving : Serving} (here : ready.connection id = some connection)
    (same : ready.connection = server.connection)
    (others : ∀ other, other ≠ id → decidedOf lib other ready.history = decidedOf lib other server.history ∧
      handledOf lib other ready.history = handledOf lib other server.history)
    (own : decidedOf lib id ready.history = waitingRecord lib (some { connection with serving }) ++ handledOf lib id ready.history) :
    KeepsPace lib (ready.setServing id serving) := by
  apply keepsPace.move
  · intro other different
    rw [setServing_other ready different, same]
    exact ⟨rfl, others other different⟩
  · rw [setServing_self ready here]
    exact own

/-- A handler goes on that has nothing to respond yet. -/
theorem waits (keepsPace : KeepsPace lib server) {connection : HttpConnection} (here : server.connection id = some connection)
    (nothing : waitingRecord lib (some connection) = []) {request : HttpRequest} {told : GateLedger} {op : GateOp}
    {next : op.Res → RequestHandler} (leads : (Dispatcher.handleRequest lib request).Leads told (.call op next)) (rpc : GateRpc) :
    KeepsPace lib (server.resume id request told (.call op next) rpc) := by
  have own := keepsPace id
  rw [here, nothing] at own
  have suspends : ∀ told (op : GateOp) (next : op.Res → RequestHandler),
      KeepsPace lib (server.setServing id (.handling request told op next)) :=
    fun told op next => keepsPace.goes here rfl (fun _ _ => ⟨rfl, rfl⟩) own
  rcases (course lib weight request).noRpc leads with store | silent
  · have stops : server.resume id request told (.call op next) rpc = server.setServing id (.handling request told op next) := by
      cases op <;> cases store <;> rfl
    rw [stops]
    exact suspends told op next
  · have turn : HttpTurn lib id request told server (server.resume id request told (.call op next) rpc) := resume_turn leads rpc server
    generalize server.resume id request told (.call op next) rpc = after at turn ⊢
    cases turn with
    | @returned heard response _ _ =>
      refine keepsPace.goes here rfl (fun other different => ⟨rfl, handledOf_other (Ne.symm different) request response _⟩) ?_
      change decidedOf lib id server.history = [] ++ handledOf lib id (.handled id request response :: server.history)
      rw [handledOf_handled, silent, own]
      rfl
    | suspended _ _ => exact suspends _ _ _

theorem step (keepsPace : KeepsPace lib server) (attended : Attended lib server) {act : HttpAct}
    (taken : server.step lib act = some after) : KeepsPace lib after := by
  cases (http_steps taken).2 with
  | accept uuid =>
    have own := keepsPace server.accepted
    rw [attended.unused server.accepted (Nat.le_refl _)] at own
    apply keepsPace.move
    · exact fun other different => ⟨Function.update_of_ne different _ server.connection, rfl, rfl⟩
    · have there : (server.accept uuid).connection server.accepted = some { uuid, context := server.pool.getIoContext.1 } :=
        Function.update_self server.accepted _ server.connection
      rw [there]
      exact own
  | @unread id uuid context rpc here =>
    have own := keepsPace id
    rw [here] at own
    have there : (server.clearSession uuid).connection id = some ⟨uuid, context, .reading⟩ := here
    exact keepsPace.goes there rfl (fun _ _ => ⟨rfl, rfl⟩) own
  | @received id uuid context request rpc here =>
    have recorded : KeepsPace lib (server.record (.received id request)) := keepsPace
    have there : (server.record (.received id request)).connection id = some ⟨uuid, context, .reading⟩ := here
    cases same : Dispatcher.handleRequest lib request with
    | ret response =>
      have own := keepsPace id
      rw [here] at own
      have there : (((server.record (.received id request)).record (.decided id request response)).record
        (.handled id request response)).connection id = some ⟨uuid, context, .reading⟩ := here
      refine keepsPace.goes there rfl ?_ ?_
      · intro other different
        exact ⟨decidedOf_other (Ne.symm different) request response _, handledOf_other (Ne.symm different) request response _⟩
      · change decidedOf lib id (.decided id request response :: .received id request :: server.history) =
          [] ++ handledOf lib id (.handled id request response :: server.history)
        rw [decidedOf_decided, handledOf_handled]
        exact congrArg _ own
    | call op next => exact recorded.waits there rfl (same ▸ .start) rpc
    | throw error =>
      have ends := handleRequest_returns lib request
      rw [same] at ends
      obtain ⟨response, absurd⟩ := ends
      cases absurd
  | @executed id uuid context request told op next answer users getting storing here executed =>
    have own := keepsPace id
    rw [here] at own
    have there : (({ server with users }.record (.executed id request op)).decideOn id request (next answer)).connection id =
        some ⟨uuid, context, .handling request told op next⟩ := by
      rw [HttpServer.decideOn_connection]
      exact here
    refine keepsPace.goes there (HttpServer.decideOn_connection _ _ _ _) ?_ ?_
    · intro other different
      rw [decidedOf_decideOn (Ne.symm different), handledOf_decideOn]
      exact ⟨rfl, rfl⟩
    · cases next answer with
      | ret response =>
        change decidedOf lib id (.decided id request response :: .executed id request op :: server.history) = _
        rw [decidedOf_decided]
        exact congrArg _ own
      | _ => exact own
  | @resumed id uuid context request told rest rpc here =>
    obtain ⟨requests, requested, before, leads⟩ := (attended.progress id _ here).working rfl
    cases rest with
    | ret response =>
      have own := keepsPace id
      rw [here] at own
      have there : (server.record (.handled id request response)).connection id =
          some ⟨uuid, context, .resuming request told (.ret response)⟩ := here
      refine keepsPace.goes there rfl (fun other different => ⟨rfl, handledOf_other (Ne.symm different) request response _⟩) ?_
      change _ = [] ++ handledOf lib id (.handled id request response :: server.history)
      rw [handledOf_handled]
      exact own
    | call op next => exact keepsPace.waits here rfl leads rpc
    | throw error =>
      obtain ⟨response, absurd⟩ := leads.ends (handleRequest_returns lib request)
      cases absurd
  | @unwritten id uuid context request reply here =>
    have own := keepsPace id
    rw [here] at own
    have there : (server.clearSession uuid).connection id = some ⟨uuid, context, .writing request reply⟩ := here
    exact keepsPace.goes there rfl (fun _ _ => ⟨rfl, rfl⟩) own
  | @again id uuid context request reply here keeps =>
    have own := keepsPace id
    rw [here] at own
    have there : (server.record (.written id reply)).connection id = some ⟨uuid, context, .writing request reply⟩ := here
    exact keepsPace.goes there rfl (fun _ _ => ⟨rfl, rfl⟩) own
  | @last id uuid context request reply here closes =>
    have own := keepsPace id
    rw [here] at own
    have there : ((server.record (.written id reply)).clearSession uuid).connection id =
        some ⟨uuid, context, .writing request reply⟩ := here
    exact keepsPace.goes there rfl (fun _ _ => ⟨rfl, rfl⟩) own
  | stop => exact keepsPace
  | others redis => exact keepsPace

/-- No more than the last decision of a connection has not been answered. -/
theorem pending (keepsPace : KeepsPace lib server) (id : Nat) : ∃ waiting, decidedOf lib id server.history =
    waiting ++ handledOf lib id server.history ∧ waiting.length ≤ 1 := by
  refine ⟨_, keepsPace id, ?_⟩
  unfold waitingRecord
  split
  · rename_i request told response same
    cases recordOf lib request response <;> simp
  · exact Nat.zero_le 1

end KeepsPace

end KeepsPace

def carolGate : GateLib where
  json := carolLib
  parseOriginForm target := some { path := target }
  parseGetVerifyCodeRequest _ := none

def carolPost (target : String) (body : Bytes) : HttpRequest := { method := .post, target, body }

/-- Between the two questions of the first registration the code expires, so the second one is refused. It is decided first,
    and answered last. -/
def carolTwice : List HttpAct :=
  [.accept "first", .accept "second", .read 0 (some (carolPost "/user_register" carolBody)) noRpc, .exec 0 .ok .answered,
    .resume 0 noRpc, .others {}, .read 1 (some (carolPost "/user_register" carolBody)) noRpc, .exec 1 .ok .answered,
    .exec 0 .ok .answered, .resume 0 noRpc, .write 0 true]

end ChatProof
