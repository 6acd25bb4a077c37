import ChatProject.Gate.Refinement

/-! Where the accounts and their passwords come from, and what a login over HTTP takes. -/

namespace ChatProof

open ChatModel

/-! ## Where a row comes from -/

/-- The account was there before, or has been made like this; its password is still the first one, or has been set like that. -/
def Earned (old : List UserRow) (made reset : UserRow → Prop) (row : UserRow) : Prop :=
  ∃ first, (first ∈ old ∨ made first) ∧ row.id = first.id ∧ row.name = first.name ∧ row.email = first.email ∧
    (row.pwd = first.pwd ∨ reset row)

/-- The `INSERT` of this registration adds this row. -/
def Inserts {weight : Collation} (request : UserRegisterRequest) (storing : MysqlOutcome) (users : UserTable weight) (row : UserRow) :
    Prop := StoresRow request users row ∧ ∀ code, storing ≠ .failed code

/-- The `UPDATE` of this reset makes this row of one that has the name and the e-mail. -/
def Updates {weight : Collation} (request : UserResetPasswordRequest) (storing : MysqlOutcome) (users : UserTable weight)
    (row : UserRow) : Prop :=
  (∃ before ∈ users.rows, UserTable.isMatch weight request.user request.email before = true ∧
    ∃ pwd, varcharColumn request.passwd = some pwd ∧ row = { before with pwd }) ∧ ∀ code, storing ≠ .failed code

/-- What a statement does to the table. -/
inductive TableStep {weight : Collation} (made reset : UserRow → Prop) (users after : UserTable weight) : Prop
  | same : after.rows = users.rows → TableStep made reset users after
  | added {row : UserRow} : made row → after.rows = users.rows ++ [row] → TableStep made reset users after
  | changed {test : UserRow → Bool} {pwd : String} : (∀ before ∈ users.rows, test before = true → reset { before with pwd }) →
      after = users.setPwd test pwd → TableStep made reset users after

section Rows

variable {lib : JsonLib} {weight : Collation} {old : List UserRow} {made reset : UserRow → Prop} {users after : UserTable weight}

theorem Earned.mono {known later : UserRow → Prop} {row : UserRow} (earned : Earned old made reset row)
    (makes : ∀ row, made row → known row) (resets : ∀ row, reset row → later row) : Earned old known later row := by
  obtain ⟨first, source, id, name, email, password⟩ := earned
  exact ⟨first, source.imp_right (makes first), id, name, email, password.imp_right (resets row)⟩

/-- At the start there is nothing but the rows that there were. -/
theorem earned_initially : ∀ row ∈ old, Earned old made reset row :=
  fun row member => ⟨row, .inl member, rfl, rfl, rfl, .inl rfl⟩

theorem TableStep.earned (step : TableStep made reset users after) (earned : ∀ row ∈ users.rows, Earned old made reset row) :
    ∀ row ∈ after.rows, Earned old made reset row := by
  intro row member
  cases step with
  | same rows => exact earned row (rows ▸ member)
  | @added new makes rows =>
    rw [rows] at member
    rcases List.mem_append.mp member with there | here
    · exact earned row there
    · rw [List.mem_singleton.mp here]
      exact ⟨new, .inr makes, rfl, rfl, rfl, .inl rfl⟩
  | @changed test pwd resets same =>
    subst same
    rw [setPwd_rows] at member
    obtain ⟨before, there, changed⟩ := List.mem_map.mp member
    by_cases found : test before = true
    · rw [if_pos found] at changed
      obtain ⟨first, source, id, name, email, _⟩ := earned before there
      rw [← changed]
      exact ⟨first, source, id, name, email, .inr (resets before there found)⟩
    · rw [if_neg found] at changed
      rw [← changed]
      exact earned before there

/-- Whether or not the answer is lost. -/
theorem createUser_table (request : UserRegisterRequest) (storing : MysqlOutcome) (users : UserTable weight) :
    TableStep (Inserts request storing users) reset users (UserRepo.createUser request storing users).2 := by
  rw [createUser_rows]
  have reaches : (∀ code, storing ≠ .failed code) → TableStep (Inserts request storing users) reset users
      (users.insert request.user request.email request.passwd).2 := by
    intro reaches
    by_cases stores : ∃ row, StoresRow request users row
    · obtain ⟨row, stores⟩ := stores
      exact .added ⟨stores, reaches⟩ (insert_stores stores).2
    · exact .same (insert_refused fun row there => stores ⟨row, there⟩).2
  cases storing with
  | answered => exact reaches fun _ => MysqlOutcome.noConfusion
  | failed code => exact .same rfl
  | lost code => exact reaches fun _ => MysqlOutcome.noConfusion

theorem repo_resetPassword_table (request : UserResetPasswordRequest) (storing : MysqlOutcome) (users : UserTable weight) :
    TableStep made (Updates request storing users) users (UserRepo.resetPassword request storing users).2 := by
  have reaches : (∀ code, storing ≠ .failed code) → TableStep made (Updates request storing users) users
      (users.update request.user request.email request.passwd).2 := by
    intro reaches
    unfold UserTable.update
    dsimp only
    split
    · cases stored : varcharColumn request.passwd with
      | none => exact .same rfl
      | some pwd =>
        apply TableStep.changed _ rfl
        intro before member found
        exact ⟨⟨before, member, found, pwd, stored, rfl⟩, reaches⟩
    · exact .same rfl
  cases storing with
  | answered => exact reaches fun _ => MysqlOutcome.noConfusion
  | failed code => exact .same rfl
  | lost code => exact reaches fun _ => MysqlOutcome.noConfusion

theorem TableStep.mono {known later : UserRow → Prop} (step : TableStep made reset users after) (makes : ∀ row, made row → known row)
    (resets : ∀ row, reset row → later row) : TableStep known later users after := by
  cases step with
  | same rows => exact .same rows
  | added new rows => exact .added (makes _ new) rows
  | changed sets same => exact .changed (fun before member found => resets _ (sets before member found)) same

end Rows

/-! ## One request of a run -/

/-- The handler of this request waits for this call to be executed. -/
def Waits {weight : Collation} (server : HttpServer weight) (id : Nat) (http : HttpRequest) (told : GateLedger) (op : GateOp) : Prop :=
  ∃ uuid context next, server.connection id = some ⟨uuid, context, .handling http told op next⟩

/-- In this run Redis had this code for this e-mail when the handler of the request asked it for that; nothing has been read on
    the connection since. -/
def CodeShown {weight : Collation} (lib : GateLib) (start : HttpServer weight) (acts : List HttpAct) (id : Nat) (http : HttpRequest)
    (email code : String) : Prop :=
  ∃ earlier getting storing middle server told, acts = earlier ++ .exec id getting storing :: middle ∧
    Transition.Run (HttpServer.step lib) start earlier server ∧ Waits server id http told (.redisGet email) ∧
    Verified email code getting server.redis ∧ ∀ read rpc, .read id read rpc ∉ middle

/-- In this run a request for this path has shown the code for its e-mail, and has then had its statement executed, with this effect. -/
def Confirmed {weight : Collation} {ρ : Type} (lib : GateLib) (start : HttpServer weight) (acts : List HttpAct) (path : String)
    (fromJson : Json Number → Option ρ) (email verifyCode : ρ → String) (op : ρ → GateOp)
    (effect : ρ → MysqlOutcome → UserTable weight → Prop) : Prop :=
  ∃ earlier id getting storing later server http told request, acts = earlier ++ .exec id getting storing :: later ∧
    Transition.Run (HttpServer.step lib) start earlier server ∧ Waits server id http told (op request) ∧
    isPost lib path http = true ∧ parseJson lib.json fromJson http.body = some request ∧
    CodeShown lib start earlier id http (email request) (verifyCode request) ∧ effect request storing server.users

/-- A registration has added this row. -/
def RegisteredSo {weight : Collation} (lib : GateLib) (start : HttpServer weight) (acts : List HttpAct) (row : UserRow) : Prop :=
  Confirmed lib start acts "/user_register" UserRegisterRequest.fromJson UserRegisterRequest.email UserRegisterRequest.verifyCode
    .createUser fun request storing users => Inserts request storing users row

/-- A reset has made this row. -/
def PasswordReset {weight : Collation} (lib : GateLib) (start : HttpServer weight) (acts : List HttpAct) (row : UserRow) : Prop :=
  Confirmed lib start acts "/reset_password" UserResetPasswordRequest.fromJson UserResetPasswordRequest.email
    UserResetPasswordRequest.verifyCode .resetPassword fun request storing users => Updates request storing users row

/-- What the handler of a request has been told when it asks for a change of the accounts. -/
inductive AsksChange (lib : GateLib) (http : HttpRequest) : GateLedger → GateOp → Prop
  | register {request : UserRegisterRequest} : isPost lib "/user_register" http = true →
      parseJson lib.json UserRegisterRequest.fromJson http.body = some request →
      AsksChange lib http [⟨.redisGet request.email, .ok (some request.verifyCode)⟩] (.createUser request)
  | reset {request : UserResetPasswordRequest} : isPost lib "/reset_password" http = true →
      parseJson lib.json UserResetPasswordRequest.fromJson http.body = some request →
      AsksChange lib http [⟨.redisGet request.email, .ok (some request.verifyCode)⟩] (.resetPassword request)

section Requests

variable {weight : Collation} {lib : GateLib} {start server after : HttpServer weight} {done acts : List HttpAct} {http : HttpRequest}
  {told : GateLedger} {op : GateOp} {id : Nat}

theorem asks_change {next : op.Res → RequestHandler} (leads : (Dispatcher.handleRequest lib http).Leads told (.call op next))
    (changes : readsOnly op = false) : AsksChange lib http told op := by
  have handled := handleRequest_by lib http
  generalize Dispatcher.handleRequest lib http = handler at handled leads
  cases handled with
  | userRegister post =>
    cases parsed : parseJson lib.json UserRegisterRequest.fromJson http.body with
    | none =>
      have refuses : caught (Endpoint.userRegister lib.json http.body) = .ret (Gate.badRequest "Invalid JSON body") := by
        rw [Endpoint.userRegister, parsed]
        rfl
      cases (leads.of_ret refuses).2
    | some request =>
      rcases (leads.guided (userRegister_guided parsed)).1 with ⟨_, asks⟩ | ⟨same, asks⟩
      · subst asks
        cases changes
      · subst same asks
        exact .register post parsed
  | resetPassword _ post =>
    cases parsed : parseJson lib.json UserResetPasswordRequest.fromJson http.body with
    | none =>
      have refuses : caught (Endpoint.resetPassword lib.json http.body) = .ret (Gate.badRequest "Invalid JSON body") := by
        rw [Endpoint.resetPassword, parsed]
        rfl
      cases (leads.of_ret refuses).2
    | some request =>
      rcases (leads.guided (resetPassword_guided parsed)).1 with ⟨_, asks⟩ | ⟨same, asks⟩
      · subst asks
        cases changes
      · subst same asks
        exact .reset post parsed
  | other _ _ reads =>
    have only : readsOnly op = true := (leads.asksOnly reads).1
    rw [changes] at only
    cases only

/-- Nothing is read on the connection in one more action. -/
theorem CodeShown.next {email code : String} (shown : CodeShown lib start done id http email code) {act : HttpAct}
    (unread : ∀ read rpc, act ≠ .read id read rpc) : CodeShown lib start (done ++ [act]) id http email code := by
  obtain ⟨earlier, getting, storing, middle, server, told, same, run, waits, verified, silent⟩ := shown
  refine ⟨earlier, getting, storing, middle ++ [act], server, told, ?_, run, waits, verified, ?_⟩
  · rw [same, List.append_assoc, List.cons_append]
  · intro read rpc member
    rcases List.mem_append.mp member with before | last
    · exact silent read rpc before
    · exact unread read rpc (List.mem_singleton.mp last).symm

theorem Confirmed.mono {ρ : Type} {path : String} {fromJson : Json Number → Option ρ} {email verifyCode : ρ → String} {op : ρ → GateOp}
    {effect : ρ → MysqlOutcome → UserTable weight → Prop} (act : HttpAct)
    (confirmed : Confirmed lib start done path fromJson email verifyCode op effect) :
    Confirmed lib start (done ++ [act]) path fromJson email verifyCode op effect := by
  obtain ⟨earlier, id, getting, storing, later, server, http, told, request, same, rest⟩ := confirmed
  refine ⟨earlier, id, getting, storing, later ++ [act], server, http, told, request, ?_, rest⟩
  rw [same, List.append_assoc, List.cons_append]

/-- What the handlers know of codes, and where the rows come from. -/
structure Accounts (lib : GateLib) (start : HttpServer weight) (done : List HttpAct) (server : HttpServer weight) : Prop where
  attended : Attended lib server
  codes : ∀ id connection http told rest, server.connection id = some connection →
    Serving.task connection.serving = some (http, told, rest) → ∀ email code, ⟨.redisGet email, .ok (some code)⟩ ∈ told →
    CodeShown lib start done id http email code
  earned : ∀ row ∈ server.users.rows, Earned start.users.rows (RegisteredSo lib start done) (PasswordReset lib start done) row

/-- The statement that a handler waits for is executed. -/
theorem Accounts.exec (accounts : Accounts lib start done server) (run : Transition.Run (HttpServer.step lib) start done server)
    {uuid : String} {context : Nat} {next : op.Res → RequestHandler} {answer : op.Res} {users : UserTable weight} {getting : Outcome}
    {storing : MysqlOutcome} (here : server.connection id = some ⟨uuid, context, .handling http told op next⟩)
    (executed : server.execStore getting storing op = some (answer, users)) :
    TableStep (RegisteredSo lib start (done ++ [.exec id getting storing])) (PasswordReset lib start (done ++ [.exec id getting storing]))
      server.users users := by
  have waits : Waits server id http told op := ⟨uuid, context, next, here⟩
  cases reads : readsOnly op with
  | true => exact .same (congrArg UserTable.rows (execStore_reads reads executed))
  | false =>
    obtain ⟨_, _, _, leads⟩ := (accounts.attended.progress id _ here).working rfl
    have shown := accounts.codes id _ http told _ here rfl
    cases asks_change leads reads with
    | @register request post parsed =>
      have code := shown request.email request.verifyCode List.mem_cons_self
      have done : (UserRepo.createUser request storing server.users).2 = users := (Prod.mk.inj (Option.some.inj executed)).2
      rw [← done]
      refine (createUser_table request storing server.users).mono ?_ fun _ made => made
      exact fun row inserts => ⟨_, id, getting, storing, [], server, http, _, request, rfl, run, waits, post, parsed, code, inserts⟩
    | @reset request post parsed =>
      have code := shown request.email request.verifyCode List.mem_cons_self
      have done : (UserRepo.resetPassword request storing server.users).2 = users := (Prod.mk.inj (Option.some.inj executed)).2
      rw [← done]
      refine (repo_resetPassword_table request storing server.users).mono (fun _ made => made) ?_
      exact fun row updates => ⟨_, id, getting, storing, [], server, http, _, request, rfl, run, waits, post, parsed, code, updates⟩

theorem Accounts.step (accounts : Accounts lib start done server) (run : Transition.Run (HttpServer.step lib) start done server)
    {act : HttpAct} (taken : server.step lib act = some after) : Accounts lib start (done ++ [act]) after := by
  have kept : ∀ row ∈ server.users.rows,
      Earned start.users.rows (RegisteredSo lib start (done ++ [act])) (PasswordReset lib start (done ++ [act])) row :=
    fun row member => (accounts.earned row member).mono (fun _ made => Confirmed.mono act made) fun _ reset => Confirmed.mono act reset
  refine ⟨accounts.attended.step taken, ?_, ?_⟩
  · intro id connection http told rest found task email code member
    cases task_from accounts.attended taken found task with
    | kept before known rpcs unread =>
      rcases List.mem_append.mp member with rpc | heard
      · cases rpcs _ rpc
      · exact (accounts.codes id _ http _ _ before known email code heard).next unread
    | received rpc same rpcs => cases rpcs _ member
    | @executed uuid context told op next answer users getting storing same here executed =>
      subst same
      rcases List.mem_cons.mp member with new | old
      · cases new
        have verified : Gate.redisGet email getting server.redis = .ok (some code) := (Prod.mk.inj (Option.some.inj executed)).1
        exact ⟨done, getting, storing, [], server, told, rfl, run, ⟨uuid, context, next, here⟩, verified, fun _ _ => List.not_mem_nil⟩
      · exact (accounts.codes id _ http _ _ here rfl email code old).next nofun
  · have same : after.users = server.users → ∀ row ∈ after.users.rows,
        Earned start.users.rows (RegisteredSo lib start (done ++ [act])) (PasswordReset lib start (done ++ [act])) row := by
      intro same
      rw [same]
      exact kept
    cases (http_steps taken).2 with
    | received request rpc here =>
      apply same
      rw [HttpServer.resume_users, HttpServer.decideOn_users]
      rfl
    | executed here executed =>
      have rows := (accounts.exec run here executed).earned kept
      change ∀ row ∈ (HttpServer.decideOn _ _ _ _).users.rows, _
      rw [HttpServer.decideOn_users]
      exact rows
    | resumed rpc here => exact same (HttpServer.resume_users _ _ _ _ _ _)
    | _ => exact same rfl

end Requests

theorem accounts_have_codes {weight : Collation} (lib : GateLib) (redis : Redis) (users : UserTable weight) (pool : ContextPool)
    (acts : List HttpAct) (server : HttpServer weight)
    (run : Transition.Run (HttpServer.step lib) { redis, users, pool } acts server) :
    ∀ row ∈ server.users.rows, Earned users.rows (RegisteredSo lib { redis, users, pool } acts)
      (PasswordReset lib { redis, users, pool } acts) row := by
  have start : Accounts lib ({ redis, users, pool } : HttpServer weight) [] { redis, users, pool } := by
    refine ⟨start_attended lib redis users, ?_, earned_initially⟩
    intro id connection http told rest found
    cases found
  exact (run.invariant_along start fun _ _ _ _ reached accounts taken => accounts.step reached taken).earned

theorem accounts_have_codes_carol : ∃ server : HttpServer caseless,
    Transition.Run (HttpServer.step carolGate) { redis := carolRedis } carolTwice server ∧ server.users.rows = [carolRow] ∧
      Earned [] (RegisteredSo carolGate ({ redis := carolRedis } : HttpServer caseless) carolTwice)
        (PasswordReset carolGate ({ redis := carolRedis } : HttpServer caseless) carolTwice) carolRow := by
  have possible : ((Transition.runs (HttpServer.step carolGate) ({ redis := carolRedis } : HttpServer caseless) carolTwice).any
      fun server => server.users.rows = [carolRow]) = true := by decide +kernel
  obtain ⟨server, reached, found⟩ := (Option.any_eq_true _ _).mp possible
  have run := Transition.run_iff_runs.mpr reached
  have rows := of_decide_eq_true found
  refine ⟨server, run, rows, ?_⟩
  exact accounts_have_codes carolGate carolRedis {} { size := 4 } carolTwice server run carolRow (by rw [rows]; exact List.mem_cons_self)

/-! ## What a login takes -/

/-- What the handler of a login asks for: the row, and then a chat server. -/
def HttpLoginAsks (login : Gate.UserLoginRequest) (told : GateLedger) (asked : GateOp) : Prop :=
  told = [] ∧ asked = .checkPassword login ∨ isRpc asked = true

/-- It only succeeds when the row has been there, or the table has answered with an error that is none. -/
def HttpLoginEnds (login : Gate.UserLoginRequest) (told : GateLedger) (result : Except GateException HttpResponse) : Prop :=
  ∀ response, result = .ok response → Gate.ReportsSuccess response →
    (∃ entry id, told = [entry, ⟨.checkPassword login, .ok (.ok id)⟩] ∧ isRpc entry.1 = true) ∨
      told = [⟨.checkPassword login, .ok (.error .success)⟩]

/-- MySQL has looked this login up for this request; nothing has been read on the connection since. What it showed was, for the
    column, the current password of the user at that moment. -/
def CheckedIn (lib : GateLib) (weight : Collation) (id : Nat) (http : HttpRequest) (login : Gate.UserLoginRequest)
    (history : List HttpEvent) : Prop :=
  ∃ middle before passwd, history = middle ++ .executed id http (.checkPassword login) :: before ∧
    (∀ other, .received id other ∉ middle) ∧ weight passwd = weight login.passwd ∧
    CurrentPassword lib.json weight login.user passwd (recordsOf lib before)

/-- Before each successful login its password has been looked up. -/
def LoginsCurrent (lib : GateLib) (weight : Collation) (history : List HttpEvent) : Prop :=
  ∀ later id request response earlier, history = later ++ .handled id request response :: earlier →
    isPost lib "/user_login" request = true → Gate.ReportsSuccess response →
    ∃ login, parseJson lib.json Gate.UserLoginRequest.fromJson request.body = some login ∧ CheckedIn lib weight id request login earlier

section Logins

variable {lib : GateLib} {weight : Collation} {request : HttpRequest}

theorem userLogin_guided {body : Bytes} {login : Gate.UserLoginRequest}
    (parsed : parseJson lib.json Gate.UserLoginRequest.fromJson body = some login) :
    (caught (Endpoint.userLogin lib.json body)).Guided (HttpLoginAsks login) (HttpLoginEnds login) [] := by
  unfold Endpoint.userLogin
  rw [parsed]
  refine ⟨.inl ⟨rfl, rfl⟩, fun result => ?_⟩
  rcases result with code | err | id
  · intro response same success
    cases same
    exact absurd success (Gate.not_reportsSuccess_error _ _)
  · intro response same success
    cases same
    have none : err = .success := Gate.reportsSuccess_payload.mp success
    rw [none]
    exact .inr rfl
  · refine ⟨.inr rfl, fun response => ?_⟩
    intro answer same success
    exact .inl ⟨_, id, rfl, rfl⟩

theorem handleRequest_login (post : isPost lib "/user_login" request = true) :
    Dispatcher.handleRequest lib request = caught (Endpoint.userLogin lib.json request.body) := by
  simp only [isPost, decide_eq_true_eq] at post
  obtain ⟨verb, there⟩ := post
  obtain ⟨target, parsed, path⟩ := Option.map_eq_some_iff.mp there
  rw [dispatched parsed _ .post (fun lib request _ => Endpoint.userLogin lib.json request.body)
    (by simp [Dispatcher.handlersInit]) path, if_pos verb.symm]

/-- The table knows no such error. -/
theorem checkPassword_error (login : Gate.UserLoginRequest) (storing : MysqlOutcome) (users : UserTable weight) :
    UserRepo.checkPassword login storing users ≠ .ok (.error .success) := by
  unfold UserRepo.checkPassword
  cases storing with
  | answered => cases users.selectId login.user login.passwd <;> exact fun same => by cases same
  | failed code => exact fun same => by cases same
  | lost code => exact fun same => by cases same

theorem checkPassword_row {login : Gate.UserLoginRequest} {storing : MysqlOutcome} {users : UserTable weight} {id : Int64}
    (answered : UserRepo.checkPassword login storing users = .ok (.ok id)) :
    ∃ passwd, weight passwd = weight login.passwd ∧ HasPassword users login.user passwd := by
  unfold UserRepo.checkPassword at answered
  cases storing with
  | answered =>
    cases selected : users.selectId login.user login.passwd with
    | nil => simp [MysqlOutcome.settle, Except.map, selected] at answered
    | cons first rest =>
      have there : first ∈ users.selectId login.user login.passwd := by simp [selected]
      obtain ⟨row, member, name, pwd, _⟩ := mem_selectId.mp there
      exact ⟨row.pwd, pwd, row, member, name, rfl⟩
  | failed code => cases answered
  | lost code => cases answered

/-- A login that succeeds has been told that there is such a row. -/
theorem login_told (post : isPost lib "/user_login" request = true) {told : GateLedger} {response : HttpResponse}
    (leads : (Dispatcher.handleRequest lib request).Leads told (.ret response)) (success : Gate.ReportsSuccess response) :
    ∃ login answer, parseJson lib.json Gate.UserLoginRequest.fromJson request.body = some login ∧
      ⟨.checkPassword login, answer⟩ ∈ told ∧ (answer = .ok (.error .success) ∨ ∃ id, answer = .ok (.ok id)) := by
  rw [handleRequest_login post] at leads
  cases parsed : parseJson lib.json Gate.UserLoginRequest.fromJson request.body with
  | none =>
    have refuses : caught (Endpoint.userLogin lib.json request.body) = .ret (Gate.badRequest "Invalid JSON body") := by
      rw [Endpoint.userLogin, parsed]
      rfl
    cases (leads.of_ret refuses).2
    exact absurd success (Gate.not_reportsSuccess_error _ _)
  | some login =>
    rcases leads.guided (userLogin_guided parsed) response rfl success with ⟨entry, id, same, _⟩ | same
    · exact ⟨login, .ok (.ok id), rfl, by simp [same], .inr ⟨id, rfl⟩⟩
    · exact ⟨login, .ok (.error .success), rfl, by simp [same], .inl rfl⟩

variable {bounds : Bounds} {server after : HttpServer weight} {gate : GateSystem weight}

theorem decideOn_history (ready : HttpServer weight) (id : Nat) (request : HttpRequest) (rest : RequestHandler) :
    ∃ newer, (ready.decideOn id request rest).history = newer ++ ready.history ∧ ∀ id other, .received id other ∉ newer := by
  cases rest with
  | ret response => exact ⟨[.decided id request response], rfl, by simp⟩
  | _ => exact ⟨[], rfl, by simp⟩

/-- A step adds to the history, and a request only where it reads one. -/
theorem history_grows (attended : Attended lib server) {act : HttpAct} (taken : server.step lib act = some after) :
    ∃ newer, after.history = newer ++ server.history ∧
      ∀ id other, .received id other ∈ newer → ∃ rpc, act = .read id (some other) rpc := by
  have turns : ∀ {ready later : HttpServer weight} {id request first}, HttpTurn lib id request first ready later →
      ∃ newer, later.history = newer ++ ready.history ∧ ∀ id other, .received id other ∉ newer := by
    intro ready later id request first turn
    cases turn with
    | @returned _ response _ _ => exact ⟨[.handled id request response], rfl, by simp⟩
    | suspended _ _ => exact ⟨[], rfl, by simp⟩
  cases (http_steps taken).2 with
  | @received id uuid context request rpc here =>
    obtain ⟨first, decided, silent⟩ :=
      decideOn_history (server.record (.received id request)) id request (Dispatcher.handleRequest lib request)
    obtain ⟨second, turned, quiet⟩ := turns (resume_turn .start rpc
      ((server.record (.received id request)).decideOn id request (Dispatcher.handleRequest lib request)))
    refine ⟨second ++ first ++ [.received id request], ?_, ?_⟩
    · rw [turned, decided]
      simp [HttpServer.record]
    · intro other asked member
      simp only [List.mem_append, List.mem_singleton, HttpEvent.received.injEq, silent, quiet, or_self, false_or] at member
      obtain ⟨rfl, rfl⟩ := member
      exact ⟨rpc, rfl⟩
  | @executed id uuid context request told op next answer users getting storing here executed =>
    obtain ⟨first, decided, silent⟩ :=
      decideOn_history ({ server with users }.record (.executed id request op)) id request (next answer)
    refine ⟨first ++ [.executed id request op], ?_, ?_⟩
    · change (HttpServer.decideOn _ _ _ _).history = _
      rw [decided]
      simp [HttpServer.record]
    · intro other asked member
      simp [silent] at member
  | @resumed id uuid context request told rest rpc here =>
    obtain ⟨_, _, _, leads⟩ := (attended.progress id _ here).working rfl
    obtain ⟨newer, same, quiet⟩ := turns (resume_turn leads rpc server)
    exact ⟨newer, same, fun id other member => absurd member (quiet id other)⟩
  | @again id uuid context request reply here keeps => exact ⟨[.written id reply], rfl, by simp⟩
  | @last id uuid context request reply here closes => exact ⟨[.written id reply], rfl, by simp⟩
  | _ => exact ⟨[], rfl, by simp⟩

/-- What is executed is recorded first. -/
theorem exec_history {id : Nat} {uuid : String} {context : Nat} {told : GateLedger} {op : GateOp} {next : op.Res → RequestHandler}
    {getting : Outcome} {storing : MysqlOutcome} (here : server.connection id = some ⟨uuid, context, .handling request told op next⟩)
    (taken : server.step lib (.exec id getting storing) = some after) :
    ∃ newer, after.history = newer ++ .executed id request op :: server.history ∧ ∀ other, .received id other ∉ newer := by
  cases (http_steps taken).2 with
  | @executed _ _ _ _ _ _ next answer users _ _ there executed =>
    cases here.symm.trans there
    obtain ⟨newer, decided, silent⟩ := decideOn_history ({ server with users }.record (.executed id request op)) id request (next answer)
    exact ⟨newer, decided, silent id⟩

theorem CheckedIn.grows {id : Nat} {http : HttpRequest} {login : Gate.UserLoginRequest} {newer history : List HttpEvent}
    (checked : CheckedIn lib weight id http login history) (unread : ∀ other, .received id other ∉ newer) :
    CheckedIn lib weight id http login (newer ++ history) := by
  obtain ⟨middle, before, passwd, same, silent, rest⟩ := checked
  refine ⟨newer ++ middle, before, passwd, ?_, ?_, rest⟩
  · rw [same, List.append_assoc]
  · intro other member
    rcases List.mem_append.mp member with new | old
    · exact unread other new
    · exact silent other old

/-- What the handlers of logins have been told by MySQL. -/
def LoginsChecked (lib : GateLib) (server : HttpServer weight) : Prop :=
  ∀ id connection http told rest, server.connection id = some connection →
    Serving.task connection.serving = some (http, told, rest) → ∀ login answer, ⟨.checkPassword login, answer⟩ ∈ told →
    answer ≠ .ok (.error .success) ∧ ∀ number, answer = .ok (.ok number) → CheckedIn lib weight id http login server.history

theorem loginsChecked_step (simulates : Simulates lib bounds server gate) (kept : Kept lib.json gate) (attended : Attended lib server)
    (checked : LoginsChecked lib server) {act : HttpAct} (taken : server.step lib act = some after) : LoginsChecked lib after := by
  obtain ⟨newer, grows, reads⟩ := history_grows attended taken
  intro id connection http told rest found task login answer member
  have old : (∀ read rpc, act ≠ .read id read rpc) → ∀ {connection told rest}, server.connection id = some connection →
      Serving.task connection.serving = some (http, told, rest) → ⟨.checkPassword login, answer⟩ ∈ told →
      answer ≠ .ok (.error .success) ∧ ∀ number, answer = .ok (.ok number) → CheckedIn lib weight id http login after.history := by
    intro unread connection told rest before known heard
    obtain ⟨sound, passes⟩ := checked id connection http told rest before known login answer heard
    refine ⟨sound, ?_⟩
    intro number same
    rw [grows]
    apply (passes number same).grows
    intro other received
    obtain ⟨rpc, read⟩ := reads id other received
    exact unread _ _ read
  cases task_from attended taken found task with
  | kept before known rpcs unread =>
    rcases List.mem_append.mp member with rpc | heard
    · cases rpcs _ rpc
    · exact old unread before known heard
  | received rpc same rpcs => cases rpcs _ member
  | @executed uuid context told op next answer' users getting storing same here executed =>
    subst same
    rcases List.mem_cons.mp member with new | heard
    · cases new
      have answered : UserRepo.checkPassword login storing server.users = answer := (Prod.mk.inj (Option.some.inj executed)).1
      refine ⟨fun same => checkPassword_error _ _ _ (answered.trans same), ?_⟩
      intro number same
      obtain ⟨passwd, pwd, has⟩ := checkPassword_row (answered.trans same)
      obtain ⟨middle, history, silent⟩ := exec_history here taken
      refine ⟨middle, server.history, passwd, history, silent, pwd, ?_⟩
      rw [← simulates.history, kept login.user passwd, simulates.users]
      exact has
    · exact old nofun here rfl heard

theorem loginsCurrent_cons {event : HttpEvent} {history : List HttpEvent} (holds : LoginsCurrent lib weight history)
    (fits : ∀ id request response, event = .handled id request response → isPost lib "/user_login" request = true →
      Gate.ReportsSuccess response → ∃ login, parseJson lib.json Gate.UserLoginRequest.fromJson request.body = some login ∧
        CheckedIn lib weight id request login history) :
    LoginsCurrent lib weight (event :: history) := by
  intro later id request response earlier same
  cases later with
  | nil =>
    obtain ⟨here, rest⟩ := List.cons.inj same
    subst rest
    exact fits id request response here
  | cons newest later => exact holds later id request response earlier (List.cons.inj same).2

theorem loginsCurrent_silent {event : HttpEvent} {history : List HttpEvent} (holds : LoginsCurrent lib weight history)
    (silent : ∀ id request response, event ≠ .handled id request response) : LoginsCurrent lib weight (event :: history) :=
  loginsCurrent_cons holds fun id request response same => absurd same (silent id request response)

theorem loginsCurrent_decideOn {ready : HttpServer weight} (holds : LoginsCurrent lib weight ready.history) (id : Nat)
    (request : HttpRequest) (rest : RequestHandler) : LoginsCurrent lib weight (ready.decideOn id request rest).history := by
  cases rest with
  | ret response => exact loginsCurrent_silent holds fun _ _ _ => HttpEvent.noConfusion
  | _ => exact holds

theorem loginsCurrent_turn {ready : HttpServer weight} {id : Nat} {first : GateLedger} (holds : LoginsCurrent lib weight ready.history)
    (turn : HttpTurn lib id request first ready after) (checked : ∀ login answer, ⟨.checkPassword login, answer⟩ ∈ first →
      answer ≠ .ok (.error .success) ∧ ∀ number, answer = .ok (.ok number) → CheckedIn lib weight id request login ready.history) :
    LoginsCurrent lib weight after.history := by
  cases turn with
  | suspended leads rpcs => exact holds
  | returned leads rpcs =>
    apply loginsCurrent_cons holds
    intro other asking reply event post success
    cases event
    obtain ⟨login, answer, parsed, member, ends⟩ := login_told post leads success
    refine ⟨login, parsed, ?_⟩
    rcases List.mem_append.mp member with rpc | heard
    · cases rpcs _ rpc
    · obtain ⟨sound, passes⟩ := checked login answer heard
      rcases ends with wrong | ⟨number, same⟩
      · exact absurd wrong sound
      · exact passes number same

/-- Outcomes and texts that keep the passwords of the table the current ones. -/
def Bounds.KeepText (bounds : Bounds) (lib : JsonLib) : Prop :=
  (∀ code, ¬ bounds.stored (.lost code)) ∧ ∀ body, bounds.asked body →
    (∀ request, parseJson lib UserRegisterRequest.fromJson body = some request → StoredWhole request.user ∧ StoredWhole request.passwd) ∧
      ∀ request, parseJson lib UserResetPasswordRequest.fromJson body = some request → StoredWhole request.passwd

theorem Bounds.KeepText.keeps {json : JsonLib} {act : GateAct} (text : bounds.KeepText json) (allowed : bounds.Allows act)
    (gate : GateSystem weight) : KeepsText json gate act := by
  have heard : ∀ storing, bounds.stored storing → ∀ code, storing ≠ .lost code := by
    intro storing stored code same
    exact text.1 code (same ▸ stored)
  cases act with
  | userRegister body getting storing => exact ⟨heard storing allowed.2, (text.2 body allowed.1).1⟩
  | resetPassword body getting storing => exact ⟨heard storing allowed.2, (text.2 body allowed.1).2⟩
  | userLogin body checking => trivial
  | others redis => trivial

/-- The server beside the system of its accounts, whose passwords are the current ones. -/
structure Admits (lib : GateLib) (bounds : Bounds) (server : HttpServer weight) (gate : GateSystem weight) : Prop where
  simulates : Simulates lib bounds server gate
  kept : Kept lib.json gate
  checked : LoginsChecked lib server
  logins : LoginsCurrent lib weight server.history

theorem Admits.logins_step {act : HttpAct} (admits : Admits lib bounds server gate) (attended : Attended lib server)
    (taken : server.step lib act = some after) : LoginsCurrent lib weight after.history := by
  obtain ⟨_, _, checked, logins⟩ := admits
  cases (http_steps taken).2 with
  | @received id uuid context request rpc here =>
    have recorded : LoginsCurrent lib weight (server.record (.received id request)).history :=
      loginsCurrent_silent logins fun _ _ _ => HttpEvent.noConfusion
    refine loginsCurrent_turn (loginsCurrent_decideOn recorded id request _) (resume_turn .start rpc _) ?_
    intro login answer absent
    cases absent
  | @executed id uuid context request told op next answer users getting storing here executed =>
    have recorded : LoginsCurrent lib weight ({ server with users }.record (.executed id request op)).history :=
      loginsCurrent_silent logins fun _ _ _ => HttpEvent.noConfusion
    exact loginsCurrent_decideOn recorded id request _
  | @resumed id uuid context request told rest rpc here =>
    obtain ⟨_, _, _, leads⟩ := (attended.progress id _ here).working rfl
    exact loginsCurrent_turn logins (resume_turn leads rpc server) (checked id _ request told rest here rfl)
  | again here keeps => exact loginsCurrent_silent logins fun _ _ _ => HttpEvent.noConfusion
  | last here closes => exact loginsCurrent_silent logins fun _ _ _ => HttpEvent.noConfusion
  | _ => exact logins

theorem Admits.step {act : HttpAct} (admits : Admits lib bounds server gate)
    (text : bounds.KeepText lib.json) (attended : Attended lib server) (meets : bounds.Meets act)
    (taken : server.step lib act = some after) : ∃ actions gate', Transition.Run (GateSystem.step lib.json) gate actions gate' ∧
      (∀ act ∈ actions, bounds.Allows act) ∧ Admits lib bounds after gate' := by
  obtain ⟨actions, gate', matching, allowed, later⟩ := admits.simulates.step attended meets taken
  have kept : Kept lib.json gate' := matching.invariant_of_all
    (fun gate _ _ kept allowed taken => kept.step (text.keeps allowed gate) taken) allowed admits.kept
  have checked := loginsChecked_step admits.simulates admits.kept attended admits.checked taken
  exact ⟨actions, gate', matching, allowed, later, kept, checked, admits.logins_step attended taken⟩

end Logins

theorem http_logins_current {weight : Collation} (lib : GateLib) (redis : Redis) (pool : ContextPool) (acts : List HttpAct)
    (server : HttpServer weight) (run : Transition.Run (HttpServer.step lib) { redis, pool } acts server)
    (text : (boundsOf redis acts).KeepText lib.json) : LoginsCurrent lib weight server.history := by
  have start : Admits lib (boundsOf redis acts) ({ redis, pool } : HttpServer weight) { redis } := by
    refine ⟨simulates_start lib {} pool (.inl rfl), kept_start lib.json redis, ?_, ?_⟩
    · intro id connection http told rest found
      cases found
    · intro later id request response earlier same
      cases later <;> cases same
  obtain ⟨actions, gate, matching, allowed, admits⟩ := run.refines
    (fun _ _ _ _ attended admits meets taken => admits.step text attended meets taken)
    (fun _ _ _ attended taken => attended.step taken) (boundsOf_meets redis) (start_attended lib redis {}) start
  exact admits.logins

/-- The status server has a chat server for every user. -/
def chatRpc : GateRpc where
  getVerifyCode _ := none
  getChatServer _ := some { error := 0, host := "127.0.0.1", port := 8090, token := "3f" }

/-- Carol registers, and logs in on another connection as soon as her row is there. -/
def carolEnters : List HttpAct :=
  [.accept "first", .accept "second", .read 0 (some (carolPost "/user_register" carolBody)) noRpc, .exec 0 .ok .answered,
    .resume 0 noRpc, .exec 0 .ok .answered, .read 1 (some (carolPost "/user_login" (carolLogin "Secret"))) chatRpc,
    .exec 1 .ok .answered, .resume 0 noRpc, .resume 1 chatRpc]

def carolWelcome : HttpResponse :=
  Gate.nlohmannJsonResponse (Gate.responsePayload (some (Gate.UserLoginResponse.toJson
    { id := 1, user := "carol", token := "3f", host := "127.0.0.1", port := 8090 })) .success)

theorem carolEnters_text : (boundsOf carolRedis carolEnters).KeepText carolLib := by
  have short : StoredWhole "carol" ∧ StoredWhole "Secret" := ⟨storedWhole_short (by decide), storedWhole_short (by decide)⟩
  constructor
  · intro code stored
    simp [boundsOf, carolEnters] at stored
  · intro body asked
    obtain ⟨id, request, rpc, member, same⟩ := asked
    simp only [carolEnters, List.mem_cons, List.not_mem_nil, or_false, HttpAct.read.injEq, Option.some.injEq, reduceCtorEq,
      false_or] at member
    rw [← same]
    rcases member with ⟨_, registers, _⟩ | ⟨_, enters, _⟩
    · rw [registers]
      constructor
      · intro request parsed
        cases carol_parsed.symm.trans parsed
        exact short
      · intro request parsed
        have reset : parseJson carolLib UserResetPasswordRequest.fromJson carolBody =
            some ⟨"carol", "carol@example.com", "Secret", "7f3c"⟩ := by decide +kernel
        cases reset.symm.trans parsed
        exact short.2
    · rw [enters]
      constructor
      · intro request parsed
        have none : parseJson carolLib UserRegisterRequest.fromJson (carolLogin "Secret") = none := by decide +kernel
        cases none.symm.trans parsed
      · intro request parsed
        have none : parseJson carolLib UserResetPasswordRequest.fromJson (carolLogin "Secret") = none := by decide +kernel
        cases none.symm.trans parsed

theorem http_logins_current_carol : ∃ server : HttpServer caseless,
    Transition.Run (HttpServer.step carolGate) { redis := carolRedis } carolEnters server ∧
      ∃ login earlier, server.history = .handled 1 (carolPost "/user_login" (carolLogin "Secret")) carolWelcome :: earlier ∧
        parseJson carolLib Gate.UserLoginRequest.fromJson (carolLogin "Secret") = some login ∧
        CheckedIn carolGate caseless 1 (carolPost "/user_login" (carolLogin "Secret")) login earlier := by
  have possible : ((Transition.runs (HttpServer.step carolGate) ({ redis := carolRedis } : HttpServer caseless) carolEnters).any
      fun server => server.history.head? = some (.handled 1 (carolPost "/user_login" (carolLogin "Secret")) carolWelcome)) = true := by
    decide +kernel
  obtain ⟨server, reached, found⟩ := (Option.any_eq_true _ _).mp possible
  have run := Transition.run_iff_runs.mpr reached
  obtain ⟨earlier, same⟩ := List.head?_eq_some_iff.mp (of_decide_eq_true found)
  obtain ⟨login, parsed, checked⟩ := http_logins_current carolGate carolRedis { size := 4 } carolEnters server run carolEnters_text
    [] 1 (carolPost "/user_login" (carolLogin "Secret")) carolWelcome earlier same (by decide +kernel) ⟨_, rfl⟩
  exact ⟨server, run, login, earlier, same, parsed, checked⟩

end ChatProof
