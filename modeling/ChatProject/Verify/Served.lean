import ChatProject.Verify.VerifyService

/-! What a step of the verification service can do. -/

namespace ChatProof

open ChatModel

/-! ## Where a call can be -/

def storing (email code : String) : Coroutine VerifyOp VerifyOp.Res Int32 String :=
  .call (.setExpired email code 600) fun stored : Bool => if stored then .ret code else .throw (-1)

def generating (email : String) : Coroutine VerifyOp VerifyOp.Res Int32 String := .call .uuid (storing email)

/-- A call asks Redis, or makes a code, or stores the code that it has made. -/
inductive Stage (history : List VerifyEvent) (call : VerifyCall) : Prop
  | asking : call.running = VerifyService.getVerifyCode call.email → Stage history call
  | generating : call.running = generating call.email → Stage history call
  | storing (code : String) : .generated call.email code ∈ history → call.running = storing call.email code →
      Stage history call

def Staged (server : VerifyServer) : Prop := ∀ id call, server.call id = some call → Stage server.history call

/-- The act is the `SETEX` of this code for this email. -/
def StoresCode (server : VerifyServer) (act : VerifyAct) (email code : String) : Prop :=
  ∃ id outcome, act = .setex id outcome ∧ server.call id = some ⟨email, storing email code⟩

/-- All that a step of the service can do to its history and to Redis. -/
inductive Served (server : VerifyServer) (redis : Redis) (act : VerifyAct) : List VerifyEvent × Redis → Prop
  | quiet : Served server redis act (server.history, redis)
  | generated (email code : String) : Served server redis act (.generated email code :: server.history, redis)
  | found (email code : String) : (∃ id call, server.call id = some call ∧ call.email = email) → redis.get email = some code →
      Served server redis act (.answered redis.now { email, code } :: server.history, redis)
  | stored (email code : String) (response : GetVerifyResponse) : .generated email code ∈ server.history →
      StoresCode server act email code → (response.error = 0 → response = { email, code }) →
      Served server redis act (.answered redis.now response :: .stored redis.now email code :: server.history,
        redis.setex email 600 code)
  | failed (response : GetVerifyResponse) : response.error ≠ 0 →
      Served server redis act (.answered redis.now response :: server.history, redis)

section Steps

variable {server : VerifyServer} {redis : Redis} {id : Nat} {email : String} {now : Nat}

theorem Stage.later {history : List VerifyEvent} {call : VerifyCall} (stage : Stage history call)
    (events : List VerifyEvent) : Stage (events ++ history) call := by
  cases stage with
  | asking same => exact .asking same
  | generating same => exact .generating same
  | storing code made same => exact .storing code (List.mem_append_right events made) same

/-- A server whose history has grown, and of whose calls only this one may be new. -/
theorem Staged.grown {after : VerifyServer} {call : Option VerifyCall} (staged : Staged server) (events : List VerifyEvent)
    (history : after.history = events ++ server.history) (calls : after.call = Function.update server.call id call)
    (stage : ∀ known, call = some known → Stage after.history known) : Staged after := by
  intro other known there
  rw [calls] at there
  by_cases same : other = id
  · subst same
    rw [Function.update_self] at there
    exact stage known there
  · rw [Function.update_of_ne same] at there
    rw [history]
    exact (staged other known there).later events

theorem Staged.record (staged : Staged server) (event : VerifyEvent) : Staged (server.record event) :=
  fun other known there => (staged other known there).later [event]

theorem Staged.finish (staged : Staged server) (uniqueId : Except Int32 String) :
    Staged (server.finish id email uniqueId now) :=
  staged.grown [.answered now (VerifyService.reply email uniqueId).1] rfl rfl fun _ absent => nomatch absent

theorem Staged.generating (staged : Staged server) : Staged (server.resume id email (generating email) now) := by
  refine staged.grown [] rfl rfl ?_
  intro known same
  cases same
  exact .generating rfl

theorem Staged.storing (staged : Staged server) {code : String} (made : .generated email code ∈ server.history) :
    Staged (server.resume id email (storing email code) now) := by
  refine staged.grown [] rfl rfl ?_
  intro known same
  cases same
  exact .storing code made rfl

theorem step_get {outcome : Outcome} {after : VerifyServer × Redis} (staged : Staged server)
    (stepped : server.step redis (.get id outcome) = some after) :
    Staged after.1 ∧ Served server redis (.get id outcome) (after.1.history, after.2) := by
  simp only [VerifyServer.step] at stepped
  split at stepped
  case h_2 => cases stepped
  rename_i email key next there
  cases stepped
  dsimp only
  rw [RedisClient.get_redis]
  cases staged id _ there with
  | generating same => cases same
  | storing code made same => cases same
  | asking same =>
    dsimp only at same
    cases same
    cases answered : (RedisClient.get email outcome redis).1 with
    | none => exact ⟨staged.generating, .quiet⟩
    | some code =>
      have held : redis.get email = some code := by
        cases outcome with
        | ok => exact answered
        | error => cases answered
        | lost => cases answered
      exact ⟨staged.finish (.ok code), .found email code ⟨id, _, there, rfl⟩ held⟩

theorem step_uuid {code : String} {after : VerifyServer × Redis} (staged : Staged server)
    (stepped : server.step redis (.uuid id code) = some after) :
    Staged after.1 ∧ Served server redis (.uuid id code) (after.1.history, after.2) := by
  simp only [VerifyServer.step] at stepped
  split at stepped
  case h_2 => cases stepped
  rename_i email next there
  cases stepped
  cases staged id _ there with
  | asking same => cases same
  | storing code made same => cases same
  | generating same =>
    dsimp only at same
    cases same
    have made : .generated email code ∈ (server.record (.generated email code)).history := List.mem_cons_self
    have next : Staged ((server.record (.generated email code)).resume id email (storing email code) redis.now) :=
      (staged.record _).storing made
    exact ⟨next, .generated email code⟩

theorem step_setex {outcome : Outcome} {after : VerifyServer × Redis} (staged : Staged server)
    (stepped : server.step redis (.setex id outcome) = some after) :
    Staged after.1 ∧ Served server redis (.setex id outcome) (after.1.history, after.2) := by
  simp only [VerifyServer.step] at stepped
  split at stepped
  case h_2 => cases stepped
  rename_i email key code ttl next there
  cases stepped
  cases staged id _ there with
  | asking same => cases same
  | generating same => cases same
  | storing value made same =>
    dsimp only at same made
    cases same
    have stores : StoresCode server (.setex id outcome) email code := ⟨id, outcome, rfl, there⟩
    cases outcome with
    | ok => exact ⟨(staged.record _).finish (.ok code), .stored email code _ made stores fun _ => rfl⟩
    | error =>
      have fails : (VerifyService.reply email (.error (-1))).1.error ≠ 0 := by
        change (-1 : Int32) ≠ 0
        decide
      exact ⟨staged.finish (.error (-1)), .failed _ fails⟩
    | lost =>
      have fails : ∀ response : GetVerifyResponse, response.error = -1 → response.error = 0 →
          response = { email, code } := by
        intro response error success
        rw [error] at success
        exact absurd success (by decide)
      exact ⟨(staged.record _).finish (.error (-1)), .stored email code _ made stores (fails _ rfl)⟩

theorem step_served {act : VerifyAct} {after : VerifyServer × Redis} (staged : Staged server)
    (stepped : server.step redis act = some after) :
    Staged after.1 ∧ Served server redis act (after.1.history, after.2) := by
  cases act with
  | receive id request =>
    simp only [VerifyServer.step] at stepped
    split at stepped
    case h_2 => cases stepped
    cases stepped
    refine ⟨staged.grown [] rfl rfl ?_, .quiet⟩
    intro known same
    cases same
    exact .asking rfl
  | get id outcome => exact step_get staged stepped
  | uuid id code => exact step_uuid staged stepped
  | setex id outcome => exact step_setex staged stepped

end Steps

section Calls

variable {server : VerifyServer} {redis : Redis} {inv : String → Prop}

/-- Every call under way is for an email of this kind. -/
def CallsFor (inv : String → Prop) (server : VerifyServer) : Prop := ∀ id call, server.call id = some call → inv call.email

theorem CallsFor.setCall (calls : CallsFor inv server) (id : Nat) {call : Option VerifyCall}
    (new : ∀ known, call = some known → inv known.email) : CallsFor inv (server.setCall id call) := by
  intro other known there
  have updated : Function.update server.call id call other = some known := there
  by_cases same : other = id
  · subst same
    rw [Function.update_self] at updated
    exact new known updated
  · rw [Function.update_of_ne same] at updated
    exact calls other known updated

theorem CallsFor.record (calls : CallsFor inv server) (event : VerifyEvent) : CallsFor inv (server.record event) := calls

theorem CallsFor.finish (calls : CallsFor inv server) (id : Nat) (email : String) (uniqueId : Except Int32 String) (now : Nat) :
    CallsFor inv (server.finish id email uniqueId now) := calls.setCall id nofun

theorem CallsFor.resume (calls : CallsFor inv server) (id : Nat) {email : String} (known : inv email)
    (rest : Coroutine VerifyOp VerifyOp.Res Int32 String) (now : Nat) : CallsFor inv (server.resume id email rest now) := by
  cases rest with
  | ret code => exact calls.finish id email (.ok code) now
  | throw error => exact calls.finish id email (.error error) now
  | call op next =>
    refine calls.setCall id ?_
    intro call same
    cases same
    exact known

/-- The emails of all calls are those of requests that have come in. -/
theorem CallsFor.step (calls : CallsFor inv server) {act : VerifyAct} {after : VerifyServer × Redis}
    (stepped : server.step redis act = some after) (received : ∀ id request, act = .receive id request → inv request.email) :
    CallsFor inv after.1 := by
  cases act with
  | receive id request =>
    simp only [VerifyServer.step] at stepped
    split at stepped <;> cases stepped
    refine calls.setCall id ?_
    intro call same
    cases same
    exact received id request rfl
  | get id outcome =>
    simp only [VerifyServer.step] at stepped
    split at stepped <;> cases stepped
    rename_i there
    exact calls.resume id (calls id _ there) _ _
  | uuid id code =>
    simp only [VerifyServer.step] at stepped
    split at stepped <;> cases stepped
    rename_i there
    exact (calls.record _).resume id (calls id _ there) _ _
  | setex id outcome =>
    simp only [VerifyServer.step] at stepped
    split at stepped <;> cases stepped
    rename_i email key value ttl next there
    have recorded : CallsFor inv (if outcome = .error then server else server.record (.stored redis.now key value)) := by
      by_cases fails : outcome = .error
      · rw [if_pos fails]
        exact calls
      · rw [if_neg fails]
        exact calls.record _
    exact recorded.resume id (calls id _ there) _ _

end Calls

end ChatProof
