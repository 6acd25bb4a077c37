import ChatProject.Gate.UserRepo
import ChatProject.Store.Redis

namespace ChatModel

structure HttpResponse where
  status : Nat := 200
  contentType : Option String := none
  body : String
deriving DecidableEq, Repr

/-- An exception that leaves a handler. -/
inductive GateException where
  | mysql (code : Nat)
  | redis
deriving DecidableEq, Repr

namespace Gate

def errorResponse (status : Nat) (msg : String) : HttpResponse := { status, body := msg }

def badRequest (body : String) : HttpResponse := errorResponse 400 body

def internalServerError : HttpResponse := errorResponse 500 "Internal server error"

def nlohmannJsonResponse (body : Json Int) : HttpResponse :=
  { contentType := some "application/json", body := body.dump }

/-- `response_payload` with the text of the error as its message. -/
def responsePayload (body : Option (Json Int)) (err : ServiceError) : Json Int :=
  let document := (Json.null.set "status" (.num (err.code : Int))).set "message" (.str err.text)
  match body with
  | some body => document.set "data" body
  | none => document

def responsePayloadEmpty (err : ServiceError) : Json Int := responsePayload none err

example : (responsePayloadEmpty .success).dump = "\x7b\"message\":\"Ok\",\"status\":0\x7d" := by
  decide +kernel

/-- `GET`, where the answer is taken with `value()`, which throws when there is none. -/
def redisGet (key : String) (outcome : Outcome) (redis : Redis) : Except GateException (Option String) :=
  match outcome, redis.lookup key with
  | .ok, some (.string value) => .ok (some value)
  | .ok, none => .ok none
  | _, _ => .error .redis

section Handlers

variable {weight : Collation}

def userRegister (lib : JsonLib) (body : Bytes) (getting : Outcome) (storing : MysqlOutcome) (redis : Redis)
    (users : UserTable weight) : Except GateException HttpResponse × UserTable weight :=
  match parseJson lib UserRegisterRequest.fromJson body with
  | none => (.ok (badRequest "Invalid JSON body"), users)
  | some request =>
    match redisGet request.email getting redis with
    | .error exception => (.error exception, users)
    | .ok result =>
      if result ≠ some request.verifyCode then
        (.ok (nlohmannJsonResponse (responsePayloadEmpty .invalidVerifyCode)), users)
      else
        let (userInfo, users) := UserRepo.createUser request storing users
        match userInfo with
        | .error code => (.error (.mysql code), users)
        | .ok (.error _) => (.ok (nlohmannJsonResponse (responsePayloadEmpty .userOrEmailExist)), users)
        | .ok (.ok userInfo) => (.ok (nlohmannJsonResponse (responsePayload (some userInfo.toJson) .success)), users)

def resetPassword (lib : JsonLib) (body : Bytes) (getting : Outcome) (storing : MysqlOutcome) (redis : Redis)
    (users : UserTable weight) : Except GateException HttpResponse × UserTable weight :=
  match parseJson lib UserResetPasswordRequest.fromJson body with
  | none => (.ok (badRequest "Invalid JSON body"), users)
  | some request =>
    match redisGet request.email getting redis with
    | .error exception => (.error exception, users)
    | .ok result =>
      if result ≠ some request.verifyCode then
        (.ok (nlohmannJsonResponse (responsePayloadEmpty .invalidVerifyCode)), users)
      else
        let (success, users) := UserRepo.resetPassword request storing users
        match success with
        | .error code => (.error (.mysql code), users)
        | .ok false => (.ok (nlohmannJsonResponse (responsePayloadEmpty .userOrEmailInvalid)), users)
        | .ok true => (.ok (nlohmannJsonResponse (responsePayloadEmpty .success)), users)

end Handlers

/-- `handle_request` around a handler: no exception gets to the client. -/
def respond {σ : Type} (handled : Except GateException HttpResponse × σ) : HttpResponse × σ :=
  match handled with
  | (.ok response, state) => (response, state)
  | (.error _, state) => (internalServerError, state)

/-! ## Which replies report success -/

theorem responsePayload_fields (body : Option (Json Int)) (err : ServiceError) : ∃ front : List (String × Json Int),
    responsePayload body err = .obj (front ++ [("status", .num (err.code : Int))]) := by
  have message : "message" < "status" := by decide
  have data : "data" < "message" := by decide
  cases body with
  | none => exact ⟨[("message", .str err.text)], by simp [responsePayload, Json.set, Json.insertField, message]⟩
  | some body =>
    refine ⟨[("data", body), ("message", .str err.text)], ?_⟩
    simp [responsePayload, Json.set, Json.insertField, message, data]

theorem fieldsChars_last (front : List (String × Json Int)) (name : String) (value : Json Int) :
    ∃ text, Json.fieldsChars (front ++ [(name, value)]) = text ++ value.chars := by
  induction front with
  | nil => exact ⟨Json.quoted name ++ [':'], by simp [Json.fieldsChars]⟩
  | cons head rest ih =>
    obtain ⟨other, old⟩ := head
    obtain ⟨text, same⟩ := ih
    refine ⟨Json.quoted other ++ ':' :: old.chars ++ ',' :: text, ?_⟩
    simp [Json.fieldsChars, same]

/-- Each status is one digit. -/
theorem status_digit (err : ServiceError) : ∃ digit, (Json.num (err.code : Int)).chars = [digit] := by
  cases err <;> exact ⟨_, rfl⟩

/-- The status of a payload can be told from its text. -/
theorem responsePayload_status {body other : Option (Json Int)} {err reported : ServiceError}
    (same : (responsePayload body err).dump = (responsePayload other reported).dump) : err = reported := by
  have ends : ∀ (body : Option (Json Int)) (err : ServiceError), ∃ text,
      (responsePayload body err).dump.toList = text ++ (Json.num (err.code : Int)).chars ++ ['\x7d'] := by
    intro body err
    obtain ⟨front, fields⟩ := responsePayload_fields body err
    obtain ⟨text, chars⟩ := fieldsChars_last front "status" (.num (err.code : Int))
    have braces : ∀ fields, (Json.obj fields).chars = '\x7b' :: (Json.fieldsChars fields ++ ['\x7d']) := by
      intro fields
      rw [Json.chars]
    refine ⟨'\x7b' :: text, ?_⟩
    rw [fields, Json.dump, String.toList_ofList, braces, chars, List.cons_append, List.cons_append]
  obtain ⟨left, first⟩ := ends body err
  obtain ⟨right, second⟩ := ends other reported
  obtain ⟨digit, one⟩ := status_digit err
  obtain ⟨otherDigit, two⟩ := status_digit reported
  rw [one] at first
  rw [two] at second
  rw [same, second, List.append_left_inj] at first
  have last := (List.append_inj' first rfl).2
  have digits : (Json.num (err.code : Int)).chars = (Json.num (reported.code : Int)).chars := by rw [one, two, last]
  revert digits
  cases err <;> cases reported <;> decide

/-- A reply with HTTP status 200 and the service status of success, with any data. -/
def ReportsSuccess (response : HttpResponse) : Prop :=
  ∃ data, response = nlohmannJsonResponse (responsePayload data .success)

theorem reportsSuccess_payload {data : Option (Json Int)} {err : ServiceError} :
    ReportsSuccess (nlohmannJsonResponse (responsePayload data err)) ↔ err = .success := by
  constructor
  · rintro ⟨other, same⟩
    exact responsePayload_status (congrArg HttpResponse.body same)
  · intro success
    exact ⟨data, by rw [success]⟩

theorem not_reportsSuccess_error (status : Nat) (msg : String) : ¬ ReportsSuccess (errorResponse status msg) := by
  rintro ⟨data, same⟩
  cases congrArg HttpResponse.contentType same

end Gate

end ChatModel
