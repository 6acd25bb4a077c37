import ChatProject.Chat.Requests

namespace ChatModel

inductive ServiceError where
  | success
  | notFound
  | invalidJson
  | rpcFailed
  | rpcReturnError
  | invalidVerifyCode
  | userOrEmailExist
  | userOrEmailInvalid
  | userOrPasswordInvalid
deriving DecidableEq, Repr

namespace ServiceError

def code : ServiceError → Nat
  | success => 0
  | notFound => 1
  | invalidJson => 3
  | rpcFailed => 4
  | rpcReturnError => 5
  | invalidVerifyCode => 6
  | userOrEmailExist => 7
  | userOrEmailInvalid => 8
  | userOrPasswordInvalid => 9

/-- `ServiceError2String`. -/
def text : ServiceError → String
  | success => "Ok"
  | notFound => "Not found"
  | invalidJson => "Invalid json"
  | rpcFailed | rpcReturnError => "Internal server error"
  | invalidVerifyCode => "Invalid verify code"
  | userOrEmailExist => "User or email exist"
  | userOrEmailInvalid => "User or email invalid"
  | userOrPasswordInvalid => "User or password invalid"

end ServiceError

/-! ## Requests -/

structure UserRegisterRequest where
  user : String
  email : String
  passwd : String
  confirmPasswd : String
  verifyCode : String
deriving DecidableEq, Repr

structure UserRegisterResponse where
  id : Int64
  user : String
  email : String
  passwd : String
deriving DecidableEq, Repr

structure UserResetPasswordRequest where
  user : String
  email : String
  passwd : String
  verifyCode : String
deriving DecidableEq, Repr

def UserRegisterRequest.fromJson (document : Json Number) : Option UserRegisterRequest :=
  match stringField "user" document, stringField "email" document, stringField "passwd" document,
    stringField "confirm_passwd" document, stringField "verify_code" document with
  | some user, some email, some passwd, some confirmPasswd, some verifyCode =>
    some { user, email, passwd, confirmPasswd, verifyCode }
  | _, _, _, _, _ => none

def UserRegisterResponse.toJson (response : UserRegisterResponse) : Json Int :=
  (((Json.null.set "id" (int64 response.id)).set "user" (.str response.user)).set "email" (.str response.email)).set
    "passwd" (.str response.passwd)

def UserResetPasswordRequest.fromJson (document : Json Number) : Option UserResetPasswordRequest :=
  match stringField "user" document, stringField "email" document, stringField "passwd" document,
    stringField "verify_code" document with
  | some user, some email, some passwd, some verifyCode => some { user, email, passwd, verifyCode }
  | _, _, _, _ => none

/-! ## The table `user` -/

def columnLength : Nat := 255

/-- The value that is stored in a `VARCHAR(255)`: what is too long is an error in strict mode, but for blanks at
    the end, which are cut off. -/
def varcharColumn (text : String) : Option String :=
  if (text.toList.drop columnLength).all (· = ' ') then some (String.ofList (text.toList.take columnLength)) else none

/-- Two texts are equal in a column when they have the same weight in its collation. -/
abbrev Collation := String → String

/-- The rows, and the number that `AUTO_INCREMENT` gives next. -/
structure UserTable (weight : Collation) where
  rows : List UserRow := []
  nextId : Nat := 1
  primary : (rows.map UserRow.id).Nodup := by exact List.nodup_nil
  uniqueName : (rows.map fun row => weight row.name).Nodup := by exact List.nodup_nil
  uniqueEmail : (rows.map fun row => weight row.email).Nodup := by exact List.nodup_nil

/-- The error numbers of the server that are used here. -/
def duplicateEntry : Nat := 1062
def dataTooLong : Nat := 1406

namespace UserTable

variable {weight : Collation}

/-- The counter stays at the last number of an `INT`. -/
def newId (users : UserTable weight) : Int32 := Int32.ofNat (min users.nextId (2 ^ 31 - 1))

/-- A unique index has the new row's entry already. -/
def Conflicts (row : UserRow) (users : UserTable weight) : Prop :=
  ∃ other ∈ users.rows, other.id = row.id ∨ weight other.name = weight row.name ∨ weight other.email = weight row.email

instance (row : UserRow) (users : UserTable weight) : Decidable (users.Conflicts row) :=
  inferInstanceAs (Decidable (∃ other ∈ users.rows, _))

theorem nodup_append {κ : Type} {key : UserRow → κ} {rows : List UserRow} {row : UserRow} (distinct : (rows.map key).Nodup)
    (fresh : ∀ other ∈ rows, key other ≠ key row) : ((rows ++ [row]).map key).Nodup := by
  rw [List.map_append, List.nodup_append]
  refine ⟨distinct, by simp, ?_⟩
  rintro a member b inside rfl
  obtain ⟨other, there, same⟩ := List.mem_map.mp member
  simp only [List.map_cons, List.map_nil, List.mem_singleton] at inside
  exact fresh other there (same.trans inside)

def append (row : UserRow) (users : UserTable weight) (fresh : ¬ users.Conflicts row) : UserTable weight :=
  { rows := users.rows ++ [row]
    nextId := users.nextId + 1
    primary := nodup_append users.primary fun other member same => fresh ⟨other, member, .inl same⟩
    uniqueName := nodup_append users.uniqueName fun other member same => fresh ⟨other, member, .inr (.inl same)⟩
    uniqueEmail := nodup_append users.uniqueEmail fun other member same => fresh ⟨other, member, .inr (.inr same)⟩ }

/-- The row that `INSERT INTO user (name, email, pwd)` tries to add. -/
def newRow (user email passwd : String) (users : UserTable weight) : Option UserRow :=
  match varcharColumn user, varcharColumn email, varcharColumn passwd with
  | some name, some email, some pwd => some { id := users.newId, name, email, pwd }
  | _, _, _ => none

/-- `INSERT`, with the new id; a conflict uses up the number too. -/
def insert (user email passwd : String) (users : UserTable weight) : Except Nat Int32 × UserTable weight :=
  match users.newRow user email passwd with
  | none => (.error dataTooLong, users)
  | some row =>
    if conflict : users.Conflicts row then (.error duplicateEntry, { users with nextId := users.nextId + 1 })
    else (.ok row.id, users.append row conflict)

/-- `WHERE name = {1} AND email = {2}`. -/
def isMatch (weight : Collation) (user email : String) (row : UserRow) : Bool :=
  weight row.name = weight user && weight row.email = weight email

def setPwd (test : UserRow → Bool) (pwd : String) (users : UserTable weight) : UserTable weight :=
  let change := fun row : UserRow => if test row then { row with pwd } else row
  have kept : ∀ (κ : Type) (key : UserRow → κ), (∀ row : UserRow, key { row with pwd } = key row) →
      (users.rows.map change).map key = users.rows.map key := by
    intro κ key same
    rw [List.map_map]
    refine List.map_congr_left fun row _ => ?_
    by_cases passes : test row <;> simp [change, passes, same]
  { rows := users.rows.map change
    nextId := users.nextId
    primary := by rw [kept _ _ fun _ => rfl]; exact users.primary
    uniqueName := by rw [kept _ _ fun _ => rfl]; exact users.uniqueName
    uniqueEmail := by rw [kept _ _ fun _ => rfl]; exact users.uniqueEmail }

/-- `UPDATE user SET pwd = {0} WHERE …`, with the number of rows that have changed. -/
def update (user email passwd : String) (users : UserTable weight) : Except Nat Nat × UserTable weight :=
  let test := isMatch weight user email
  if users.rows.any test then
    match varcharColumn passwd with
    | none => (.error dataTooLong, users)
    | some pwd => (.ok (users.rows.countP fun row => test row && row.pwd ≠ pwd), users.setPwd test pwd)
  else (.ok 0, users)

end UserTable

/-! ## `UserRepo` -/

/-- How a call of MySQL ends: it is done, it fails before it has done anything, or its answer is lost; the last
    two are exceptions with an error number. -/
inductive MysqlOutcome where
  | answered
  | failed (code : Nat)
  | lost (code : Nat)
deriving DecidableEq, Repr

namespace MysqlOutcome

variable {α σ : Type}

/-- The answer that gets to the client. -/
def settle (outcome : MysqlOutcome) (done : Except Nat α × σ) (state : σ) : Except Nat α × σ :=
  match outcome with
  | answered => done
  | failed code => (.error code, state)
  | lost code => (.error code, done.2)

end MysqlOutcome

namespace UserRepo

variable {weight : Collation}

/-- An exception with the number of a duplicate entry becomes an error of the service; the others go on. -/
def createUser (request : UserRegisterRequest) (outcome : MysqlOutcome) (users : UserTable weight) :
    Except Nat (Except ServiceError UserRegisterResponse) × UserTable weight :=
  let (result, users) := outcome.settle (users.insert request.user request.email request.passwd) users
  match result with
  | .ok newId =>
    (.ok (.ok { id := newId.toInt64, user := request.user, email := request.email, passwd := request.passwd }), users)
  | .error code => (if code = duplicateEntry then .ok (.error .userOrEmailExist) else .error code, users)

def resetPassword (request : UserResetPasswordRequest) (outcome : MysqlOutcome) (users : UserTable weight) :
    Except Nat Bool × UserTable weight :=
  let (result, users) := outcome.settle (users.update request.user request.email request.passwd) users
  (result.map fun affectedRows => affectedRows ≠ 0, users)

end UserRepo

end ChatModel
