import ChatProject.Gate.Passwords

/-! When a registration adds a user. -/

namespace ChatProof

open ChatModel ChatModel.Gate

variable {weight : Collation}

/-! ## `INSERT` -/

section Insert

variable {users : UserTable weight} {user email passwd : String}

/-- Neither the name nor the email is in use. -/
def NotInUse (user email : String) (users : UserTable weight) : Prop :=
  ∀ row ∈ users.rows, weight row.name ≠ weight user ∧ weight row.email ≠ weight email

/-- There is still a number for a new row. -/
def HasId (users : UserTable weight) : Prop := ∀ row ∈ users.rows, row.id ≠ users.newId

/-- The texts fit into their columns as they stand. -/
def FitsColumns (request : UserRegisterRequest) : Prop :=
  request.user.toList.length ≤ columnLength ∧ request.email.toList.length ≤ columnLength ∧
    request.passwd.toList.length ≤ columnLength

/-- MySQL would store this row for the request. -/
def StoresRow (request : UserRegisterRequest) (users : UserTable weight) (row : UserRow) : Prop :=
  users.newRow request.user request.email request.passwd = some row ∧ ¬ users.Conflicts row

/-- The row that the request asks for. -/
def askedRow (request : UserRegisterRequest) (users : UserTable weight) : UserRow :=
  { id := users.newId, name := request.user, email := request.email, pwd := request.passwd }

theorem newRow_asked {request : UserRegisterRequest} :
    users.newRow request.user request.email request.passwd = some (askedRow request users) ↔ FitsColumns request := by
  unfold FitsColumns
  rw [← varcharColumn_self, ← varcharColumn_self, ← varcharColumn_self]
  unfold UserTable.newRow askedRow
  cases varcharColumn request.user <;> cases varcharColumn request.email <;> cases varcharColumn request.passwd <;> simp

theorem conflicts_asked {request : UserRegisterRequest} :
    ¬ users.Conflicts (askedRow request users) ↔ HasId users ∧ NotInUse request.user request.email users := by
  unfold UserTable.Conflicts HasId NotInUse askedRow
  constructor
  · intro fresh
    refine ⟨?_, ?_⟩
    · intro row member same
      exact fresh ⟨row, member, .inl same⟩
    · intro row member
      refine ⟨?_, ?_⟩ <;> intro same
      · exact fresh ⟨row, member, .inr (.inl same)⟩
      · exact fresh ⟨row, member, .inr (.inr same)⟩
  · rintro ⟨number, unused⟩ ⟨row, member, same | same | same⟩
    · exact number row member same
    · exact (unused row member).1 same
    · exact (unused row member).2 same

theorem insert_stores {request : UserRegisterRequest} {row : UserRow} (stores : StoresRow request users row) :
    (users.insert request.user request.email request.passwd).1 = .ok row.id ∧
      (users.insert request.user request.email request.passwd).2.rows = users.rows ++ [row] := by
  obtain ⟨made, fresh⟩ := stores
  unfold UserTable.insert
  rw [made]
  dsimp only
  rw [dif_neg fresh]
  exact ⟨rfl, rfl⟩

theorem insert_refused {request : UserRegisterRequest} (refused : ∀ row, ¬ StoresRow request users row) :
    (∃ code, (users.insert request.user request.email request.passwd).1 = .error code) ∧
      (users.insert request.user request.email request.passwd).2.rows = users.rows := by
  unfold UserTable.insert
  cases made : users.newRow request.user request.email request.passwd with
  | none => exact ⟨⟨_, rfl⟩, rfl⟩
  | some row =>
    have conflict : users.Conflicts row := by
      by_contra fresh
      exact refused row ⟨made, fresh⟩
    dsimp only
    rw [dif_pos conflict]
    exact ⟨⟨_, rfl⟩, rfl⟩

end Insert

/-! ## `user_register` -/

section Register

variable {lib : JsonLib} {body : Bytes} {getting : Outcome} {storing : MysqlOutcome} {redis : Redis}
  {users : UserTable weight} {request : UserRegisterRequest} {row : UserRow}

/-- The reply that reports this row. -/
def registered (row : UserRow) : HttpResponse :=
  nlohmannJsonResponse (responsePayload (some (UserRegisterResponse.toJson
    { id := row.id.toInt64, user := row.name, email := row.email, passwd := row.pwd })) .success)

theorem createUser_answered (stores : StoresRow request users row) :
    (UserRepo.createUser request .answered users).1 = .ok (.ok
        { id := row.id.toInt64, user := request.user, email := request.email, passwd := request.passwd }) ∧
      (UserRepo.createUser request .answered users).2.rows = users.rows ++ [row] := by
  obtain ⟨done, added⟩ := insert_stores stores
  unfold UserRepo.createUser
  simp only [MysqlOutcome.settle, done, added, and_self]

/-- An exception, or its translation, is no new user. -/
theorem createUser_fails (request : UserRegisterRequest) {storing : MysqlOutcome} {users : UserTable weight} {code : Nat}
    (error : (storing.settle (users.insert request.user request.email request.passwd) users).1 = .error code)
    (info : UserRegisterResponse) : (UserRepo.createUser request storing users).1 ≠ .ok (.ok info) := by
  unfold UserRepo.createUser
  simp only [error]
  by_cases duplicate : code = duplicateEntry <;> simp [duplicate]

theorem createUser_rows (request : UserRegisterRequest) (storing : MysqlOutcome) (users : UserTable weight) :
    (UserRepo.createUser request storing users).2 =
      (storing.settle (users.insert request.user request.email request.passwd) users).2 := by
  unfold UserRepo.createUser
  dsimp only
  cases (storing.settle (users.insert request.user request.email request.passwd) users).1 <;> rfl

theorem userRegister_verified (storing : MysqlOutcome) (users : UserTable weight)
    (parsed : parseJson lib UserRegisterRequest.fromJson body = some request)
    (verified : Verified request.email request.verifyCode getting redis) : ∃ response,
    respond (Gate.userRegister lib body getting storing redis users) =
        (response, (UserRepo.createUser request storing users).2) ∧
      (∀ info, (UserRepo.createUser request storing users).1 = .ok (.ok info) →
        response = nlohmannJsonResponse (responsePayload (some info.toJson) .success)) ∧
      ((∀ info, (UserRepo.createUser request storing users).1 ≠ .ok (.ok info)) → ¬ ReportsSuccess response) := by
  unfold Verified at verified
  unfold Gate.userRegister
  rw [parsed]
  dsimp only
  rw [verified]
  simp only [ne_eq, not_true_eq_false, if_false]
  cases (UserRepo.createUser request storing users).1 with
  | error code => exact ⟨internalServerError, rfl, by simp, fun _ => not_reportsSuccess_error _ _⟩
  | ok created =>
    cases created with
    | error refused =>
      refine ⟨nlohmannJsonResponse (responsePayloadEmpty .userOrEmailExist), rfl, by simp, ?_⟩
      intro _ success
      exact absurd (reportsSuccess_payload.mp success) (by decide)
    | ok info =>
      refine ⟨nlohmannJsonResponse (responsePayload (some info.toJson) .success), rfl, ?_, ?_⟩
      · intro other same
        cases same
        rfl
      · intro none
        exact absurd rfl (none info)

/-- A body that does not parse, or a code that is not there, is refused before MySQL is asked. -/
theorem userRegister_refused (storing : MysqlOutcome) (users : UserTable weight)
    (refused : ∀ request, parseJson lib UserRegisterRequest.fromJson body = some request →
      ¬ Verified request.email request.verifyCode getting redis) : ∃ response,
    respond (Gate.userRegister lib body getting storing redis users) = (response, users) ∧ ¬ ReportsSuccess response := by
  unfold Gate.userRegister
  cases parsed : parseJson lib UserRegisterRequest.fromJson body with
  | none => exact ⟨badRequest "Invalid JSON body", rfl, not_reportsSuccess_error _ _⟩
  | some request =>
    have unverified := refused request parsed
    unfold Verified at unverified
    dsimp only
    cases answer : Gate.redisGet request.email getting redis with
    | error exception => exact ⟨internalServerError, rfl, not_reportsSuccess_error _ _⟩
    | ok result =>
      have other : result ≠ some request.verifyCode := by
        intro same
        rw [same] at answer
        exact unverified answer
      refine ⟨nlohmannJsonResponse (responsePayloadEmpty .invalidVerifyCode), ?_, ?_⟩
      · simp only [if_pos other]
        rfl
      · intro success
        exact absurd (reportsSuccess_payload.mp success) (by decide)

/-- The five conditions for a new account, and no error of the database. -/
structure ShouldRegister (lib : JsonLib) (body : Bytes) (getting : Outcome) (storing : MysqlOutcome) (redis : Redis)
    (users : UserTable weight) (request : UserRegisterRequest) : Prop where
  fields : parseJson lib UserRegisterRequest.fromJson body = some request
  verified : Verified request.email request.verifyCode getting redis
  confirmed : request.passwd = request.confirmPasswd
  unused : NotInUse request.user request.email users
  answered : storing = .answered

/-- The account is created where it should be, and reported; elsewhere nothing changes and no success is reported. -/
structure RegistersExactly (lib : JsonLib) (body : Bytes) (getting : Outcome) (storing : MysqlOutcome) (redis : Redis)
    (users : UserTable weight) (replied : HttpResponse × UserTable weight) : Prop where
  added : ∀ request, ShouldRegister lib body getting storing redis users request →
    replied.2.rows = users.rows ++ [askedRow request users] ∧ replied.1 = registered (askedRow request users)
  unchanged : (∀ request, ¬ ShouldRegister lib body getting storing redis users request) →
    replied.2.rows = users.rows ∧ ¬ ReportsSuccess replied.1

/-- Where the account should be created MySQL can store it as it stands, and where MySQL stores a row for the request it
    should be created. -/
def Registrable (storing : MysqlOutcome) (users : UserTable weight) (request : UserRegisterRequest) : Prop :=
  (request.passwd = request.confirmPasswd → NotInUse request.user request.email users → storing = .answered →
      HasId users ∧ FitsColumns request) ∧
    ((∃ row, StoresRow request users row) → (∀ code, storing ≠ .failed code) →
      request.passwd = request.confirmPasswd ∧ NotInUse request.user request.email users ∧ storing = .answered)

theorem stores_asked : StoresRow request users (askedRow request users) ↔
    FitsColumns request ∧ HasId users ∧ NotInUse request.user request.email users := by
  rw [StoresRow, newRow_asked, conflicts_asked]

/-- Where MySQL stores nothing, or is not reached, nothing happens. -/
theorem userRegister_idle (parsed : parseJson lib UserRegisterRequest.fromJson body = some request)
    (verified : Verified request.email request.verifyCode getting redis)
    (idle : (∀ row, ¬ StoresRow request users row) ∨ ∃ code, storing = .failed code) : ∃ response after,
    respond (Gate.userRegister lib body getting storing redis users) = (response, after) ∧ after.rows = users.rows ∧
      ¬ ReportsSuccess response := by
  obtain ⟨response, same, _, fails⟩ := userRegister_verified storing users parsed verified
  refine ⟨response, _, same, ?_⟩
  rw [createUser_rows]
  rcases idle with refused | ⟨code, rfl⟩
  · obtain ⟨⟨code, error⟩, rows⟩ := insert_refused refused
    cases storing with
    | answered => exact ⟨rows, fails (createUser_fails request error)⟩
    | failed number => exact ⟨rfl, fails (createUser_fails request rfl)⟩
    | lost number => exact ⟨rows, fails (createUser_fails request rfl)⟩
  · exact ⟨rfl, fails (createUser_fails request rfl)⟩

theorem userRegister_stored (parsed : parseJson lib UserRegisterRequest.fromJson body = some request)
    (verified : Verified request.email request.verifyCode getting redis) (stores : StoresRow request users row)
    (reaches : ∀ code, storing ≠ .failed code) : ∃ response after,
    respond (Gate.userRegister lib body getting storing redis users) = (response, after) ∧
      after.rows = users.rows ++ [row] ∧
      (storing = .answered → response = registered { row with name := request.user, email := request.email, pwd := request.passwd }) := by
  obtain ⟨response, same, success, _⟩ := userRegister_verified storing users parsed verified
  refine ⟨response, _, same, ?_⟩
  cases storing with
  | answered =>
    obtain ⟨created, rows⟩ := createUser_answered stores
    exact ⟨rows, fun _ => success _ created⟩
  | failed code => exact absurd rfl (reaches code)
  | lost code =>
    rw [createUser_rows]
    exact ⟨(insert_stores stores).2, by simp⟩

/-- With the code there, all depends on what MySQL makes of the row. -/
theorem userRegister_verified_exactly (parsed : parseJson lib UserRegisterRequest.fromJson body = some request)
    (verified : Verified request.email request.verifyCode getting redis) :
    RegistersExactly lib body getting storing redis users
        (respond (Gate.userRegister lib body getting storing redis users)) ↔ Registrable storing users request := by
  have only : ∀ other, ShouldRegister lib body getting storing redis users other → other = request := by
    intro other should
    exact Option.some.inj (should.fields.symm.trans parsed)
  have longer : ∀ row : UserRow, users.rows ++ [row] ≠ users.rows := by
    intro row same
    exact absurd (congrArg List.length same) (by simp)
  by_cases idle : (∀ row, ¬ StoresRow request users row) ∨ ∃ code, storing = .failed code
  · obtain ⟨response, after, same, rows, fails⟩ := userRegister_idle parsed verified idle
    rw [same]
    constructor
    · intro exactly
      refine ⟨?_, ?_⟩
      · intro confirmed unused answered
        -- there is no row, but there should be one
        have added := (exactly.added request ⟨parsed, verified, confirmed, unused, answered⟩).1
        exact absurd (added.symm.trans rows) (longer _)
      · rintro ⟨row, stores⟩ reaches
        rcases idle with refused | ⟨code, failed⟩
        · exact absurd stores (refused row)
        · exact absurd failed (reaches code)
    · rintro ⟨should, _⟩
      refine ⟨?_, fun _ => ⟨rows, fails⟩⟩
      intro other shouldRegister
      obtain rfl := only other shouldRegister
      obtain ⟨number, fits⟩ := should shouldRegister.confirmed shouldRegister.unused shouldRegister.answered
      have stores := stores_asked.mpr ⟨fits, number, shouldRegister.unused⟩
      rcases idle with refused | ⟨code, failed⟩
      · exact absurd stores (refused _)
      · rw [shouldRegister.answered] at failed
        cases failed
  · simp only [not_or, not_forall, not_not, not_exists] at idle
    obtain ⟨⟨row, stores⟩, reaches⟩ := idle
    obtain ⟨response, after, same, rows, success⟩ := userRegister_stored parsed verified stores reaches
    rw [same]
    constructor
    · intro exactly
      have should : ∃ other, ShouldRegister lib body getting storing redis users other := by
        by_contra nobody
        have unchanged := (exactly.unchanged fun other should => nobody ⟨other, should⟩).1
        exact longer row (rows.symm.trans unchanged)
      obtain ⟨other, should⟩ := should
      obtain rfl := only other should
      have added := (exactly.added other should).1
      have asked : row = askedRow other users := by simpa using rows.symm.trans added
      subst asked
      obtain ⟨fits, number, unused⟩ := stores_asked.mp stores
      exact ⟨fun _ _ _ => ⟨number, fits⟩, fun _ _ => ⟨should.confirmed, unused, should.answered⟩⟩
    · rintro ⟨fitting, storable⟩
      obtain ⟨confirmed, unused, answered⟩ := storable ⟨row, stores⟩ reaches
      have should : ShouldRegister lib body getting storing redis users request :=
        ⟨parsed, verified, confirmed, unused, answered⟩
      obtain ⟨number, fits⟩ := fitting confirmed unused answered
      have asked : row = askedRow request users :=
        Option.some.inj (stores.1.symm.trans (newRow_asked.mpr fits))
      subst asked
      refine ⟨?_, fun none => absurd should (none request)⟩
      intro other shouldRegister
      obtain rfl := only other shouldRegister
      exact ⟨rows, success answered⟩

theorem userRegister_exactly (lib : JsonLib) (body : Bytes) (getting : Outcome) (storing : MysqlOutcome) (redis : Redis)
    (users : UserTable weight) :
    RegistersExactly lib body getting storing redis users
        (respond (Gate.userRegister lib body getting storing redis users)) ↔
      ∀ request, parseJson lib UserRegisterRequest.fromJson body = some request →
        Verified request.email request.verifyCode getting redis → Registrable storing users request := by
  by_cases arrives : ∃ request, parseJson lib UserRegisterRequest.fromJson body = some request ∧
      Verified request.email request.verifyCode getting redis
  · obtain ⟨request, parsed, verified⟩ := arrives
    rw [userRegister_verified_exactly parsed verified]
    constructor
    · intro registrable other also _
      obtain rfl := Option.some.inj (parsed.symm.trans also)
      exact registrable
    · intro all
      exact all request parsed verified
  · have refused : ∀ request, parseJson lib UserRegisterRequest.fromJson body = some request →
        ¬ Verified request.email request.verifyCode getting redis := by
      intro request parsed verified
      exact arrives ⟨request, parsed, verified⟩
    obtain ⟨response, same, fails⟩ := userRegister_refused storing users refused
    rw [same]
    refine iff_of_true ⟨?_, fun _ => ⟨rfl, fails⟩⟩ ?_
    · intro request should
      exact absurd should.verified (refused request should.fields)
    · intro request parsed verified
      exact absurd verified (refused request parsed)

end Register

/-- Bob mistypes his new password the second time. -/
def bobRequest : UserRegisterRequest :=
  { user := "bob", email := "bob@example.com", passwd := "secret", confirmPasswd := "secert", verifyCode := "7f3c" }

def bobBody : Bytes :=
  bytesOf ("\x7b\"user\":\"bob\",\"email\":\"bob@example.com\",\"passwd\":\"secret\"," ++
    "\"confirm_passwd\":\"secert\",\"verify_code\":\"7f3c\"\x7d")

def bobLib : JsonLib :=
  { parse := fun _ => some (.obj [("user", .str "bob"), ("email", .str "bob@example.com"), ("passwd", .str "secret"),
      ("confirm_passwd", .str "secert"), ("verify_code", .str "7f3c")])
    parseUserInfo := fun _ => none }

theorem userRegister_mistyped : ¬ RegistersExactly bobLib bobBody .ok .answered (({} : Redis).set "bob@example.com" "7f3c")
    aliceUsers (respond (Gate.userRegister bobLib bobBody .ok .answered (({} : Redis).set "bob@example.com" "7f3c") aliceUsers)) := by
  have verified : Verified bobRequest.email bobRequest.verifyCode .ok (({} : Redis).set "bob@example.com" "7f3c") := by
    simp [Verified, Gate.redisGet, bobRequest, Redis.set, Redis.put, Redis.lookup]
  have parsed : parseJson bobLib UserRegisterRequest.fromJson bobBody = some bobRequest := rfl
  intro exactly
  have registrable := (userRegister_verified_exactly parsed verified).mp exactly
  have stores : StoresRow bobRequest aliceUsers (askedRow bobRequest aliceUsers) := by
    refine stores_asked.mpr ⟨⟨by decide, by decide, by decide⟩, ?_, ?_⟩ <;> intro row member <;>
      obtain rfl := List.mem_singleton.mp member
    · decide
    · exact ⟨by decide, by decide⟩
  have confirmed := (registrable.2 ⟨_, stores⟩ (by simp)).1
  exact absurd confirmed (by decide)

end ChatProof
