import ChatProject.Gate.Dispatcher

/-! What a request for a new password does to the table of the users. -/

namespace ChatProof

open ChatModel ChatModel.Gate

variable {weight : Collation}

/-- Redis gives the presented code for the presented email. -/
def Verified (email verifyCode : String) (getting : Outcome) (redis : Redis) : Prop :=
  Gate.redisGet email getting redis = .ok (some verifyCode)

instance (email verifyCode : String) (getting : Outcome) (redis : Redis) :
    Decidable (Verified email verifyCode getting redis) :=
  match same : Gate.redisGet email getting redis with
  | .ok (some held) => decidable_of_iff (held = verifyCode) (by rw [Verified, same]; simp)
  | .ok none => .isFalse (by rw [Verified, same]; simp)
  | .error _ => .isFalse (by rw [Verified, same]; simp)

/-! ## The column -/

theorem varcharColumn_fits {text : String} (short : text.toList.length ≤ columnLength) : varcharColumn text = some text := by
  unfold varcharColumn
  rw [List.drop_eq_nil_of_le short, List.take_of_length_le short, String.ofList_toList]
  rfl

/-- A text that is stored as it stands is no longer than the column. -/
theorem varcharColumn_self {text : String} : varcharColumn text = some text ↔ text.toList.length ≤ columnLength := by
  constructor
  · intro stored
    unfold varcharColumn at stored
    split at stored
    · have cut := congrArg String.toList (Option.some.inj stored)
      rw [String.toList_ofList] at cut
      rw [← cut, List.length_take]
      exact Nat.min_le_left _ _
    · cases stored
  · exact varcharColumn_fits

/-! ## `UPDATE` -/

section Update

variable {users : UserTable weight} {user email passwd : String} {row : UserRow}

/-- Names are unique, so at most one row matches. -/
theorem isMatch_unique (member : row ∈ users.rows) (found : UserTable.isMatch weight user email row = true) {other : UserRow}
    (inside : other ∈ users.rows) (also : UserTable.isMatch weight user email other = true) : other = row := by
  simp only [UserTable.isMatch, Bool.and_eq_true, decide_eq_true_eq] at found also
  exact List.inj_on_of_nodup_map users.uniqueName inside member (also.1.trans found.1.symm)

theorem update_unmatched (absent : ∀ row ∈ users.rows, UserTable.isMatch weight user email row = false) :
    users.update user email passwd = (.ok 0, users) := by
  have nobody : users.rows.any (UserTable.isMatch weight user email) = false := by
    rw [List.any_eq_false]
    intro row member
    simp [absent row member]
  simp [UserTable.update, nobody]

theorem update_matched (member : row ∈ users.rows) (found : UserTable.isMatch weight user email row = true) :
    users.update user email passwd = match varcharColumn passwd with
      | none => (.error dataTooLong, users)
      | some pwd => (.ok (if row.pwd = pwd then 0 else 1), users.setPwd (UserTable.isMatch weight user email) pwd) := by
  have somebody : users.rows.any (UserTable.isMatch weight user email) = true := List.any_eq_true.mpr ⟨row, member, found⟩
  have counted : ∀ pwd, (users.rows.countP fun other => UserTable.isMatch weight user email other && other.pwd ≠ pwd) =
      if row.pwd = pwd then 0 else 1 := by
    intro pwd
    have only : ∀ other ∈ users.rows,
        ((UserTable.isMatch weight user email other && other.pwd ≠ pwd) = true ↔ (decide (row.pwd ≠ pwd) && other == row) = true) := by
      intro other inside
      by_cases same : other = row
      · subst same
        simp [found]
      · have fails : UserTable.isMatch weight user email other = false := by
          by_contra also
          exact same (isMatch_unique member found inside (by simpa using also))
        simp [fails, same]
    rw [List.countP_congr only]
    by_cases old : row.pwd = pwd
    · simp [old]
    · have distinct : users.rows.Nodup := List.Nodup.of_map _ users.primary
      simp only [old, if_false, ne_eq, not_false_eq_true, decide_true, Bool.true_and]
      exact List.count_eq_one_of_mem distinct member
  unfold UserTable.update
  rw [if_pos somebody]
  cases varcharColumn passwd with
  | none => rfl
  | some pwd =>
    dsimp only
    rw [counted]

end Update

/-! ## `reset_password` -/

section Reset

variable {lib : JsonLib} {body : Bytes} {getting : Outcome} {storing : MysqlOutcome} {redis : Redis}
  {users : UserTable weight} {request : UserResetPasswordRequest}

theorem resetPassword_unverified (parsed : parseJson lib UserResetPasswordRequest.fromJson body = some request)
    (refused : ¬ Verified request.email request.verifyCode getting redis) :
    ∃ response, respond (Gate.resetPassword lib body getting storing redis users) = (response, users) ∧
      ¬ ReportsSuccess response := by
  unfold Verified at refused
  unfold Gate.resetPassword
  rw [parsed]
  dsimp only
  cases answer : Gate.redisGet request.email getting redis with
  | error exception => exact ⟨internalServerError, rfl, not_reportsSuccess_error _ _⟩
  | ok result =>
    have other : result ≠ some request.verifyCode := by
      intro same
      rw [same] at answer
      exact refused answer
    refine ⟨nlohmannJsonResponse (responsePayloadEmpty .invalidVerifyCode), ?_, ?_⟩
    · simp only [if_pos other]
      rfl
    · intro success
      exact absurd (reportsSuccess_payload.mp success) (by decide)

theorem resetPassword_verified (storing : MysqlOutcome) (users : UserTable weight)
    (parsed : parseJson lib UserResetPasswordRequest.fromJson body = some request)
    (verified : Verified request.email request.verifyCode getting redis) :
    ∃ response, respond (Gate.resetPassword lib body getting storing redis users) =
        (response, (UserRepo.resetPassword request storing users).2) ∧
      (ReportsSuccess response ↔ (UserRepo.resetPassword request storing users).1 = .ok true) := by
  unfold Verified at verified
  unfold Gate.resetPassword
  rw [parsed]
  dsimp only
  rw [verified]
  simp only [ne_eq, not_true_eq_false, if_false]
  cases (UserRepo.resetPassword request storing users).1 with
  | error code =>
    refine ⟨internalServerError, rfl, ?_⟩
    exact iff_of_false (not_reportsSuccess_error _ _) (by simp)
  | ok success =>
    cases success with
    | false =>
      refine ⟨nlohmannJsonResponse (responsePayloadEmpty .userOrEmailInvalid), rfl, ?_⟩
      exact iff_of_false (fun success => absurd (reportsSuccess_payload.mp success) (by decide)) (by simp)
    | true =>
      refine ⟨nlohmannJsonResponse (responsePayloadEmpty .success), rfl, ?_⟩
      exact iff_of_true (reportsSuccess_payload.mpr rfl) rfl

/-- The reply reports success exactly where code and row are there; then the password of the row is the new one
    and nothing else has changed, otherwise nothing has. -/
structure ResetsExactly (request : UserResetPasswordRequest) (getting : Outcome) (redis : Redis) (users : UserTable weight)
    (replied : HttpResponse × UserTable weight) : Prop where
  success : ReportsSuccess replied.1 ↔ Verified request.email request.verifyCode getting redis ∧
    ∃ row ∈ users.rows, UserTable.isMatch weight request.user request.email row = true
  changed : ReportsSuccess replied.1 → replied.2.rows = users.rows.map fun row =>
    if UserTable.isMatch weight request.user request.email row then { row with pwd := request.passwd } else row
  unchanged : ¬ ReportsSuccess replied.1 → replied.2.rows = users.rows

/-- Redis and MySQL have what it takes, and MySQL makes a change. -/
def CanReset (request : UserResetPasswordRequest) (storing : MysqlOutcome) (row : UserRow) : Prop :=
  storing = .answered ∧ request.passwd.toList.length ≤ columnLength ∧ row.pwd ≠ request.passwd

theorem repo_resetPassword_unmatched (storing : MysqlOutcome)
    (absent : ∀ row ∈ users.rows, UserTable.isMatch weight request.user request.email row = false) :
    (UserRepo.resetPassword request storing users).1 ≠ .ok true ∧ (UserRepo.resetPassword request storing users).2 = users := by
  unfold UserRepo.resetPassword
  rw [update_unmatched absent]
  cases storing <;> simp [MysqlOutcome.settle, Except.map]

theorem repo_resetPassword_matched (storing : MysqlOutcome) {row : UserRow} (member : row ∈ users.rows)
    (found : UserTable.isMatch weight request.user request.email row = true) :
    ((UserRepo.resetPassword request storing users).1 = .ok true ↔
        storing = .answered ∧ ∃ pwd, varcharColumn request.passwd = some pwd ∧ row.pwd ≠ pwd) ∧
      ((UserRepo.resetPassword request storing users).1 = .ok true →
        ∃ pwd, varcharColumn request.passwd = some pwd ∧ (UserRepo.resetPassword request storing users).2 =
          users.setPwd (UserTable.isMatch weight request.user request.email) pwd) := by
  unfold UserRepo.resetPassword
  rw [update_matched member found]
  cases stored : varcharColumn request.passwd with
  | none => cases storing <;> simp [MysqlOutcome.settle, Except.map]
  | some pwd =>
    by_cases old : row.pwd = pwd
    · cases storing <;> simp [MysqlOutcome.settle, Except.map, old]
    · cases storing <;> simp [MysqlOutcome.settle, Except.map, old]

theorem setPwd_rows (test : UserRow → Bool) (pwd : String) (users : UserTable weight) :
    (users.setPwd test pwd).rows = users.rows.map fun row => if test row then { row with pwd } else row := rfl

/-- With the code and a row there, all depends on this row. -/
theorem resetPassword_present {row : UserRow} (parsed : parseJson lib UserResetPasswordRequest.fromJson body = some request)
    (verified : Verified request.email request.verifyCode getting redis) (member : row ∈ users.rows)
    (found : UserTable.isMatch weight request.user request.email row = true) :
    ResetsExactly request getting redis users (respond (Gate.resetPassword lib body getting storing redis users)) ↔
      CanReset request storing row := by
  obtain ⟨response, same, reports⟩ := resetPassword_verified storing users parsed verified
  obtain ⟨done, after⟩ := repo_resetPassword_matched storing member found
  rw [same]
  constructor
  · intro exactly
    have success := exactly.success.mpr ⟨verified, row, member, found⟩
    obtain ⟨answered, pwd, stored, different⟩ := done.mp (reports.mp success)
    obtain ⟨_, also, changed⟩ := after (reports.mp success)
    rw [stored] at also
    cases also
    have rows := exactly.changed success
    dsimp only at rows
    rw [changed, setPwd_rows] at rows
    -- what was stored is what was asked for
    have here := List.map_inj_left.mp rows row member
    rw [if_pos found, if_pos found] at here
    have whole : pwd = request.passwd := congrArg UserRow.pwd here
    rw [whole] at stored different
    exact ⟨answered, varcharColumn_self.mp stored, different⟩
  · rintro ⟨answered, short, different⟩
    have stored := varcharColumn_fits short
    have success := reports.mpr (done.mpr ⟨answered, request.passwd, stored, different⟩)
    obtain ⟨_, also, changed⟩ := after (reports.mp success)
    rw [stored] at also
    cases also
    refine ⟨iff_of_true success ⟨verified, row, member, found⟩, ?_, fun fails => absurd success fails⟩
    intro _
    dsimp only
    rw [changed, setPwd_rows]

/-- Without the code or without a row, the request changes nothing and is refused. -/
theorem resetPassword_absent (parsed : parseJson lib UserResetPasswordRequest.fromJson body = some request)
    (absent : ¬ (Verified request.email request.verifyCode getting redis ∧
      ∃ row ∈ users.rows, UserTable.isMatch weight request.user request.email row = true)) :
    ResetsExactly request getting redis users (respond (Gate.resetPassword lib body getting storing redis users)) := by
  obtain ⟨response, same, fails⟩ : ∃ response,
      respond (Gate.resetPassword lib body getting storing redis users) = (response, users) ∧ ¬ ReportsSuccess response := by
    by_cases verified : Verified request.email request.verifyCode getting redis
    · have nobody : ∀ row ∈ users.rows, UserTable.isMatch weight request.user request.email row = false := by
        intro row member
        by_contra also
        exact absent ⟨verified, row, member, by simpa using also⟩
      obtain ⟨response, same, reports⟩ := resetPassword_verified storing users parsed verified
      obtain ⟨fails, unchanged⟩ := repo_resetPassword_unmatched storing nobody
      rw [unchanged] at same
      exact ⟨response, same, fun success => fails (reports.mp success)⟩
    · exact resetPassword_unverified parsed verified
  rw [same]
  exact ⟨iff_of_false fails absent, fun success => absurd success fails, fun _ => rfl⟩

theorem resetPassword_exactly (lib : JsonLib) (body : Bytes) (getting : Outcome) (storing : MysqlOutcome) (redis : Redis)
    (users : UserTable weight) (request : UserResetPasswordRequest)
    (parsed : parseJson lib UserResetPasswordRequest.fromJson body = some request) :
    ResetsExactly request getting redis users (respond (Gate.resetPassword lib body getting storing redis users)) ↔
      ∀ row ∈ users.rows, UserTable.isMatch weight request.user request.email row = true →
        Verified request.email request.verifyCode getting redis → CanReset request storing row := by
  by_cases present : Verified request.email request.verifyCode getting redis ∧
      ∃ row ∈ users.rows, UserTable.isMatch weight request.user request.email row = true
  · obtain ⟨verified, row, member, found⟩ := present
    rw [resetPassword_present parsed verified member found]
    constructor
    · intro canReset other inside also _
      rw [isMatch_unique member found inside also]
      exact canReset
    · intro all
      exact all row member found verified
  · refine iff_of_true (resetPassword_absent parsed present) ?_
    intro row member found verified
    exact absurd ⟨verified, row, member, found⟩ present

end Reset

/-- Alice asks for a new password with the code that was sent to her. -/
def aliceRequest (passwd : String) : UserResetPasswordRequest :=
  { user := "alice", email := "alice@example.com", passwd, verifyCode := "7f3c" }

def aliceBody (passwd : String) : Bytes :=
  bytesOf ("\x7b\"user\":\"alice\",\"email\":\"alice@example.com\",\"passwd\":\"" ++ passwd ++
    "\",\"verify_code\":\"7f3c\"\x7d")

def aliceLib (passwd : String) : JsonLib :=
  { parse := fun _ => some (.obj [("user", .str "alice"), ("email", .str "alice@example.com"), ("passwd", .str passwd),
      ("verify_code", .str "7f3c")])
    parseUserInfo := fun _ => none }

def aliceRedis : Redis := ({} : Redis).set "alice@example.com" "7f3c"

def aliceUsers : UserTable id :=
  { rows := [{ id := 1, name := "alice", email := "alice@example.com", pwd := "secret" }], nextId := 2,
    primary := by decide, uniqueName := by decide, uniqueEmail := by decide }

theorem alice_parsed (passwd : String) : parseJson (aliceLib passwd) UserResetPasswordRequest.fromJson (aliceBody passwd) =
    some (aliceRequest passwd) := rfl

theorem resetPassword_exactly_new : ResetsExactly (aliceRequest "other") .ok aliceRedis aliceUsers
    (respond (Gate.resetPassword (aliceLib "other") (aliceBody "other") .ok .answered aliceRedis aliceUsers)) := by
  apply (resetPassword_exactly (aliceLib "other") (aliceBody "other") .ok .answered aliceRedis aliceUsers
    (aliceRequest "other") (alice_parsed "other")).mpr
  intro row member _ _
  obtain rfl := List.mem_singleton.mp member
  exact ⟨rfl, by decide, by decide⟩

theorem resetPassword_same_password : ¬ ResetsExactly (aliceRequest "secret") .ok aliceRedis aliceUsers
    (respond (Gate.resetPassword (aliceLib "secret") (aliceBody "secret") .ok .answered aliceRedis aliceUsers)) := by
  have verified : Verified "alice@example.com" "7f3c" .ok aliceRedis := by
    simp [Verified, Gate.redisGet, aliceRedis, Redis.set, Redis.put, Redis.lookup]
  intro exactly
  have canReset := (resetPassword_present (alice_parsed "secret") verified List.mem_cons_self rfl).mp exactly
  exact canReset.2.2 rfl

end ChatProof
