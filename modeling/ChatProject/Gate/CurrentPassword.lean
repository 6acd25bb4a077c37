import ChatProject.Library.Latest
import ChatProject.Library.Transition
import ChatProject.Gate.Login
import ChatProject.Gate.Registration

/-! Which password opens an account. -/

namespace ChatProof

open ChatModel

/-- The handler of a login gets as far as asking for a chat server. -/
def PassesPasswordCheck {weight : Collation} (lib : JsonLib) (body : Bytes) (checking : MysqlOutcome)
    (users : UserTable weight) : Prop :=
  ∃ request next, Gate.userLogin lib body checking users = .call request next

/-- The reply reports that the password of this user is now this one. -/
def SetsPassword (lib : JsonLib) (weight : Collation) (user passwd : String) : GateRecord → Prop
  | .userRegister body response => ∃ request, parseJson lib UserRegisterRequest.fromJson body = some request ∧
      weight request.user = weight user ∧ request.passwd = passwd ∧ Gate.ReportsSuccess response
  | .resetPassword body response => ∃ request, parseJson lib UserResetPasswordRequest.fromJson body = some request ∧
      weight request.user = weight user ∧ request.passwd = passwd ∧ Gate.ReportsSuccess response

/-- The password that the latest successful registration or reset has set. -/
def CurrentPassword (lib : JsonLib) (weight : Collation) (user passwd : String) (history : List GateRecord) : Prop :=
  Latest (fun record passwd => SetsPassword lib weight user passwd record) passwd history

/-- A login passes the check exactly with the current password of an account that exists. -/
def OpensWithCurrent {weight : Collation} (lib : JsonLib) (body : Bytes) (request : Gate.UserLoginRequest)
    (checking : MysqlOutcome) (gate : GateSystem weight) : Prop :=
  PassesPasswordCheck lib body checking gate.users ↔
    (∃ row ∈ gate.users.rows, weight row.name = weight request.user) ∧
      CurrentPassword lib weight request.user request.passwd gate.history

/-- The column stores the text as it stands, or not at all. -/
def StoredWhole (text : String) : Prop := ∀ stored, varcharColumn text = some stored → stored = text

/-- No blanks are cut off a name or a password, and the client hears of every change. -/
def KeepsText {weight : Collation} (lib : JsonLib) (_ : GateSystem weight) : GateAct → Prop
  | .userRegister body _ storing => (∀ code, storing ≠ .lost code) ∧
      ∀ request, parseJson lib UserRegisterRequest.fromJson body = some request →
        StoredWhole request.user ∧ StoredWhole request.passwd
  | .resetPassword body _ storing => (∀ code, storing ≠ .lost code) ∧
      ∀ request, parseJson lib UserResetPasswordRequest.fromJson body = some request → StoredWhole request.passwd
  | .userLogin _ _ | .others _ => True

/-! ## One request -/

section Requests

variable {weight : Collation} {lib : JsonLib} {body : Bytes} {getting : Outcome} {storing : MysqlOutcome} {redis : Redis}
  {users : UserTable weight}

theorem mem_selectId {user passwd : String} {id : Int32} : id ∈ users.selectId user passwd ↔
    ∃ row ∈ users.rows, weight row.name = weight user ∧ weight row.pwd = weight passwd ∧ row.id = id := by
  simp [UserTable.selectId, and_assoc]

theorem passes_iff {request : Gate.UserLoginRequest} {checking : MysqlOutcome}
    (parsed : parseJson lib Gate.UserLoginRequest.fromJson body = some request) :
    PassesPasswordCheck lib body checking users ↔ checking = .answered ∧
      ∃ row ∈ users.rows, weight row.name = weight request.user ∧ weight row.pwd = weight request.passwd := by
  unfold PassesPasswordCheck Gate.userLogin UserRepo.checkPassword
  rw [parsed]
  cases checking with
  | failed code => simp [MysqlOutcome.settle, Except.map]
  | lost code => simp [MysqlOutcome.settle, Except.map]
  | answered =>
    cases selected : users.selectId request.user request.passwd with
    | nil =>
      refine iff_of_false ?_ ?_
      · simp [MysqlOutcome.settle, Except.map, selected]
      · rintro ⟨_, row, member, name, pwd⟩
        have there := mem_selectId.mpr ⟨row, member, name, pwd, rfl⟩
        rw [selected] at there
        exact absurd there List.not_mem_nil
    | cons id rest =>
      have there : id ∈ users.selectId request.user request.passwd := by
        rw [selected]
        exact List.mem_cons_self
      obtain ⟨row, member, name, pwd, _⟩ := mem_selectId.mp there
      refine iff_of_true ?_ ⟨rfl, row, member, name, pwd⟩
      simp [MysqlOutcome.settle, Except.map, selected]

/-- A registration whose answer is not lost either changes nothing and is refused, or adds a row and is reported. -/
theorem userRegister_cases (lib : JsonLib) (body : Bytes) (getting : Outcome) (redis : Redis) (users : UserTable weight)
    (heard : ∀ code, storing ≠ .lost code) : ∃ response after,
    Gate.respond (Gate.userRegister lib body getting storing redis users) = (response, after) ∧
      (after.rows = users.rows ∧ ¬ Gate.ReportsSuccess response ∨
        ∃ request row, parseJson lib UserRegisterRequest.fromJson body = some request ∧ StoresRow request users row ∧
          after.rows = users.rows ++ [row] ∧ Gate.ReportsSuccess response) := by
  by_cases arrives : ∃ request, parseJson lib UserRegisterRequest.fromJson body = some request ∧
      Verified request.email request.verifyCode getting redis
  · obtain ⟨request, parsed, verified⟩ := arrives
    by_cases idle : (∀ row, ¬ StoresRow request users row) ∨ ∃ code, storing = .failed code
    · obtain ⟨response, after, same, rows, fails⟩ := userRegister_idle parsed verified idle
      exact ⟨response, after, same, .inl ⟨rows, fails⟩⟩
    · simp only [not_or, not_forall, not_not, not_exists] at idle
      obtain ⟨⟨row, stores⟩, reaches⟩ := idle
      obtain ⟨response, after, same, rows, success⟩ := userRegister_stored parsed verified stores reaches
      have answered : storing = .answered := by
        cases storing with
        | answered => rfl
        | failed code => exact absurd rfl (reaches code)
        | lost code => exact absurd rfl (heard code)
      exact ⟨response, after, same, .inr ⟨request, row, parsed, stores, rows, _, success answered⟩⟩
  · have refused : ∀ request, parseJson lib UserRegisterRequest.fromJson body = some request →
        ¬ Verified request.email request.verifyCode getting redis := by
      intro request parsed verified
      exact arrives ⟨request, parsed, verified⟩
    obtain ⟨response, same, fails⟩ := userRegister_refused storing users refused
    exact ⟨response, users, same, .inl ⟨rfl, fails⟩⟩

/-- The password is set to what it is. -/
theorem setPwd_same {test : UserRow → Bool} {pwd : String} (same : ∀ row ∈ users.rows, test row = true → row.pwd = pwd) :
    (users.setPwd test pwd).rows = users.rows := by
  have kept : ∀ row ∈ users.rows, (if test row then { row with pwd } else row) = row := by
    intro row member
    by_cases passes : test row = true
    · rw [if_pos passes, ← same row member passes]
    · rw [if_neg passes]
  rw [setPwd_rows, List.map_congr_left kept, List.map_id']

theorem repo_resetPassword_cases (request : UserResetPasswordRequest) (heard : ∀ code, storing ≠ .lost code) :
    (UserRepo.resetPassword request storing users).1 ≠ .ok true ∧
        (UserRepo.resetPassword request storing users).2.rows = users.rows ∨
      (UserRepo.resetPassword request storing users).1 = .ok true ∧ ∃ row pwd, row ∈ users.rows ∧
        UserTable.isMatch weight request.user request.email row = true ∧ varcharColumn request.passwd = some pwd ∧
        (UserRepo.resetPassword request storing users).2 =
          users.setPwd (UserTable.isMatch weight request.user request.email) pwd := by
  by_cases present : ∃ row ∈ users.rows, UserTable.isMatch weight request.user request.email row = true
  · obtain ⟨row, member, found⟩ := present
    obtain ⟨done, after⟩ := repo_resetPassword_matched storing member found
    by_cases success : (UserRepo.resetPassword request storing users).1 = .ok true
    · obtain ⟨pwd, stored, changed⟩ := after success
      exact .inr ⟨success, row, pwd, member, found, stored, changed⟩
    · refine .inl ⟨success, ?_⟩
      unfold UserRepo.resetPassword
      rw [update_matched member found]
      cases storing with
      | failed code => rfl
      | lost code => exact absurd rfl (heard code)
      | answered =>
        cases stored : varcharColumn request.passwd with
        | none => rfl
        | some pwd =>
          have old : row.pwd = pwd := by
            by_contra different
            exact success (done.mpr ⟨rfl, pwd, stored, different⟩)
          refine setPwd_same ?_
          intro other inside also
          rw [isMatch_unique member found inside also, old]
  · have absent : ∀ row ∈ users.rows, UserTable.isMatch weight request.user request.email row = false := by
      intro row member
      by_contra also
      exact present ⟨row, member, by simpa using also⟩
    obtain ⟨fails, unchanged⟩ := repo_resetPassword_unmatched storing absent
    exact .inl ⟨fails, congrArg UserTable.rows unchanged⟩

/-- A reset whose answer is not lost either changes nothing and is refused, or changes a password and is reported. -/
theorem resetPassword_cases (lib : JsonLib) (body : Bytes) (getting : Outcome) (redis : Redis) (users : UserTable weight)
    (heard : ∀ code, storing ≠ .lost code) : ∃ response after,
    Gate.respond (Gate.resetPassword lib body getting storing redis users) = (response, after) ∧
      (after.rows = users.rows ∧ ¬ Gate.ReportsSuccess response ∨
        ∃ request row pwd, parseJson lib UserResetPasswordRequest.fromJson body = some request ∧ row ∈ users.rows ∧
          UserTable.isMatch weight request.user request.email row = true ∧ varcharColumn request.passwd = some pwd ∧
          after = users.setPwd (UserTable.isMatch weight request.user request.email) pwd ∧
          Gate.ReportsSuccess response) := by
  cases parsed : parseJson lib UserResetPasswordRequest.fromJson body with
  | none =>
    refine ⟨Gate.badRequest "Invalid JSON body", users, ?_, .inl ⟨rfl, Gate.not_reportsSuccess_error _ _⟩⟩
    unfold Gate.resetPassword
    rw [parsed]
    rfl
  | some request =>
    by_cases verified : Verified request.email request.verifyCode getting redis
    · obtain ⟨response, same, reports⟩ := resetPassword_verified storing users parsed verified
      refine ⟨response, _, same, ?_⟩
      rcases repo_resetPassword_cases request heard with ⟨fails, rows⟩ | ⟨success, row, pwd, member, found, stored, changed⟩
      · exact .inl ⟨rows, fun success => fails (reports.mp success)⟩
      · exact .inr ⟨request, row, pwd, rfl, member, found, stored, changed, reports.mpr success⟩
    · obtain ⟨response, same, fails⟩ : ∃ response,
          Gate.respond (Gate.resetPassword lib body getting storing redis users) = (response, users) ∧
            ¬ Gate.ReportsSuccess response := resetPassword_unverified parsed verified
      exact ⟨response, users, same, .inl ⟨rfl, fails⟩⟩

end Requests

/-! ## The passwords in the table are the current ones -/

/-- A user of the table has this password. -/
def HasPassword {weight : Collation} (users : UserTable weight) (user passwd : String) : Prop :=
  ∃ row ∈ users.rows, weight row.name = weight user ∧ row.pwd = passwd

def Kept {weight : Collation} (lib : JsonLib) (gate : GateSystem weight) : Prop :=
  ∀ user passwd, CurrentPassword lib weight user passwd gate.history ↔ HasPassword gate.users user passwd

section Runs

variable {weight : Collation} {lib : JsonLib} {gate after : GateSystem weight} {record : GateRecord}

theorem sets_registered {body : Bytes} {response : HttpResponse} {request : UserRegisterRequest} (user passwd : String)
    (parsed : parseJson lib UserRegisterRequest.fromJson body = some request) :
    SetsPassword lib weight user passwd (.userRegister body response) ↔
      weight request.user = weight user ∧ request.passwd = passwd ∧ Gate.ReportsSuccess response := by
  simp [SetsPassword, parsed]

theorem sets_reset {body : Bytes} {response : HttpResponse} {request : UserResetPasswordRequest} (user passwd : String)
    (parsed : parseJson lib UserResetPasswordRequest.fromJson body = some request) :
    SetsPassword lib weight user passwd (.resetPassword body response) ↔
      weight request.user = weight user ∧ request.passwd = passwd ∧ Gate.ReportsSuccess response := by
  simp [SetsPassword, parsed]

theorem Kept.unset (kept : Kept lib gate) (history : after.history = record :: gate.history)
    (rows : after.users.rows = gate.users.rows) (none : ∀ user passwd, ¬ SetsPassword lib weight user passwd record) :
    Kept lib after := by
  intro user passwd
  rw [CurrentPassword, history, Latest.cons_of_none (none user), HasPassword, rows]
  exact kept user passwd

/-- The record and the table agree on whose password is new. -/
theorem Kept.set (kept : Kept lib gate) (named pwd : String) (history : after.history = record :: gate.history)
    (sets : ∀ user passwd, SetsPassword lib weight user passwd record ↔ weight named = weight user ∧ pwd = passwd)
    (new : ∀ user passwd, weight named = weight user → (HasPassword after.users user passwd ↔ pwd = passwd))
    (old : ∀ user passwd, weight named ≠ weight user →
      (HasPassword after.users user passwd ↔ HasPassword gate.users user passwd)) : Kept lib after := by
  intro user passwd
  rw [CurrentPassword, history]
  by_cases same : weight named = weight user
  · rw [new user passwd same]
    apply Latest.cons_of_one
    intro other
    simp [sets, same]
  · rw [old user passwd same, Latest.cons_of_none]
    · exact kept user passwd
    · intro other
      simp [sets, same]

theorem hasPassword_added {users added : UserTable weight} {row : UserRow} (rows : added.rows = users.rows ++ [row])
    (user passwd : String) : HasPassword added user passwd ↔
      HasPassword users user passwd ∨ weight row.name = weight user ∧ row.pwd = passwd := by
  simp only [HasPassword, rows, List.mem_append, List.mem_singleton]
  constructor
  · rintro ⟨other, inside | rfl, name, pwd⟩
    · exact .inl ⟨other, inside, name, pwd⟩
    · exact .inr ⟨name, pwd⟩
  · rintro (⟨other, inside, name, pwd⟩ | ⟨name, pwd⟩)
    · exact ⟨other, .inl inside, name, pwd⟩
    · exact ⟨row, .inr rfl, name, pwd⟩

theorem hasPassword_setPwd {users : UserTable weight} {named email pwd : String} {row : UserRow} (member : row ∈ users.rows)
    (found : UserTable.isMatch weight named email row = true) (user passwd : String) :
    (weight named = weight user → (HasPassword (users.setPwd (UserTable.isMatch weight named email) pwd) user passwd ↔
        pwd = passwd)) ∧
      (weight named ≠ weight user → (HasPassword (users.setPwd (UserTable.isMatch weight named email) pwd) user passwd ↔
        HasPassword users user passwd)) := by
  have name : weight row.name = weight named := by
    simp only [UserTable.isMatch, Bool.and_eq_true, decide_eq_true_eq] at found
    exact found.1
  have matched : ∀ other ∈ users.rows, UserTable.isMatch weight named email other = true ↔
      weight other.name = weight named := by
    intro other inside
    constructor
    · intro also
      rw [isMatch_unique member found inside also, name]
    · intro same
      rw [List.inj_on_of_nodup_map users.uniqueName inside member (same.trans name.symm)]
      exact found
  unfold HasPassword
  rw [setPwd_rows]
  constructor
  · intro same
    constructor
    · rintro ⟨changed, inside, also, pwd_eq⟩
      obtain ⟨other, there, rfl⟩ := List.mem_map.mp inside
      by_cases passes : UserTable.isMatch weight named email other = true
      · rw [if_pos passes] at pwd_eq
        exact pwd_eq
      · rw [if_neg passes] at also
        exact absurd ((matched other there).mpr (also.trans same.symm)) passes
    · rintro rfl
      refine ⟨_, List.mem_map.mpr ⟨row, member, rfl⟩, ?_⟩
      rw [if_pos found]
      exact ⟨name.trans same, rfl⟩
  · intro different
    have kept : ∀ other ∈ users.rows, weight other.name = weight user →
        (if UserTable.isMatch weight named email other then { other with pwd } else other) = other := by
      intro other there also
      refine if_neg ?_
      rw [matched other there]
      intro same
      exact different (same.symm.trans also)
    constructor
    · rintro ⟨changed, inside, also, pwd_eq⟩
      obtain ⟨other, there, rfl⟩ := List.mem_map.mp inside
      have untouched : weight other.name = weight user := by
        by_cases passes : UserTable.isMatch weight named email other = true
        · rw [if_pos passes] at also
          exact also
        · rw [if_neg passes] at also
          exact also
      rw [kept other there untouched] at pwd_eq
      exact ⟨other, there, untouched, pwd_eq⟩
    · rintro ⟨other, there, also, pwd_eq⟩
      exact ⟨_, List.mem_map.mpr ⟨other, there, kept other there also⟩, also, pwd_eq⟩

theorem Kept.registered (kept : Kept lib gate) {body : Bytes} {getting : Outcome} {storing : MysqlOutcome}
    (text : KeepsText lib gate (.userRegister body getting storing))
    (stepped : gate.step lib (.userRegister body getting storing) = some after) : Kept lib after := by
  obtain ⟨heard, whole⟩ := text
  obtain ⟨response, users, same, cases⟩ := userRegister_cases lib body getting gate.redis gate.users heard
  simp only [GateSystem.step, same] at stepped
  cases stepped
  rcases cases with ⟨rows, fails⟩ | ⟨request, row, parsed, ⟨made, fresh⟩, rows, success⟩
  · refine kept.unset rfl rows ?_
    rintro user passwd ⟨_, _, _, _, success⟩
    exact fails success
  · obtain ⟨wholeUser, wholePasswd⟩ := whole request parsed
    have stored : row.name = request.user ∧ row.pwd = request.passwd := by
      unfold UserTable.newRow at made
      split at made
      · rename_i name email pwd storedName _ storedPwd
        cases made
        exact ⟨wholeUser name storedName, wholePasswd pwd storedPwd⟩
      · cases made
    refine kept.set request.user request.passwd rfl ?_ ?_ ?_
    · intro user passwd
      rw [sets_registered user passwd parsed]
      simp [success]
    · intro user passwd name
      rw [hasPassword_added rows, stored.1, stored.2]
      have unused : ¬ HasPassword gate.users user passwd := by
        rintro ⟨other, inside, also, _⟩
        refine fresh ⟨other, inside, .inr (.inl ?_)⟩
        rw [stored.1, also, name]
      simp [unused, name]
    · intro user passwd name
      rw [hasPassword_added rows, stored.1]
      simp [name]

theorem Kept.reset (kept : Kept lib gate) {body : Bytes} {getting : Outcome} {storing : MysqlOutcome}
    (text : KeepsText lib gate (.resetPassword body getting storing))
    (stepped : gate.step lib (.resetPassword body getting storing) = some after) : Kept lib after := by
  obtain ⟨heard, whole⟩ := text
  obtain ⟨response, users, same, cases⟩ := resetPassword_cases lib body getting gate.redis gate.users heard
  simp only [GateSystem.step, same] at stepped
  cases stepped
  rcases cases with ⟨rows, fails⟩ | ⟨request, row, pwd, parsed, member, found, stored, rfl, success⟩
  · refine kept.unset rfl rows ?_
    rintro user passwd ⟨_, _, _, _, success⟩
    exact fails success
  · obtain rfl := whole request parsed pwd stored
    refine kept.set request.user request.passwd rfl ?_ ?_ ?_
    · intro user passwd
      rw [sets_reset user passwd parsed]
      simp [success]
    · exact fun user passwd => (hasPassword_setPwd member found user passwd).1
    · exact fun user passwd => (hasPassword_setPwd member found user passwd).2

theorem Kept.step (kept : Kept lib gate) {act : GateAct} (text : KeepsText lib gate act)
    (stepped : gate.step lib act = some after) : Kept lib after := by
  cases act with
  | userRegister body getting storing => exact kept.registered text stepped
  | resetPassword body getting storing => exact kept.reset text stepped
  | userLogin body checking =>
    cases stepped
    exact kept
  | others redis =>
    cases stepped
    exact kept

theorem kept_start (lib : JsonLib) (redis : Redis) : Kept lib ({ redis } : GateSystem weight) := by
  intro user passwd
  refine iff_of_false Latest.not_nil ?_
  rintro ⟨row, member, _⟩
  exact absurd member List.not_mem_nil

end Runs

theorem login_opens_with_current {weight : Collation} (lib : JsonLib) (redis : Redis) (actions : List GateAct)
    (gate : GateSystem weight) (run : Transition.Run (GateSystem.step lib) { redis } actions gate)
    (text : Transition.Meets (GateSystem.step lib) (KeepsText lib) ({ redis } : GateSystem weight) actions)
    (body : Bytes) (request : Gate.UserLoginRequest) (parsed : parseJson lib Gate.UserLoginRequest.fromJson body = some request)
    (checking : MysqlOutcome) :
    OpensWithCurrent lib body request checking gate ↔ ∀ row ∈ gate.users.rows, weight row.name = weight request.user →
      weight row.pwd = weight request.passwd → (row.pwd = request.passwd ↔ checking = .answered) := by
  have kept : Kept lib gate := run.invariant_of_meets (fun _ _ _ kept text stepped => kept.step text stepped) text (kept_start lib redis)
  have current : (∃ row ∈ gate.users.rows, weight row.name = weight request.user) ∧
      CurrentPassword lib weight request.user request.passwd gate.history ↔
        HasPassword gate.users request.user request.passwd := by
    rw [kept request.user request.passwd]
    constructor
    · exact And.right
    · rintro ⟨row, member, name, pwd⟩
      exact ⟨⟨row, member, name⟩, row, member, name, pwd⟩
  rw [OpensWithCurrent, passes_iff parsed, current]
  constructor
  · intro opens row member name pwd
    constructor
    · intro same
      exact (opens.mpr ⟨row, member, name, same⟩).1
    · intro answered
      obtain ⟨other, inside, also, same⟩ := opens.mp ⟨answered, row, member, name, pwd⟩
      -- names are unique
      rw [List.inj_on_of_nodup_map gate.users.uniqueName member inside (name.trans also.symm), same]
  · intro only
    constructor
    · rintro ⟨answered, row, member, name, pwd⟩
      exact ⟨row, member, name, (only row member name pwd).mpr answered⟩
    · rintro ⟨row, member, name, same⟩
      have pwd : weight row.pwd = weight request.passwd := congrArg weight same
      exact ⟨(only row member name pwd).mp same, row, member, name, pwd⟩

/-- A collation that does not see the difference between capital and small letters. -/
def caseless : Collation := fun text => String.ofList (text.toList.map Char.toLower)

def carolBody : Bytes :=
  bytesOf ("\x7b\"user\":\"carol\",\"email\":\"carol@example.com\",\"passwd\":\"Secret\"," ++
    "\"confirm_passwd\":\"Secret\",\"verify_code\":\"7f3c\"\x7d")

def carolLogin (passwd : String) : Bytes := bytesOf ("\x7b\"user\":\"carol\",\"passwd\":\"" ++ passwd ++ "\"\x7d")

/-- It knows the three bodies. -/
def carolLib : JsonLib :=
  { parse := fun body =>
      if body = carolBody then
        some (.obj [("user", .str "carol"), ("email", .str "carol@example.com"), ("passwd", .str "Secret"),
          ("confirm_passwd", .str "Secret"), ("verify_code", .str "7f3c")])
      else if body = carolLogin "Secret" then some (.obj [("user", .str "carol"), ("passwd", .str "Secret")])
      else if body = carolLogin "secret" then some (.obj [("user", .str "carol"), ("passwd", .str "secret")])
      else none
    parseUserInfo := fun _ => none }

def carolRedis : Redis := ({} : Redis).set "carol@example.com" "7f3c"

def carolRun : List GateAct := [.userRegister carolBody .ok .answered]

def carolRow : UserRow := { id := 1, name := "carol", email := "carol@example.com", pwd := "Secret" }

theorem carol_parsed : parseJson carolLib UserRegisterRequest.fromJson carolBody =
    some ⟨"carol", "carol@example.com", "Secret", "Secret", "7f3c"⟩ := by
  decide +kernel

theorem carol_registered : ∃ gate : GateSystem caseless,
    Transition.Run (GateSystem.step carolLib) { redis := carolRedis } carolRun gate ∧ gate.users.rows = [carolRow] :=
  ⟨_, .single rfl, by decide +kernel⟩

theorem storedWhole_short {text : String} (short : text.toList.length ≤ columnLength) : StoredWhole text := by
  intro stored same
  rw [varcharColumn_fits short] at same
  exact (Option.some.inj same).symm

theorem carol_text : Transition.Meets (GateSystem.step carolLib) (KeepsText carolLib)
    ({ redis := carolRedis } : GateSystem caseless) carolRun := by
  refine ⟨⟨nofun, ?_⟩, fun _ _ => trivial⟩
  intro request parsed
  cases carol_parsed.symm.trans parsed
  exact ⟨storedWhole_short (by decide), storedWhole_short (by decide)⟩

theorem login_opens_with_current_carol : ∃ gate : GateSystem caseless,
    Transition.Run (GateSystem.step carolLib) { redis := carolRedis } carolRun gate ∧
      OpensWithCurrent carolLib (carolLogin "Secret") { user := "carol", passwd := "Secret" } .answered gate := by
  obtain ⟨gate, run, rows⟩ := carol_registered
  refine ⟨gate, run, (login_opens_with_current carolLib carolRedis carolRun gate run carol_text
    (carolLogin "Secret") { user := "carol", passwd := "Secret" } (by decide +kernel) .answered).mpr ?_⟩
  intro row member _ _
  rw [rows] at member
  obtain rfl := List.mem_singleton.mp member
  exact iff_of_true rfl rfl

theorem login_ignores_case : ∃ gate : GateSystem caseless,
    Transition.Run (GateSystem.step carolLib) { redis := carolRedis } carolRun gate ∧
      ¬ OpensWithCurrent carolLib (carolLogin "secret") { user := "carol", passwd := "secret" } .answered gate := by
  obtain ⟨gate, run, rows⟩ := carol_registered
  refine ⟨gate, run, ?_⟩
  have member : carolRow ∈ gate.users.rows := by simp [rows]
  have kept : Kept carolLib gate :=
    run.invariant_of_meets (fun _ _ _ kept text stepped => kept.step text stepped) carol_text (kept_start carolLib carolRedis)
  have parsed : parseJson carolLib Gate.UserLoginRequest.fromJson (carolLogin "secret") = some ⟨"carol", "secret"⟩ := by
    decide +kernel
  have same : caseless "Secret" = caseless "secret" := by decide +kernel
  have passes : PassesPasswordCheck carolLib (carolLogin "secret") .answered gate.users :=
    (passes_iff parsed).mpr ⟨rfl, carolRow, member, rfl, same⟩
  intro opens
  obtain ⟨row, inside, _, same⟩ := (kept "carol" "secret").mp (opens.mp passes).2
  rw [rows] at inside
  obtain rfl := List.mem_singleton.mp inside
  exact absurd same (by decide)

end ChatProof
