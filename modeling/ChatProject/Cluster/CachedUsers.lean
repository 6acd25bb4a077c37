import ChatProject.Cluster.Accounts
import ChatProject.Cluster.Records
import ChatProject.Gate.CurrentPassword
import ChatProject.Library.JsonText

/-! What a search finds of a user, and what the table has. -/

namespace ChatProof

open ChatModel

/-! ## What goes into the cache -/

/-- Under the key of a user only the info is stored that MySQL has returned for it. -/
def StoresAnswer (told : Ledger) : Op → Prop
  | .redisSet key value => (∀ user : UserKey, key ≠ user.redisKey) ∨
      ∃ (user : UserKey) (info : UserInfo), key = user.redisKey ∧ value = info.toJson.dump ∧
        Told told (.getUserInfo user) (.ok (some info))
  | .redisHset key _ _ => ∀ user : UserKey, key ≠ user.redisKey
  | _ => True

/-- A handler that has not stored anything under the key of a user. -/
def SparesUsers : Op → Prop
  | .redisSet key _ | .redisHset key _ _ => ∀ user : UserKey, key ≠ user.redisKey
  | _ => True

theorem SparesUsers.storesAnswer {op : Op} (spares : SparesUsers op) (told : Ledger) : StoresAnswer told op := by
  cases op with
  | redisSet key value => exact .inl spares
  | redisHset key field value => exact spares
  | _ => trivial

section Handlers

variable (lib : JsonLib) (msg : MsgNode)

def FindsUser (key : UserKey) (told : Ledger) (result : Except Failure (Option UserInfo)) : Prop :=
  ∀ info, result = .ok (some info) → FoundUser lib key told info

theorem searchUserByType_stores (key : UserKey) (told : Ledger) :
    (searchUserByType lib key).Guided StoresAnswer (FindsUser lib key) told := by
  apply searchUserByType_guided
  · trivial
  · intro text info parsed other same
    cases same
    exact .cached (told_head _ _ _) parsed
  · intro cached
    trivial
  · intro cached failure other same
    cases same
  · intro cached other same
    cases same
  · intro cached info
    exact .inr ⟨key, info, rfl, rfl, told_head _ _ _⟩
  · intro cached info done other same
    cases same
    exact .stored ((told_head _ _ _).tail _)

theorem searchUser_stores (told : Ledger) : (searchUser lib msg).Guided StoresAnswer (SearchEnds lib msg) told := by
  rw [searchUser_eq]
  cases parsed : lib.parse msg.bodyText with
  | none => exact .invalid parsed
  | some request =>
    cases asked : searchKey lib msg with
    | none => exact .notFound
    | some key =>
      apply Coroutine.Guided.bind
      apply (searchUserByType_stores lib key told).mono
      intro later result finds
      cases result with
      | error failure => trivial
      | ok info =>
        cases info with
        | none => exact .notFound
        | some info => exact .found asked (finds info rfl)

theorem loginRest_spares (request : UserLoginRequest) (userInfo : UserInfo) : (loginRest request userInfo).AsksOnly SparesUsers := by
  have ends : ∀ applies : Except Failure (List FriendApplyInfo), ((Coroutine.ofExcept applies).bind fun applyList =>
      Coroutine.bind (Awaitable.attempt (Awaitable.perform (.getFriends request.uid))) fun friendList =>
        .ret (loginReply request userInfo applyList friendList)).AsksOnly SparesUsers := by
    intro applies
    cases applies with
    | error failure => trivial
    | ok applyList =>
      refine ⟨trivial, ?_⟩
      intro friends
      cases friends <;> trivial
  refine ⟨trivial, fun name => ⟨trivial, fun count => ⟨?_, fun counted => ⟨trivial, fun _ => ⟨trivial, fun _ => ⟨trivial,
    fun server => ⟨?_, fun routed => ⟨trivial, ends⟩⟩⟩⟩⟩⟩⟩⟩
  · exact loginCountKey_ne_redisKey
  · exact userLoginServerKey_ne_redisKey request.uid

theorem login_stores (told : Ledger) : (login lib msg).Guided StoresAnswer (fun _ _ => True) told := by
  unfold login
  cases parseJson lib UserLoginRequest.fromJson msg.bodyText with
  | none => trivial
  | some request =>
    refine ⟨trivial, ?_⟩
    intro token
    cases token with
    | none => trivial
    | some token =>
      change Coroutine.Guided _ _ (if token ≠ request.token then _ else _) _
      split
      · trivial
      · rename_i same
        simp only [ne_eq, not_not] at same
        subst same
        apply Coroutine.Guided.bind
        apply (searchUserByType_stores lib (.uid request.uid) _).mono
        intro later result _
        cases result with
        | error failure => trivial
        | ok info =>
          cases info with
          | none => trivial
          | some info =>
            have spares : (loginRest request info).AsksOnly SparesUsers := loginRest_spares request info
            exact spares.guides (fun told op asks => asks.storesAnswer told) fun _ _ => trivial

end Handlers

/-! ## One request of a chat server -/

section Serve

variable {weight : Collation} {lib : JsonLib} {system : AccountSystem weight}

/-- The info in Redis, if there is one that can be read. -/
def cached (lib : JsonLib) (redis : Redis) (key : UserKey) : Option UserInfo :=
  (redis.get key.redisKey).bind lib.parseUserInfo

/-- Everything in the cache is as MySQL has it. -/
def CacheAgrees (lib : JsonLib) (system : AccountSystem weight) : Prop :=
  ∀ key info, cached lib system.gate.redis key = some info → system.current key = some info

/-- What is read from a serialized info is this info. -/
def ReadsInfo (lib : JsonLib) : Prop := ∀ info other, lib.parseUserInfo info.toJson.dump = some other → other = info

/-- While a handler runs, the table is as it was, and what the handler knows of users is true. -/
structure Serving (lib : JsonLib) (system : AccountSystem weight) (told : Ledger) (stores : Stores) : Prop where
  users : stores.db.user = system.stores.db.user
  agrees : ∀ key info, cached lib stores.redis key = some info → system.current key = some info
  found : ∀ key info, FoundUser lib key told info → system.current key = some info

theorem exec_user (externals : Externals) (outcome : Outcome) (op : Op) (stores : Stores) :
    (stores.exec externals outcome op).2.db.user = stores.db.user := by
  have same : ∀ {α : Type} (done : α × Tables), done.2.user = stores.db.user →
      (stores.onTables outcome done).2.db.user = stores.db.user := by
    intro α done kept
    cases outcome with
    | ok => exact kept
    | error => rfl
    | lost => exact kept
  cases op with
  | getUserInfo key => cases key <;> exact same _ rfl
  | addFriendApply fromUid toUid =>
    simp only [Stores.exec, Stores.addFriendApply]
    split
    · rename_i db added
      unfold Tables.addFriendApply at added
      split at added <;> cases added
      exact same _ rfl
    · rfl
  | authFriendApply fromUid toUid => exact same _ rfl
  | getFriendApplies toUid => exact same _ rfl
  | getFriends selfId => exact same _ rfl
  | _ => rfl

theorem get_congr {key : String} {redis after : Redis} (now : after.now = redis.now)
    (entries : after.entries key = redis.entries key) : after.get key = redis.get key := by
  unfold Redis.get Redis.lookup
  rw [entries, now]

theorem exec_get (externals : Externals) (outcome : Outcome) (op : Op) (stores : Stores) {key : String}
    (spared : ∀ changed ∈ keyWritten op, key ≠ changed) :
    (stores.exec externals outcome op).2.redis.get key = stores.redis.get key := by
  obtain ⟨now, entries⟩ := exec_entries externals outcome op stores
  exact get_congr now (entries key spared)

theorem serving_start (agrees : CacheAgrees lib system) : Serving lib system [] system.stores := by
  refine ⟨rfl, agrees, ?_⟩
  intro key info found
  cases found with
  | cached known _ => exact absurd known List.not_mem_nil
  | stored known => exact absurd known List.not_mem_nil

section Call

variable {around : Surroundings} {told : Ledger} {op : Op} {answer : op.Res} {stores after : Stores}

/-- A call changes the stores only where it is one of theirs. -/
theorem exec_around (externals : Externals) (around : Surroundings) (op : Op) (stores : Stores) :
    (around.exec externals op stores).2 = stores ∨
      around.exec externals op stores = stores.exec externals (around.outcome op) op := by
  unfold Surroundings.exec
  split
  · exact .inr rfl
  · exact .inl rfl

theorem Serving.cachedAfter (reads : ReadsInfo lib) (serving : Serving lib system told stores) (asks : StoresAnswer told op)
    (outcome : Outcome) {key : UserKey} {info : UserInfo}
    (there : cached lib (stores.exec (externalsOf lib weight) outcome op).2.redis key = some info) :
    system.current key = some info := by
  by_cases spared : ∀ changed ∈ keyWritten op, key.redisKey ≠ changed
  · rw [cached, exec_get _ _ _ _ spared] at there
    exact serving.agrees key info there
  · cases op with
    | redisSet written value =>
      have same : key.redisKey = written := by simpa [keyWritten] using spared
      subst same
      rcases asks with other | ⟨user, stored, named, rfl, known⟩
      · exact absurd rfl (other key)
      · obtain rfl := redisKey_injective named
        have found := serving.found key stored (.stored known)
        have set : (stores.redis.set key.redisKey stored.toJson.dump).get key.redisKey = some stored.toJson.dump :=
          Redis.get_set _ _ _
        cases outcome with
        | error => exact serving.agrees key info there
        | ok =>
          change ((stores.redis.set key.redisKey stored.toJson.dump).get key.redisKey).bind lib.parseUserInfo = some info at there
          rw [set] at there
          rw [reads stored info there]
          exact found
        | lost =>
          change ((stores.redis.set key.redisKey stored.toJson.dump).get key.redisKey).bind lib.parseUserInfo = some info at there
          rw [set] at there
          rw [reads stored info there]
          exact found
    | redisHset written field value =>
      have same : key.redisKey = written := by simpa [keyWritten] using spared
      exact absurd same.symm (asks key)
    | _ => exact absurd nofun spared

theorem get_answered {key text : String} {outcome : Outcome} {redis : Redis}
    (answered : (RedisClient.get key outcome redis).1 = some text) : redis.get key = some text := by
  cases outcome with
  | ok => exact answered
  | error => cases answered
  | lost => cases answered

theorem current_answered {key : UserKey} {info : UserInfo} {outcome : Outcome} (users : stores.db.user = system.stores.db.user)
    (answered : (stores.exec (externalsOf lib weight) outcome (.getUserInfo key)).1 = .ok (some info)) :
    system.current key = some info := by
  cases key with
  | uid uid =>
    have table : stores.db.getUserInfoByUid uid = system.stores.db.getUserInfoByUid uid := by
      simp only [Tables.getUserInfoByUid, users]
    cases outcome with
    | ok =>
      have found : stores.db.getUserInfoByUid uid = some info := Except.ok.inj answered
      exact table.symm.trans found
    | error => cases answered
    | lost => cases answered
  | name name =>
    have table : ∀ sameName, stores.db.getUserInfoByName sameName name = system.stores.db.getUserInfoByName sameName name := by
      intro sameName
      simp only [Tables.getUserInfoByName, users]
    cases outcome with
    | ok =>
      have found : stores.db.getUserInfoByName (externalsOf lib weight).sameName name = some info := Except.ok.inj answered
      exact (table _).symm.trans found
    | error => cases answered
    | lost => cases answered

theorem Serving.call (reads : ReadsInfo lib) (asks : StoresAnswer told op) (serving : Serving lib system told stores)
    (done : around.exec (externalsOf lib weight) op stores = (answer, after)) : Serving lib system (⟨op, answer⟩ :: told) after := by
  have users : after.db.user = stores.db.user := by
    rcases exec_around (externalsOf lib weight) around op stores with same | same
    · rw [done] at same
      rw [show after = stores from same]
    · rw [done] at same
      rw [← exec_user (externalsOf lib weight) (around.outcome op) op stores, ← same]
  refine ⟨users.trans serving.users, ?_, ?_⟩
  · intro key info there
    rcases exec_around (externalsOf lib weight) around op stores with same | same
    · rw [done] at same
      rw [show after = stores from same] at there
      exact serving.agrees key info there
    · apply serving.cachedAfter reads asks (around.outcome op)
      rw [← same, done]
      exact there
  · intro key info found
    cases found with
    | @cached text known parsed =>
      rcases List.mem_cons.mp known with same | known
      · cases same
        have got : (RedisClient.get key.redisKey (around.outcome (.redisGet key.redisKey)) stores.redis).1 = some text :=
          congrArg Prod.fst done
        apply serving.agrees key info
        rw [cached, get_answered got]
        exact parsed
      · exact serving.found key info (.cached known parsed)
    | stored known =>
      rcases List.mem_cons.mp known with same | known
      · cases same
        exact current_answered serving.users (congrArg Prod.fst done)
      · exact serving.found key info (.stored known)

end Call

/-- A handler that caches only what MySQL has answered leaves an agreeing cache, and the users that it finds are the current ones. -/
theorem serve_agrees {α : Type} {post : Ledger → Except Failure α → Prop} {handler : Awaitable α} (reads : ReadsInfo lib)
    (stores : handler.Guided StoresAnswer post []) (agrees : CacheAgrees lib system) (around : Surroundings) :
    CacheAgrees lib (system.serve lib around handler).2 ∧
      ∃ told, post told (system.serve lib around handler).1 ∧
        ∀ key info, FoundUser lib key told info → system.current key = some info := by
  have keeps : ∀ told op stores, StoresAnswer told op → Serving lib system told stores →
      Serving lib system (⟨op, (around.exec (externalsOf lib weight) op stores).1⟩ :: told)
        (around.exec (externalsOf lib weight) op stores).2 :=
    fun told op stores asks serving => serving.call reads asks rfl
  obtain ⟨told, ends, serving⟩ := stores.run (around.exec (externalsOf lib weight)) keeps (serving_start agrees)
  refine ⟨?_, told, ends, serving.found⟩
  intro key info there
  have before := serving.agrees key info there
  cases key with
  | uid uid => exact before
  | name name => exact before

/-- The reply to a search names the current row, or it is an error. -/
def AnswersCurrent (lib : JsonLib) (system : AccountSystem weight) (msg : MsgNode) (reply : ChannelMessage) : Prop :=
  (∃ error, reply = errorResponse MessageId.searchUserResponse.wire error) ∨
    ∃ key info, searchKey lib msg = some key ∧ system.current key = some info ∧
      reply = { msg := MsgNode.ofText MessageId.searchUserResponse.wire info.toJson.dump }

/-- A search that finds a user returns the current row, and so does the handler of searches. -/
def FindsCurrent (lib : JsonLib) (system : AccountSystem weight) : Prop :=
  (∀ key around info, (system.serve lib around (searchUserByType lib key)).1 = .ok (some info) → system.current key = some info) ∧
    ∀ msg around reply, (system.serve lib around (searchUser lib msg)).1 = .ok reply → AnswersCurrent lib system msg reply

/-- All calls end well. -/
def undisturbed (externals : Externals) : Surroundings :=
  { outcome := fun _ => .ok, answer := fun op => (({} : Stores).exec externals .ok op).1 }

theorem searchUser_current (reads : ReadsInfo lib) (agrees : CacheAgrees lib system) (msg : MsgNode) (around : Surroundings)
    {reply : ChannelMessage} (replied : (system.serve lib around (searchUser lib msg)).1 = .ok reply) :
    AnswersCurrent lib system msg reply := by
  obtain ⟨_, told, ends, current⟩ := serve_agrees reads (searchUser_stores lib msg []) agrees around
  rw [replied] at ends
  cases ends with
  | invalid _ => exact .inl ⟨_, rfl⟩
  | notFound => exact .inl ⟨_, rfl⟩
  | found asked found => exact .inr ⟨_, _, asked, current _ _ found, rfl⟩

theorem findsCurrent_iff (reads : ReadsInfo lib) : FindsCurrent lib system ↔ CacheAgrees lib system := by
  constructor
  · intro finds key info there
    apply finds.1 key (undisturbed (externalsOf lib weight)) info
    unfold AccountSystem.serve searchUserByType searchUserInfo
    have got : (system.stores.redis.get key.redisKey).bind lib.parseUserInfo = some info := there
    simp [Awaitable.perform, Surroundings.exec, Op.isExternal, Stores.exec, undisturbed, Stores.onRedis, RedisClient.get, Outcome.settle, got]
  · intro agrees
    refine ⟨?_, fun msg around reply replied => searchUser_current reads agrees msg around replied⟩
    intro key around info found
    obtain ⟨_, told, finds, current⟩ := serve_agrees reads (searchUserByType_stores lib key []) agrees around
    exact current key info (finds info found)

end Serve

/-! ## The table -/

section Table

variable {weight : Collation} {lib : JsonLib} {system : AccountSystem weight} {users : UserTable weight}

/-- The row that a search under this key is about. -/
def Names (weight : Collation) (row : UserRow) : UserKey → Prop
  | .uid uid => row.id.toInt64 = uid
  | .name name => weight row.name = weight name

theorem names_unique {row other : UserRow} {key : UserKey} (member : row ∈ users.rows) (inside : other ∈ users.rows)
    (names : Names weight row key) (also : Names weight other key) : row = other := by
  cases key with
  | uid uid => exact List.inj_on_of_nodup_map users.primary member inside (toInt64_injective (names.trans also.symm))
  | name name => exact List.inj_on_of_nodup_map users.uniqueName member inside (names.trans also.symm)

theorem current_iff {key : UserKey} {info : UserInfo} :
    system.current key = some info ↔ ∃ row ∈ system.gate.users.rows, Names weight row key ∧ row.info = info := by
  have found : ∀ test : UserRow → Bool, (∀ row, test row = true ↔ Names weight row key) →
      ((system.gate.users.rows.find? test).map UserRow.info = some info ↔
        ∃ row ∈ system.gate.users.rows, Names weight row key ∧ row.info = info) := by
    intro test tests
    constructor
    · intro same
      obtain ⟨row, first, rfl⟩ := Option.map_eq_some_iff.mp same
      exact ⟨row, List.mem_of_find?_eq_some first, (tests row).mp (List.find?_some first), rfl⟩
    · rintro ⟨row, member, names, rfl⟩
      cases first : system.gate.users.rows.find? test with
      | none => exact absurd ((tests row).mpr names) (List.find?_eq_none.mp first row member)
      | some other =>
        have also := (tests other).mp (List.find?_some first)
        rw [names_unique member (List.mem_of_find?_eq_some first) names also]
        rfl
  cases key with
  | uid uid => exact found (fun row => row.id.toInt64 = uid) fun row => decide_eq_true_iff
  | name name => exact found (fun row => decide (weight row.name = weight name)) fun row => decide_eq_true_iff

theorem userRegister_rows (lib : JsonLib) (body : Bytes) (getting : Outcome) (storing : MysqlOutcome) (redis : Redis)
    (users : UserTable weight) :
    (Gate.respond (Gate.userRegister lib body getting storing redis users)).2.rows = users.rows ∨
      ∃ row, (Gate.respond (Gate.userRegister lib body getting storing redis users)).2.rows = users.rows ++ [row] := by
  by_cases arrives : ∃ request, parseJson lib UserRegisterRequest.fromJson body = some request ∧
      Verified request.email request.verifyCode getting redis
  · obtain ⟨request, parsed, verified⟩ := arrives
    by_cases idle : (∀ row, ¬ StoresRow request users row) ∨ ∃ code, storing = .failed code
    · obtain ⟨response, after, same, rows, _⟩ := userRegister_idle parsed verified idle
      rw [same]
      exact .inl rows
    · simp only [not_or, not_forall, not_not, not_exists] at idle
      obtain ⟨⟨row, stores⟩, reaches⟩ := idle
      obtain ⟨response, after, same, rows, _⟩ := userRegister_stored parsed verified stores reaches
      rw [same]
      exact .inr ⟨row, rows⟩
  · have refused : ∀ request, parseJson lib UserRegisterRequest.fromJson body = some request →
        ¬ Verified request.email request.verifyCode getting redis := by
      intro request parsed verified
      exact arrives ⟨request, parsed, verified⟩
    obtain ⟨response, same, _⟩ := userRegister_refused storing users refused
    rw [same]
    exact .inl rfl

/-- A request for a new password that gets as far as the table, with the text that is stored. -/
structure ResetsTo (lib : JsonLib) (body : Bytes) (getting : Outcome) (storing : MysqlOutcome) (redis : Redis)
    (request : UserResetPasswordRequest) (pwd : String) : Prop where
  parsed : parseJson lib UserResetPasswordRequest.fromJson body = some request
  verified : Verified request.email request.verifyCode getting redis
  reaches : ∀ code, storing ≠ .failed code
  stored : varcharColumn request.passwd = some pwd

def withPwd (weight : Collation) (request : UserResetPasswordRequest) (pwd : String) (row : UserRow) : UserRow :=
  if UserTable.isMatch weight request.user request.email row then { row with pwd } else row

theorem names_withPwd {request : UserResetPasswordRequest} {pwd : String} {row : UserRow} {key : UserKey} :
    Names weight (withPwd weight request pwd row) key ↔ Names weight row key := by
  unfold withPwd
  split
  · cases key <;> rfl
  · rfl

theorem update_rows {request : UserResetPasswordRequest} {pwd : String} (stored : varcharColumn request.passwd = some pwd) :
    (users.update request.user request.email request.passwd).2.rows = users.rows.map (withPwd weight request pwd) := by
  by_cases present : ∃ row ∈ users.rows, UserTable.isMatch weight request.user request.email row = true
  · obtain ⟨row, member, found⟩ := present
    rw [update_matched member found, stored]
    exact setPwd_rows _ pwd users
  · have absent : ∀ row ∈ users.rows, UserTable.isMatch weight request.user request.email row = false := by
      intro row member
      by_contra also
      exact present ⟨row, member, by simpa using also⟩
    have kept : ∀ row ∈ users.rows, withPwd weight request pwd row = row := by
      intro row member
      simp [withPwd, absent row member]
    rw [update_unmatched absent, List.map_congr_left kept, List.map_id']

theorem update_refused {request : UserResetPasswordRequest} (tooLong : varcharColumn request.passwd = none) :
    (users.update request.user request.email request.passwd).2 = users := by
  unfold UserTable.update
  rw [tooLong]
  dsimp only
  split <;> rfl

theorem resetPassword_rows (lib : JsonLib) (body : Bytes) (getting : Outcome) (storing : MysqlOutcome) (redis : Redis)
    (users : UserTable weight) :
    (∃ request pwd, ResetsTo lib body getting storing redis request pwd ∧
      (Gate.respond (Gate.resetPassword lib body getting storing redis users)).2.rows =
        users.rows.map (withPwd weight request pwd)) ∨
    (∀ request pwd, ¬ ResetsTo lib body getting storing redis request pwd) ∧
      (Gate.respond (Gate.resetPassword lib body getting storing redis users)).2.rows = users.rows := by
  cases parsed : parseJson lib UserResetPasswordRequest.fromJson body with
  | none =>
    refine .inr ⟨?_, ?_⟩
    · intro request pwd resets
      cases parsed.symm.trans resets.parsed
    · unfold Gate.resetPassword
      rw [parsed]
      rfl
  | some request =>
    by_cases verified : Verified request.email request.verifyCode getting redis
    · obtain ⟨response, same, _⟩ := resetPassword_verified storing users parsed verified
      have repo : (UserRepo.resetPassword request storing users).2 =
          (storing.settle (users.update request.user request.email request.passwd) users).2 := rfl
      rw [same, repo]
      cases stored : varcharColumn request.passwd with
      | none =>
        refine .inr ⟨?_, ?_⟩
        · intro other pwd resets
          cases parsed.symm.trans resets.parsed
          cases stored.symm.trans resets.stored
        · cases storing with
          | failed code => rfl
          | answered => exact congrArg UserTable.rows (update_refused stored)
          | lost code => exact congrArg UserTable.rows (update_refused stored)
      | some pwd =>
        cases storing with
        | failed code =>
          refine .inr ⟨?_, rfl⟩
          intro other text resets
          exact resets.reaches code rfl
        | answered => exact .inl ⟨request, pwd, ⟨parsed, verified, nofun, stored⟩, update_rows stored⟩
        | lost code => exact .inl ⟨request, pwd, ⟨parsed, verified, nofun, stored⟩, update_rows stored⟩
    · obtain ⟨response, same, _⟩ : ∃ response,
          Gate.respond (Gate.resetPassword lib body getting storing redis users) = (response, users) ∧
            ¬ Gate.ReportsSuccess response := resetPassword_unverified parsed verified
      rw [same]
      refine .inr ⟨?_, rfl⟩
      intro other pwd resets
      cases parsed.symm.trans resets.parsed
      exact verified resets.verified

end Table

/-! ## Runs -/

section Runs

variable {weight : Collation} {lib : JsonLib} {system after : AccountSystem weight}

/-- No reset changes the row of a user whose info is in the cache. -/
def SparesCached (lib : JsonLib) (system : AccountSystem weight) : AccountAct → Prop
  | .gate (.resetPassword body getting storing) => ∀ request pwd,
      ResetsTo lib body getting storing system.gate.redis request pwd → ∀ row ∈ system.gate.users.rows,
        UserTable.isMatch weight request.user request.email row = true → row.pwd ≠ pwd →
        ∀ key, Names weight row key → cached lib system.gate.redis key = none
  | _ => True

/-- The rows are still there, and Redis has nothing new. -/
theorem CacheAgrees.grown (agrees : CacheAgrees lib system)
    (rows : ∀ row ∈ system.gate.users.rows, row ∈ after.gate.users.rows)
    (redis : ∀ key text, after.gate.redis.get key = some text → system.gate.redis.get key = some text) :
    CacheAgrees lib after := by
  intro key info there
  obtain ⟨text, got, parsed⟩ := Option.bind_eq_some_iff.mp there
  have before : cached lib system.gate.redis key = some info := by
    rw [cached, redis _ _ got]
    exact parsed
  obtain ⟨row, member, names, same⟩ := current_iff.mp (agrees key info before)
  exact current_iff.mpr ⟨row, rows row member, names, same⟩

theorem get_tick {key text : String} {seconds : Nat} {redis : Redis} (got : (redis.tick seconds).get key = some text) :
    redis.get key = some text := by
  unfold Redis.get Redis.lookup Redis.tick at got
  unfold Redis.get Redis.lookup
  dsimp only at got
  cases entry : redis.entries key with
  | none =>
    rw [entry] at got
    cases got
  | some held =>
    obtain ⟨value, expireAt⟩ := held
    rw [entry] at got
    cases expireAt with
    | none => exact got
    | some time =>
      dsimp only at got ⊢
      by_cases later : redis.now + seconds < time
      · rw [if_pos later] at got
        rw [if_pos (by omega)]
        exact got
      · rw [if_neg later] at got
        cases got

theorem reset_agrees (agrees : CacheAgrees lib system) {body : Bytes} {getting : Outcome} {storing : MysqlOutcome}
    (redis : after.gate.redis = system.gate.redis)
    (rows : after.gate.users.rows =
      (Gate.respond (Gate.resetPassword lib body getting storing system.gate.redis system.gate.users)).2.rows) :
    CacheAgrees lib after ↔ SparesCached lib system (.gate (.resetPassword body getting storing)) := by
  rcases resetPassword_rows lib body getting storing system.gate.redis system.gate.users with
    ⟨request, pwd, resets, changed⟩ | ⟨stays, same⟩
  · rw [changed] at rows
    constructor
    · intro follows other text also row member found different key names
      cases resets.parsed.symm.trans also.parsed
      cases resets.stored.symm.trans also.stored
      by_contra held
      obtain ⟨info, there⟩ := Option.ne_none_iff_exists'.mp held
      have before := agrees key info there
      rw [current_iff.mpr ⟨row, member, names, rfl⟩] at before
      have later : cached lib after.gate.redis key = some info := by
        rw [redis]
        exact there
      have inside : withPwd weight request pwd row ∈ after.gate.users.rows := by
        rw [rows]
        exact List.mem_map_of_mem member
      have now := follows key info later
      rw [current_iff.mpr ⟨_, inside, names_withPwd.mpr names, rfl⟩, ← Option.some.inj before] at now
      have pwds : (withPwd weight request pwd row).pwd = row.pwd := congrArg UserInfo.pwd (Option.some.inj now)
      rw [withPwd, if_pos found] at pwds
      exact different pwds.symm
    · intro spares key info there
      rw [redis] at there
      obtain ⟨row, member, names, same⟩ := current_iff.mp (agrees key info there)
      have unchanged : withPwd weight request pwd row = row := by
        unfold withPwd
        split
        · rename_i found
          by_cases old : row.pwd = pwd
          · rw [← old]
          · rw [spares request pwd resets row member found old key names] at there
            cases there
        · rfl
      refine current_iff.mpr ⟨row, ?_, names, same⟩
      rw [rows, ← unchanged]
      exact List.mem_map_of_mem member
  · rw [same] at rows
    refine iff_of_true (agrees.grown ?_ ?_) ?_
    · rw [rows]
      exact fun _ member => member
    · rw [redis]
      exact fun _ _ got => got
    · intro request pwd resets
      exact (stays request pwd resets).elim

theorem step_agrees (reads : ReadsInfo lib) (agrees : CacheAgrees lib system) {act : AccountAct}
    (taken : system.step lib act = some after) : CacheAgrees lib after ↔ SparesCached lib system act := by
  cases act with
  | gate act =>
    cases act with
    | userRegister body getting storing =>
      cases taken
      refine iff_of_true (agrees.grown ?_ fun _ _ got => got) trivial
      intro row member
      rcases userRegister_rows lib body getting storing system.gate.redis system.gate.users with rows | ⟨new, rows⟩
      · exact rows ▸ member
      · exact rows ▸ List.mem_append_left _ member
    | resetPassword body getting storing =>
      cases taken
      exact reset_agrees agrees rfl rfl
    | userLogin body checking =>
      cases taken
      exact iff_of_true agrees trivial
    | others redis => cases taken
  | searchUser msg around =>
    cases taken
    exact iff_of_true (serve_agrees reads (searchUser_stores lib msg []) agrees around).1 trivial
  | login msg around =>
    cases taken
    exact iff_of_true (serve_agrees reads (login_stores lib msg []) agrees around).1 trivial
  | tick seconds =>
    cases taken
    exact iff_of_true (agrees.grown (fun _ member => member) fun _ _ got => get_tick got) trivial

end Runs

theorem search_follows_table {weight : Collation} (lib : JsonLib) (reads : ReadsInfo lib) (start after : AccountSystem weight)
    (blank : ∀ key : UserKey, start.gate.redis.get key.redisKey = none) (actions : List AccountAct)
    (run : Transition.Run (AccountSystem.step lib) start actions after) :
    (∀ before rest middle, actions = before ++ rest → Transition.Run (AccountSystem.step lib) start before middle →
      FindsCurrent lib middle) ↔ Transition.Meets (AccountSystem.step lib) (SparesCached lib) start actions := by
  have agrees : CacheAgrees lib start := by
    intro key info there
    rw [cached, blank key] at there
    cases there
  simp only [findsCurrent_iff reads]
  exact run.invariant_iff_meets (fun _ _ _ agrees taken => step_agrees reads agrees taken) agrees

/-! ## A user who changes her password -/

/-- Infos with the same text are the same. -/
theorem userInfo_dump_injective {info other : UserInfo} (same : info.toJson.dump = other.toJson.dump) : info = other := by
  have text : ∀ info : UserInfo, info.toJson.chars = '\x7b' :: (Json.quoted "id" ++ ':' :: (info.id.toInt.repr.toList ++ ',' ::
      (Json.quoted "name" ++ ':' :: (Json.quoted info.name ++ ',' :: (Json.quoted "email" ++ ':' :: (Json.quoted info.email ++
        ',' :: (Json.quoted "pwd" ++ ':' :: (Json.quoted info.pwd ++ ['\x7d'])))))))) := by
    intro info
    simp [UserInfo.toJson, Json.chars, Json.fieldsChars, int64]
  have chars := String.ofList_inj.mp same
  rw [text, text] at chars
  have numbers := (List.cons.inj (List.append_cancel_left (List.cons.inj chars).2)).2
  obtain ⟨ids, names⟩ := Json.repr_append_inj numbers
  obtain ⟨name, emails⟩ := Json.quoted_append_inj (List.cons.inj (List.append_cancel_left names)).2
  obtain ⟨email, pwds⟩ := Json.quoted_append_inj (List.cons.inj (List.append_cancel_left (List.cons.inj emails).2)).2
  obtain ⟨pwd, _⟩ := Json.quoted_append_inj (List.cons.inj (List.append_cancel_left (List.cons.inj pwds).2)).2
  obtain ⟨id, n, e, p⟩ := info
  obtain rfl := Int64.toInt_inj.mp ids
  rw [UserInfo.mk.injEq]
  exact ⟨rfl, name, email, pwd⟩

def doraRegister : Bytes :=
  bytesOf ("\x7b\"user\":\"dora\",\"email\":\"dora@example.com\",\"passwd\":\"first\"," ++
    "\"confirm_passwd\":\"first\",\"verify_code\":\"7f3c\"\x7d")

def doraReset : Bytes :=
  bytesOf ("\x7b\"user\":\"dora\",\"email\":\"dora@example.com\",\"passwd\":\"second\"," ++
    "\"verify_code\":\"7f3c\"\x7d")

def doraSearch : String := "\x7b\"name\":\"dora\"\x7d"

def doraInfo (pwd : String) : UserInfo := { id := 1, name := "dora", email := "dora@example.com", pwd }

/-- It knows the three bodies, and reads the infos that are stored. -/
def doraLib : JsonLib :=
  { parse := fun body =>
      if body = doraRegister then
        some (.obj [("user", .str "dora"), ("email", .str "dora@example.com"), ("passwd", .str "first"),
          ("confirm_passwd", .str "first"), ("verify_code", .str "7f3c")])
      else if body = doraReset then
        some (.obj [("user", .str "dora"), ("email", .str "dora@example.com"), ("passwd", .str "second"),
          ("verify_code", .str "7f3c")])
      else if body = bytesOf doraSearch then some (.obj [("name", .str "dora")])
      else none
    parseUserInfo := fun text => [doraInfo "first", doraInfo "second"].find? fun info => info.toJson.dump = text }

theorem dora_reads : ReadsInfo doraLib := by
  intro info other found
  have same : other.toJson.dump = info.toJson.dump := of_decide_eq_true (List.find?_some (p := fun other : UserInfo =>
    decide (other.toJson.dump = info.toJson.dump)) found)
  exact userInfo_dump_injective same

def doraStart : AccountSystem id := { gate := { redis := ({} : Redis).set "dora@example.com" "7f3c" } }

theorem dora_blank (key : UserKey) : doraStart.gate.redis.get key.redisKey = none := by
  have different : ∀ text : String, "dora@example.com" ++ "" ≠ text → text ≠ "dora@example.com" := by
    intro text other same
    rw [String.append_empty] at other
    exact other same.symm
  have apart : key.redisKey ≠ "dora@example.com" := by
    cases key with
    | uid uid => exact different _ (append_ne_of_take 1 (by decide) (by decide) (by decide))
    | name name => exact different _ (append_ne_of_take 1 (by decide) (by decide) (by decide))
  exact Redis.get_set_other apart _ _

def doraRegisters : AccountAct := .gate (.userRegister doraRegister .ok .answered)

def doraResets : AccountAct := .gate (.resetPassword doraReset .ok .answered)

def doraSearched : AccountAct :=
  .searchUser (MsgNode.ofText MessageId.searchUserRequest.wire doraSearch) (undisturbed (externalsOf doraLib id))

/-- Nobody has searched for her before she changes her password. -/
theorem search_follows_table_dora : ∃ after : AccountSystem id,
    Transition.Run (AccountSystem.step doraLib) doraStart [doraRegisters, doraResets, doraSearched] after ∧
      FindsCurrent doraLib after := by
  obtain ⟨after, run⟩ : ∃ after,
      Transition.Run (AccountSystem.step doraLib) doraStart [doraRegisters, doraResets, doraSearched] after :=
    ⟨_, .cons rfl (.cons rfl (.single rfl))⟩
  refine ⟨after, run, ?_⟩
  apply (search_follows_table doraLib dora_reads doraStart after dora_blank _ run).mpr _ _ [] after (List.append_nil _).symm run
  refine ⟨trivial, fun registered taken => ⟨?_, fun _ _ => ⟨trivial, fun _ _ => trivial⟩⟩⟩
  cases taken
  intro request pwd _ row _ _ _ key _
  rw [cached, show _ = none from dora_blank key]
  rfl

/-- Her info has been cached, and so the old password is still found after the reset. -/
theorem search_finds_old_password : ∃ after : AccountSystem id,
    Transition.Run (AccountSystem.step doraLib) doraStart [doraRegisters, doraSearched, doraResets] after ∧
      ¬ FindsCurrent doraLib after := by
  refine ⟨_, .cons rfl (.cons rfl (.single rfl)), ?_⟩
  intro finds
  have old := finds.1 (.name "dora") (undisturbed (externalsOf doraLib id)) (doraInfo "first") (by decide +kernel)
  revert old
  decide +kernel

end ChatProof
