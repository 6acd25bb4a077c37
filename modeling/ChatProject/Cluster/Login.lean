import ChatProject.Cluster.Serve
import ChatProject.Chat.Replies
import ChatProject.Store.Keys
import ChatProject.Cluster.Run

/-! What one login frame does to its session and to the stores. -/

namespace ChatProof

open ChatModel

/-! ## The calls of a login, one by one -/

section Calls

variable (externals : Externals) (outcome : Op → Outcome) (addr : Addr) (server : ChatServer) (stores : Stores)

/-- A query either answers or throws, and changes nothing. -/
theorem onTables_query {α : Type} (outcome : Outcome) (value : α) :
    stores.onTables outcome (value, stores.db) = (if outcome = .ok then .ok value else .error .mysql, stores) := by
  cases outcome <;> rfl

theorem onRedis_get (outcome : Outcome) (key : String) : stores.onRedis (RedisClient.get key outcome stores.redis) =
    (if outcome = .ok then stores.redis.get key else none, stores) := by
  cases outcome <;> rfl

theorem execAlone_redisGet (key : String) : execAlone externals outcome addr (.redisGet key) (server, stores) =
    (if outcome (.redisGet key) = .ok then stores.redis.get key else none, server, stores) := by
  have answered := onRedis_get stores (outcome (.redisGet key)) key
  exact congrArg (fun pair : Option String × Stores => (pair.1, server, pair.2)) answered

theorem execAlone_getUserInfo (uid : Int64) : execAlone externals outcome addr (.getUserInfo (.uid uid)) (server, stores) =
    (if outcome (.getUserInfo (.uid uid)) = .ok then .ok (stores.db.getUserInfoByUid uid) else .error .mysql,
      server, stores) := by
  have answered := onTables_query stores (outcome (.getUserInfo (.uid uid))) (stores.db.getUserInfoByUid uid)
  exact congrArg (fun pair : Except Failure (Option UserInfo) × Stores => (pair.1, server, pair.2)) answered

theorem execAlone_getFriendApplies (uid : Int64) :
    execAlone externals outcome addr (.getFriendApplies uid) (server, stores) =
      (if outcome (.getFriendApplies uid) = .ok then .ok (stores.db.getFriendApplies uid) else .error .mysql,
        server, stores) := by
  have answered := onTables_query stores (outcome (.getFriendApplies uid)) (stores.db.getFriendApplies uid)
  exact congrArg (fun pair : Except Failure (List FriendApplyInfo) × Stores => (pair.1, server, pair.2)) answered

theorem execAlone_getFriends (uid : Int64) : execAlone externals outcome addr (.getFriends uid) (server, stores) =
    (if outcome (.getFriends uid) = .ok then .ok (stores.db.getFriends uid) else .error .mysql, server, stores) := by
  have answered := onTables_query stores (outcome (.getFriends uid)) (stores.db.getFriends uid)
  exact congrArg (fun pair : Except Failure (List FriendInfo) × Stores => (pair.1, server, pair.2)) answered

/-- A value is set unless the call is refused. -/
theorem redisSet_get (key value : String) (outcome : Outcome) :
    (∀ other, other ≠ key → (RedisClient.set key value outcome stores.redis).2.get other = stores.redis.get other) ∧
      (RedisClient.set key value outcome stores.redis).2.get key =
        if outcome = .error then stores.redis.get key else some value := by
  cases outcome with
  | ok => exact ⟨fun other different => Redis.get_set_other different _ _, Redis.get_set _ _ _⟩
  | error => exact ⟨fun _ _ => rfl, rfl⟩
  | lost => exact ⟨fun other different => Redis.get_set_other different _ _, Redis.get_set _ _ _⟩

/-- The user is in the cache or in the table. -/
def Known (uid : Int64) : Prop :=
  outcome (.redisGet (userUidInfoKey uid)) = .ok ∧
      ((stores.redis.get (userUidInfoKey uid)).bind externals.lib.parseUserInfo).isSome = true ∨
    outcome (.getUserInfo (.uid uid)) = .ok ∧ (stores.db.getUserInfoByUid uid).isSome = true

/-- Every user is routed as before. -/
def SameRoutes (before after : Stores) : Prop :=
  ∀ uid, after.redis.get (userLoginServerKey uid) = before.redis.get (userLoginServerKey uid)

theorem searchUserInfo_alone (uid : Int64) : ∃ result,
    (searchUserInfo externals.lib (.uid uid)).run (execAlone externals outcome addr) (server, stores) =
        (result, server, stores) ∧
      ((∃ info cached, result = .ok (some info, cached)) ↔ Known externals outcome stores uid) := by
  unfold searchUserInfo Known
  simp only [Awaitable.perform, Awaitable.attempt, Coroutine.bind_def, Coroutine.perform_bind, Coroutine.run_call,
    UserKey.redisKey, execAlone_redisGet]
  have heard : ((if outcome (.redisGet (userUidInfoKey uid)) = .ok then stores.redis.get (userUidInfoKey uid)
      else none).bind externals.lib.parseUserInfo).isSome = true ↔
      outcome (.redisGet (userUidInfoKey uid)) = .ok ∧
        ((stores.redis.get (userUidInfoKey uid)).bind externals.lib.parseUserInfo).isSome = true := by
    by_cases went : outcome (.redisGet (userUidInfoKey uid)) = .ok <;> simp [went]
  rw [← heard]
  generalize (if outcome (.redisGet (userUidInfoKey uid)) = .ok then stores.redis.get (userUidInfoKey uid)
    else none).bind externals.lib.parseUserInfo = found
  cases found with
  | some info => exact ⟨_, rfl, by simp⟩
  | none =>
    simp only [Coroutine.call_bind, Coroutine.run_call, execAlone_getUserInfo]
    by_cases went : outcome (.getUserInfo (.uid uid)) = .ok
    · rw [if_pos went]
      refine ⟨_, rfl, ?_⟩
      cases stores.db.getUserInfoByUid uid <;> simp [went]
    · rw [if_neg went]
      exact ⟨_, rfl, by simp [went]⟩

theorem searchUserByType_alone (uid : Int64) : ∃ result after,
    (searchUserByType externals.lib (.uid uid)).run (execAlone externals outcome addr) (server, stores) =
        (result, server, after) ∧
      SameRoutes stores after ∧ ((∃ info, result = .ok (some info)) ↔ Known externals outcome stores uid) := by
  obtain ⟨result, searched, known⟩ := searchUserInfo_alone externals outcome addr server stores uid
  unfold searchUserByType
  rw [Coroutine.bind_def, Coroutine.run_bind, searched, ← known]
  cases result with
  | error failure => exact ⟨_, _, rfl, fun _ => rfl, by simp⟩
  | ok pair =>
    obtain ⟨found, cached⟩ := pair
    cases found with
    | none => exact ⟨_, _, rfl, fun _ => rfl, by simp⟩
    | some info =>
      cases cached with
      | true => exact ⟨_, _, rfl, fun _ => rfl, by simp⟩
      | false =>
        refine ⟨_, _, rfl, ?_, by simp⟩
        intro other
        exact (redisSet_get stores _ _ _).1 _ (userLoginServerKey_ne_userUidInfoKey other uid)

theorem updateLoginCount_alone : ∃ answer after,
    updateLoginCount.run (execAlone externals outcome addr) (server, stores) = (.ok answer, server, after) ∧
      SameRoutes stores after :=
  ⟨_, _, rfl, fun other => RedisClient.hset_get_other (userLoginServerKey_ne_loginCountKey other) _ _ _ _⟩

/-- The token is the stored one, and the user is found. -/
def Granted (request : UserLoginRequest) : Prop :=
  outcome (.redisGet (userTokenKey request.uid)) = .ok ∧
    stores.redis.get (userTokenKey request.uid) = some request.token ∧ Known externals outcome stores request.uid

/-- Both lists of the response can be read. -/
def Listed (uid : Int64) : Prop :=
  outcome (.getFriendApplies uid) = .ok ∧ outcome (.getFriends uid) = .ok

/-- The entry of the user after a login that got as far as writing it. -/
def Routed (uid : Int64) (after : Stores) : Prop :=
  after.redis.get (userLoginServerKey uid) =
    if outcome (.redisSet (userLoginServerKey uid) server.name) = .error then stores.redis.get (userLoginServerKey uid)
    else some server.name

def letIn (addr : Addr) (uid : Int64) (server : ChatServer) : ChatServer :=
  (server.setUid addr uid).markAuthenticated addr

/-- How a login ends: refused or given up before it has changed anything, or admitted, with or
    without an answer to the lists. -/
inductive LoginEnd (request : UserLoginRequest) : Except Failure ChannelMessage × ChatServer × Stores → Prop
  | refused (result : Except Failure ChannelMessage) (after : Stores) :
      ¬ Granted externals outcome stores request → (∀ reply, result = .ok reply → CarriesError reply) →
      SameRoutes stores after → LoginEnd request (result, server, after)
  | failed (failure : Failure) (after : Stores) : Granted externals outcome stores request →
      ¬ Listed outcome request.uid → Routed outcome server stores request.uid after →
      LoginEnd request (.error failure, letIn addr request.uid server, after)
  | done (reply : ChannelMessage) (after : Stores) : Granted externals outcome stores request →
      Listed outcome request.uid → LoginSuccess reply → Routed outcome server stores request.uid after →
      LoginEnd request (.ok reply, letIn addr request.uid server, after)

instance (uid : Int64) : Decidable (Listed outcome uid) :=
  inferInstanceAs (Decidable (outcome (.getFriendApplies uid) = .ok ∧ outcome (.getFriends uid) = .ok))

theorem lists_alone (uid : Int64) (finish : List FriendApplyInfo → List FriendInfo → ChannelMessage) :
    Coroutine.run (execAlone externals outcome addr)
      ((Coroutine.call (.getFriendApplies uid) Coroutine.ofExcept : Awaitable (List FriendApplyInfo)).bind fun applyList =>
        (Coroutine.call (.getFriends uid) Coroutine.ofExcept : Awaitable (List FriendInfo)).bind fun friendList =>
          .ret (finish applyList friendList)) (server, stores) =
      (if Listed outcome uid then .ok (finish (stores.db.getFriendApplies uid) (stores.db.getFriends uid))
        else .error .mysql, server, stores) := by
  simp only [Coroutine.call_bind, Coroutine.run_call, execAlone_getFriendApplies]
  by_cases applies : outcome (.getFriendApplies uid) = .ok
  · rw [if_pos applies]
    simp only [Coroutine.ofExcept, Coroutine.ret_bind, Coroutine.run_call, execAlone_getFriends]
    by_cases friends : outcome (.getFriends uid) = .ok
    · rw [if_pos friends, if_pos ⟨applies, friends⟩]
      rfl
    · rw [if_neg friends, if_neg fun listed => friends listed.2]
      rfl
  · rw [if_neg applies, if_neg fun listed => applies listed.1]
    rfl

theorem login_ends (msg : MsgNode) {request : UserLoginRequest}
    (parsed : parseJson externals.lib UserLoginRequest.fromJson msg.bodyText = some request) :
    LoginEnd externals outcome addr server stores request
      ((login externals.lib msg).run (execAlone externals outcome addr) (server, stores)) := by
  have refuse : ∀ error : ServerError, error ≠ .success → ∀ reply,
      Except.ok (errorResponseAndClose MessageId.loginResponse.wire error) = (Except.ok reply : Except Failure ChannelMessage) →
      CarriesError reply := by
    intro error fails reply same
    rw [← Except.ok.inj same]
    exact errorResponseAndClose_carriesError _ fails
  unfold login
  rw [parsed]
  simp only [Awaitable.perform, Coroutine.bind_def, Coroutine.perform_bind, Coroutine.run_call, execAlone_redisGet]
  by_cases asked : outcome (.redisGet (userTokenKey request.uid)) = .ok
  · rw [if_pos asked]
    cases stored : stores.redis.get (userTokenKey request.uid) with
    | none =>
      apply LoginEnd.refused
      · rintro ⟨_, held, _⟩
        rw [stored] at held
        cases held
      · exact refuse .tokenInvalid (by decide)
      · exact fun _ => rfl
    | some token =>
      dsimp only
      by_cases same : token ≠ request.token
      · rw [if_pos same]
        apply LoginEnd.refused
        · rintro ⟨_, held, _⟩
          rw [stored] at held
          cases held
          exact same rfl
        · exact refuse .tokenInvalid (by decide)
        · exact fun _ => rfl
      · rw [if_neg same]
        have held : stores.redis.get (userTokenKey request.uid) = some request.token := by
          rw [stored, not_not.mp same]
        obtain ⟨result, found, searched, foundRoutes, known⟩ :=
          searchUserByType_alone externals outcome addr server stores request.uid
        rw [Coroutine.run_bind, searched]
        have unknown : (∀ info, result ≠ .ok (some info)) → ¬ Granted externals outcome stores request := by
          rintro none ⟨_, _, there⟩
          obtain ⟨info, same⟩ := known.mpr there
          exact none info same
        cases result with
        | error failure =>
          apply LoginEnd.refused
          · exact unknown fun _ => nofun
          · exact fun _ => nofun
          · exact foundRoutes
        | ok userInfo =>
          cases userInfo with
          | none =>
            apply LoginEnd.refused
            · exact unknown fun _ => nofun
            · exact refuse .internalError (by decide)
            · exact foundRoutes
          | some userInfo =>
            have granted : Granted externals outcome stores request := ⟨asked, held, known.mp ⟨userInfo, rfl⟩⟩
            obtain ⟨answer, counted, count, countRoutes⟩ := updateLoginCount_alone externals outcome addr server found
            dsimp only
            rw [Coroutine.run_bind, count]
            simp only [setUserLoginServer, Awaitable.perform, Awaitable.attempt, Coroutine.perform_bind, Coroutine.run_call]
            let after : Stores := (counted.onRedis (RedisClient.set (userLoginServerKey request.uid) server.name
              (outcome (.redisSet (userLoginServerKey request.uid) server.name)) counted.redis)).2
            have routed : Routed outcome server stores request.uid after := by
              have kept : counted.redis.get (userLoginServerKey request.uid) =
                  stores.redis.get (userLoginServerKey request.uid) :=
                (countRoutes request.uid).trans (foundRoutes request.uid)
              unfold Routed
              rw [← kept]
              exact (redisSet_get counted _ _ _).2
            have lists := lists_alone externals outcome addr (letIn addr request.uid server) after request.uid
              fun applyList friendList =>
                { msg := MsgNode.ofText MessageId.loginResponse.wire (responsePayload
                  { uid := request.uid, token, name := userInfo.name, applyList, friendList : UserLoginResponse }.toJson).dump }
            apply Eq.mpr (congrArg (LoginEnd externals outcome addr server stores request) lists)
            by_cases listed : Listed outcome request.uid
            · rw [if_pos listed]
              exact .done _ after granted listed ⟨_, rfl⟩ routed
            · rw [if_neg listed]
              exact .failed .mysql after granted listed routed
  · rw [if_neg asked]
    apply LoginEnd.refused
    · exact fun granted => asked granted.1
    · exact refuse .tokenInvalid (by decide)
    · exact fun _ => rfl

/-! ## All or nothing -/

/-- The session is logged in as this user, and the user is routed to this server. -/
def LoggedInHere (uid : Int64) : Prop :=
  (server.session addr).isAuthenticated = true ∧ (server.session addr).uid = uid ∧
    stores.redis.get (userLoginServerKey uid) = some server.name

/-- The reply to this frame is a success exactly when the user is logged in afterwards, and an
    error leaves everything as it was. -/
def AllOrNothing (msg : MsgNode) : Prop :=
  ∃ reply serverAfter storesAfter,
    serve externals outcome addr msg (server, stores) = (.ok reply, serverAfter, storesAfter) ∧
    (LoginSuccess reply ↔ ∃ request, parseJson externals.lib UserLoginRequest.fromJson msg.bodyText = some request ∧
      LoggedInHere addr serverAfter storesAfter request.uid) ∧
    (CarriesError reply →
      (serverAfter.session addr).uid = (server.session addr).uid ∧
      (serverAfter.session addr).isAuthenticated = (server.session addr).isAuthenticated ∧
      ∀ request, parseJson externals.lib UserLoginRequest.fromJson msg.bodyText = some request →
        storesAfter.redis.get (userLoginServerKey request.uid) = stores.redis.get (userLoginServerKey request.uid))

/-- A refused login finds no session that is logged in as this user; an admitted one is routed,
    and both lists are read, or else it changes nothing. -/
def Smooth (request : UserLoginRequest) : Prop :=
  (¬ Granted externals outcome stores request → ¬ LoggedInHere addr server stores request.uid) ∧
  (Granted externals outcome stores request → Listed outcome request.uid →
    outcome (.redisSet (userLoginServerKey request.uid) server.name) = .error →
    stores.redis.get (userLoginServerKey request.uid) = some server.name) ∧
  (Granted externals outcome stores request → ¬ Listed outcome request.uid →
    (server.session addr).isAuthenticated = true ∧ (server.session addr).uid = request.uid ∧
    outcome (.redisSet (userLoginServerKey request.uid) server.name) = .error ∧
    stores.redis.get (userLoginServerKey request.uid) ≠ some server.name)

theorem letIn_session (uid : Int64) : ((letIn addr uid server).session addr).uid = uid ∧
    ((letIn addr uid server).session addr).isAuthenticated = true := by
  have marked : (letIn addr uid server).session addr =
      { ((server.setUid addr uid).session addr).cancelDeadline with isAuthenticated := true } := if_pos rfl
  have set : ((server.setUid addr uid).session addr).uid = uid :=
    congrArg Session.uid (ChatServer.modify_session_self server addr fun session => { session with uid })
  rw [marked]
  exact ⟨(cancelDeadline_aside ((server.setUid addr uid).session addr)).uid.trans set, rfl⟩

end Calls

theorem serve_login {externals : Externals} {outcome : Op → Outcome} {addr : Addr} {msg : MsgNode}
    (isLogin : msg.id = MessageId.loginRequest.wire) (server : ChatServer) (stores : Stores) :
    serve externals outcome addr msg (server, stores) =
      match (login externals.lib msg).run (execAlone externals outcome addr) (server, stores) with
      | (.ok reply, after) => (.ok reply, after)
      | (.error _, after) => (.ok (errorResponse MessageId.loginResponse.wire .internalError), after) := by
  have known : MessageId.enumCast msg.id = some .loginRequest := by
    rw [isLogin]
    exact MessageId.enumCast_wire .loginRequest
  have allowed : ¬ ((server.session addr).isAuthenticated = false ∧ msg.id ≠ MessageId.loginRequest.wire) :=
    fun stranger => stranger.2 isLogin
  unfold serve handleMessage
  simp only [Awaitable.perform, Coroutine.bind_def, Coroutine.perform_bind, Coroutine.run_call]
  rw [known]
  change Coroutine.run _ (if (server.session addr).isAuthenticated = false ∧ msg.id ≠ MessageId.loginRequest.wire
    then _ else (login externals.lib msg).catchWith _) (server, stores) = _
  rw [if_neg allowed, Coroutine.run_catchWith]
  generalize (login externals.lib msg).run (execAlone externals outcome addr) (server, stores) = ended
  obtain ⟨result, after⟩ := ended
  cases result <;> rfl

theorem login_invalid {externals : Externals} {msg : MsgNode}
    (invalid : parseJson externals.lib UserLoginRequest.fromJson msg.bodyText = none) :
    login externals.lib msg = .ret (errorResponseAndClose msg.id .invalidJson) := by
  unfold login
  rw [invalid]
  rfl

section Ends

variable {externals : Externals} {outcome : Op → Outcome} {addr : Addr} {server : ChatServer} {stores : Stores}
  {msg : MsgNode} {request : UserLoginRequest}

/-- What is left to show of a login frame that names a user, once its reply is known. -/
theorem allOrNothing_iff {reply : ChannelMessage} {serverAfter : ChatServer} {storesAfter : Stores}
    (served : serve externals outcome addr msg (server, stores) = (.ok reply, serverAfter, storesAfter))
    (parsed : parseJson externals.lib UserLoginRequest.fromJson msg.bodyText = some request) :
    AllOrNothing externals outcome addr server stores msg ↔
      (LoginSuccess reply ↔ LoggedInHere addr serverAfter storesAfter request.uid) ∧
      (CarriesError reply → (serverAfter.session addr).uid = (server.session addr).uid ∧
        (serverAfter.session addr).isAuthenticated = (server.session addr).isAuthenticated ∧
        storesAfter.redis.get (userLoginServerKey request.uid) = stores.redis.get (userLoginServerKey request.uid)) := by
  unfold AllOrNothing
  rw [served, parsed]
  constructor
  · rintro ⟨_, _, _, same, success, failure⟩
    cases same
    refine ⟨success.trans ?_, ?_⟩
    · constructor
      · rintro ⟨_, named, there⟩
        cases named
        exact there
      · exact fun there => ⟨request, rfl, there⟩
    · intro carries
      obtain ⟨uid, flag, route⟩ := failure carries
      exact ⟨uid, flag, route request rfl⟩
  · rintro ⟨success, failure⟩
    refine ⟨reply, serverAfter, storesAfter, rfl, success.trans ?_, ?_⟩
    · constructor
      · exact fun there => ⟨request, rfl, there⟩
      · rintro ⟨_, named, there⟩
        cases named
        exact there
    · intro carries
      obtain ⟨uid, flag, route⟩ := failure carries
      refine ⟨uid, flag, ?_⟩
      intro _ named
      cases named
      exact route

theorem loggedInHere_admit {after : Stores} (routed : Routed outcome server stores request.uid after) :
    LoggedInHere addr (letIn addr request.uid server) after request.uid ↔
      (outcome (.redisSet (userLoginServerKey request.uid) server.name) = .error →
        stores.redis.get (userLoginServerKey request.uid) = some server.name) := by
  obtain ⟨uid, flag⟩ := letIn_session addr server request.uid
  have name : (letIn addr request.uid server).name = server.name := rfl
  unfold LoggedInHere
  rw [uid, flag, name, routed]
  split
  · rename_i refused
    simp [refused]
  · rename_i went
    simp [went]

theorem allOrNothing_refused {reply : ChannelMessage} {after : Stores}
    (served : serve externals outcome addr msg (server, stores) = (.ok reply, server, after))
    (parsed : parseJson externals.lib UserLoginRequest.fromJson msg.bodyText = some request)
    (refused : ¬ Granted externals outcome stores request) (carries : CarriesError reply)
    (routes : SameRoutes stores after) :
    AllOrNothing externals outcome addr server stores msg ↔ Smooth externals outcome addr server stores request := by
  have noSuccess : ¬ LoginSuccess reply := fun success => not_carriesError_of_loginSuccess success carries
  have same : LoggedInHere addr server after request.uid ↔ LoggedInHere addr server stores request.uid := by
    unfold LoggedInHere
    rw [routes request.uid]
  rw [allOrNothing_iff served parsed, same]
  unfold Smooth
  constructor
  · rintro ⟨success, _⟩
    exact ⟨fun _ there => noSuccess (success.mpr there), fun granted => absurd granted refused,
      fun granted => absurd granted refused⟩
  · rintro ⟨stranger, _, _⟩
    refine ⟨?_, fun _ => ⟨rfl, rfl, routes request.uid⟩⟩
    exact ⟨fun success => absurd success noSuccess, fun there => absurd there (stranger refused)⟩

theorem allOrNothing_failed {reply : ChannelMessage} {after : Stores}
    (served : serve externals outcome addr msg (server, stores) = (.ok reply, letIn addr request.uid server, after))
    (parsed : parseJson externals.lib UserLoginRequest.fromJson msg.bodyText = some request)
    (granted : Granted externals outcome stores request) (unlisted : ¬ Listed outcome request.uid)
    (carries : CarriesError reply) (routed : Routed outcome server stores request.uid after) :
    AllOrNothing externals outcome addr server stores msg ↔ Smooth externals outcome addr server stores request := by
  have noSuccess : ¬ LoginSuccess reply := fun success => not_carriesError_of_loginSuccess success carries
  obtain ⟨uid, flag⟩ := letIn_session addr server request.uid
  rw [allOrNothing_iff served parsed, loggedInHere_admit routed, uid, flag]
  unfold Smooth
  constructor
  · rintro ⟨success, failure⟩
    have refused : outcome (.redisSet (userLoginServerKey request.uid) server.name) = .error ∧
        stores.redis.get (userLoginServerKey request.uid) ≠ some server.name := by
      rw [← Classical.not_imp]
      exact fun there => noSuccess (success.mpr there)
    obtain ⟨sameUid, sameFlag, _⟩ := failure carries
    exact ⟨fun stranger => absurd granted stranger, fun _ listed => absurd listed unlisted,
      fun _ _ => ⟨sameFlag.symm, sameUid.symm, refused.1, refused.2⟩⟩
  · rintro ⟨_, _, unchanged⟩
    obtain ⟨sameFlag, sameUid, refused, elsewhere⟩ := unchanged granted unlisted
    refine ⟨?_, ?_⟩
    · exact ⟨fun success => absurd success noSuccess, fun there => absurd (there refused) elsewhere⟩
    · intro _
      refine ⟨sameUid.symm, sameFlag.symm, ?_⟩
      rw [routed, if_pos refused]

theorem allOrNothing_done {reply : ChannelMessage} {after : Stores}
    (served : serve externals outcome addr msg (server, stores) = (.ok reply, letIn addr request.uid server, after))
    (parsed : parseJson externals.lib UserLoginRequest.fromJson msg.bodyText = some request)
    (granted : Granted externals outcome stores request) (listed : Listed outcome request.uid)
    (success : LoginSuccess reply) (routed : Routed outcome server stores request.uid after) :
    AllOrNothing externals outcome addr server stores msg ↔ Smooth externals outcome addr server stores request := by
  have noError := not_carriesError_of_loginSuccess success
  rw [allOrNothing_iff served parsed, loggedInHere_admit routed]
  unfold Smooth
  constructor
  · rintro ⟨there, _⟩
    exact ⟨fun stranger => absurd granted stranger, fun _ _ => there.mp success,
      fun _ unlisted => absurd listed unlisted⟩
  · rintro ⟨_, there, _⟩
    exact ⟨⟨fun _ => there granted listed, fun _ => success⟩, fun carries => absurd carries noError⟩

theorem allOrNothing_iff_smooth (isLogin : msg.id = MessageId.loginRequest.wire)
    (parsed : parseJson externals.lib UserLoginRequest.fromJson msg.bodyText = some request) :
    AllOrNothing externals outcome addr server stores msg ↔ Smooth externals outcome addr server stores request := by
  have served : serve externals outcome addr msg (server, stores) = _ := serve_login isLogin server stores
  have internal : CarriesError (errorResponse MessageId.loginResponse.wire .internalError) :=
    ⟨_, .internalError, by decide, rfl⟩
  have ends := login_ends externals outcome addr server stores msg parsed
  generalize (login externals.lib msg).run (execAlone externals outcome addr) (server, stores) = ended at served ends
  cases ends with
  | refused result after refused carries routes =>
    cases result with
    | ok reply => exact allOrNothing_refused served parsed refused (carries reply rfl) routes
    | error failure => exact allOrNothing_refused served parsed refused internal routes
  | failed failure after granted unlisted routed =>
    exact allOrNothing_failed served parsed granted unlisted internal routed
  | done reply after granted listed success routed =>
    exact allOrNothing_done served parsed granted listed success routed

theorem allOrNothing_invalid (isLogin : msg.id = MessageId.loginRequest.wire)
    (invalid : parseJson externals.lib UserLoginRequest.fromJson msg.bodyText = none) :
    AllOrNothing externals outcome addr server stores msg := by
  have served : serve externals outcome addr msg (server, stores) = _ := serve_login isLogin server stores
  have carries : CarriesError (errorResponseAndClose msg.id .invalidJson) :=
    errorResponseAndClose_carriesError msg.id (by decide)
  rw [login_invalid invalid] at served
  refine ⟨_, _, _, served, ?_, ?_⟩
  · rw [invalid]
    constructor
    · exact fun success => absurd carries (not_carriesError_of_loginSuccess success)
    · rintro ⟨_, named, _⟩
      cases named
  · exact fun _ => ⟨rfl, rfl, fun _ _ => rfl⟩

end Ends

theorem login_all_or_nothing (externals : Externals) (outcome : Op → Outcome) (addr : Addr) (server : ChatServer)
    (stores : Stores) (msg : MsgNode) (isLogin : msg.id = MessageId.loginRequest.wire) :
    AllOrNothing externals outcome addr server stores msg ↔
      ∀ request, parseJson externals.lib UserLoginRequest.fromJson msg.bodyText = some request →
        Smooth externals outcome addr server stores request := by
  cases parsed : parseJson externals.lib UserLoginRequest.fromJson msg.bodyText with
  | none =>
    constructor
    · intro _ _ named
      cases named
    · exact fun _ => allOrNothing_invalid isLogin parsed
  | some request =>
    rw [allOrNothing_iff_smooth isLogin parsed]
    constructor
    · intro smooth _ named
      cases named
      exact smooth
    · exact fun smooth => smooth request rfl

/-! ## The first user logs in -/

def annLogin : Sample.Body := Sample.loginBody 1 "token1"

def annFrame : MsgNode := MsgNode.ofText MessageId.loginRequest.wire annLogin.1

theorem ann_granted {outcome : Op → Outcome} (token : outcome (.redisGet (userTokenKey 1)) = .ok)
    (query : outcome (.getUserInfo (.uid 1)) = .ok) :
    Granted (Sample.externals [annLogin]) outcome Sample.stores { uid := 1, token := "token1" } := by
  refine ⟨token, by decide +kernel, .inr ⟨query, by decide +kernel⟩⟩

theorem login_all_or_nothing_ann : AllOrNothing (Sample.externals [annLogin]) (fun _ => .ok) 1
    (.fresh "chat_server1") Sample.stores annFrame := by
  have parsed : parseJson (Sample.externals [annLogin]).lib UserLoginRequest.fromJson annFrame.bodyText =
      some { uid := 1, token := "token1" } := by decide +kernel
  have granted := (ann_granted rfl rfl : Granted (Sample.externals [annLogin]) (fun _ => .ok) Sample.stores { uid := 1, token := "token1" })
  have listed : Listed (fun _ => .ok) 1 := ⟨rfl, rfl⟩
  apply (login_all_or_nothing (Sample.externals [annLogin]) (fun _ => .ok) 1 (.fresh "chat_server1") Sample.stores
    annFrame (by decide +kernel)).mpr
  intro request named
  rw [parsed] at named
  cases named
  refine ⟨fun stranger => absurd granted stranger, ?_, fun _ unlisted => absurd listed unlisted⟩
  intro _ _ refused
  cases refused

/-- Every call succeeds, but for the one that reads the friend applications. -/
def noApplies : Op → Outcome
  | .getFriendApplies _ => .error
  | _ => .ok

theorem login_is_not_all_or_nothing : ¬ ∀ (externals : Externals) (outcome : Op → Outcome) (name : String)
    (acts : List Act) (server : ChatServer) (stores : Stores) (addr : Addr) (msg : MsgNode),
    Transition.Run (ChatServer.step externals.lib) (.fresh name) acts server →
    (server.session addr).reader = .bodyRead msg → msg.id = MessageId.loginRequest.wire →
    AllOrNothing externals outcome addr server stores msg := by
  intro claim
  let lib := (Sample.externals [annLogin]).lib
  have possible : ((Transition.runs (ChatServer.step lib) (.fresh "chat_server1") [.accept 1 0, .startReader 1,
      .send 1 annFrame.wire, .readDone 1, .resumeReader 1, .readDone 1]).any fun server =>
        (frameRead (server.session 1).reader).any fun msg =>
          (server.session 1).uid = 0 ∧ msg.id = MessageId.loginRequest.wire ∧
            parseJson lib UserLoginRequest.fromJson msg.bodyText = some { uid := 1, token := "token1" }) = true := by decide +kernel
  obtain ⟨server, reached, found⟩ := (Option.any_eq_true _ _).mp possible
  have run := Transition.run_iff_runs.mpr reached
  obtain ⟨msg, read, checked⟩ := (Option.any_eq_true _ _).mp found
  have reading := frameRead_eq_some.mp read
  obtain ⟨unnamed, isLogin, parsed⟩ := of_decide_eq_true checked
  have holds := claim (Sample.externals [annLogin]) noApplies _ _ server Sample.stores 1 msg run reading isLogin
  obtain ⟨_, _, unchanged⟩ := (allOrNothing_iff_smooth isLogin parsed).mp holds
  have unlisted : ¬ Listed noApplies 1 := by
    rintro ⟨refused, _⟩
    cases refused
  have same := (unchanged (ann_granted rfl rfl) unlisted).2.1
  rw [unnamed] at same
  exact absurd same (by decide)

end ChatProof
