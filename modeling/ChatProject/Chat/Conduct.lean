import ChatProject.Chat.Forwarding
import ChatProject.Chat.Replies

/-! Everything that the handler of a frame may ask, and when. -/

namespace ChatProof

open ChatModel

/-! ## A message to somebody else is the last thing that a handler asks for -/

def isPush : Op → Bool
  | .notify _ | .deliver _ _ => true
  | _ => false

def NoPush (told : Ledger) : Prop := ∀ entry ∈ told, isPush entry.1 = false

theorem noPush_nil : NoPush [] := nofun

theorem noPush_cons {told : Ledger} {op : Op} (plain : isPush op = false) (answer : op.Res) (noPush : NoPush told) :
    NoPush (⟨op, answer⟩ :: told) := by
  intro entry member
  rcases List.mem_cons.mp member with rfl | member
  · exact plain
  · exact noPush entry member

/-! ## A user is looked for -/

/-- Redis had the user, or MySQL did. -/
inductive FoundUser (lib : JsonLib) (key : UserKey) (told : Ledger) (info : UserInfo) : Prop
  | cached {text : String} : Told told (.redisGet key.redisKey) (some text) → lib.parseUserInfo text = some info →
      FoundUser lib key told info
  | stored : Told told (.getUserInfo key) (.ok (some info)) → FoundUser lib key told info

theorem FoundUser.tail {lib : JsonLib} {key : UserKey} {told : Ledger} {info : UserInfo} (found : FoundUser lib key told info)
    (entry : (op : Op) × op.Res) : FoundUser lib key (entry :: told) info := by
  cases found with
  | cached known parsed => exact .cached (known.tail entry) parsed
  | stored known => exact .stored (known.tail entry)

section Search

variable {lib : JsonLib} {key : UserKey} {told : Ledger} {ask : Ledger → Op → Prop}

theorem searchUserByType_guided {post : Ledger → Except Failure (Option UserInfo) → Prop}
    (get : ask told (.redisGet key.redisKey))
    (cached : ∀ text info, lib.parseUserInfo text = some info → post (⟨.redisGet key.redisKey, some text⟩ :: told) (.ok (some info)))
    (query : ∀ cached, ask (⟨.redisGet key.redisKey, cached⟩ :: told) (.getUserInfo key))
    (failed : ∀ cached failure, post (⟨.getUserInfo key, .error failure⟩ :: ⟨.redisGet key.redisKey, cached⟩ :: told)
      (.error failure))
    (absent : ∀ cached, post (⟨.getUserInfo key, .ok none⟩ :: ⟨.redisGet key.redisKey, cached⟩ :: told) (.ok none))
    (set : ∀ cached info, ask (⟨.getUserInfo key, .ok (some info)⟩ :: ⟨.redisGet key.redisKey, cached⟩ :: told)
      (.redisSet key.redisKey info.toJson.dump))
    (stored : ∀ cached info done, post (⟨.redisSet key.redisKey info.toJson.dump, done⟩ ::
      ⟨.getUserInfo key, .ok (some info)⟩ :: ⟨.redisGet key.redisKey, cached⟩ :: told) (.ok (some info))) :
    (searchUserByType lib key).Guided ask post told := by
  apply Coroutine.Guided.bind
  refine ⟨get, ?_⟩
  intro answer
  simp only [Coroutine.ret_bind]
  cases parsed : answer.bind lib.parseUserInfo with
  | some info =>
    obtain ⟨text, same, known⟩ := Option.bind_eq_some_iff.mp parsed
    subst same
    exact cached text info known
  | none =>
    refine ⟨query answer, ?_⟩
    intro row
    cases row with
    | error failure => exact failed answer failure
    | ok info =>
      cases info with
      | none => exact absent answer
      | some info => exact ⟨set answer info, fun done => stored answer info done⟩

end Search

/-! ## Login -/

/-- The uid that the handler has given its session, if it has. -/
def lastSet : Ledger → Option Int64
  | ⟨.setUid uid, _⟩ :: _ => some uid
  | _ :: told => lastSet told
  | [] => none

/-- The token in the frame is the one that Redis has for the uid in the frame. -/
structure Passed (lib : JsonLib) (msg : MsgNode) (told : Ledger) (request : UserLoginRequest) : Prop where
  parsed : parseJson lib UserLoginRequest.fromJson msg.bodyText = some request
  token : Told told (.redisGet (userTokenKey request.uid)) (some request.token)

theorem Passed.tail {lib : JsonLib} {msg : MsgNode} {told : Ledger} {request : UserLoginRequest}
    (passed : Passed lib msg told request) (entry : (op : Op) × op.Res) : Passed lib msg (entry :: told) request :=
  ⟨passed.parsed, passed.token.tail entry⟩

inductive LoginAsks (lib : JsonLib) (msg : MsgNode) (told : Ledger) : Op → Prop
  | token {request : UserLoginRequest} : parseJson lib UserLoginRequest.fromJson msg.bodyText = some request →
      LoginAsks lib msg told (.redisGet (userTokenKey request.uid))
  | cached {request : UserLoginRequest} : Passed lib msg told request →
      LoginAsks lib msg told (.redisGet (userUidInfoKey request.uid))
  | query {request : UserLoginRequest} : Passed lib msg told request →
      LoginAsks lib msg told (.getUserInfo (.uid request.uid))
  | cache {request : UserLoginRequest} (text : String) : Passed lib msg told request →
      LoginAsks lib msg told (.redisSet (userUidInfoKey request.uid) text)
  | name : LoginAsks lib msg told .serverName
  | count : LoginAsks lib msg told .participantCount
  | counted (name : String) (count : Int64) : LoginAsks lib msg told (.redisHset loginCountKey name count)
  | setUid {request : UserLoginRequest} : Passed lib msg told request → lastSet told = none →
      LoginAsks lib msg told (.setUid request.uid)
  | mark {request : UserLoginRequest} : Passed lib msg told request → lastSet told = some request.uid →
      LoginAsks lib msg told .markAuthenticated
  | route {request : UserLoginRequest} {name : String} : Passed lib msg told request →
      lastSet told = some request.uid → Told told .serverName name →
      LoginAsks lib msg told (.redisSet (userLoginServerKey request.uid) name)
  | applies (uid : Int64) : LoginAsks lib msg told (.getFriendApplies uid)
  | friends (uid : Int64) : LoginAsks lib msg told (.getFriends uid)

/-- The document of a successful login. -/
def loginDocument (request : UserLoginRequest) (userInfo : UserInfo) (applyList : List FriendApplyInfo)
    (friendList : List FriendInfo) : Json Int :=
  let response : UserLoginResponse :=
    { uid := request.uid, token := request.token, name := userInfo.name, applyList, friendList }
  responsePayload response.toJson

def loginReply (request : UserLoginRequest) (userInfo : UserInfo) (applyList : List FriendApplyInfo)
    (friendList : List FriendInfo) : ChannelMessage :=
  { msg := MsgNode.ofText MessageId.loginResponse.wire (loginDocument request userInfo applyList friendList).dump }

inductive LoginReplies (lib : JsonLib) (msg : MsgNode) (told : Ledger) : ChannelMessage → Prop
  | invalid : parseJson lib UserLoginRequest.fromJson msg.bodyText = none →
      LoginReplies lib msg told (errorResponseAndClose msg.id .invalidJson)
  | refused {request : UserLoginRequest} {token : Option String} :
      parseJson lib UserLoginRequest.fromJson msg.bodyText = some request →
      Told told (.redisGet (userTokenKey request.uid)) token → token ≠ some request.token →
      LoginReplies lib msg told (errorResponseAndClose MessageId.loginResponse.wire .tokenInvalid)
  | unknown {request : UserLoginRequest} : Passed lib msg told request →
      LoginReplies lib msg told (errorResponseAndClose MessageId.loginResponse.wire .internalError)
  | success {request : UserLoginRequest} {info : UserInfo} {applyList : List FriendApplyInfo} {friendList : List FriendInfo} :
      Passed lib msg told request → lastSet told = some request.uid → FoundUser lib (.uid request.uid) told info →
      Told told (.getFriendApplies request.uid) (.ok applyList) → Told told (.getFriends request.uid) (.ok friendList) →
      LoginReplies lib msg told (loginReply request info applyList friendList)

def LoginEnds (lib : JsonLib) (msg : MsgNode) (told : Ledger) : Except Failure ChannelMessage → Prop
  | .ok reply => LoginReplies lib msg told reply
  | .error _ => True

/-! ## The search of a user -/

inductive SearchAsks (key : UserKey) : Op → Prop
  | cached : SearchAsks key (.redisGet key.redisKey)
  | query : SearchAsks key (.getUserInfo key)
  | cache (info : UserInfo) : SearchAsks key (.redisSet key.redisKey info.toJson.dump)

/-- Whom a search request asks for. -/
def searchKey (lib : JsonLib) (msg : MsgNode) : Option UserKey :=
  (lib.parse msg.bodyText).bind fun request =>
    match request.field? "uid", request.field? "name" with
    | some (.num uid), _ => some (.uid uid.toInt64)
    | _, some (.str name) => some (.name name)
    | _, _ => none

inductive SearchReplies (lib : JsonLib) (msg : MsgNode) (told : Ledger) : ChannelMessage → Prop
  | invalid : lib.parse msg.bodyText = none →
      SearchReplies lib msg told (errorResponse MessageId.searchUserResponse.wire .invalidJson)
  | found {key : UserKey} {info : UserInfo} : searchKey lib msg = some key → FoundUser lib key told info →
      SearchReplies lib msg told { msg := MsgNode.ofText MessageId.searchUserResponse.wire info.toJson.dump }
  | notFound : SearchReplies lib msg told (errorResponse MessageId.searchUserResponse.wire .userNotFound)

def SearchEnds (lib : JsonLib) (msg : MsgNode) (told : Ledger) : Except Failure ChannelMessage → Prop
  | .ok reply => SearchReplies lib msg told reply
  | .error _ => True

theorem searchUser_eq (lib : JsonLib) (msg : MsgNode) : searchUser lib msg =
    match lib.parse msg.bodyText, searchKey lib msg with
    | none, _ => .ret (errorResponse MessageId.searchUserResponse.wire .invalidJson)
    | some _, none => .ret (errorResponse MessageId.searchUserResponse.wire .userNotFound)
    | some _, some key => (searchUserByType lib key).bind fun response =>
      match response with
      | some userInfo => .ret { msg := MsgNode.ofText MessageId.searchUserResponse.wire userInfo.toJson.dump }
      | none => .ret (errorResponse MessageId.searchUserResponse.wire .userNotFound) := by
  unfold searchUser searchKey
  cases lib.parse msg.bodyText with
  | none => rfl
  | some request =>
    dsimp only [Option.bind_some]
    generalize request.field? "uid" = uid
    generalize request.field? "name" = name
    cases uid with
    | none =>
      cases name with
      | none => rfl
      | some name => cases name <;> rfl
    | some uid =>
      cases uid with
      | num uid => rfl
      | _ =>
        cases name with
        | none => rfl
        | some name => cases name <;> rfl

theorem searchUser_guided (lib : JsonLib) (msg : MsgNode) {told : Ledger} (noPush : NoPush told) :
    (searchUser lib msg).Guided (fun told op => (∃ key, searchKey lib msg = some key ∧ SearchAsks key op) ∧ NoPush told)
      (SearchEnds lib msg) told := by
  rw [searchUser_eq]
  cases parsed : lib.parse msg.bodyText with
  | none => exact .invalid parsed
  | some request =>
    cases asked : searchKey lib msg with
    | none => exact .notFound
    | some key =>
      have looked : ∀ cached, NoPush (⟨.redisGet key.redisKey, cached⟩ :: told) := fun cached => noPush_cons rfl cached noPush
      apply Coroutine.Guided.bind
      apply searchUserByType_guided
      · exact ⟨⟨key, rfl, .cached⟩, noPush⟩
      · intro text info parsed
        exact .found asked (.cached (told_head _ _ _) parsed)
      · intro cached
        exact ⟨⟨key, rfl, .query⟩, looked cached⟩
      · intro cached failure
        trivial
      · intro cached
        exact .notFound
      · intro cached info
        exact ⟨⟨key, rfl, .cache info⟩, noPush_cons rfl _ (looked cached)⟩
      · intro cached info done
        exact .found asked (.stored ((told_head _ _ _).tail _))

/-- The token has been checked, and nothing has been sent to anybody. -/
structure Clear (lib : JsonLib) (msg : MsgNode) (request : UserLoginRequest) (told : Ledger) : Prop where
  passed : Passed lib msg told request
  quiet : NoPush told

theorem Clear.tail {lib : JsonLib} {msg : MsgNode} {request : UserLoginRequest} {told : Ledger}
    (clear : Clear lib msg request told) (op : Op) (answer : op.Res) (plain : isPush op = false) :
    Clear lib msg request (⟨op, answer⟩ :: told) := ⟨clear.passed.tail _, noPush_cons plain answer clear.quiet⟩

/-- Also the user has been found. -/
structure Admitted (lib : JsonLib) (msg : MsgNode) (request : UserLoginRequest) (userInfo : UserInfo) (told : Ledger) : Prop
    extends Clear lib msg request told where
  found : FoundUser lib (.uid request.uid) told userInfo

theorem Admitted.tail {lib : JsonLib} {msg : MsgNode} {request : UserLoginRequest} {userInfo : UserInfo} {told : Ledger}
    (admitted : Admitted lib msg request userInfo told) (op : Op) (answer : op.Res) (plain : isPush op = false) :
    Admitted lib msg request userInfo (⟨op, answer⟩ :: told) :=
  ⟨admitted.toClear.tail op answer plain, admitted.found.tail _⟩

/-- What `login` does once it has found the user. -/
def loginRest (request : UserLoginRequest) (userInfo : UserInfo) : Awaitable ChannelMessage := do
  let _ ← updateLoginCount
  Awaitable.perform (.setUid request.uid)
  Awaitable.perform .markAuthenticated
  let name ← Awaitable.perform .serverName
  let _ ← setUserLoginServer request.uid name
  let applyList ← Awaitable.attempt (Awaitable.perform (.getFriendApplies request.uid))
  let friendList ← Awaitable.attempt (Awaitable.perform (.getFriends request.uid))
  return loginReply request userInfo applyList friendList

theorem loginRest_guided {lib : JsonLib} {msg : MsgNode} {request : UserLoginRequest} {userInfo : UserInfo} {told : Ledger}
    (admitted : Admitted lib msg request userInfo told) (unset : lastSet told = none) :
    (loginRest request userInfo).Guided (fun told op => LoginAsks lib msg told op ∧ NoPush told) (LoginEnds lib msg) told := by
  refine ⟨⟨.name, admitted.quiet⟩, ?_⟩
  intro name
  have named := admitted.tail .serverName name rfl
  refine ⟨⟨.count, named.quiet⟩, ?_⟩
  intro count
  have seen := named.tail .participantCount count rfl
  refine ⟨⟨.counted _ _, seen.quiet⟩, ?_⟩
  intro counted
  have ready := seen.tail (.redisHset loginCountKey name (Int64.ofNat count)) counted rfl
  refine ⟨⟨.setUid ready.passed unset, ready.quiet⟩, ?_⟩
  intro _
  have set := ready.tail (.setUid request.uid) () rfl
  refine ⟨⟨.mark set.passed rfl, set.quiet⟩, ?_⟩
  intro _
  have marked := set.tail .markAuthenticated () rfl
  refine ⟨⟨.name, marked.quiet⟩, ?_⟩
  intro server
  have home := marked.tail .serverName server rfl
  refine ⟨⟨.route home.passed rfl (told_head _ _ _), home.quiet⟩, ?_⟩
  intro routed
  have linked := home.tail (.redisSet (userLoginServerKey request.uid) server) routed rfl
  refine ⟨⟨.applies _, linked.quiet⟩, ?_⟩
  intro applies
  have listed := linked.tail (.getFriendApplies request.uid) applies rfl
  cases applies with
  | error failure => trivial
  | ok applyList =>
    refine ⟨⟨.friends _, listed.quiet⟩, ?_⟩
    intro friends
    have whole := listed.tail (.getFriends request.uid) friends rfl
    cases friends with
    | error failure => trivial
    | ok friendList => exact .success whole.passed rfl whole.found ((told_head _ _ _).tail _) (told_head _ _ _)

theorem login_guided (lib : JsonLib) (msg : MsgNode) {told : Ledger} (noPush : NoPush told) (unset : lastSet told = none) :
    (login lib msg).Guided (fun told op => LoginAsks lib msg told op ∧ NoPush told) (LoginEnds lib msg) told := by
  unfold login
  cases parsed : parseJson lib UserLoginRequest.fromJson msg.bodyText with
  | none => exact .invalid parsed
  | some request =>
    refine ⟨⟨.token parsed, noPush⟩, ?_⟩
    intro token
    have asked : Told (⟨.redisGet (userTokenKey request.uid), token⟩ :: told) (.redisGet (userTokenKey request.uid)) token :=
      told_head _ _ _
    cases token with
    | none => exact .refused parsed asked (by simp)
    | some token =>
      change Coroutine.Guided _ _ (if token ≠ request.token then _ else _) _
      split
      · rename_i different
        exact .refused parsed asked (by simpa using different)
      · rename_i same
        simp only [ne_eq, not_not] at same
        subst same
        have clear : Clear lib msg request (⟨.redisGet (userTokenKey request.uid), some request.token⟩ :: told) :=
          ⟨⟨parsed, asked⟩, noPush_cons rfl _ noPush⟩
        have looked := fun cached => clear.tail (.redisGet (UserKey.uid request.uid).redisKey) cached rfl
        have stored := fun cached row => (looked cached).tail (.getUserInfo (.uid request.uid)) row rfl
        apply Coroutine.Guided.bind
        apply searchUserByType_guided
        · exact ⟨.cached clear.passed, clear.quiet⟩
        · intro text info known
          exact loginRest_guided ⟨looked (some text), .cached (told_head _ _ _) known⟩ unset
        · intro cached
          exact ⟨.query (looked cached).passed, (looked cached).quiet⟩
        · intro cached failure
          trivial
        · intro cached
          exact .unknown (stored cached (.ok none)).passed
        · intro cached info
          exact ⟨.cache _ (stored cached (.ok (some info))).passed, (stored cached (.ok (some info))).quiet⟩
        · intro cached info done
          have kept := (stored cached (.ok (some info))).tail (.redisSet (UserKey.uid request.uid).redisKey info.toJson.dump) done rfl
          exact loginRest_guided ⟨kept, .stored ((told_head _ _ _).tail _)⟩ unset

/-! ## The handlers that notify somebody -/

namespace Notifying

variable {α : Type} (spec : Notifying α) (msg : MsgNode)

/-- All that such a handler asks, in `forward` too. -/
inductive Questions (told : Ledger) : Op → Prop
  | prepare {op : Op} : spec.Asks told op → Questions told op
  | name {request : α} {forwarding : Forwarding} : spec.Sends told request forwarding → Questions told .serverName
  | look {early : Ledger} {request : α} {forwarding : Forwarding} : spec.Sends early request forwarding →
      told = ⟨.serverName, forwarding.target⟩ :: early → Questions told (.getParticipant (spec.receiver request))
  | deliver {early : Ledger} {request : α} {forwarding : Forwarding} {target : Addr} : spec.Sends early request forwarding →
      told = ⟨.getParticipant (spec.receiver request), some target⟩ :: ⟨.serverName, forwarding.target⟩ :: early →
      Questions told (.deliver target { msg := forwarding.notify })
  | call {early : Ledger} {request : α} {forwarding : Forwarding} {name : String} : spec.Sends early request forwarding →
      forwarding.target ≠ name → told = ⟨.serverName, name⟩ :: early → Questions told (.notify forwarding.request)

/-- All that such a handler replies, but for the reply after an exception. -/
inductive Answers (told : Ledger) : ChannelMessage → Prop
  | prepare {reply : ChannelMessage} : spec.Replies told reply → Answers told reply
  | absent {early : Ledger} {request : α} {forwarding : Forwarding} : spec.Sends early request forwarding →
      told = ⟨.getParticipant (spec.receiver request), none⟩ :: ⟨.serverName, forwarding.target⟩ :: early →
      Answers told (errorResponse spec.responseId .success)
  | delivered {early : Ledger} {request : α} {forwarding : Forwarding} {target : Addr} : spec.Sends early request forwarding →
      told = ⟨.deliver target { msg := forwarding.notify }, ()⟩ :: ⟨.getParticipant (spec.receiver request), some target⟩ ::
        ⟨.serverName, forwarding.target⟩ :: early → Answers told (messageResponse spec.responseId)
  | called {early : Ledger} {request : α} {forwarding : Forwarding} {name : String} : spec.Sends early request forwarding →
      forwarding.target ≠ name → told = ⟨.notify forwarding.request, some 0⟩ :: ⟨.serverName, name⟩ :: early →
      Answers told (messageResponse spec.responseId)
  | failed {early : Ledger} {request : α} {forwarding : Forwarding} {name : String} {response : Option Int32} :
      spec.Sends early request forwarding → forwarding.target ≠ name → response ≠ some 0 →
      told = ⟨.notify forwarding.request, response⟩ :: ⟨.serverName, name⟩ :: early →
      Answers told (errorResponse msg.id .rpcFailed)

/-- A reply without an exception is one of the handler's answers. -/
def Ends (told : Ledger) : Except Failure ChannelMessage → Prop
  | .ok reply => spec.Answers msg told reply
  | .error _ => True

variable {spec msg}

theorem Asks.plain {told : Ledger} {op : Op} (asks : spec.Asks told op)
    (statements : ∀ request op, spec.statement request = some op → isPush op = false) : isPush op = false := by
  cases asks with
  | uid => rfl
  | statement _ same => exact statements _ _ same
  | route _ => rfl
  | query _ _ => rfl

theorem forward_questions {told : Ledger} {request : α} {forwarding : Forwarding} (sends : spec.Sends told request forwarding)
    (noPush : NoPush told) : (forward msg spec.responseId (spec.receiver request) forwarding.target forwarding.notify
      forwarding.request).Guided (fun told op => spec.Questions told op ∧ NoPush told) (spec.Ends msg) told := by
  have named : ∀ name, NoPush (⟨.serverName, name⟩ :: told) := fun name => noPush_cons rfl name noPush
  apply forward_guided
  · exact ⟨.name sends, noPush⟩
  · exact ⟨.look sends rfl, named _⟩
  · exact .absent sends rfl
  · intro target
    exact ⟨.deliver sends rfl, noPush_cons rfl _ (named _)⟩
  · intro target
    exact .delivered sends rfl
  · intro name elsewhere
    exact ⟨.call sends elsewhere rfl, named name⟩
  · intro name response elsewhere fails
    exact .failed sends elsewhere fails rfl
  · intro name elsewhere
    exact .called sends elsewhere rfl

theorem Prepares.questions {told : Ledger} {handler : Awaitable ChannelMessage} (prepares : spec.Prepares msg told handler)
    (statements : ∀ request op, spec.statement request = some op → isPush op = false) (noPush : NoPush told) :
    handler.Guided (fun told op => spec.Questions told op ∧ NoPush told) (spec.Ends msg) told := by
  apply prepares.guided (fun told op asks noPush => ⟨.prepare asks, noPush⟩) _ noPush
  · intro told reply replies _
    exact .prepare replies
  · intro told failure _
    trivial
  · intro told request forwarding sends noPush
    exact forward_questions sends noPush
  · intro told op answer asks noPush
    exact noPush_cons (asks.plain statements) answer noPush

end Notifying

/-! ## All frames -/

inductive Asked (lib : JsonLib) (msg : MsgNode) (told : Ledger) : Op → Prop
  | gate : told = [] → Asked lib msg told .isAuthenticated
  | login {op : Op} : MessageId.enumCast msg.id = some .loginRequest → LoginAsks lib msg told op → Asked lib msg told op
  | search {op : Op} {key : UserKey} : MessageId.enumCast msg.id = some .searchUserRequest →
      Told told .isAuthenticated true → searchKey lib msg = some key → SearchAsks key op → Asked lib msg told op
  | addFriend {op : Op} : MessageId.enumCast msg.id = some .addFriendRequest → Told told .isAuthenticated true →
      (addFriendNotifies lib msg).Questions told op → Asked lib msg told op
  | authFriend {op : Op} : MessageId.enumCast msg.id = some .authFriendRequest → Told told .isAuthenticated true →
      (authFriendNotifies lib msg).Questions told op → Asked lib msg told op
  | textChat {op : Op} : MessageId.enumCast msg.id = some .textChatMsgReq → Told told .isAuthenticated true →
      (textChatNotifies lib msg).Questions told op → Asked lib msg told op

inductive Replied (lib : JsonLib) (msg : MsgNode) (told : Ledger) : ChannelMessage → Prop
  | rejected : msg.id ≠ MessageId.loginRequest.wire → told = [⟨.isAuthenticated, false⟩] →
      Replied lib msg told (errorResponseAndClose msg.id .notAuthenticated)
  | unknown {flag : Bool} : (MessageId.enumCast msg.id).bind handlers = none → told = [⟨.isAuthenticated, flag⟩] →
      Replied lib msg told (emptyResponse msg.id)
  | thrown {messageId : MessageId} : MessageId.enumCast msg.id = some messageId →
      Replied lib msg told (errorResponse (MessageId.getResponseId messageId).wire .internalError)
  | login {reply : ChannelMessage} : MessageId.enumCast msg.id = some .loginRequest → LoginReplies lib msg told reply →
      Replied lib msg told reply
  | search {reply : ChannelMessage} : MessageId.enumCast msg.id = some .searchUserRequest → Told told .isAuthenticated true →
      SearchReplies lib msg told reply → Replied lib msg told reply
  | addFriend {reply : ChannelMessage} : MessageId.enumCast msg.id = some .addFriendRequest → Told told .isAuthenticated true →
      (addFriendNotifies lib msg).Answers msg told reply → Replied lib msg told reply
  | authFriend {reply : ChannelMessage} : MessageId.enumCast msg.id = some .authFriendRequest →
      Told told .isAuthenticated true → (authFriendNotifies lib msg).Answers msg told reply → Replied lib msg told reply
  | textChat {reply : ChannelMessage} : MessageId.enumCast msg.id = some .textChatMsgReq → Told told .isAuthenticated true →
      (textChatNotifies lib msg).Answers msg told reply → Replied lib msg told reply

/-- No exception leaves `handle_message`. -/
def Finishes (lib : JsonLib) (msg : MsgNode) (told : Ledger) (result : Except Failure ChannelMessage) : Prop :=
  ∃ reply, result = .ok reply ∧ Replied lib msg told reply

/-- One of the three handlers that notify somebody, with its own kind of questions and replies. -/
theorem notifying_asked {α : Type} {spec : Notifying α} {lib : JsonLib} {msg : MsgNode} {messageId : MessageId}
    {handler : Awaitable ChannelMessage} (kind : MessageId.enumCast msg.id = some messageId)
    (prepares : spec.Prepares msg [⟨.isAuthenticated, true⟩] handler)
    (plain : ∀ request op, spec.statement request = some op → isPush op = false)
    (asks : ∀ told op, Told told .isAuthenticated true → spec.Questions told op → Asked lib msg told op)
    (answers : ∀ told reply, Told told .isAuthenticated true → spec.Answers msg told reply → Replied lib msg told reply) :
    handler.Guided (fun told op => Asked lib msg told op ∧ NoPush told) (Recovered messageId (Finishes lib msg))
      [⟨.isAuthenticated, true⟩] := by
  have keeps : ∀ told op answer, Told told .isAuthenticated true →
      Told ((⟨op, answer⟩ : (op : Op) × op.Res) :: told) .isAuthenticated true := fun _ _ _ known => known.tail _
  have gated : ∀ flag, NoPush [⟨.isAuthenticated, flag⟩] := fun flag => noPush_cons rfl flag noPush_nil
  apply (prepares.questions plain (gated true)).imp
    (fun told op questions known => ⟨asks told op known questions.1, questions.2⟩)
    (fun told op answer _ => keeps told op answer) _ (told_head _ _ _)
  intro told result ends known
  cases result with
  | ok reply => exact ⟨reply, rfl, answers told reply known ends⟩
  | error failure => exact ⟨_, rfl, .thrown kind⟩

/-- The one lemma about the handler of a frame. -/
theorem handleMessage_asked (lib : JsonLib) (msg : MsgNode) :
    (handleMessage lib msg).Guided (fun told op => Asked lib msg told op ∧ NoPush told) (Finishes lib msg) [] := by
  have gated : ∀ flag, NoPush [⟨.isAuthenticated, flag⟩] := fun flag => noPush_cons rfl flag noPush_nil
  apply handleMessage_rule lib msg ⟨.gate rfl, noPush_nil⟩ (fun other => ⟨_, rfl, .rejected other rfl⟩) fun _ nobody => ⟨_, rfl, .unknown nobody rfl⟩
  · intro kind flag
    have keeps : ∀ told op (answer : op.Res), (LoginAsks lib msg told op ∧ NoPush told) → True → True := fun _ _ _ _ known => known
    apply (login_guided lib msg (gated flag) rfl).imp (fun told op asks _ => ⟨.login kind asks.1, asks.2⟩)
      (fun told op answer asks known => keeps told op answer asks known) _ trivial
    intro told result ends _
    cases result with
    | ok reply => exact ⟨reply, rfl, .login kind ends⟩
    | error failure => exact ⟨_, rfl, .thrown kind⟩
  · intro kind
    have keeps : ∀ told op answer, Told told .isAuthenticated true →
        Told ((⟨op, answer⟩ : (op : Op) × op.Res) :: told) .isAuthenticated true := fun _ _ _ known => known.tail _
    apply (searchUser_guided lib msg (gated true)).imp _ (fun told op answer _ => keeps told op answer) _ (told_head _ _ _)
    · intro told op asks known
      obtain ⟨⟨key, same, asks⟩, quiet⟩ := asks
      exact ⟨.search kind known same asks, quiet⟩
    · intro told result ends known
      cases result with
      | ok reply => exact ⟨reply, rfl, .search kind known ends⟩
      | error failure => exact ⟨_, rfl, .thrown kind⟩
  · intro kind
    apply notifying_asked kind (addFriend_prepares lib msg _) _ (fun _ _ => .addFriend kind) fun _ _ => .addFriend kind
    intro request op same
    cases same
    rfl
  · intro kind
    apply notifying_asked kind (authFriend_prepares lib msg _) _ (fun _ _ => .authFriend kind) fun _ _ => .authFriend kind
    intro request op same
    cases same
    rfl
  · intro kind
    apply notifying_asked kind (textChatMsg_prepares lib msg _) _ (fun _ _ => .textChat kind) fun _ _ => .textChat kind
    intro request op same
    cases same

/-! ## Replies that are no errors -/

section Success

variable {lib : JsonLib} {msg : MsgNode} {told : Ledger} {reply : ChannelMessage}

theorem unhandled_absurd {messageId : MessageId} (nobody : (MessageId.enumCast msg.id).bind handlers = none)
    (kind : MessageId.enumCast msg.id = some messageId) (handled : handlers messageId ≠ none) : False := by
  rw [kind] at nobody
  exact handled nobody

theorem login_success (replied : Replied lib msg told reply) (kind : MessageId.enumCast msg.id = some .loginRequest)
    (success : ¬ CarriesError reply) : ∃ request info applyList friendList,
      parseJson lib UserLoginRequest.fromJson msg.bodyText = some request ∧ FoundUser lib (.uid request.uid) told info ∧
      Told told (.getFriendApplies request.uid) (.ok applyList) ∧ Told told (.getFriends request.uid) (.ok friendList) ∧
      reply = loginReply request info applyList friendList := by
  cases replied with
  | rejected _ _ => exact absurd (errorResponseAndClose_carriesError _ (by decide)) success
  | unknown nobody _ => exact (unhandled_absurd nobody kind fun same => by cases same).elim
  | thrown _ => exact absurd (errorResponse_carriesError _ (by decide)) success
  | login _ replies =>
    cases replies with
    | invalid _ => exact absurd (errorResponseAndClose_carriesError _ (by decide)) success
    | refused _ _ _ => exact absurd (errorResponseAndClose_carriesError _ (by decide)) success
    | unknown _ => exact absurd (errorResponseAndClose_carriesError _ (by decide)) success
    | @success request info applyList friendList passed _ found applies friends =>
      exact ⟨request, info, applyList, friendList, passed.parsed, found, applies, friends, rfl⟩
  | search other _ _ => cases kind.symm.trans other
  | addFriend other _ _ => cases kind.symm.trans other
  | authFriend other _ _ => cases kind.symm.trans other
  | textChat other _ _ => cases kind.symm.trans other

theorem search_success (replied : Replied lib msg told reply) (kind : MessageId.enumCast msg.id = some .searchUserRequest)
    (success : ¬ CarriesError reply) : ∃ key info, searchKey lib msg = some key ∧ FoundUser lib key told info ∧
      reply = { msg := MsgNode.ofText MessageId.searchUserResponse.wire info.toJson.dump } := by
  cases replied with
  | rejected _ _ => exact absurd (errorResponseAndClose_carriesError _ (by decide)) success
  | unknown nobody _ => exact (unhandled_absurd nobody kind fun same => by cases same).elim
  | thrown _ => exact absurd (errorResponse_carriesError _ (by decide)) success
  | search _ _ replies =>
    cases replies with
    | invalid _ => exact absurd (errorResponse_carriesError _ (by decide)) success
    | @found key info asked found => exact ⟨key, info, asked, found, rfl⟩
    | notFound => exact absurd (errorResponse_carriesError _ (by decide)) success
  | login other _ => cases kind.symm.trans other
  | addFriend other _ _ => cases kind.symm.trans other
  | authFriend other _ _ => cases kind.symm.trans other
  | textChat other _ _ => cases kind.symm.trans other

/-- Only a request whose statement has been executed is answered without an error. -/
theorem authFriend_success {acceptor applicant : Int64} (replied : Replied lib msg told reply)
    (kind : MessageId.enumCast msg.id = some .authFriendRequest)
    (parsed : parseJson lib AuthFriendRequest.fromJson msg.bodyText = some { fromuid := acceptor, touid := applicant })
    (success : ¬ CarriesError reply) : Told told (.authFriendApply acceptor applicant) (.ok ()) := by
  have executed : ∀ {told : Ledger} {request : AuthFriendRequest}, (authFriendNotifies lib msg).Ready told request →
      Told told (.authFriendApply acceptor applicant) (.ok ()) := by
    intro told request ready
    have same := Option.some.inj (parsed.symm.trans ready.parsed)
    subst same
    exact ready.executed
  cases replied with
  | rejected _ _ => exact absurd (errorResponseAndClose_carriesError _ (by decide)) success
  | unknown nobody _ => exact (unhandled_absurd nobody kind fun same => by cases same).elim
  | thrown _ => exact absurd (errorResponse_carriesError _ (by decide)) success
  | login other _ => cases kind.symm.trans other
  | search other _ _ => cases kind.symm.trans other
  | addFriend other _ _ => cases kind.symm.trans other
  | textChat other _ _ => cases kind.symm.trans other
  | authFriend _ _ answers =>
    cases answers with
    | prepare replies =>
      cases replies with
      | invalid _ => exact absurd (errorResponse_carriesError _ (by decide)) success
      | refused _ _ _ => exact absurd (errorResponse_carriesError _ (by decide)) success
      | unrouted ready _ => exact executed ready
      | unknown _ => exact absurd (errorResponse_carriesError _ (by decide)) success
    | absent sends same =>
      rw [same]
      exact ((executed sends.toReady).tail _).tail _
    | delivered sends same =>
      rw [same]
      exact (((executed sends.toReady).tail _).tail _).tail _
    | called sends _ same =>
      rw [same]
      exact ((executed sends.toReady).tail _).tail _
    | failed _ _ _ _ => exact absurd (errorResponse_carriesError _ (by decide)) success

end Success

end ChatProof
