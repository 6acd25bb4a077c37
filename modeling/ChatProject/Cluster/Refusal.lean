import ChatProject.Cluster.Login
import ChatProject.Cluster.Consistency

/-! What is left behind by a request for a friend that is answered with an error. -/

namespace ChatProof

open ChatModel

/-! ## The calls, one by one -/

section Calls

variable (externals : Externals) (outcome : Op → Outcome) (addr : Addr) (scene : Scene)

/-- Where Redis says that the user is logged in. -/
def routed (stores : Stores) (uid : Int64) : Option String :=
  if outcome (.redisGet (userLoginServerKey uid)) = .ok then stores.redis.get (userLoginServerKey uid) else none

/-- What MySQL knows of the user. -/
def lookedUp (stores : Stores) (uid : Int64) : Except Failure (Option UserInfo) :=
  if outcome (.getUserInfo (.uid uid)) = .ok then .ok (stores.db.getUserInfoByUid uid) else .error .mysql

theorem execPeered_uid : execPeered externals outcome addr .uid scene = ((scene.server.session addr).uid, scene) := rfl

theorem execPeered_serverName : execPeered externals outcome addr .serverName scene = (scene.server.name, scene) := rfl

theorem execPeered_getParticipant (uid : Int64) :
    execPeered externals outcome addr (.getParticipant uid) scene = (scene.server.getParticipant uid, scene) := rfl

theorem execPeered_route (uid : Int64) :
    execPeered externals outcome addr (.redisGet (userLoginServerKey uid)) scene = (routed outcome scene.stores uid, scene) := by
  have answered := execAlone_redisGet externals outcome addr scene.server scene.stores (userLoginServerKey uid)
  exact congrArg (fun result : Option String × ChatServer × Stores =>
    (result.1, ({ scene with server := result.2.1, stores := result.2.2 } : Scene))) answered

theorem execPeered_getUserInfo (uid : Int64) :
    execPeered externals outcome addr (.getUserInfo (.uid uid)) scene = (lookedUp outcome scene.stores uid, scene) := by
  have answered := execAlone_getUserInfo externals outcome addr scene.server scene.stores uid
  exact congrArg (fun result : Except Failure (Option UserInfo) × ChatServer × Stores =>
    (result.1, ({ scene with server := result.2.1, stores := result.2.2 } : Scene))) answered

theorem execPeered_notify (request : NotifyRequest) : execPeered externals outcome addr (.notify request) scene =
    (if outcome (.notify request) = .ok then some 0 else none,
      { scene with peer := if outcome (.notify request) = .error then scene.peer else scene.peer.serveNotify request }) := by
  unfold execPeered
  dsimp only
  cases outcome (.notify request) <;> rfl

/-! ## The end that both requests share -/

theorem forward_run (msg : MsgNode) (responseId : UInt32) (touid : Int64) (target : String) (notify : MsgNode)
    (request : NotifyRequest) : (forward msg responseId touid target notify request).run (execPeered externals outcome addr) scene =
      if target = scene.server.name then
        match scene.server.getParticipant touid with
        | none => (.ok (errorResponse responseId .success), scene)
        | some session =>
          (.ok (messageResponse responseId), { scene with server := scene.server.deliver session { msg := notify } })
      else
        (.ok (if outcome (.notify request) = .ok then messageResponse responseId else errorResponse msg.id .rpcFailed),
          { scene with peer := if outcome (.notify request) = .error then scene.peer else scene.peer.serveNotify request }) := by
  unfold forward
  simp only [Awaitable.perform, Coroutine.bind_def, Coroutine.perform_bind, Coroutine.run_call, execPeered_serverName]
  change Coroutine.run _ (if target = scene.server.name then _ else _) scene = _
  by_cases here : target = scene.server.name
  · rw [if_pos here, if_pos here, Coroutine.run_call, execPeered_getParticipant]
    cases scene.server.getParticipant touid with
    | none => rfl
    | some session => rfl
  · rw [if_neg here, if_neg here, Coroutine.run_call, execPeered_notify]
    dsimp only
    by_cases went : outcome (.notify request) = .ok
    · simp only [went, if_true]
      rfl
    · simp only [went, if_false]
      rfl

/-! ## The two requests -/

/-- After the statement of a request. -/
def afterStatement (op : Op) : Scene := { scene with stores := (scene.stores.exec externals (outcome op) op).2 }

/-- What a statement does not touch. -/
theorem statement_aside {op : Op} (statement : isStatement op = true) (stores : Stores) (outcome : Outcome) :
    (stores.exec externals outcome op).2.redis = stores.redis ∧ (stores.exec externals outcome op).2.db.user = stores.db.user := by
  cases op with
  | addFriendApply fromUid toUid =>
    change (stores.addFriendApply outcome fromUid toUid).2.redis = _ ∧ (stores.addFriendApply outcome fromUid toUid).2.db.user = _
    unfold Stores.addFriendApply Tables.addFriendApply
    cases intColumn fromUid with
    | none => exact ⟨rfl, rfl⟩
    | some fromColumn =>
      cases intColumn toUid with
      | none => exact ⟨rfl, rfl⟩
      | some toColumn => cases outcome <;> exact ⟨rfl, rfl⟩
  | authFriendApply fromUid toUid => cases outcome <;> exact ⟨rfl, rfl⟩
  | _ => cases statement

theorem routed_afterStatement {op : Op} (statement : isStatement op = true) (uid : Int64) :
    routed outcome (afterStatement externals outcome scene op).stores uid = routed outcome scene.stores uid := by
  rw [routed, afterStatement, (statement_aside externals statement scene.stores (outcome op)).1]
  rfl

theorem lookedUp_afterStatement {op : Op} (statement : isStatement op = true) (uid : Int64) :
    lookedUp outcome (afterStatement externals outcome scene op).stores uid = lookedUp outcome scene.stores uid := by
  have same := (statement_aside externals statement scene.stores (outcome op)).2
  rw [lookedUp, afterStatement, Tables.getUserInfoByUid, same]
  rfl

variable {msg : MsgNode}

theorem addFriend_run {request : AddFriendRequest} (parsed : parseJson externals.lib AddFriendRequest.fromJson msg.bodyText = some request)
    (own : (scene.server.session addr).uid = request.uid) (apart : request.uid ≠ request.touid) :
    let after := afterStatement externals outcome scene (.addFriendApply request.uid request.touid)
    (addFriend externals.lib msg).run (execPeered externals outcome addr) scene =
      match ((scene.stores.exec externals (outcome (.addFriendApply request.uid request.touid))
        (.addFriendApply request.uid request.touid)).1 : Except Failure Unit) with
      | .error failure => (.error failure, after)
      | .ok () =>
        match routed outcome scene.stores request.touid with
        | none => (.ok (errorResponse MessageId.addFriendResponse.wire .success), after)
        | some target =>
          match lookedUp outcome scene.stores request.uid with
          | .error failure => (.error failure, after)
          | .ok none => (.ok (errorResponse MessageId.addFriendResponse.wire .internalError), after)
          | .ok (some userInfo) =>
            (forward msg MessageId.addFriendResponse.wire request.touid target
              (MsgNode.ofText MessageId.notifyAddFriend.wire
                ({ applyuid := request.uid, name := userInfo.name } : NotifyAddFriendMsg).toJson.dump)
              (.addFriend ({ fromUid := request.uid, name := userInfo.name, toUid := request.touid } : GrpcAddFriendRequest).toProto)).run
                (execPeered externals outcome addr) after := by
  intro after
  have accepted : ¬ (request.uid ≠ (scene.server.session addr).uid ∨ request.uid = request.touid) := by
    rw [own]
    simp [apart]
  unfold addFriend
  rw [parsed]
  simp only [Awaitable.perform, Awaitable.attempt, getUserLoginServer, Coroutine.bind_def, Coroutine.perform_bind, Coroutine.run_call,
    execPeered_uid]
  change Coroutine.run _ (if request.uid ≠ (scene.server.session addr).uid ∨ request.uid = request.touid then _ else _) scene = _
  rw [if_neg accepted]
  generalize answered : ((scene.stores.exec externals (outcome (.addFriendApply request.uid request.touid))
    (.addFriendApply request.uid request.touid)).1 : Except Failure Unit) = answer
  have executes : execPeered externals outcome addr (.addFriendApply request.uid request.touid) scene = (answer, after) := by
    rw [← answered]
    rfl
  simp only [Coroutine.call_bind, Coroutine.run_call, executes]
  cases answer with
  | error failure => rfl
  | ok done =>
    have goes : routed outcome after.stores request.touid = routed outcome scene.stores request.touid :=
      routed_afterStatement externals outcome scene rfl request.touid
    have knows : lookedUp outcome after.stores request.uid = lookedUp outcome scene.stores request.uid :=
      lookedUp_afterStatement externals outcome scene rfl request.uid
    simp only [Coroutine.ofExcept, Coroutine.ret_bind, Coroutine.run_call, execPeered_route, goes]
    cases routed outcome scene.stores request.touid with
    | none => rfl
    | some target =>
      simp only [Coroutine.run_call, execPeered_getUserInfo, knows]
      cases lookedUp outcome scene.stores request.uid with
      | error failure => rfl
      | ok found => cases found <;> rfl

theorem authFriend_run {request : AuthFriendRequest} (parsed : parseJson externals.lib AuthFriendRequest.fromJson msg.bodyText = some request)
    (own : (scene.server.session addr).uid = request.fromuid) (apart : request.fromuid ≠ request.touid) :
    let after := afterStatement externals outcome scene (.authFriendApply request.fromuid request.touid)
    (authFriend externals.lib msg).run (execPeered externals outcome addr) scene =
      match ((scene.stores.exec externals (outcome (.authFriendApply request.fromuid request.touid))
        (.authFriendApply request.fromuid request.touid)).1 : Except Failure Unit) with
      | .error failure => (.error failure, after)
      | .ok () =>
        match routed outcome scene.stores request.touid with
        | none => (.ok (errorResponse MessageId.authFriendResponse.wire .success), after)
        | some target =>
          (forward msg MessageId.authFriendResponse.wire request.touid target
            (MsgNode.ofText MessageId.notifyAuthFriend.wire request.toNotify.toJson.dump)
            (.authFriend ({ fromUid := request.fromuid, toUid := request.touid } : GrpcAuthFriendRequest).toProto)).run
              (execPeered externals outcome addr) after := by
  intro after
  have accepted : ¬ (request.fromuid ≠ (scene.server.session addr).uid ∨ request.fromuid = request.touid) := by
    rw [own]
    simp [apart]
  unfold authFriend
  rw [parsed]
  simp only [Awaitable.perform, Awaitable.attempt, getUserLoginServer, Coroutine.bind_def, Coroutine.perform_bind, Coroutine.run_call,
    execPeered_uid]
  change Coroutine.run _ (if request.fromuid ≠ (scene.server.session addr).uid ∨ request.fromuid = request.touid then _ else _)
    scene = _
  rw [if_neg accepted]
  generalize answered : ((scene.stores.exec externals (outcome (.authFriendApply request.fromuid request.touid))
    (.authFriendApply request.fromuid request.touid)).1 : Except Failure Unit) = answer
  have executes : execPeered externals outcome addr (.authFriendApply request.fromuid request.touid) scene = (answer, after) := by
    rw [← answered]
    rfl
  simp only [Coroutine.call_bind, Coroutine.run_call, executes]
  cases answer with
  | error failure => rfl
  | ok done =>
    have goes : routed outcome after.stores request.touid = routed outcome scene.stores request.touid :=
      routed_afterStatement externals outcome scene rfl request.touid
    simp only [Coroutine.ofExcept, Coroutine.ret_bind, Coroutine.run_call, execPeered_route, goes]
    cases routed outcome scene.stores request.touid <;> rfl

/-- What the course of a request depends on once its statement has been answered. -/
structure Plan (α : Type) where
  responseId : UInt32
  route : Option String
  found : Except Failure (Option α)
  remote : α → NotifyRequest

namespace Plan

variable {α : Type} (plan : Plan α)

/-- The sender is not found, or the call of the peer fails. -/
def Fails : Prop := ∃ target, plan.route = some target ∧ ∀ info, plan.found = .ok (some info) →
  target ≠ scene.server.name ∧ outcome (.notify (plan.remote info)) ≠ .ok

/-- The peer has run the task of the call, and the answer is lost. -/
def Reaches (request : NotifyRequest) : Prop := ∃ target info, plan.route = some target ∧ plan.found = .ok (some info) ∧
  target ≠ scene.server.name ∧ outcome (.notify request) = .lost ∧ plan.remote info = request

/-- How a request ends, from the answer to its statement on. -/
inductive Ends (msg : MsgNode) (after : Scene) : Except Failure Unit → Except Failure ChannelMessage × Scene → Prop
  | refused (failure : Failure) : Ends msg after (.error failure) (.error failure, after)
  | offline : plan.route = none → Ends msg after (.ok ()) (.ok (errorResponse plan.responseId .success), after)
  | unread {target : String} (failure : Failure) : plan.route = some target → plan.found = .error failure →
      Ends msg after (.ok ()) (.error failure, after)
  | unknown {target : String} : plan.route = some target → plan.found = .ok none →
      Ends msg after (.ok ()) (.ok (errorResponse plan.responseId .internalError), after)
  | here {target : String} {info : α} {reply : ChannelMessage} (server : ChatServer) : plan.route = some target →
      plan.found = .ok (some info) → target = scene.server.name → ¬ CarriesError reply →
      Ends msg after (.ok ()) (.ok reply, { after with server })
  | there {target : String} {info : α} : plan.route = some target → plan.found = .ok (some info) → target ≠ scene.server.name →
      Ends msg after (.ok ()) (.ok (if outcome (.notify (plan.remote info)) = .ok then messageResponse plan.responseId
        else errorResponse msg.id .rpcFailed), { after with
          peer := if outcome (.notify (plan.remote info)) = .error then after.peer else after.peer.serveNotify (plan.remote info) })

end Plan

def addPlan (stores : Stores) (request : AddFriendRequest) : Plan UserInfo where
  responseId := MessageId.addFriendResponse.wire
  route := routed outcome stores request.touid
  found := lookedUp outcome stores request.uid
  remote userInfo := (AcceptedRequest.addFriend request userInfo).remote

/-- An acceptance looks nobody up. -/
def authPlan (stores : Stores) (request : AuthFriendRequest) : Plan Unit where
  responseId := MessageId.authFriendResponse.wire
  route := routed outcome stores request.touid
  found := .ok (some ())
  remote _ := (AcceptedRequest.authFriend request).remote

theorem forward_ends {α : Type} (plan : Plan α) {after : Scene} (same : after.server.name = scene.server.name) {target : String}
    {info : α} (goes : plan.route = some target) (known : plan.found = .ok (some info)) (touid : Int64) (notify : MsgNode) :
    plan.Ends outcome scene msg after (.ok ())
      ((forward msg plan.responseId touid target notify (plan.remote info)).run (execPeered externals outcome addr) after) := by
  rw [forward_run, same]
  by_cases here : target = scene.server.name
  · rw [if_pos here]
    cases after.server.getParticipant touid with
    | none => exact .here after.server goes known here (not_carriesError_success _)
    | some session => exact .here _ goes known here (not_carriesError_message _)
  · rw [if_neg here]
    exact .there goes known here

theorem addFriend_ends {request : AddFriendRequest} (parsed : parseJson externals.lib AddFriendRequest.fromJson msg.bodyText = some request)
    (own : (scene.server.session addr).uid = request.uid) (apart : request.uid ≠ request.touid) :
    (addPlan outcome scene.stores request).Ends outcome scene msg
      (afterStatement externals outcome scene (.addFriendApply request.uid request.touid))
      (scene.stores.exec externals (outcome (.addFriendApply request.uid request.touid)) (.addFriendApply request.uid request.touid)).1
      ((addFriend externals.lib msg).run (execPeered externals outcome addr) scene) := by
  have same : (afterStatement externals outcome scene (.addFriendApply request.uid request.touid)).server.name =
      scene.server.name := rfl
  rw [addFriend_run externals outcome addr scene parsed own apart]
  generalize ((scene.stores.exec externals (outcome (.addFriendApply request.uid request.touid))
    (.addFriendApply request.uid request.touid)).1 : Except Failure Unit) = answer
  cases answer with
  | error failure => exact .refused failure
  | ok done =>
    dsimp only
    cases goes : routed outcome scene.stores request.touid with
    | none => exact .offline goes
    | some target =>
      dsimp only
      cases known : lookedUp outcome scene.stores request.uid with
      | error failure => exact .unread failure goes known
      | ok found =>
        cases found with
        | none => exact .unknown goes known
        | some userInfo =>
          exact forward_ends externals outcome addr scene (addPlan outcome scene.stores request) same goes known _ _

theorem authFriend_ends {request : AuthFriendRequest} (parsed : parseJson externals.lib AuthFriendRequest.fromJson msg.bodyText = some request)
    (own : (scene.server.session addr).uid = request.fromuid) (apart : request.fromuid ≠ request.touid) :
    (authPlan outcome scene.stores request).Ends outcome scene msg
      (afterStatement externals outcome scene (.authFriendApply request.fromuid request.touid))
      (scene.stores.exec externals (outcome (.authFriendApply request.fromuid request.touid))
        (.authFriendApply request.fromuid request.touid)).1
      ((authFriend externals.lib msg).run (execPeered externals outcome addr) scene) := by
  have same : (afterStatement externals outcome scene (.authFriendApply request.fromuid request.touid)).server.name =
      scene.server.name := rfl
  rw [authFriend_run externals outcome addr scene parsed own apart]
  generalize ((scene.stores.exec externals (outcome (.authFriendApply request.fromuid request.touid))
    (.authFriendApply request.fromuid request.touid)).1 : Except Failure Unit) = answer
  cases answer with
  | error failure => exact .refused failure
  | ok done =>
    dsimp only
    cases goes : routed outcome scene.stores request.touid with
    | none => exact .offline goes
    | some target =>
      exact forward_ends externals outcome addr scene (authPlan outcome scene.stores request) same goes rfl _ _

/-- The handler has thrown, or its reply is an error. -/
def Failed : Except Failure ChannelMessage → Prop
  | .ok reply => CarriesError reply
  | .error _ => True

namespace Plan

variable {externals outcome addr scene} {α : Type} {plan : Plan α} {after last : Scene} {answer : Except Failure Unit}
  {result : Except Failure ChannelMessage}

theorem Ends.stores (ends : plan.Ends outcome scene msg after answer (result, last)) : last.stores = after.stores := by
  cases ends <;> rfl

theorem Ends.failed (ends : plan.Ends outcome scene msg after answer (result, last)) :
    Failed result ↔ answer ≠ .ok () ∨ plan.Fails outcome scene := by
  cases ends with
  | refused failure => exact ⟨fun _ => .inl nofun, fun _ => trivial⟩
  | offline goes =>
    constructor
    · exact fun failed => absurd failed (not_carriesError_success _)
    · rintro (refused | ⟨target, other, _⟩)
      · exact absurd rfl refused
      · cases goes.symm.trans other
  | @unread target failure goes unread =>
    refine ⟨fun _ => .inr ⟨target, goes, fun info known => ?_⟩, fun _ => trivial⟩
    cases unread.symm.trans known
  | @unknown target goes unknown =>
    refine ⟨fun _ => .inr ⟨target, goes, fun info known => ?_⟩, fun _ => errorResponse_carriesError _ nofun⟩
    cases unknown.symm.trans known
  | @here target info reply server goes known here success =>
    constructor
    · exact fun failed => absurd failed success
    · rintro (refused | ⟨other, route, fails⟩)
      · exact absurd rfl refused
      · cases goes.symm.trans route
        exact absurd here (fails info known).1
  | @there target info goes known elsewhere =>
    by_cases went : outcome (.notify (plan.remote info)) = .ok
    · rw [if_pos went]
      constructor
      · exact fun failed => absurd failed (not_carriesError_message _)
      · rintro (refused | ⟨other, _, fails⟩)
        · exact absurd rfl refused
        · exact absurd went (fails info known).2
    · rw [if_neg went]
      refine ⟨fun _ => .inr ⟨target, goes, fun other same => ?_⟩, fun _ => errorResponse_carriesError _ nofun⟩
      cases known.symm.trans same
      exact ⟨elsewhere, went⟩

/-- A request that fails has delivered nothing here, and nothing at the peer unless only the answer of the peer was lost. -/
theorem Ends.delivered (ends : plan.Ends outcome scene msg after answer (result, last)) (failed : Failed result) :
    last.server = after.server ∧ (last.peer = after.peer ∧ (answer = .ok () → ∀ request, ¬ plan.Reaches outcome scene request) ∨
      answer = .ok () ∧ ∃ request, plan.Reaches outcome scene request ∧ last.peer = after.peer.serveNotify request) := by
  cases ends with
  | refused failure => exact ⟨rfl, .inl ⟨rfl, nofun⟩⟩
  | offline goes =>
    refine ⟨rfl, .inl ⟨rfl, ?_⟩⟩
    rintro _ request ⟨target, _, other, _⟩
    cases goes.symm.trans other
  | unread failure goes unread =>
    refine ⟨rfl, .inl ⟨rfl, ?_⟩⟩
    rintro _ request ⟨_, info, _, known, _⟩
    cases unread.symm.trans known
  | unknown goes unknown =>
    refine ⟨rfl, .inl ⟨rfl, ?_⟩⟩
    rintro _ request ⟨_, info, _, known, _⟩
    cases unknown.symm.trans known
  | here server goes known here success => exact absurd failed success
  | @there target info goes known elsewhere =>
    refine ⟨rfl, ?_⟩
    cases went : outcome (.notify (plan.remote info)) with
    | ok =>
      rw [went] at failed
      exact absurd failed (not_carriesError_message _)
    | error =>
      refine .inl ⟨rfl, ?_⟩
      rintro _ request ⟨_, other, _, same, _, lost, remote⟩
      cases known.symm.trans same
      rw [remote, lost] at went
      cases went
    | lost => exact .inr ⟨rfl, plan.remote info, ⟨target, info, goes, known, elsewhere, went, rfl⟩, rfl⟩

end Plan

/-! ## The frame -/

/-- What `handle_message` makes of an exception. -/
def recovered (messageId : MessageId) : Except Failure ChannelMessage × Scene → Except Failure ChannelMessage × Scene
  | (.ok reply, after) => (.ok reply, after)
  | (.error _, after) => (.ok (errorResponse (MessageId.getResponseId messageId).wire .internalError), after)

theorem servePeered_handled {messageId : MessageId} {handler : JsonLib → MsgNode → Awaitable ChannelMessage}
    (kind : MessageId.enumCast msg.id = some messageId) (found : handlers messageId = some handler)
    (authenticated : (scene.server.session addr).isAuthenticated = true) : servePeered externals outcome addr msg scene =
      recovered messageId ((handler externals.lib msg).run (execPeered externals outcome addr) scene) := by
  have admitted : ¬ ((scene.server.session addr).isAuthenticated = false ∧ msg.id ≠ MessageId.loginRequest.wire) := by
    rintro ⟨stranger, _⟩
    rw [authenticated] at stranger
    cases stranger
  unfold servePeered handleMessage
  simp only [Awaitable.perform, Coroutine.bind_def, Coroutine.perform_bind, Coroutine.run_call]
  rw [kind]
  dsimp only
  rw [found]
  change Coroutine.run _ (if (scene.server.session addr).isAuthenticated = false ∧ msg.id ≠ MessageId.loginRequest.wire
    then _ else (handler externals.lib msg).catchWith _) scene = _
  rw [if_neg admitted, Coroutine.run_catchWith]
  generalize (handler externals.lib msg).run (execPeered externals outcome addr) scene = ended
  obtain ⟨result, after⟩ := ended
  cases result <;> rfl

theorem servePeered_stranger {messageId : MessageId} (kind : MessageId.enumCast msg.id = some messageId)
    (other : messageId ≠ .loginRequest) (stranger : (scene.server.session addr).isAuthenticated = false) :
    servePeered externals outcome addr msg scene = (.ok (errorResponseAndClose msg.id .notAuthenticated), scene) := by
  have foreign : msg.id ≠ MessageId.loginRequest.wire := by
    intro same
    rw [same, MessageId.enumCast_wire] at kind
    exact other (Option.some.inj kind).symm
  unfold servePeered handleMessage
  simp only [Awaitable.perform, Coroutine.bind_def, Coroutine.perform_bind, Coroutine.run_call]
  change Coroutine.run _ (if (scene.server.session addr).isAuthenticated = false ∧ msg.id ≠ MessageId.loginRequest.wire
    then _ else _) scene = _
  rw [if_pos ⟨stranger, foreign⟩]
  rfl

theorem recovered_failed (messageId : MessageId) (result : Except Failure ChannelMessage) (after : Scene) :
    ∃ reply, recovered messageId (result, after) = (.ok reply, after) ∧ (CarriesError reply ↔ Failed result) := by
  cases result with
  | ok reply => exact ⟨reply, rfl, Iff.rfl⟩
  | error failure =>
    have fails : CarriesError (errorResponse (MessageId.getResponseId messageId).wire .internalError) :=
      errorResponse_carriesError _ nofun
    exact ⟨_, rfl, fun _ => trivial, fun _ => fails⟩

/-- A request that is turned down before its statement. -/
theorem addFriend_refused (refused : ∀ request, parseJson externals.lib AddFriendRequest.fromJson msg.bodyText = some request →
      (scene.server.session addr).uid = request.uid → request.uid = request.touid) : ∃ error, error ≠ ServerError.success ∧
    (addFriend externals.lib msg).run (execPeered externals outcome addr) scene =
      (.ok (errorResponse MessageId.addFriendResponse.wire error), scene) := by
  unfold addFriend
  cases parsed : parseJson externals.lib AddFriendRequest.fromJson msg.bodyText with
  | none => exact ⟨.invalidJson, nofun, rfl⟩
  | some request =>
    have foreign : request.uid ≠ (scene.server.session addr).uid ∨ request.uid = request.touid := by
      by_cases own : (scene.server.session addr).uid = request.uid
      · exact .inr (refused request parsed own)
      · exact .inl (Ne.symm own)
    refine ⟨.userUidInvalid, nofun, ?_⟩
    simp only [Awaitable.perform, Coroutine.bind_def, Coroutine.perform_bind, Coroutine.run_call, execPeered_uid]
    change Coroutine.run _ (if request.uid ≠ (scene.server.session addr).uid ∨ request.uid = request.touid then _ else _) scene = _
    rw [if_pos foreign]
    rfl

theorem authFriend_refused (refused : ∀ request, parseJson externals.lib AuthFriendRequest.fromJson msg.bodyText = some request →
      (scene.server.session addr).uid = request.fromuid → request.fromuid = request.touid) : ∃ error, error ≠ ServerError.success ∧
    (authFriend externals.lib msg).run (execPeered externals outcome addr) scene =
      (.ok (errorResponse MessageId.authFriendResponse.wire error), scene) := by
  unfold authFriend
  cases parsed : parseJson externals.lib AuthFriendRequest.fromJson msg.bodyText with
  | none => exact ⟨.invalidJson, nofun, rfl⟩
  | some request =>
    have foreign : request.fromuid ≠ (scene.server.session addr).uid ∨ request.fromuid = request.touid := by
      by_cases own : (scene.server.session addr).uid = request.fromuid
      · exact .inr (refused request parsed own)
      · exact .inl (Ne.symm own)
    refine ⟨.userUidInvalid, nofun, ?_⟩
    simp only [Awaitable.perform, Coroutine.bind_def, Coroutine.perform_bind, Coroutine.run_call, execPeered_uid]
    change Coroutine.run _ (if request.fromuid ≠ (scene.server.session addr).uid ∨ request.fromuid = request.touid then _ else _)
      scene = _
    rw [if_pos foreign]
    rfl

end Calls

/-! ## What the statements change -/

/-- There is nothing left to accept: the application has been accepted, and both are friends. -/
structure Settled (db : Tables) (fromUid toUid : Int64) : Prop where
  accepted : ∀ row ∈ db.friendApply, row.fromUid.toInt64 = fromUid ∧ row.toUid.toInt64 = toUid → row.status = 1
  friends : db.friend.holds (clampedColumn fromUid, clampedColumn toUid) ∧ db.friend.holds (clampedColumn toUid, clampedColumn fromUid)

/-- The statement is executed, and there is something for it to do. -/
def Writes (outcome : Outcome) (db : Tables) : Op → Prop
  | .addFriendApply fromUid toUid => outcome ≠ .error ∧ ∃ fromColumn toColumn, intColumn fromUid = some fromColumn ∧
      intColumn toUid = some toColumn ∧ ¬ db.friendApply.holds (fromColumn, toColumn)
  | .authFriendApply fromUid toUid => outcome ≠ .error ∧ ¬ Settled db fromUid toUid
  | _ => False

/-- Both tables that a request for a friend can change are as they were. -/
def SameFriends (before after : Tables) : Prop := after.friendApply = before.friendApply ∧ after.friend = before.friend

theorem authFriendApply_same {db : Tables} {fromUid toUid : Int64} :
    SameFriends db (db.authFriendApply fromUid toUid) ↔ Settled db fromUid toUid := by
  have applies : (db.authFriendApply fromUid toUid).friendApply = db.friendApply ↔ ∀ row ∈ db.friendApply,
      decide (row.fromUid.toInt64 = fromUid ∧ row.toUid.toInt64 = toUid) = true → { row with status := 1 } = row := by
    change db.acceptApply fromUid toUid = db.friendApply ↔ _
    unfold Tables.acceptApply
    exact UniqueTable.updateWhere_eq_self
  have friends : (db.authFriendApply fromUid toUid).friend = db.friend ↔
      db.friend.holds (clampedColumn fromUid, clampedColumn toUid) ∧ db.friend.holds (clampedColumn toUid, clampedColumn fromUid) :=
    UniqueTable.insertBoth_eq_self
  have set : ∀ row : FriendApplyRow, { row with status := 1 } = row ↔ row.status = 1 := by
    intro row
    cases row
    simp [eq_comm]
  rw [SameFriends, applies, friends]
  simp only [set, decide_eq_true_eq]
  exact ⟨fun same => ⟨same.1, same.2⟩, fun settled => ⟨settled.1, settled.2⟩⟩

section Statements

variable (externals : Externals) (stores : Stores) {outcome : Outcome} {op : Op}

theorem exec_same (statement : isStatement op = true) :
    SameFriends stores.db (stores.exec externals outcome op).2.db ↔ ¬ Writes outcome stores.db op := by
  cases op with
  | addFriendApply fromUid toUid =>
    rcases exec_addFriendApply externals outcome fromUid toUid stores with same | ⟨done, fromColumn, toColumn, first, second, same⟩
    · rw [same]
      refine ⟨?_, fun _ => ⟨rfl, rfl⟩⟩
      rintro _ ⟨done, fromColumn, toColumn, first, second, absent⟩
      have present : (stores.exec externals outcome (.addFriendApply fromUid toUid)).2.db.friendApply.holds (fromColumn, toColumn) :=
        exec_addFriendApply_holds done first second stores
      rw [same] at present
      exact absent present
    · rw [same]
      have inserts : SameFriends stores.db { stores.db with
          friendApply := stores.db.friendApply.insertIgnore { fromUid := fromColumn, toUid := toColumn } } ↔
          stores.db.friendApply.holds (fromColumn, toColumn) := by
        have kept : stores.db.friendApply.insertIgnore { fromUid := fromColumn, toUid := toColumn } = stores.db.friendApply ↔
            stores.db.friendApply.holds (fromColumn, toColumn) := UniqueTable.insertIgnore_eq_self
        exact ⟨fun same => kept.mp same.1, fun present => ⟨kept.mpr present, rfl⟩⟩
      rw [inserts]
      constructor
      · rintro present ⟨_, otherFrom, otherTo, sender, receiver, absent⟩
        cases first.symm.trans sender
        cases second.symm.trans receiver
        exact absent present
      · intro quiet
        by_contra absent
        exact quiet ⟨done, fromColumn, toColumn, first, second, absent⟩
  | authFriendApply fromUid toUid =>
    rw [exec_authFriendApply]
    by_cases refused : outcome = .error
    · rw [if_pos refused]
      exact ⟨fun _ writes => writes.1 refused, fun _ => ⟨rfl, rfl⟩⟩
    · rw [if_neg refused, authFriendApply_same]
      constructor
      · exact fun settled writes => writes.2 settled
      · intro quiet
        by_contra unsettled
        exact quiet ⟨refused, unsettled⟩
  | _ => cases statement

/-- A statement that has something to do throws when its answer is lost, and only then. -/
theorem addFriendApply_throws {fromUid toUid : Int64} (writes : Writes outcome stores.db (.addFriendApply fromUid toUid)) :
    ((stores.exec externals outcome (.addFriendApply fromUid toUid)).1 : Except Failure Unit) ≠ .ok () ↔ outcome = .lost := by
  obtain ⟨done, fromColumn, toColumn, first, second, _⟩ := writes
  change (stores.addFriendApply outcome fromUid toUid).1 ≠ .ok () ↔ _
  unfold Stores.addFriendApply Tables.addFriendApply
  rw [first, second]
  cases outcome with
  | ok => exact ⟨fun throws => absurd rfl throws, nofun⟩
  | error => exact absurd rfl done
  | lost => exact ⟨fun _ => rfl, fun _ => nofun⟩

theorem authFriendApply_throws {fromUid toUid : Int64} (writes : Writes outcome stores.db (.authFriendApply fromUid toUid)) :
    ((stores.exec externals outcome (.authFriendApply fromUid toUid)).1 : Except Failure Unit) ≠ .ok () ↔ outcome = .lost := by
  obtain ⟨done, _⟩ := writes
  cases outcome with
  | ok => exact ⟨fun throws => absurd rfl throws, nofun⟩
  | error => exact absurd rfl done
  | lost => exact ⟨fun _ => rfl, fun _ => nofun⟩

end Statements

/-! ## A request that is answered with an error -/

section Traces

variable {externals : Externals} {outcome : Op → Outcome} {addr : Addr} {scene last : Scene} {msg : MsgNode}

/-- There is a reply, and if it is an error the tables are as they were. -/
def FailureChangesNothing (externals : Externals) (outcome : Op → Outcome) (addr : Addr) (scene : Scene) (msg : MsgNode) : Prop :=
  ∃ reply after, servePeered externals outcome addr msg scene = (.ok reply, after) ∧
    (CarriesError reply → SameFriends scene.stores.db after.stores.db)

/-- The statement has something to do, and it or a step after it fails. -/
def Plan.Stranded {α : Type} (plan : Plan α) (outcome : Op → Outcome) (scene : Scene) (op : Op) : Prop :=
  Writes (outcome op) scene.stores.db op ∧ (outcome op = .lost ∨ plan.Fails outcome scene)

inductive LeavesTraces (externals : Externals) (outcome : Op → Outcome) (addr : Addr) (scene : Scene) (msg : MsgNode) : Prop
  | addFriend (request : AddFriendRequest) : MessageId.enumCast msg.id = some .addFriendRequest →
      (scene.server.session addr).isAuthenticated = true →
      parseJson externals.lib AddFriendRequest.fromJson msg.bodyText = some request →
      (scene.server.session addr).uid = request.uid → request.uid ≠ request.touid →
      (addPlan outcome scene.stores request).Stranded outcome scene (.addFriendApply request.uid request.touid) →
      LeavesTraces externals outcome addr scene msg
  | authFriend (request : AuthFriendRequest) : MessageId.enumCast msg.id = some .authFriendRequest →
      (scene.server.session addr).isAuthenticated = true →
      parseJson externals.lib AuthFriendRequest.fromJson msg.bodyText = some request →
      (scene.server.session addr).uid = request.fromuid → request.fromuid ≠ request.touid →
      (authPlan outcome scene.stores request).Stranded outcome scene (.authFriendApply request.fromuid request.touid) →
      LeavesTraces externals outcome addr scene msg

theorem Plan.Ends.traces {α : Type} {plan : Plan α} {op : Op} (statement : isStatement op = true) {answer : Except Failure Unit}
    {result : Except Failure ChannelMessage}
    (throws : Writes (outcome op) scene.stores.db op → (answer ≠ .ok () ↔ outcome op = .lost))
    (ends : plan.Ends outcome scene msg (afterStatement externals outcome scene op) answer (result, last)) :
    (Failed result → SameFriends scene.stores.db last.stores.db) ↔ ¬ plan.Stranded outcome scene op := by
  have same : SameFriends scene.stores.db last.stores.db ↔ ¬ Writes (outcome op) scene.stores.db op := by
    rw [ends.stores]
    exact exec_same externals scene.stores statement
  rw [same, ends.failed]
  constructor
  · rintro quiet ⟨writes, fails⟩
    rw [← throws writes] at fails
    exact quiet fails writes
  · intro settled failed writes
    rw [throws writes] at failed
    exact settled ⟨writes, failed⟩

/-- What the frame does not touch is left as the handler leaves it. -/
theorem failureChangesNothing_iff {messageId : MessageId} {handler : JsonLib → MsgNode → Awaitable ChannelMessage}
    (kind : MessageId.enumCast msg.id = some messageId) (found : handlers messageId = some handler)
    (authenticated : (scene.server.session addr).isAuthenticated = true) {result : Except Failure ChannelMessage}
    (ran : (handler externals.lib msg).run (execPeered externals outcome addr) scene = (result, last)) :
    FailureChangesNothing externals outcome addr scene msg ↔ (Failed result → SameFriends scene.stores.db last.stores.db) := by
  obtain ⟨reply, replied, carries⟩ := recovered_failed messageId result last
  have served : servePeered externals outcome addr msg scene = (.ok reply, last) := by
    rw [servePeered_handled externals outcome addr scene kind found authenticated, ran, replied]
  rw [← carries]
  constructor
  · rintro ⟨other, after, same, quiet⟩
    rw [served] at same
    cases same
    exact quiet
  · exact fun quiet => ⟨reply, last, served, quiet⟩

theorem addFriend_changesNothing (kind : MessageId.enumCast msg.id = some .addFriendRequest)
    (authenticated : (scene.server.session addr).isAuthenticated = true) :
    FailureChangesNothing externals outcome addr scene msg ↔ ∀ request,
      parseJson externals.lib AddFriendRequest.fromJson msg.bodyText = some request →
      (scene.server.session addr).uid = request.uid → request.uid ≠ request.touid →
      ¬ (addPlan outcome scene.stores request).Stranded outcome scene (.addFriendApply request.uid request.touid) := by
  obtain ⟨result, last, ran⟩ : ∃ result last,
    (addFriend externals.lib msg).run (execPeered externals outcome addr) scene = (result, last) := ⟨_, _, rfl⟩
  rw [failureChangesNothing_iff kind rfl authenticated ran]
  by_cases accepted : ∃ request, parseJson externals.lib AddFriendRequest.fromJson msg.bodyText = some request ∧
      (scene.server.session addr).uid = request.uid ∧ request.uid ≠ request.touid
  · obtain ⟨request, parsed, own, apart⟩ := accepted
    have ends := addFriend_ends externals outcome addr scene parsed own apart
    rw [ran] at ends
    rw [ends.traces rfl (addFriendApply_throws externals scene.stores)]
    constructor
    · intro settled other named _ _
      cases parsed.symm.trans named
      exact settled
    · exact fun settled => settled request parsed own apart
  · have refused : ∀ request, parseJson externals.lib AddFriendRequest.fromJson msg.bodyText = some request →
        (scene.server.session addr).uid = request.uid → request.uid = request.touid := by
      intro request parsed own
      by_contra apart
      exact accepted ⟨request, parsed, own, apart⟩
    obtain ⟨error, _, ended⟩ := addFriend_refused externals outcome addr scene refused
    rw [ran] at ended
    cases ended
    exact ⟨fun _ request parsed own apart => absurd ⟨request, parsed, own, apart⟩ accepted, fun _ _ => ⟨rfl, rfl⟩⟩

theorem authFriend_changesNothing (kind : MessageId.enumCast msg.id = some .authFriendRequest)
    (authenticated : (scene.server.session addr).isAuthenticated = true) :
    FailureChangesNothing externals outcome addr scene msg ↔ ∀ request,
      parseJson externals.lib AuthFriendRequest.fromJson msg.bodyText = some request →
      (scene.server.session addr).uid = request.fromuid → request.fromuid ≠ request.touid →
      ¬ (authPlan outcome scene.stores request).Stranded outcome scene (.authFriendApply request.fromuid request.touid) := by
  obtain ⟨result, last, ran⟩ : ∃ result last,
    (authFriend externals.lib msg).run (execPeered externals outcome addr) scene = (result, last) := ⟨_, _, rfl⟩
  rw [failureChangesNothing_iff kind rfl authenticated ran]
  by_cases accepted : ∃ request, parseJson externals.lib AuthFriendRequest.fromJson msg.bodyText = some request ∧
      (scene.server.session addr).uid = request.fromuid ∧ request.fromuid ≠ request.touid
  · obtain ⟨request, parsed, own, apart⟩ := accepted
    have ends := authFriend_ends externals outcome addr scene parsed own apart
    rw [ran] at ends
    rw [ends.traces rfl (authFriendApply_throws externals scene.stores)]
    constructor
    · intro settled other named _ _
      cases parsed.symm.trans named
      exact settled
    · exact fun settled => settled request parsed own apart
  · have refused : ∀ request, parseJson externals.lib AuthFriendRequest.fromJson msg.bodyText = some request →
        (scene.server.session addr).uid = request.fromuid → request.fromuid = request.touid := by
      intro request parsed own
      by_contra apart
      exact accepted ⟨request, parsed, own, apart⟩
    obtain ⟨error, _, ended⟩ := authFriend_refused externals outcome addr scene refused
    rw [ran] at ended
    cases ended
    exact ⟨fun _ request parsed own apart => absurd ⟨request, parsed, own, apart⟩ accepted, fun _ _ => ⟨rfl, rfl⟩⟩

theorem failed_request_changes_nothing (externals : Externals) (outcome : Op → Outcome) (addr : Addr) (scene : Scene) (msg : MsgNode)
    (kind : MessageId.enumCast msg.id = some .addFriendRequest ∨ MessageId.enumCast msg.id = some .authFriendRequest) :
    FailureChangesNothing externals outcome addr scene msg ↔ ¬ LeavesTraces externals outcome addr scene msg := by
  by_cases authenticated : (scene.server.session addr).isAuthenticated = true
  · rcases kind with kind | kind
    · rw [addFriend_changesNothing kind authenticated]
      constructor
      · intro settled traces
        cases traces with
        | addFriend request _ _ parsed own apart stranded => exact settled request parsed own apart stranded
        | authFriend _ other _ _ _ _ _ => cases kind.symm.trans other
      · exact fun clean request parsed own apart stranded =>
          clean (.addFriend request kind authenticated parsed own apart stranded)
    · rw [authFriend_changesNothing kind authenticated]
      constructor
      · intro settled traces
        cases traces with
        | addFriend _ other _ _ _ _ _ => cases kind.symm.trans other
        | authFriend request _ _ parsed own apart stranded => exact settled request parsed own apart stranded
      · exact fun clean request parsed own apart stranded =>
          clean (.authFriend request kind authenticated parsed own apart stranded)
  · have stranger : (scene.server.session addr).isAuthenticated = false := Bool.eq_false_iff.mpr authenticated
    have served : servePeered externals outcome addr msg scene = (.ok (errorResponseAndClose msg.id .notAuthenticated), scene) := by
      rcases kind with kind | kind <;> exact servePeered_stranger externals outcome addr scene kind nofun stranger
    constructor
    · intro _ traces
      cases traces with
      | addFriend _ _ admitted _ _ _ _ => exact authenticated admitted
      | authFriend _ _ admitted _ _ _ _ => exact authenticated admitted
    · exact fun _ => ⟨_, _, served, fun _ => ⟨rfl, rfl⟩⟩

end Traces

/-! ## The peer is out of reach -/

namespace Sample

/-- Everybody but the peer answers. -/
def peerDown : Op → Outcome
  | .notify _ => .error
  | _ => .ok

/-- The second user is on the other server; the first one has logged in here, and then this frame has been read. -/
def meets (requests : List (MessageId × Body)) : List ClusterAct :=
  connect .two 2 [(.loginRequest, loginBody 2 "token2")] ++ frame .two 2 8 ++
    connect .one 1 ((.loginRequest, loginBody 1 "token1") :: requests) ++ frame .one 1 8 ++
    [.own .one (.readDone 1), .own .one (.resumeReader 1), .own .one (.readDone 1)]

end Sample

/-- The cluster, seen from one of its servers. -/
def sceneOf (cluster : Cluster) (side : Side) : Scene := ⟨cluster.server side, cluster.server side.other, cluster.stores⟩

/-- The first user has logged in here and the second one on the other server, and this application of the first to the second
    has been read. -/
structure Sample.Asks (cluster : Cluster) (msg : MsgNode) : Prop where
  kind : MessageId.enumCast msg.id = some .addFriendRequest
  authenticated : ((cluster.server .one).session 1).isAuthenticated = true
  parsed : parseJson (Sample.externals Sample.friendBodies).lib AddFriendRequest.fromJson msg.bodyText = some { uid := 1, touid := 2 }
  own : ((cluster.server .one).session 1).uid = 1
  elsewhere : cluster.stores.redis.get (userLoginServerKey 2) = some "chat_server2"
  name : (cluster.server .one).name = "chat_server1"
  known : (cluster.stores.db.getUserInfoByUid 1).isSome = true

/-- The same, to be run. -/
def Sample.asks (cluster : Cluster) (rows : List FriendApplyRow) : Bool :=
  match ((cluster.server .one).session 1).reader with
  | .bodyRead msg => MessageId.enumCast msg.id = some .addFriendRequest ∧ ((cluster.server .one).session 1).isAuthenticated = true ∧
      parseJson (Sample.externals Sample.friendBodies).lib AddFriendRequest.fromJson msg.bodyText = some { uid := 1, touid := 2 } ∧
      ((cluster.server .one).session 1).uid = 1 ∧ cluster.stores.redis.get (userLoginServerKey 2) = some "chat_server2" ∧
      (cluster.server .one).name = "chat_server1" ∧ (cluster.stores.db.getUserInfoByUid 1).isSome = true ∧
      cluster.stores.db.friendApply.rows = rows
  | _ => false

theorem sample_asks {cluster : Cluster} {rows : List FriendApplyRow} (checked : Sample.asks cluster rows = true) : ∃ msg,
    ((cluster.server .one).session 1).reader = .bodyRead msg ∧ Sample.Asks cluster msg ∧ cluster.stores.db.friendApply.rows = rows := by
  unfold Sample.asks at checked
  split at checked
  · rename_i msg reading
    obtain ⟨kind, authenticated, parsed, own, elsewhere, name, known, held⟩ := of_decide_eq_true checked
    exact ⟨msg, reading, ⟨kind, authenticated, parsed, own, elsewhere, name, known⟩, held⟩
  · cases checked

theorem sample_first : ((Transition.runs (Cluster.step (Sample.externals Sample.friendBodies)) (.start Sample.stores Sample.name)
    (Sample.meets [(.addFriendRequest, Sample.addBody 1 2)])).any fun cluster => Sample.asks cluster []) = true := by decide +kernel

/-- MySQL refuses the statement. -/
theorem failed_request_changes_nothing_refused : ∃ cluster msg,
    Transition.Run (Cluster.step (Sample.externals Sample.friendBodies)) (.start Sample.stores Sample.name)
      (Sample.meets [(.addFriendRequest, Sample.addBody 1 2)]) cluster ∧
    ((cluster.server .one).session 1).reader = .bodyRead msg ∧
    FailureChangesNothing (Sample.externals Sample.friendBodies) (fun _ => .error) 1 (sceneOf cluster .one) msg := by
  obtain ⟨cluster, reached, found⟩ := (Option.any_eq_true _ _).mp sample_first
  obtain ⟨msg, reading, asks, _⟩ := sample_asks found
  refine ⟨cluster, msg, Transition.run_iff_runs.mpr reached, reading, ?_⟩
  apply (failed_request_changes_nothing (Sample.externals Sample.friendBodies) (fun _ => .error) 1 (sceneOf cluster .one) msg
    (.inl asks.kind)).mpr
  intro traces
  cases traces with
  | addFriend request _ _ _ _ _ stranded => exact stranded.1.1 rfl
  | authFriend request _ _ _ _ _ stranded => exact stranded.1.1 rfl

theorem failed_request_leaves_traces : ¬ ∀ (externals : Externals) (outcome : Op → Outcome) (stores : Stores) (name : Side → String)
    (acts : List ClusterAct) (cluster : Cluster) (side : Side) (addr : Addr) (msg : MsgNode),
    Transition.Run (Cluster.step externals) (.start stores name) acts cluster →
    ((cluster.server side).session addr).reader = .bodyRead msg →
    MessageId.enumCast msg.id = some .addFriendRequest ∨ MessageId.enumCast msg.id = some .authFriendRequest →
    FailureChangesNothing externals outcome addr (sceneOf cluster side) msg := by
  intro claim
  obtain ⟨cluster, reached, found⟩ := (Option.any_eq_true _ _).mp sample_first
  obtain ⟨msg, reading, asks, empty⟩ := sample_asks found
  have run := Transition.run_iff_runs.mpr reached
  have holds := claim (Sample.externals Sample.friendBodies) Sample.peerDown _ _ _ cluster .one 1 msg run reading (.inl asks.kind)
  have absent : ¬ cluster.stores.db.friendApply.holds (1, 2) := by
    rintro ⟨row, member, _⟩
    rw [← UniqueTable.mem_rows, empty] at member
    cases member
  have writes : Writes .ok cluster.stores.db (.addFriendApply 1 2) := ⟨nofun, 1, 2, by decide, by decide, absent⟩
  have fails : (addPlan Sample.peerDown cluster.stores { uid := 1, touid := 2 }).Fails Sample.peerDown (sceneOf cluster .one) := by
    refine ⟨"chat_server2", asks.elsewhere, fun _ _ => ⟨?_, nofun⟩⟩
    change "chat_server2" ≠ (cluster.server .one).name
    rw [asks.name]
    decide
  exact (addFriend_changesNothing asks.kind asks.authenticated).mp holds { uid := 1, touid := 2 } asks.parsed asks.own (by decide)
    ⟨writes, .inr fails⟩

end ChatProof
