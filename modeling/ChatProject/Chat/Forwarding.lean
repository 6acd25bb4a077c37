import ChatProject.Chat.Footprint

/-! The three handlers that notify another user: what they ask, what they send on, what they reply. -/

namespace ChatProof

open ChatModel

/-- The handler has been told this answer to this call. -/
def Told (told : Ledger) (op : Op) (answer : op.Res) : Prop := ⟨op, answer⟩ ∈ told

theorem told_head (told : Ledger) (op : Op) (answer : op.Res) : Told (⟨op, answer⟩ :: told) op answer :=
  List.mem_cons_self

theorem Told.tail {told : Ledger} {op : Op} {answer : op.Res} (known : Told told op answer)
    (entry : (op : Op) × op.Res) : Told (entry :: told) op answer := List.mem_cons_of_mem entry known

/-- What a handler has made up its mind to do when it comes to `forward`. -/
structure Forwarding where
  target : String
  notify : MsgNode
  request : NotifyRequest

section Forward

variable {ask : Ledger → Op → Prop} {post : Ledger → Except Failure ChannelMessage → Prop} {told : Ledger}
  {msg : MsgNode} {responseId : UInt32} {touid : Int64} {target : String} {notify : MsgNode}
  {request : NotifyRequest}

/-- What is to be shown of `forward`: of the delivery here, and of the call to the peer. -/
theorem forward_guided (named : ask told .serverName)
    (looked : ask (⟨.serverName, target⟩ :: told) (.getParticipant touid))
    (absent : post (⟨.getParticipant touid, none⟩ :: ⟨.serverName, target⟩ :: told)
      (.ok (errorResponse responseId .success)))
    (delivers : ∀ session, ask (⟨.getParticipant touid, some session⟩ :: ⟨.serverName, target⟩ :: told)
      (.deliver session { msg := notify }))
    (delivered : ∀ session, post (⟨.deliver session { msg := notify }, ()⟩ ::
      ⟨.getParticipant touid, some session⟩ :: ⟨.serverName, target⟩ :: told) (.ok (messageResponse responseId)))
    (calls : ∀ name, target ≠ name → ask (⟨.serverName, name⟩ :: told) (.notify request))
    (failed : ∀ name response, target ≠ name → response ≠ some 0 →
      post (⟨.notify request, response⟩ :: ⟨.serverName, name⟩ :: told) (.ok (errorResponse msg.id .rpcFailed)))
    (called : ∀ name, target ≠ name →
      post (⟨.notify request, some 0⟩ :: ⟨.serverName, name⟩ :: told) (.ok (messageResponse responseId))) :
    (forward msg responseId touid target notify request).Guided ask post told := by
  refine ⟨named, ?_⟩
  intro name
  change Coroutine.Guided ask post (if target = name then _ else _) _
  by_cases here : target = name
  · subst here
    rw [if_pos rfl]
    refine ⟨looked, ?_⟩
    intro found
    cases found with
    | none => exact absent
    | some session => exact ⟨delivers session, fun _ => delivered session⟩
  · rw [if_neg here]
    refine ⟨calls name here, ?_⟩
    intro response
    change Coroutine.Guided ask post (if response ≠ some 0 then _ else _) _
    by_cases fails : response ≠ some 0
    · rw [if_pos fails]
      exact failed name response here fails
    · rw [if_neg fails]
      simp only [ne_eq, not_not] at fails
      subst fails
      exact called name here

end Forward

/-- A handler that notifies somebody: its response, how it reads its request, who sends to whom,
    the statement that has to be executed first, and what is pushed, here or at the peer. -/
structure Notifying (α : Type) where
  responseId : UInt32
  parsed : Option α
  sender : α → Int64
  receiver : α → Int64
  statement : α → Option Op
  executed : α → Ledger → Prop
  pushes : α → Ledger → MsgNode → NotifyRequest → Prop

namespace Notifying

variable {α : Type} (spec : Notifying α)

/-- The request is from the user who is logged in, and to somebody else. -/
structure Accepted (told : Ledger) (request : α) : Prop where
  parsed : spec.parsed = some request
  own : Told told .uid (spec.sender request)
  other : spec.sender request ≠ spec.receiver request

/-- Also its statement has been executed. -/
structure Ready (told : Ledger) (request : α) : Prop extends spec.Accepted told request where
  executed : spec.executed request told

inductive Asks (told : Ledger) : Op → Prop
  | uid : Asks told .uid
  | statement {request : α} {op : Op} : spec.Accepted told request → spec.statement request = some op → Asks told op
  | route {request : α} : spec.Ready told request → Asks told (.redisGet (userLoginServerKey (spec.receiver request)))
  | query {request : α} (key : UserKey) : spec.Ready told request → Asks told (.getUserInfo key)

inductive Replies (told : Ledger) : ChannelMessage → Prop
  | invalid : spec.parsed = none → Replies told (errorResponse spec.responseId .invalidJson)
  | refused {request : α} {uid : Int64} : spec.parsed = some request → Told told .uid uid →
      (spec.sender request ≠ uid ∨ spec.sender request = spec.receiver request) →
      Replies told (errorResponse spec.responseId .userUidInvalid)
  | unrouted {request : α} : spec.Ready told request →
      Told told (.redisGet (userLoginServerKey (spec.receiver request))) none →
      Replies told (errorResponse spec.responseId .success)
  | unknown {request : α} : spec.Ready told request → Replies told (errorResponse spec.responseId .internalError)

structure Sends (told : Ledger) (request : α) (forwarding : Forwarding) : Prop extends spec.Ready told request where
  routed : Told told (.redisGet (userLoginServerKey (spec.receiver request))) (some forwarding.target)
  pushes : spec.pushes request told forwarding.notify forwarding.request

/-- The handler does nothing but these things before it comes to `forward`, or to a reply. -/
inductive Prepares (msg : MsgNode) : Ledger → Awaitable ChannelMessage → Prop
  | reply {told : Ledger} {reply : ChannelMessage} : spec.Replies told reply → Prepares msg told (.ret reply)
  | throw {told : Ledger} (failure : Failure) : Prepares msg told (.throw failure)
  | forward {told : Ledger} {request : α} {forwarding : Forwarding} : spec.Sends told request forwarding →
      Prepares msg told (ChatModel.forward msg spec.responseId (spec.receiver request) forwarding.target forwarding.notify
        forwarding.request)
  | ask {told : Ledger} {op : Op} {next : op.Res → Awaitable ChannelMessage} : spec.Asks told op →
      (∀ answer, Prepares msg (⟨op, answer⟩ :: told) (next answer)) → Prepares msg told (.call op next)

variable {spec} {ask : Ledger → Op → Prop} {post : Ledger → Except Failure ChannelMessage → Prop} {inv : Ledger → Prop}

/-- The rule for a property of such a handler: what is left to show is a matter of `forward`. -/
theorem Prepares.guided {msg : MsgNode} {told : Ledger} {handler : Awaitable ChannelMessage}
    (prepares : spec.Prepares msg told handler) (may : ∀ told op, spec.Asks told op → inv told → ask told op)
    (keeps : ∀ told op answer, spec.Asks told op → inv told → inv (⟨op, answer⟩ :: told)) (holds : inv told)
    (replies : ∀ told reply, spec.Replies told reply → inv told → post told (.ok reply))
    (fails : ∀ told failure, inv told → post told (.error failure))
    (forwards : ∀ told request forwarding, spec.Sends told request forwarding → inv told →
      (ChatModel.forward msg spec.responseId (spec.receiver request) forwarding.target forwarding.notify
        forwarding.request).Guided ask post told) : handler.Guided ask post told := by
  induction prepares with
  | reply replied => exact replies _ _ replied holds
  | throw failure => exact fails _ failure holds
  | forward sends => exact forwards _ _ _ sends holds
  | ask asks _ ih =>
    refine ⟨may _ _ asks holds, ?_⟩
    intro answer
    exact ih answer (keeps _ _ answer asks holds)

theorem Accepted.tail {told : Ledger} {request : α} (accepted : spec.Accepted told request)
    (entry : (op : Op) × op.Res) : spec.Accepted (entry :: told) request :=
  ⟨accepted.parsed, accepted.own.tail entry, accepted.other⟩

end Notifying

/-! ## The handlers -/

def addFriendNotifies (lib : JsonLib) (msg : MsgNode) : Notifying AddFriendRequest where
  responseId := MessageId.addFriendResponse.wire
  parsed := parseJson lib AddFriendRequest.fromJson msg.bodyText
  sender := AddFriendRequest.uid
  receiver := AddFriendRequest.touid
  statement request := some (.addFriendApply request.uid request.touid)
  executed request told := Told told (.addFriendApply request.uid request.touid) (.ok ())
  -- the name of the sender is what the handler has asked for last
  pushes request told notify remote := ∃ userInfo early, told = ⟨.getUserInfo (.uid request.uid), .ok (some userInfo)⟩ :: early ∧
    notify = MsgNode.ofText MessageId.notifyAddFriend.wire
      ({ applyuid := request.uid, name := userInfo.name } : NotifyAddFriendMsg).toJson.dump ∧
    remote = .addFriend
      ({ fromUid := request.uid, name := userInfo.name, toUid := request.touid } : GrpcAddFriendRequest).toProto

def authFriendNotifies (lib : JsonLib) (msg : MsgNode) : Notifying AuthFriendRequest where
  responseId := MessageId.authFriendResponse.wire
  parsed := parseJson lib AuthFriendRequest.fromJson msg.bodyText
  sender := AuthFriendRequest.fromuid
  receiver := AuthFriendRequest.touid
  statement request := some (.authFriendApply request.fromuid request.touid)
  executed request told := Told told (.authFriendApply request.fromuid request.touid) (.ok ())
  pushes request _ notify remote :=
    notify = MsgNode.ofText MessageId.notifyAuthFriend.wire request.toNotify.toJson.dump ∧
    remote = .authFriend ({ fromUid := request.fromuid, toUid := request.touid } : GrpcAuthFriendRequest).toProto

def textChatNotifies (lib : JsonLib) (msg : MsgNode) : Notifying TextChatMsgRequest where
  responseId := MessageId.textChatMsgRsp.wire
  parsed := parseJson lib TextChatMsgRequest.fromJson msg.bodyText
  sender := TextChatMsgRequest.fromuid
  receiver := TextChatMsgRequest.touid
  statement _ := none
  executed _ _ := True
  pushes request _ notify remote :=
    notify = MsgNode.ofText MessageId.notifyTextChatMsg.wire request.toNotify.toJson.dump ∧
    remote = .textChat request.toGrpc.toProto

theorem addFriend_prepares (lib : JsonLib) (msg : MsgNode) (told : Ledger) :
    (addFriendNotifies lib msg).Prepares msg told (addFriend lib msg) := by
  unfold addFriend
  cases parsed : parseJson lib AddFriendRequest.fromJson msg.bodyText with
  | none => exact .reply (.invalid parsed)
  | some request =>
    apply Notifying.Prepares.ask .uid
    intro uid
    have own := told_head told .uid uid
    change Notifying.Prepares _ msg _ (if request.uid ≠ uid ∨ request.uid = request.touid then _ else _)
    split
    · rename_i refused
      exact .reply (.refused parsed own refused)
    · rename_i accepted
      simp only [not_or, not_not] at accepted
      obtain ⟨same, other⟩ := accepted
      subst same
      have accepted : (addFriendNotifies lib msg).Accepted (⟨.uid, request.uid⟩ :: told) request := ⟨parsed, own, other⟩
      apply Notifying.Prepares.ask (.statement accepted rfl)
      intro applied
      cases applied with
      | error failure => exact .throw failure
      | ok done =>
        have ready : (addFriendNotifies lib msg).Ready (⟨.addFriendApply request.uid request.touid, .ok ()⟩ ::
            ⟨.uid, request.uid⟩ :: told) request := ⟨accepted.tail _, told_head _ _ _⟩
        apply Notifying.Prepares.ask (.route ready)
        intro target
        have routed : (addFriendNotifies lib msg).Ready (⟨.redisGet (userLoginServerKey request.touid), target⟩ ::
            ⟨.addFriendApply request.uid request.touid, .ok ()⟩ :: ⟨.uid, request.uid⟩ :: told) request :=
          ⟨ready.toAccepted.tail _, ready.executed.tail _⟩
        cases target with
        | none => exact .reply (.unrouted routed (told_head _ _ _))
        | some target =>
          apply Notifying.Prepares.ask (.query _ routed)
          intro userInfo
          cases userInfo with
          | error failure => exact .throw failure
          | ok userInfo =>
            have known : (addFriendNotifies lib msg).Ready (⟨.getUserInfo (.uid request.uid), .ok userInfo⟩ ::
                ⟨.redisGet (userLoginServerKey request.touid), some target⟩ ::
                ⟨.addFriendApply request.uid request.touid, .ok ()⟩ :: ⟨.uid, request.uid⟩ :: told) request :=
              ⟨routed.toAccepted.tail _, routed.executed.tail _⟩
            cases userInfo with
            | none => exact .reply (.unknown known)
            | some userInfo =>
              have sends : (addFriendNotifies lib msg).Sends _ request ⟨target, _, _⟩ :=
                ⟨known, (told_head _ _ _).tail _, userInfo, _, rfl, rfl, rfl⟩
              exact .forward sends

theorem authFriend_prepares (lib : JsonLib) (msg : MsgNode) (told : Ledger) :
    (authFriendNotifies lib msg).Prepares msg told (authFriend lib msg) := by
  unfold authFriend
  cases parsed : parseJson lib AuthFriendRequest.fromJson msg.bodyText with
  | none => exact .reply (.invalid parsed)
  | some request =>
    apply Notifying.Prepares.ask .uid
    intro uid
    have own := told_head told .uid uid
    change Notifying.Prepares _ msg _ (if request.fromuid ≠ uid ∨ request.fromuid = request.touid then _ else _)
    split
    · rename_i refused
      exact .reply (.refused parsed own refused)
    · rename_i accepted
      simp only [not_or, not_not] at accepted
      obtain ⟨same, other⟩ := accepted
      subst same
      have accepted : (authFriendNotifies lib msg).Accepted (⟨.uid, request.fromuid⟩ :: told) request :=
        ⟨parsed, own, other⟩
      apply Notifying.Prepares.ask (.statement accepted rfl)
      intro applied
      cases applied with
      | error failure => exact .throw failure
      | ok done =>
        have ready : (authFriendNotifies lib msg).Ready (⟨.authFriendApply request.fromuid request.touid, .ok ()⟩ ::
            ⟨.uid, request.fromuid⟩ :: told) request := ⟨accepted.tail _, told_head _ _ _⟩
        apply Notifying.Prepares.ask (.route ready)
        intro target
        have routed : (authFriendNotifies lib msg).Ready (⟨.redisGet (userLoginServerKey request.touid), target⟩ ::
            ⟨.authFriendApply request.fromuid request.touid, .ok ()⟩ :: ⟨.uid, request.fromuid⟩ :: told) request :=
          ⟨ready.toAccepted.tail _, ready.executed.tail _⟩
        cases target with
        | none => exact .reply (.unrouted routed (told_head _ _ _))
        | some target =>
          have sends : (authFriendNotifies lib msg).Sends _ request ⟨target, _, _⟩ :=
            ⟨routed, told_head _ _ _, rfl, rfl⟩
          exact .forward sends

theorem textChatMsg_prepares (lib : JsonLib) (msg : MsgNode) (told : Ledger) :
    (textChatNotifies lib msg).Prepares msg told (textChatMsg lib msg) := by
  unfold textChatMsg
  cases parsed : parseJson lib TextChatMsgRequest.fromJson msg.bodyText with
  | none => exact .reply (.invalid parsed)
  | some request =>
    apply Notifying.Prepares.ask .uid
    intro uid
    have own := told_head told .uid uid
    change Notifying.Prepares _ msg _ (if request.fromuid ≠ uid ∨ request.fromuid = request.touid then _ else _)
    split
    · rename_i refused
      exact .reply (.refused parsed own refused)
    · rename_i accepted
      simp only [not_or, not_not] at accepted
      obtain ⟨same, other⟩ := accepted
      subst same
      have ready : (textChatNotifies lib msg).Ready (⟨.uid, request.fromuid⟩ :: told) request :=
        ⟨⟨parsed, own, other⟩, trivial⟩
      apply Notifying.Prepares.ask (.route ready)
      intro target
      have routed : (textChatNotifies lib msg).Ready (⟨.redisGet (userLoginServerKey request.touid), target⟩ ::
          ⟨.uid, request.fromuid⟩ :: told) request := ⟨ready.toAccepted.tail _, trivial⟩
      cases target with
      | none => exact .reply (.unrouted routed (told_head _ _ _))
      | some target =>
        have sends : (textChatNotifies lib msg).Sends _ request ⟨target, _, _⟩ :=
          ⟨routed, told_head _ _ _, rfl, rfl⟩
        exact .forward sends

/-- What an exception out of a handler is turned into. -/
def Recovered (messageId : MessageId) (post : Ledger → Except Failure ChannelMessage → Prop) (told : Ledger) :
    Except Failure ChannelMessage → Prop
  | .ok reply => post told (.ok reply)
  | .error _ => post told (.ok (errorResponse (MessageId.getResponseId messageId).wire .internalError))

/-- The rule for a property of every request: the gate, the two handlers that notify nobody, and
    whatever comes to `forward`. Only a login gets past the gate without one. -/
theorem handleMessage_rule (lib : JsonLib) (msg : MsgNode) {ask : Ledger → Op → Prop}
    {post : Ledger → Except Failure ChannelMessage → Prop} (asked : ask [] .isAuthenticated)
    (rejected : msg.id ≠ MessageId.loginRequest.wire →
      post [⟨.isAuthenticated, false⟩] (.ok (errorResponseAndClose msg.id .notAuthenticated)))
    (unknown : ∀ flag, (MessageId.enumCast msg.id).bind handlers = none →
      post [⟨.isAuthenticated, flag⟩] (.ok (emptyResponse msg.id)))
    (logs : MessageId.enumCast msg.id = some .loginRequest → ∀ flag,
      (login lib msg).Guided ask (Recovered .loginRequest post) [⟨.isAuthenticated, flag⟩])
    (searches : MessageId.enumCast msg.id = some .searchUserRequest →
      (searchUser lib msg).Guided ask (Recovered .searchUserRequest post) [⟨.isAuthenticated, true⟩])
    (adds : MessageId.enumCast msg.id = some .addFriendRequest →
      (addFriend lib msg).Guided ask (Recovered .addFriendRequest post) [⟨.isAuthenticated, true⟩])
    (accepts : MessageId.enumCast msg.id = some .authFriendRequest →
      (authFriend lib msg).Guided ask (Recovered .authFriendRequest post) [⟨.isAuthenticated, true⟩])
    (texts : MessageId.enumCast msg.id = some .textChatMsgReq →
      (textChatMsg lib msg).Guided ask (Recovered .textChatMsgReq post) [⟨.isAuthenticated, true⟩]) :
    (handleMessage lib msg).Guided ask post [] := by
  apply handleMessage_guided lib msg asked rejected unknown
  intro flag messageId handler admitted cast found
  have recovers : (handler lib msg).Guided ask (Recovered messageId post) [⟨.isAuthenticated, flag⟩] := by
    cases messageId <;> cases found
    case loginRequest => exact logs cast flag
    all_goals
      obtain rfl : flag = true := by
        cases flag with
        | false => exact MessageId.noConfusion (admitted rfl)
        | true => rfl
    case searchUserRequest => exact searches cast
    case addFriendRequest => exact adds cast
    case authFriendRequest => exact accepts cast
    case textChatMsgReq => exact texts cast
  apply recovers.mono
  intro told result recovered
  cases result <;> exact recovered

end ChatProof
