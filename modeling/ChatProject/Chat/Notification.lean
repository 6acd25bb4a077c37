import ChatProject.Chat.Conduct

/-! What a request puts into the queue of another user, here or at the peer. -/

namespace ChatProof

open ChatModel

/-- A number that a field of the messages between the servers can hold. -/
def Narrow (n : Int64) : Prop := n.toInt32.toInt64 = n

instance (n : Int64) : Decidable (Narrow n) := inferInstanceAs (Decidable (_ = _))

/-- What is put into the queue of a user. -/
structure Notification where
  touid : Int64
  kind : MessageId
  document : Json Int

namespace Notification

def frame (notification : Notification) : MsgNode :=
  MsgNode.ofText notification.kind.wire notification.document.dump

end Notification

/-- What `notify_session` makes of a request of the peer. -/
def notified : NotifyRequest → Notification
  | .addFriend request => ⟨request.touid.toInt64, .notifyAddFriend, (NotifyAddFriendMsg.ofProto request).toJson⟩
  | .authFriend request => ⟨request.touid.toInt64, .notifyAuthFriend, (NotifyAuthFriendMsg.ofProto request).toJson⟩
  | .textChat request => ⟨request.touid.toInt64, .notifyTextChatMsg, (NotifyTextChatMessage.ofProto request).toJson⟩

theorem notifySession_eq (request : NotifyRequest) :
    notifySession request = ((notified request).touid, (notified request).frame) := by
  cases request <;> rfl

/-- A request for a notification, with what the database knows of its sender where that is part of it. -/
inductive AcceptedRequest where
  | addFriend (request : AddFriendRequest) (userInfo : UserInfo)
  | authFriend (request : AuthFriendRequest)
  | textChat (request : TextChatMsgRequest)

namespace AcceptedRequest

/-- The notification, when it is delivered here. -/
def here : AcceptedRequest → Notification
  | addFriend request userInfo =>
    ⟨request.touid, .notifyAddFriend, ({ applyuid := request.uid, name := userInfo.name } : NotifyAddFriendMsg).toJson⟩
  | authFriend request => ⟨request.touid, .notifyAuthFriend, request.toNotify.toJson⟩
  | textChat request => ⟨request.touid, .notifyTextChatMsg, request.toNotify.toJson⟩

def sender : AcceptedRequest → Int64
  | addFriend request _ => request.uid
  | authFriend request => request.fromuid
  | textChat request => request.fromuid

def remote : AcceptedRequest → NotifyRequest
  | addFriend request userInfo =>
    .addFriend ({ fromUid := request.uid, name := userInfo.name, toUid := request.touid } : GrpcAddFriendRequest).toProto
  | authFriend request =>
    .authFriend ({ fromUid := request.fromuid, toUid := request.touid } : GrpcAuthFriendRequest).toProto
  | textChat request => .textChat request.toGrpc.toProto

/-- All numbers of the request go through the peer as they are. -/
def AllNarrow : AcceptedRequest → Prop
  | addFriend request _ => Narrow request.uid ∧ Narrow request.touid
  | authFriend request => Narrow request.fromuid ∧ Narrow request.touid
  | textChat request =>
    Narrow request.fromuid ∧ Narrow request.touid ∧ ∀ text ∈ request.textArray, Narrow text.msgid

/-- The frame holds this request, and the handler that was told this has accepted it. -/
def From (lib : JsonLib) (msg : MsgNode) (told : Ledger) : AcceptedRequest → Prop
  | addFriend request userInfo => MessageId.enumCast msg.id = some .addFriendRequest ∧
      (addFriendNotifies lib msg).Ready told request ∧ Told told (.getUserInfo (.uid request.uid)) (.ok (some userInfo))
  | authFriend request => MessageId.enumCast msg.id = some .authFriendRequest ∧ (authFriendNotifies lib msg).Ready told request
  | textChat request => MessageId.enumCast msg.id = some .textChatMsgReq ∧ (textChatNotifies lib msg).Ready told request

/-- It is from the user whose uid the handler was told, to somebody else. -/
theorem From.own {lib : JsonLib} {msg : MsgNode} {told : Ledger} {accepted : AcceptedRequest} (known : accepted.From lib msg told) :
    Told told .uid accepted.sender ∧ accepted.sender ≠ accepted.here.touid := by
  cases accepted with
  | addFriend request userInfo => exact ⟨known.2.1.own, known.2.1.other⟩
  | authFriend request => exact ⟨known.2.own, known.2.other⟩
  | textChat request => exact ⟨known.2.own, known.2.other⟩

end AcceptedRequest

/-! ## What each document says -/

theorem int64_inj {first second : Int64} : int64 first = int64 second ↔ first = second := by
  constructor
  · intro same
    exact Int64.toInt_inj.mp (Json.num.inj same)
  · exact congrArg int64

theorem NotifyAddFriendMsg.toJson_inj {first second : NotifyAddFriendMsg} :
    first.toJson = second.toJson ↔ first = second := by
  constructor
  · intro same
    have fields : [("applyuid", int64 first.applyuid), ("name", Json.str first.name)] =
        [("applyuid", int64 second.applyuid), ("name", Json.str second.name)] := Json.obj.inj same
    simp only [List.cons.injEq, Prod.mk.injEq, int64_inj, Json.str.injEq, true_and, and_true] at fields
    cases first
    cases second
    simp only [NotifyAddFriendMsg.mk.injEq]
    exact fields
  · exact congrArg _

theorem NotifyAuthFriendMsg.toJson_inj {first second : NotifyAuthFriendMsg} :
    first.toJson = second.toJson ↔ first = second := by
  constructor
  · intro same
    have fields : [("fromuid", int64 first.fromuid), ("touid", int64 first.touid)] =
        [("fromuid", int64 second.fromuid), ("touid", int64 second.touid)] := Json.obj.inj same
    simp only [List.cons.injEq, Prod.mk.injEq, int64_inj, true_and, and_true] at fields
    cases first
    cases second
    simp only [NotifyAuthFriendMsg.mk.injEq]
    exact fields
  · exact congrArg _

theorem TextChatData.toJson_injective : Function.Injective TextChatData.toJson := by
  intro first second same
  have fields : [("content", Json.str first.content), ("msgid", int64 first.msgid)] =
      [("content", Json.str second.content), ("msgid", int64 second.msgid)] := Json.obj.inj same
  simp only [List.cons.injEq, Prod.mk.injEq, int64_inj, Json.str.injEq, true_and, and_true] at fields
  cases first
  cases second
  simp only [TextChatData.mk.injEq]
  exact ⟨fields.2, fields.1⟩

theorem NotifyTextChatMessage.toJson_inj {first second : NotifyTextChatMessage} :
    first.toJson = second.toJson ↔ first = second := by
  constructor
  · intro same
    have fields : [("fromuid", int64 first.fromuid), ("text_array", Json.arr (first.textArray.map TextChatData.toJson)),
        ("touid", int64 first.touid)] = [("fromuid", int64 second.fromuid),
        ("text_array", Json.arr (second.textArray.map TextChatData.toJson)), ("touid", int64 second.touid)] := Json.obj.inj same
    simp only [List.cons.injEq, Prod.mk.injEq, int64_inj, Json.arr.injEq, true_and, and_true] at fields
    obtain ⟨sender, texts, receiver⟩ := fields
    have arrays := List.map_injective_iff.mpr TextChatData.toJson_injective texts
    cases first
    cases second
    simp only [NotifyTextChatMessage.mk.injEq]
    exact ⟨sender, receiver, arrays⟩
  · exact congrArg _

/-! ## The two ways -/

theorem narrow_texts (texts : List TextChatData) :
    texts = (texts.map fun text => ({ msgId := text.msgid.toInt32, msgcontent := text.content } : ProtoTextChatData)).map
        (fun msg => ({ msgid := msg.msgId.toInt64, content := msg.msgcontent } : TextChatData)) ↔
      ∀ text ∈ texts, Narrow text.msgid := by
  rw [List.map_map]
  conv_lhs => lhs; rw [← List.map_id texts]
  rw [List.map_inj_left]
  apply forall₂_congr
  intro text _
  cases text
  simp only [id_eq, Function.comp_apply, TextChatData.mk.injEq, and_true, Narrow]
  exact eq_comm

theorem here_eq_notified (request : AcceptedRequest) : request.here = notified request.remote ↔ request.AllNarrow := by
  cases request with
  | addFriend request userInfo =>
    simp only [AcceptedRequest.here, AcceptedRequest.remote, notified, Notification.mk.injEq, true_and,
      NotifyAddFriendMsg.toJson_inj, NotifyAddFriendMsg.ofProto, GrpcAddFriendRequest.toProto,
      NotifyAddFriendMsg.mk.injEq, and_true, AcceptedRequest.AllNarrow, Narrow]
    constructor
    · exact fun ⟨receiver, sender⟩ => ⟨sender.symm, receiver.symm⟩
    · exact fun ⟨sender, receiver⟩ => ⟨receiver.symm, sender.symm⟩
  | authFriend request =>
    simp only [AcceptedRequest.here, AcceptedRequest.remote, notified, Notification.mk.injEq, true_and,
      NotifyAuthFriendMsg.toJson_inj, AuthFriendRequest.toNotify, NotifyAuthFriendMsg.ofProto,
      GrpcAuthFriendRequest.toProto, NotifyAuthFriendMsg.mk.injEq, AcceptedRequest.AllNarrow, Narrow]
    constructor
    · exact fun ⟨_, sender, receiver⟩ => ⟨sender.symm, receiver.symm⟩
    · exact fun ⟨sender, receiver⟩ => ⟨receiver.symm, sender.symm, receiver.symm⟩
  | textChat request =>
    simp only [AcceptedRequest.here, AcceptedRequest.remote, notified, Notification.mk.injEq, true_and,
      NotifyTextChatMessage.toJson_inj, TextChatMsgRequest.toNotify, TextChatMsgRequest.toGrpc,
      NotifyTextChatMessage.ofProto, GrpcTextChatMsgRequest.toProto, NotifyTextChatMessage.mk.injEq,
      AcceptedRequest.AllNarrow, narrow_texts, Narrow]
    constructor
    · exact fun ⟨_, sender, receiver, texts⟩ => ⟨sender.symm, receiver.symm, texts⟩
    · exact fun ⟨sender, receiver, texts⟩ => ⟨receiver.symm, sender.symm, receiver.symm, texts⟩

/-! ## Where a handler comes to them -/

/-- A message for somebody else is that of the request that the handler has accepted. -/
theorem asked_deliver {lib : JsonLib} {msg : MsgNode} {told : Ledger} {target : Addr} {message : ChannelMessage}
    (asked : Asked lib msg told (.deliver target message)) : ∃ (accepted : AcceptedRequest) (home : String) (early : Ledger),
      told = ⟨.getParticipant accepted.here.touid, some target⟩ :: ⟨.serverName, home⟩ :: early ∧
      accepted.From lib msg early ∧ message = { msg := accepted.here.frame } := by
  cases asked with
  | login _ asks => cases asks
  | search _ _ _ asks => cases asks
  | addFriend kind _ questions =>
    cases questions with
    | prepare asks =>
      cases asks with
      | statement _ same => cases same
    | deliver sends same =>
      obtain ⟨userInfo, rest, last, built, _⟩ := sends.pushes
      rw [built]
      refine ⟨.addFriend _ userInfo, _, _, same, ⟨kind, sends.toReady, ?_⟩, rfl⟩
      rw [last]
      exact told_head _ _ _
  | authFriend kind _ questions =>
    cases questions with
    | prepare asks =>
      cases asks with
      | statement _ same => cases same
    | deliver sends same =>
      rw [sends.pushes.1]
      exact ⟨.authFriend _, _, _, same, ⟨kind, sends.toReady⟩, rfl⟩
  | textChat kind _ questions =>
    cases questions with
    | prepare asks =>
      cases asks with
      | statement _ same => cases same
    | deliver sends same =>
      rw [sends.pushes.1]
      exact ⟨.textChat _, _, _, same, ⟨kind, sends.toReady⟩, rfl⟩

/-- So is a call of the peer. -/
theorem asked_notify {lib : JsonLib} {msg : MsgNode} {told : Ledger} {request : NotifyRequest}
    (asked : Asked lib msg told (.notify request)) : ∃ (accepted : AcceptedRequest) (name : String) (early : Ledger),
      told = ⟨.serverName, name⟩ :: early ∧ accepted.From lib msg early ∧ request = accepted.remote := by
  cases asked with
  | login _ asks => cases asks
  | search _ _ _ asks => cases asks
  | addFriend kind _ questions =>
    cases questions with
    | prepare asks =>
      cases asks with
      | statement _ same => cases same
    | call sends _ same =>
      obtain ⟨userInfo, rest, last, _, built⟩ := sends.pushes
      rw [built]
      refine ⟨.addFriend _ userInfo, _, _, same, ⟨kind, sends.toReady, ?_⟩, rfl⟩
      rw [last]
      exact told_head _ _ _
  | authFriend kind _ questions =>
    cases questions with
    | prepare asks =>
      cases asks with
      | statement _ same => cases same
    | call sends _ same =>
      rw [sends.pushes.2]
      exact ⟨.authFriend _, _, _, same, ⟨kind, sends.toReady⟩, rfl⟩
  | textChat kind _ questions =>
    cases questions with
    | prepare asks =>
      cases asks with
      | statement _ same => cases same
    | call sends _ same =>
      rw [sends.pushes.2]
      exact ⟨.textChat _, _, _, same, ⟨kind, sends.toReady⟩, rfl⟩

/-- Only a login is asked anything without the gate. -/
theorem asked_gated {lib : JsonLib} {msg : MsgNode} {told : Ledger} {op : Op} (asked : Asked lib msg told op) (begun : told ≠ [])
    (kind : MessageId.enumCast msg.id ≠ some .loginRequest) : Told told .isAuthenticated true := by
  cases asked with
  | gate same => exact absurd same begun
  | login logs _ => exact absurd logs kind
  | search _ gated _ _ => exact gated
  | addFriend _ gated _ => exact gated
  | authFriend _ gated _ => exact gated
  | textChat _ gated _ => exact gated

/-- Two handlers of one frame accept one request, unless the name of its sender has changed. -/
theorem AcceptedRequest.From.same {lib : JsonLib} {msg : MsgNode} {told later : Ledger} {first second : AcceptedRequest}
    (one : first.From lib msg told) (other : second.From lib msg later)
    (sameName : ∀ uid info changed, Told told (.getUserInfo (.uid uid)) (.ok (some info)) →
      Told later (.getUserInfo (.uid uid)) (.ok (some changed)) → info.name = changed.name) :
    second.remote = first.remote := by
  have kinds : ∀ {left right : MessageId}, MessageId.enumCast msg.id = some left → MessageId.enumCast msg.id = some right →
      left = right := fun left right => Option.some.inj (left.symm.trans right)
  cases first with
  | addFriend request userInfo =>
    cases second with
    | addFriend again changed =>
      have same := Option.some.inj (one.2.1.parsed.symm.trans other.2.1.parsed)
      subst same
      have named := sameName _ _ _ one.2.2 other.2.2
      simp only [AcceptedRequest.remote, named]
    | authFriend again => exact absurd (kinds one.1 other.1) nofun
    | textChat again => exact absurd (kinds one.1 other.1) nofun
  | authFriend request =>
    cases second with
    | addFriend again changed => exact absurd (kinds one.1 other.1) nofun
    | authFriend again =>
      have same := Option.some.inj (one.2.parsed.symm.trans other.2.parsed)
      rw [same]
    | textChat again => exact absurd (kinds one.1 other.1) nofun
  | textChat request =>
    cases second with
    | addFriend again changed => exact absurd (kinds one.1 other.1) nofun
    | authFriend again => exact absurd (kinds one.1 other.1) nofun
    | textChat again =>
      have same := Option.some.inj (one.2.parsed.symm.trans other.2.parsed)
      rw [same]

/-! ## What is a notification, and what is none -/

/-- One of the three notifications, in the name of this user. -/
inductive Notice (uid : Int64) : Notification → Prop
  | addFriend (receiver : Int64) (name : String) :
      Notice uid ⟨receiver, .notifyAddFriend, ({ applyuid := uid, name } : NotifyAddFriendMsg).toJson⟩
  | authFriend (receiver touid : Int64) :
      Notice uid ⟨receiver, .notifyAuthFriend, ({ fromuid := uid, touid } : NotifyAuthFriendMsg).toJson⟩
  | textChat (receiver touid : Int64) (textArray : List TextChatData) :
      Notice uid ⟨receiver, .notifyTextChatMsg, ({ fromuid := uid, touid, textArray } : NotifyTextChatMessage).toJson⟩

/-- The frame has all of this notification in it. -/
structure Shows (frame : MsgNode) (notification : Notification) : Prop where
  kind : frame.id = notification.kind.wire
  whole : frame.bodyText = bytesOf notification.document.dump

theorem AcceptedRequest.here_notice (request : AcceptedRequest) : Notice request.sender request.here := by
  cases request with
  | addFriend request userInfo => exact .addFriend _ _
  | authFriend request => exact .authFriend _ _
  | textChat request => exact .textChat _ _ _

theorem AcceptedRequest.remote_notice (request : AcceptedRequest) :
    Notice request.sender.toInt32.toInt64 (notified request.remote) := by
  cases request with
  | addFriend request userInfo => exact .addFriend _ _
  | authFriend request => exact .authFriend _ _
  | textChat request => exact .textChat _ _ _

theorem Notice.third {uid : Int64} {notification : Notification} (notice : Notice uid notification) :
    (bytesOf notification.document.dump)[2]? = some 97 ∨ (bytesOf notification.document.dump)[2]? = some 102 := by
  cases notice with
  | addFriend receiver name =>
    left
    have fields : ({ applyuid := uid, name } : NotifyAddFriendMsg).toJson =
        .obj [("applyuid", int64 uid), ("name", .str name)] := rfl
    rw [fields, Json.dump, bytesOf, String.toList_ofList]
    rfl
  | authFriend receiver touid =>
    right
    have fields : ({ fromuid := uid, touid } : NotifyAuthFriendMsg).toJson =
        .obj [("fromuid", int64 uid), ("touid", int64 touid)] := rfl
    rw [fields, Json.dump, bytesOf, String.toList_ofList]
    rfl
  | textChat receiver touid textArray =>
    right
    have fields : ({ fromuid := uid, touid, textArray } : NotifyTextChatMessage).toJson =
        .obj [("fromuid", int64 uid), ("text_array", .arr (textArray.map TextChatData.toJson)), ("touid", int64 touid)] := rfl
    rw [fields, Json.dump, bytesOf, String.toList_ofList]
    rfl

theorem third_of_built {reply : ChannelMessage} {id : UInt32} {document : Json Int} {byte expected : UInt8}
    (built : reply.msg = MsgNode.ofText id document.dump) (third : (bytesOf document.dump)[2]? = some expected)
    (found : reply.msg.bodyText[2]? = some byte) : byte = expected := by
  rw [built] at found
  exact Option.some.inj ((ofText_third found).symm.trans third)

/-- The third character of a reply: of `error`, of `data` or of `id`. -/
theorem replied_third {lib : JsonLib} {msg : MsgNode} {told : Ledger} {reply : ChannelMessage} (replied : Replied lib msg told reply)
    {byte : UInt8} (found : reply.msg.bodyText[2]? = some byte) : byte = 100 ∨ byte = 101 ∨ byte = 105 := by
  have error : ∀ id error, reply.msg = MsgNode.ofText id (errorDocument error).dump → byte = 101 :=
    fun id error built => third_of_built built (errorDocument_third error) found
  have answered : ∀ {α : Type} {spec : Notifying α}, spec.Answers msg told reply → byte = 101 := by
    intro α spec answers
    cases answers with
    | prepare replies => cases replies <;> exact error _ _ rfl
    | absent _ _ => exact error _ .success rfl
    | delivered _ _ => exact error _ .success rfl
    | called _ _ _ => exact error _ .success rfl
    | failed _ _ _ _ => exact error _ .rpcFailed rfl
  cases replied with
  | rejected _ _ => exact .inr (.inl (error _ .notAuthenticated rfl))
  | unknown _ _ =>
    rw [emptyResponse, ofNull_bodyText] at found
    cases found
  | thrown _ => exact .inr (.inl (error _ .internalError rfl))
  | login _ replies =>
    cases replies with
    | invalid _ => exact .inr (.inl (error _ .invalidJson rfl))
    | refused _ _ _ => exact .inr (.inl (error _ .tokenInvalid rfl))
    | unknown _ => exact .inr (.inl (error _ .internalError rfl))
    | @success request info applyList friendList _ _ _ _ _ =>
      have built : (loginReply request info applyList friendList).msg =
          MsgNode.ofText MessageId.loginResponse.wire (loginDocument request info applyList friendList).dump := rfl
      exact .inl (third_of_built built (responsePayload_third _) found)
  | search _ _ replies =>
    cases replies with
    | invalid _ => exact .inr (.inl (error _ .invalidJson rfl))
    | @found key info _ _ => exact .inr (.inr (third_of_built rfl (userInfo_third info) found))
    | notFound => exact .inr (.inl (error _ .userNotFound rfl))
  | addFriend _ _ answers => exact .inr (.inl (answered answers))
  | authFriend _ _ answers => exact .inr (.inl (answered answers))
  | textChat _ _ answers => exact .inr (.inl (answered answers))

/-- No handler replies with a notification. -/
theorem replied_not_notice {lib : JsonLib} {msg : MsgNode} {told : Ledger} {reply : ChannelMessage}
    (replied : Replied lib msg told reply) {uid : Int64} {notification : Notification} (notice : Notice uid notification) :
    ¬ Shows reply.msg notification := by
  intro shows
  rcases notice.third with third | third
  all_goals
    rw [← shows.whole] at third
    rcases replied_third replied third with same | same | same <;> exact absurd same (by decide)

end ChatProof
