import ChatProject.Chat.Handlers

/-! What each handler asks of its surroundings, whatever it is answered. -/

namespace ChatProof

open ChatModel

variable {allowed : Op → Prop}

theorem perform_asksOnly {op : Op} (allows : allowed op) : (Awaitable.perform op).AsksOnly allowed :=
  (Coroutine.asksOnly_perform op).mpr allows

theorem attempt_asksOnly {α : Type} {call : Awaitable (Except Failure α)} (asks : call.AsksOnly allowed) :
    (Awaitable.attempt call).AsksOnly allowed :=
  asks.bind fun _ => Coroutine.asksOnly_ofExcept _

theorem searchUserByType_asksOnly (lib : JsonLib) (key : UserKey) (get : allowed (.redisGet key.redisKey))
    (query : allowed (.getUserInfo key)) (set : ∀ text, allowed (.redisSet key.redisKey text)) :
    (searchUserByType lib key).AsksOnly allowed := by
  have search : (searchUserInfo lib key).AsksOnly allowed := by
    unfold searchUserInfo
    simp only [Awaitable.perform, Coroutine.bind_def, Coroutine.perform_bind, Coroutine.asksOnly_call]
    refine ⟨get, ?_⟩
    intro cached
    cases cached.bind lib.parseUserInfo with
    | some userInfo => trivial
    | none =>
      apply Coroutine.AsksOnly.bind
      · apply attempt_asksOnly
        exact (Coroutine.asksOnly_perform _).mpr query
      · intro stored
        trivial
  apply search.bind
  intro found
  obtain ⟨result, isRedisExist⟩ := found
  cases result with
  | none => trivial
  | some userInfo =>
    cases isRedisExist with
    | true => trivial
    | false => exact ⟨set _, fun _ => trivial⟩

theorem updateLoginCount_asksOnly (name : allowed .serverName) (count : allowed .participantCount)
    (set : ∀ field n, allowed (.redisHset loginCountKey field n)) : updateLoginCount.AsksOnly allowed :=
  ⟨name, fun _ => ⟨count, fun _ => ⟨set _ _, fun _ => trivial⟩⟩⟩

/-- What the handlers that notify another user ask for besides their own statement. -/
structure AllowsNotifying (allowed : Op → Prop) : Prop where
  uid : allowed .uid
  route : ∀ uid, allowed (.redisGet (userLoginServerKey uid))
  name : allowed .serverName
  look : ∀ uid, allowed (.getParticipant uid)
  push : ∀ addr msg, allowed (.deliver addr msg)
  call : ∀ request, allowed (.notify request)

theorem forward_asksOnly (msg : MsgNode) (responseId : UInt32) (touid : Int64) (target : String)
    (notify : MsgNode) (request : NotifyRequest) (allows : AllowsNotifying allowed) :
    (forward msg responseId touid target notify request).AsksOnly allowed := by
  unfold forward
  simp only [Awaitable.perform, Coroutine.bind_def, Coroutine.perform_bind, Coroutine.asksOnly_call]
  refine ⟨allows.name, ?_⟩
  intro serverName
  by_cases here : target = serverName
  · rw [if_pos here]
    refine ⟨allows.look touid, ?_⟩
    intro targetSession
    cases targetSession with
    | none => trivial
    | some addr => exact ⟨allows.push addr _, fun _ => trivial⟩
  · rw [if_neg here]
    refine ⟨allows.call request, ?_⟩
    intro response
    dsimp only
    split <;> trivial

theorem searchUser_asksOnly (lib : JsonLib) (msg : MsgNode) (get : ∀ key : UserKey, allowed (.redisGet key.redisKey))
    (query : ∀ key, allowed (.getUserInfo key))
    (set : ∀ (key : UserKey) text, allowed (.redisSet key.redisKey text)) :
    (searchUser lib msg).AsksOnly allowed := by
  have search : ∀ key, (searchUserByType lib key).AsksOnly allowed := fun key =>
    searchUserByType_asksOnly lib key (get key) (query key) (set key)
  unfold searchUser
  cases lib.parse msg.bodyText with
  | none => trivial
  | some request =>
    simp only [Coroutine.bind_def, Coroutine.pure_def]
    split
    · apply (search _).bind
      intro response
      cases response <;> trivial
    · apply (search _).bind
      intro response
      cases response <;> trivial
    · trivial

theorem addFriend_asksOnly (lib : JsonLib) (msg : MsgNode) (allows : AllowsNotifying allowed)
    (add : ∀ fromUid toUid, allowed (.addFriendApply fromUid toUid))
    (query : ∀ key, allowed (.getUserInfo key)) : (addFriend lib msg).AsksOnly allowed := by
  unfold addFriend
  cases parseJson lib AddFriendRequest.fromJson msg.bodyText with
  | none => trivial
  | some request =>
    simp only [Awaitable.perform, Coroutine.bind_def, Coroutine.perform_bind, Coroutine.asksOnly_call]
    refine ⟨allows.uid, ?_⟩
    intro uid
    split
    · trivial
    · apply (attempt_asksOnly ((Coroutine.asksOnly_perform _).mpr (add _ _))).bind
      intro _
      refine ⟨allows.route _, ?_⟩
      intro targetLoginServer
      cases targetLoginServer with
      | none => trivial
      | some target =>
        apply (attempt_asksOnly ((Coroutine.asksOnly_perform _).mpr (query _))).bind
        intro userInfo
        cases userInfo with
        | none => trivial
        | some userInfo => exact forward_asksOnly _ _ _ _ _ _ allows

theorem authFriend_asksOnly (lib : JsonLib) (msg : MsgNode) (allows : AllowsNotifying allowed)
    (accept : ∀ fromUid toUid, allowed (.authFriendApply fromUid toUid)) :
    (authFriend lib msg).AsksOnly allowed := by
  unfold authFriend
  cases parseJson lib AuthFriendRequest.fromJson msg.bodyText with
  | none => trivial
  | some request =>
    simp only [Awaitable.perform, Coroutine.bind_def, Coroutine.perform_bind, Coroutine.asksOnly_call]
    refine ⟨allows.uid, ?_⟩
    intro uid
    split
    · trivial
    · apply (attempt_asksOnly ((Coroutine.asksOnly_perform _).mpr (accept _ _))).bind
      intro _
      refine ⟨allows.route _, ?_⟩
      intro targetLoginServer
      cases targetLoginServer with
      | none => trivial
      | some target => exact forward_asksOnly _ _ _ _ _ _ allows

theorem textChatMsg_asksOnly (lib : JsonLib) (msg : MsgNode) (allows : AllowsNotifying allowed) :
    (textChatMsg lib msg).AsksOnly allowed := by
  unfold textChatMsg
  cases parseJson lib TextChatMsgRequest.fromJson msg.bodyText with
  | none => trivial
  | some request =>
    simp only [Awaitable.perform, Coroutine.bind_def, Coroutine.perform_bind, Coroutine.asksOnly_call]
    refine ⟨allows.uid, ?_⟩
    intro uid
    split
    · trivial
    · refine ⟨allows.route _, ?_⟩
      intro targetLoginServer
      cases targetLoginServer with
      | none => trivial
      | some target => exact forward_asksOnly _ _ _ _ _ _ allows

/-- What is to be shown of the handlers for a property of every request, whoever sends it. -/
theorem handleMessage_guided (lib : JsonLib) (msg : MsgNode) {ask : Ledger → Op → Prop}
    {post : Ledger → Except Failure ChannelMessage → Prop} (asked : ask [] .isAuthenticated)
    (rejected : msg.id ≠ MessageId.loginRequest.wire →
      post [⟨.isAuthenticated, false⟩] (.ok (errorResponseAndClose msg.id .notAuthenticated)))
    (unknown : ∀ flag, (MessageId.enumCast msg.id).bind handlers = none →
      post [⟨.isAuthenticated, flag⟩] (.ok (emptyResponse msg.id)))
    (handled : ∀ flag messageId handler, (flag = false → messageId = .loginRequest) →
      MessageId.enumCast msg.id = some messageId → handlers messageId = some handler → (handler lib msg).Guided ask (fun told result =>
        match result with
        | .ok reply => post told (.ok reply)
        | .error _ => post told (.ok (errorResponse (MessageId.getResponseId messageId).wire .internalError)))
          [⟨.isAuthenticated, flag⟩]) : (handleMessage lib msg).Guided ask post [] := by
  refine ⟨asked, ?_⟩
  intro flag
  change Coroutine.Guided ask post
    (if flag = false ∧ msg.id ≠ MessageId.loginRequest.wire then _ else _) [⟨.isAuthenticated, flag⟩]
  split
  · rename_i stranger
    rw [stranger.1]
    exact rejected stranger.2
  · rename_i admitted
    cases cast : MessageId.enumCast msg.id with
    | none =>
      apply unknown
      rw [cast]
      rfl
    | some messageId =>
      have logsIn : flag = false → messageId = .loginRequest := by
        intro stranger
        have same : msg.id = MessageId.loginRequest.wire := by
          by_contra different
          exact admitted ⟨stranger, different⟩
        rw [same, MessageId.enumCast_wire] at cast
        cases cast
        rfl
      dsimp only
      cases found : handlers messageId with
      | none =>
        apply unknown
        rw [cast]
        exact found
      | some handler =>
        apply Coroutine.Guided.catchWith
        apply (handled flag messageId handler logsIn cast found).mono
        intro told result ends
        cases result <;> exact ends

end ChatProof
