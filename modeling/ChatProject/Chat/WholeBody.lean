import ChatProject.Chat.Handlers
import ChatProject.Message.Stream

/-! How much of a frame the handlers look at. -/

namespace ChatProof

open ChatModel

/-! ## The text in the buffer -/

theorem cString_zeros (text : Bytes) (pad : Nat) : cString (text ++ List.replicate pad 0) = cString text := by
  unfold cString
  induction text with
  | nil => cases pad <;> rfl
  | cons b text ih =>
    rw [List.cons_append, List.takeWhile_cons, List.takeWhile_cons, ih]

theorem cString_self {text : Bytes} : cString text = text ↔ 0 ∉ text := by
  constructor
  · intro same member
    rw [← same] at member
    have passes := List.mem_takeWhile_imp member
    exact absurd passes (by decide)
  · intro absent
    apply List.takeWhile_eq_self_iff.mpr
    intro b member
    have different : b ≠ 0 := by
      rintro rfl
      exact absent member
    exact decide_eq_true different

/-- Behind the body of a received frame there are zeros. -/
theorem received_bodyText {stream rest : Bytes} {node : MsgNode} (received : MsgNode.receive stream = some (node, rest)) :
    node.bodyText = cString node.body := by
  obtain ⟨same, small⟩ := receive_read received
  obtain ⟨read, taken, _, text, behind⟩ := receive_frame_data (content node).1 small rest
  have found : MsgNode.receive (frameBytes (content node) ++ rest) = some (read, rest) := taken
  rw [← same, received] at found
  cases found
  rw [MsgNode.bodyText, behind, cString_zeros, text]

/-! ## The handlers -/

/-- The handler knows its message through the parse of this text only. -/
def ReadsText (handler : JsonLib → MsgNode → Awaitable ChannelMessage) (msg : MsgNode) (text : Bytes) : Prop :=
  ∀ lib other : JsonLib, lib.parse text = other.parse text → lib.parseUserInfo = other.parseUserInfo →
    handler lib msg = handler other msg

/-- The reply to something that is no valid request. -/
def IsInvalidJson (reply : ChannelMessage) : Prop :=
  ∃ id, reply = errorResponse id .invalidJson ∨ reply = errorResponseAndClose id .invalidJson

/-- What the handler parses is the body, all of it, so that a body that is not JSON as a whole is refused. -/
structure SeesWholeBody (handler : JsonLib → MsgNode → Awaitable ChannelMessage) (msg : MsgNode) : Prop where
  reads : ReadsText handler msg msg.body
  refuses : ∀ lib : JsonLib, lib.parse msg.body = none → ∃ reply, handler lib msg = .ret reply ∧ IsInvalidJson reply

theorem searchUserByType_congr {lib other : JsonLib} (same : lib.parseUserInfo = other.parseUserInfo) (key : UserKey) :
    searchUserByType lib key = searchUserByType other key := by
  unfold searchUserByType searchUserInfo
  rw [same]

/-- Each handler parses the text up to the first zero. -/
theorem handler_reads {id : MessageId} {handler : JsonLib → MsgNode → Awaitable ChannelMessage}
    (registered : handlers id = some handler) (msg : MsgNode) : ReadsText handler msg msg.bodyText := by
  intro lib other parses same
  have found := searchUserByType_congr same
  cases id with
  | loginRequest =>
    cases registered
    unfold login parseJson
    simp only [parses, found]
  | searchUserRequest =>
    cases registered
    unfold searchUser
    simp only [parses, found]
  | addFriendRequest =>
    cases registered
    unfold addFriend parseJson
    rw [parses]
  | authFriendRequest =>
    cases registered
    unfold authFriend parseJson
    rw [parses]
  | textChatMsgReq =>
    cases registered
    unfold textChatMsg parseJson
    rw [parses]
  | _ => cases registered

theorem handler_refuses {id : MessageId} {handler : JsonLib → MsgNode → Awaitable ChannelMessage}
    (registered : handlers id = some handler) (lib : JsonLib) (msg : MsgNode) (invalid : lib.parse msg.bodyText = none) :
    ∃ reply, handler lib msg = .ret reply ∧ IsInvalidJson reply := by
  cases id with
  | loginRequest =>
    cases registered
    unfold login parseJson
    rw [invalid]
    exact ⟨_, rfl, _, .inr rfl⟩
  | searchUserRequest =>
    cases registered
    unfold searchUser
    rw [invalid]
    exact ⟨_, rfl, _, .inl rfl⟩
  | addFriendRequest =>
    cases registered
    unfold addFriend parseJson
    rw [invalid]
    exact ⟨_, rfl, _, .inl rfl⟩
  | authFriendRequest =>
    cases registered
    unfold authFriend parseJson
    rw [invalid]
    exact ⟨_, rfl, _, .inl rfl⟩
  | textChatMsgReq =>
    cases registered
    unfold textChatMsg parseJson
    rw [invalid]
    exact ⟨_, rfl, _, .inl rfl⟩
  | _ => cases registered

/-- A document that every handler takes for a request. -/
def anyRequest : Json Number :=
  .obj [("uid", .num (.int 1)), ("touid", .num (.int 2)), ("fromuid", .num (.int 1)), ("token", .str ""), ("text_array", .arr [])]

theorem handler_asks {id : MessageId} {handler : JsonLib → MsgNode → Awaitable ChannelMessage}
    (registered : handlers id = some handler) (lib : JsonLib) (msg : MsgNode)
    (valid : lib.parse msg.bodyText = some anyRequest) : ∃ op next, handler lib msg = .call op next := by
  cases id with
  | loginRequest =>
    cases registered
    unfold login parseJson
    rw [valid]
    exact ⟨_, _, rfl⟩
  | searchUserRequest =>
    cases registered
    unfold searchUser
    rw [valid]
    exact ⟨_, _, rfl⟩
  | addFriendRequest =>
    cases registered
    unfold addFriend parseJson
    rw [valid]
    exact ⟨_, _, rfl⟩
  | authFriendRequest =>
    cases registered
    unfold authFriend parseJson
    rw [valid]
    exact ⟨_, _, rfl⟩
  | textChatMsgReq =>
    cases registered
    unfold textChatMsg parseJson
    rw [valid]
    exact ⟨_, _, rfl⟩
  | _ => cases registered

theorem seesWholeBody_iff {id : MessageId} {handler : JsonLib → MsgNode → Awaitable ChannelMessage}
    (registered : handlers id = some handler) (msg : MsgNode) : SeesWholeBody handler msg ↔ msg.bodyText = msg.body := by
  constructor
  · intro sees
    by_contra different
    -- two parsers that differ in the text up to the first zero only
    let refusing : JsonLib := { parse := fun _ => none, parseUserInfo := fun _ => none }
    let accepting : JsonLib :=
      { refusing with parse := fun text => if text = msg.bodyText then some anyRequest else none }
    have agree : refusing.parse msg.body = accepting.parse msg.body := (if_neg (Ne.symm different)).symm
    have same := sees.reads refusing accepting agree rfl
    obtain ⟨reply, refused, _⟩ := handler_refuses registered refusing msg rfl
    obtain ⟨op, next, asks⟩ := handler_asks registered accepting msg (if_pos rfl)
    rw [refused, asks] at same
    cases same
  · intro same
    have reads := handler_reads registered msg
    rw [same] at reads
    refine ⟨reads, ?_⟩
    intro lib invalid
    rw [← same] at invalid
    exact handler_refuses registered lib msg invalid

theorem handler_sees_body {stream rest : Bytes} {node : MsgNode} {id : MessageId}
    {handler : JsonLib → MsgNode → Awaitable ChannelMessage} (received : MsgNode.receive stream = some (node, rest))
    (registered : handlers id = some handler) : SeesWholeBody handler node ↔ 0 ∉ node.body := by
  rw [seesWholeBody_iff registered, received_bodyText received]
  exact cString_self

/-- A request for user 1, and more behind a zero byte. -/
def hiddenBody : Bytes := bytesOf "\x7b\"uid\":1\x7d" ++ [0] ++ bytesOf "no JSON"

theorem handler_sees_body_plain : ∃ node,
    MsgNode.receive (header MessageId.searchUserRequest.wire 9 ++ bytesOf "\x7b\"uid\":1\x7d" ++ []) = some (node, []) ∧
      (SeesWholeBody searchUser node ↔ 0 ∉ node.body) := by
  have small : (bytesOf "\x7b\"uid\":1\x7d").length ≤ maxLength := by decide
  have registered : handlers .searchUserRequest = some searchUser := rfl
  obtain ⟨node, received, _⟩ := receive_frame MessageId.searchUserRequest.wire small []
  exact ⟨node, received, handler_sees_body received registered⟩

theorem hidden_body_unseen : ∃ node,
    MsgNode.receive (header MessageId.searchUserRequest.wire hiddenBody.length ++ hiddenBody ++ []) = some (node, []) ∧
      ¬ SeesWholeBody searchUser node := by
  have small : hiddenBody.length ≤ maxLength := by decide
  have registered : handlers .searchUserRequest = some searchUser := rfl
  obtain ⟨node, received, _, body⟩ := receive_frame MessageId.searchUserRequest.wire small []
  refine ⟨node, received, ?_⟩
  intro sees
  have same := (seesWholeBody_iff registered node).mp sees
  rw [received_bodyText received, cString_self, body] at same
  exact same (by decide)

end ChatProof
