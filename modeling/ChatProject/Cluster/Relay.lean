import ChatProject.Chat.Sizes
import ChatProject.Cluster.Agreement

/-! Whether the recipient of a text chat can read what its sender has said. -/

namespace ChatProof

open ChatModel Json

/-! ## The body of a frame -/

theorem setBodyLength_length (id : UInt32) (size : Nat) :
    ({ id : MsgNode }.setBodyLength (Int32.ofNat size)).2.bodyLength.toInt.toNat ≤ min size maxLength := by
  have small : (Int32.ofNat size).toInt.toNat ≤ size := by
    have modulus : Int32.size = 4294967296 := rfl
    rw [Int32.toInt_ofNat', Int.toNat_le, Int.bmod_def, modulus]
    split <;> omega
  unfold MsgNode.setBodyLength
  split
  · exact Nat.zero_le _
  · rename_i bounded
    apply le_min small
    rw [gt_iff_lt, Int32.lt_iff_toInt_lt, not_lt] at bounded
    have limit : (Int32.ofNat maxLength).toInt = (maxLength : Int) := by decide
    rw [limit] at bounded
    change (Int32.ofNat size).toInt.toNat ≤ maxLength
    omega

/-- The body is the beginning of the text, all of it when it fits. -/
theorem ofText_body (id : UInt32) {text : String} (visible : '\x00' ∉ text.toList) :
    ∃ size, size ≤ maxLength ∧ (MsgNode.ofText id text).body = (bytesOf text).take size ∧
      ((bytesOf text).length ≤ maxLength → (bytesOf text).length ≤ size) := by
  have bounded := setBodyLength_length id (bytesOf text).length
  have fits : (bytesOf text).length ≤ maxLength →
      ({ id : MsgNode }.setBodyLength (Int32.ofNat (bytesOf text).length)).2.bodyLength.toInt.toNat =
        (bytesOf text).length := by
    intro small
    rw [setBodyLength_small _ small]
    exact size_toNat small
  have blank := setBodyLength_data { id : MsgNode } (Int32.ofNat (bytesOf text).length)
  unfold MsgNode.ofText MsgNode.ofCString
  rw [cString_bytesOf visible]
  dsimp only
  generalize ({ id : MsgNode }.setBodyLength (Int32.ofNat (bytesOf text).length)).2 = node at bounded fits blank ⊢
  let size := node.bodyLength.toInt.toNat
  obtain ⟨short, limited⟩ := le_min_iff.mp bounded
  refine ⟨size, limited, ?_, fun small => (fits small).ge⟩
  let front := header node.id node.bodyLength.toUInt32.toNat
  let copied := (bytesOf text).take size
  have copies : copied.length = size := List.length_take_of_le short
  have start : node.encodeHeader.data = front ++ List.replicate (dataSize - prefixLen) 0 := by
    rw [encodeHeader_data, blank, memcpy_start, header_length, List.drop_replicate]
    rw [header_length, List.length_replicate]
    decide
  have data : (node.encodeHeader.write prefixLen copied).data =
      front ++ memcpy (List.replicate (dataSize - prefixLen) 0) 0 copied := by
    have behind : front.length = prefixLen := header_length _ _
    rw [MsgNode.write_data, start, ← behind]
    exact memcpy_append front _
  have room : copied.length ≤ (List.replicate (dataSize - prefixLen) (0 : UInt8)).length := by
    rw [copies, List.length_replicate]
    exact le_trans limited (by decide)
  change ((node.encodeHeader.write prefixLen copied).data.drop prefixLen).take size = copied
  rw [data, List.drop_left' (header_length _ _), memcpy_start room, ← copies, List.take_left' rfl]

/-! ## Documents that are read back -/

mutual

/-- The document as the parser sees it. -/
def numbers : Json Int → Json Number
  | .null => .null
  | .bool value => .bool value
  | .num value => .num (.int value)
  | .str value => .str value
  | .arr items => .arr (itemsNumbers items)
  | .obj fields => .obj (fieldsNumbers fields)

def itemsNumbers : List (Json Int) → List (Json Number)
  | [] => []
  | item :: rest => numbers item :: itemsNumbers rest

def fieldsNumbers : List (String × Json Int) → List (String × Json Number)
  | [] => []
  | (name, value) :: rest => (name, numbers value) :: fieldsNumbers rest

end

/-- The parser reads the text of this document, and no proper beginning of it. -/
structure ReadsBack (lib : JsonLib) (document : Json Int) : Prop where
  whole : lib.parse (bytesOf document.dump) = some (numbers document)
  part : ∀ size, size < (bytesOf document.dump).length → lib.parse ((bytesOf document.dump).take size) = none

theorem toInt64_int (value : Int64) : (Number.int value.toInt).toInt64 = value := Int64.ofInt_toInt value

theorem textChatData_fromJson (text : TextChatData) : TextChatData.fromJson (numbers text.toJson) = some text := by
  have msgid : int64Field "msgid" (numbers text.toJson) = some text.msgid := congrArg some (toInt64_int text.msgid)
  have content : stringField "content" (numbers text.toJson) = some text.content := rfl
  rw [TextChatData.fromJson, msgid, content]

theorem textArray_fromJson (texts : List TextChatData) :
    (itemsNumbers (texts.map TextChatData.toJson)).mapM TextChatData.fromJson = some texts := by
  induction texts with
  | nil => rfl
  | cons text rest ih =>
    rw [List.map_cons, itemsNumbers, List.mapM_cons, textChatData_fromJson, ih]
    rfl

/-- The notification says what the request said. -/
theorem notify_fromJson (request : TextChatMsgRequest) : TextChatMsgRequest.fromJson (numbers request.toNotify.toJson) = some request := by
  have fromuid : int64Field "fromuid" (numbers request.toNotify.toJson) = some request.fromuid := congrArg some (toInt64_int _)
  have touid : int64Field "touid" (numbers request.toNotify.toJson) = some request.touid := congrArg some (toInt64_int _)
  have items : ((numbers request.toNotify.toJson).field? "text_array").bind Json.array? =
      some (itemsNumbers (request.textArray.map TextChatData.toJson)) := rfl
  rw [TextChatMsgRequest.fromJson, fromuid, touid, items, Option.bind_some, textArray_fromJson]

/-! ## How long the notification is -/

def textDataSize (text : TextChatData) : Nat := 21 + textSize text.content + numberSize text.msgid.toInt

/-- What the values of the request need when they are written out. -/
def relaySize (request : TextChatMsgRequest) : Nat :=
  35 + numberSize request.fromuid.toInt + numberSize request.touid.toInt + listSize (request.textArray.map textDataSize)

theorem textDataSize_eq (text : TextChatData) : text.toJson.size = textDataSize text := by
  have content : textSize "content" = 9 := by decide
  have msgid : textSize "msgid" = 7 := by decide
  have fields : text.toJson = .obj [("content", .str text.content), ("msgid", int64 text.msgid)] := rfl
  simp only [fields, size_obj, listSize, List.map_cons, List.map_nil, List.sum_cons, List.sum_nil, List.length_cons,
    List.length_nil, int64, size_num, size_str, content, msgid, textDataSize]
  omega

theorem relaySize_eq (request : TextChatMsgRequest) : request.toNotify.toJson.size = relaySize request := by
  have fromuid : textSize "fromuid" = 9 := by decide
  have touid : textSize "touid" = 7 := by decide
  have texts : textSize "text_array" = 12 := by decide
  have fields : request.toNotify.toJson = .obj [("fromuid", int64 request.fromuid),
    ("text_array", .arr (request.textArray.map TextChatData.toJson)), ("touid", int64 request.touid)] := rfl
  have sizes : (request.textArray.map TextChatData.toJson).map Json.size = request.textArray.map textDataSize := by
    rw [List.map_map]
    exact List.map_congr_left fun text _ => textDataSize_eq text
  rw [fields, size_obj]
  generalize list : listSize (request.textArray.map textDataSize) = size
  simp only [List.map_cons, List.map_nil, size_arr, sizes, list, int64, size_num, fromuid, touid, texts, relaySize]
  simp only [listSize, List.sum_cons, List.sum_nil, List.length_cons, List.length_nil]
  omega

/-! ## The notification of a text chat -/

/-- Who reads the body of the frame finds the three values of the request. -/
def Relays (lib : JsonLib) (frame : MsgNode) (request : TextChatMsgRequest) : Prop :=
  parseJson lib TextChatMsgRequest.fromJson frame.body = some request

theorem relays_iff (lib : JsonLib) (request : TextChatMsgRequest) (reads : ReadsBack lib request.toNotify.toJson) :
    Relays lib (AcceptedRequest.textChat request).here.frame request ↔ relaySize request ≤ maxLength := by
  have fits : (bytesOf request.toNotify.toJson.dump).length = relaySize request := by
    rw [length_bytesOf_dump, relaySize_eq]
  obtain ⟨size, bounded, body, all⟩ := ofText_body MessageId.notifyTextChatMsg.wire (dump_visible request.toNotify.toJson)
  have frame : (AcceptedRequest.textChat request).here.frame.body = (bytesOf request.toNotify.toJson.dump).take size := body
  rw [Relays, parseJson, frame]
  constructor
  · intro relayed
    by_contra long
    have short : size < (bytesOf request.toNotify.toJson.dump).length := by omega
    rw [reads.part size short] at relayed
    cases relayed
  · intro small
    rw [List.take_of_length_le (all (fits.trans_le small)), reads.whole]
    exact notify_fromJson request

/-- Whoever is logged in may write to somebody else, and the message is delivered when that one is on this server. -/
theorem textChat_asks {lib : JsonLib} {msg : MsgNode} {request : TextChatMsgRequest}
    (kind : MessageId.enumCast msg.id = some .textChatMsgReq)
    (parsed : parseJson lib TextChatMsgRequest.fromJson msg.bodyText = some request) (apart : request.fromuid ≠ request.touid)
    (name : String) (target : Addr) :
    AsksFor lib msg [⟨.getParticipant request.touid, some target⟩, ⟨.serverName, name⟩,
      ⟨.redisGet (userLoginServerKey request.touid), some name⟩, ⟨.uid, request.fromuid⟩, ⟨.isAuthenticated, true⟩]
      (.deliver target { msg := (AcceptedRequest.textChat request).here.frame }) := by
  have begins : Reaches lib msg [] (handleMessage lib msg) := .start
  have gated := Reaches.answer true begins
  have handled : handlers .textChatMsgReq = some textChatMsg := rfl
  simp only [Coroutine.ret_bind, Bool.true_eq_false, false_and, if_false, kind, handled] at gated
  unfold textChatMsg at gated
  rw [parsed] at gated
  have own := Reaches.answer request.fromuid gated
  simp only [Coroutine.ret_bind, ne_eq, not_true_eq_false, apart, or_self, if_false] at own
  have routed := Reaches.answer (some name) own
  have named := Reaches.answer name routed
  simp only [Coroutine.ret_bind, if_true] at named
  exact ⟨_, named.answer (some target)⟩

/-- A text chat that is delivered here is delivered as this notification. -/
theorem textChat_delivers {lib : JsonLib} {msg : MsgNode} {told : Ledger} {target : Addr} {message : ChannelMessage}
    {request : TextChatMsgRequest} (asks : AsksFor lib msg told (.deliver target message))
    (kind : MessageId.enumCast msg.id = some .textChatMsgReq)
    (parsed : parseJson lib TextChatMsgRequest.fromJson msg.bodyText = some request) :
    Told told (.getParticipant request.touid) (some target) ∧ message = { msg := (AcceptedRequest.textChat request).here.frame } := by
  obtain ⟨_, reaches⟩ := asks
  obtain ⟨accepted, home, early, same, known, built⟩ := asked_deliver (reaches.guided (handleMessage_asked lib msg)).1.1
  cases accepted with
  | addFriend other userInfo => exact absurd (kind.symm.trans known.1) nofun
  | authFriend other => exact absurd (kind.symm.trans known.1) nofun
  | textChat other =>
    obtain rfl := Option.some.inj (parsed.symm.trans known.2.parsed)
    subst same
    exact ⟨told_head _ _ _, built⟩

/-- Whatever form the values had in the request: they are relayed exactly when they fit when written out. -/
theorem relayed_text_fits (lib : JsonLib) (msg : MsgNode) (told : Ledger) (target : Addr) (message : ChannelMessage)
    (request : TextChatMsgRequest) (asks : AsksFor lib msg told (.deliver target message))
    (kind : MessageId.enumCast msg.id = some .textChatMsgReq)
    (parsed : parseJson lib TextChatMsgRequest.fromJson msg.bodyText = some request)
    (reads : ReadsBack lib request.toNotify.toJson) :
    Told told (.getParticipant request.touid) (some target) ∧ message.msg.id = MessageId.notifyTextChatMsg.wire ∧
      (Relays lib message.msg request ↔ relaySize request ≤ maxLength) := by
  obtain ⟨found, built⟩ := textChat_delivers asks kind parsed
  subst built
  exact ⟨found, ofCString_id _ _, relays_iff lib request reads⟩

/-! ## The first user writes to the second -/

namespace Sample

theorem externals_first (first second : Body) : (externals [first, second]).lib.parse (bytesOf first.1) = some first.2 := by
  change (List.find? (fun body => decide (bytesOf body.1 = bytesOf first.1)) [first, second]).map (·.2) = _
  simp [List.find?]

theorem externals_second {first second : Body} {text : Bytes} (different : bytesOf first.1 ≠ text) :
    (externals [first, second]).lib.parse text = if bytesOf second.1 = text then some second.2 else none := by
  change (List.find? (fun body => decide (bytesOf body.1 = text)) [first, second]).map (·.2) = _
  by_cases same : bytesOf second.1 = text
  · simp [List.find?, different, same]
  · simp [List.find?, different, same]

theorem externals_readsBack {first : Body} {document : Json Int} (other : ¬ bytesOf first.1 <+: bytesOf document.dump) :
    ReadsBack (externals [first, (document.dump, numbers document)]).lib document := by
  have different : ∀ size, bytesOf first.1 ≠ (bytesOf document.dump).take size := by
    intro size same
    rw [same] at other
    exact other (List.take_prefix _ _)
  constructor
  · have whole := different (bytesOf document.dump).length
    rw [List.take_length] at whole
    rw [externals_second whole]
    exact if_pos rfl
  · intro size short
    rw [externals_second (different size)]
    apply if_neg
    intro same
    have lengths := congrArg List.length same
    rw [List.length_take_of_le short.le] at lengths
    exact absurd lengths short.ne'

/-- The parser, on a request and on its notification. -/
def relayLib (body : Body) (request : TextChatMsgRequest) : JsonLib :=
  (externals [body, (request.toNotify.toJson.dump, numbers request.toNotify.toJson)]).lib

/-- Twenty-four empty texts whose numbers are written with an exponent. -/
def exponentsText : List Char :=
  "\x7b\"fromuid\":1,\"touid\":2,\"text_array\":[".toList ++
    List.intercalate [','] (List.replicate 24 "\x7b\"msgid\":1e18,\"content\":\"\"\x7d".toList) ++ "]\x7d".toList

def exponents : Body :=
  (String.ofList exponentsText,
    .obj [("fromuid", .num (.int 1)), ("text_array", .arr (List.replicate 24 (.obj [("content", .str ""),
      ("msgid", .num (.float 3814697265625 18))]))), ("touid", .num (.int 2))])

def exponentsRequest : TextChatMsgRequest :=
  { fromuid := 1, touid := 2, textArray := List.replicate 24 { msgid := 1000000000000000000, content := "" } }

def exponentsFrame : MsgNode := MsgNode.ofText MessageId.textChatMsgReq.wire exponents.1

theorem exponents_visible : '\x00' ∉ exponents.1.toList := by
  change '\x00' ∉ (String.ofList exponentsText).toList
  rw [String.toList_ofList]
  decide +kernel

theorem exponents_fits : (bytesOf exponents.1).length ≤ maxLength := by
  change (bytesOf (String.ofList exponentsText)).length ≤ maxLength
  rw [length_bytesOf, String.toList_ofList]
  decide +kernel

theorem exponents_parsed : parseJson (relayLib exponents exponentsRequest) TextChatMsgRequest.fromJson exponentsFrame.bodyText =
    some exponentsRequest := by
  obtain ⟨size, body, all⟩ := ofText_bodyText MessageId.textChatMsgReq.wire exponents_visible
  have text : exponentsFrame.bodyText = bytesOf exponents.1 := by
    rw [exponentsFrame, body, List.take_of_length_le (all exponents_fits)]
  rw [parseJson, text, relayLib, externals_first, Option.bind_some]
  decide +kernel

theorem exponents_readsBack : ReadsBack (relayLib exponents exponentsRequest) exponentsRequest.toNotify.toJson := by
  apply externals_readsBack
  rintro ⟨rest, same⟩
  have left : (bytesOf exponents.1)[15]? = some 111 := by
    change (bytesOf (String.ofList exponentsText))[15]? = some 111
    rw [bytesOf, String.toList_ofList]
    decide +kernel
  have right : (bytesOf exponentsRequest.toNotify.toJson.dump)[15]? = some 101 := by
    rw [bytesOf, Json.dump, String.toList_ofList]
    decide +kernel
  rw [← same, List.getElem?_append_left (List.getElem?_eq_some_iff.mp left).1, left] at right
  cases right

end Sample

theorem relayed_text_fits_five : ∃ told target message,
    AsksFor (Sample.relayLib (Sample.numbered 5) (Sample.request 5)) (Sample.numberedFrame 5) told (.deliver target message) ∧
      Relays (Sample.relayLib (Sample.numbered 5) (Sample.request 5)) message.msg (Sample.request 5) := by
  have kind : MessageId.enumCast (Sample.numberedFrame 5).id = some .textChatMsgReq := by decide +kernel
  have parsed : parseJson (Sample.relayLib (Sample.numbered 5) (Sample.request 5)) TextChatMsgRequest.fromJson
      (Sample.numberedFrame 5).bodyText = some (Sample.request 5) := by decide +kernel
  have asks := textChat_asks kind parsed (by decide) "chat_server1" 2
  have reads : ReadsBack (Sample.relayLib (Sample.numbered 5) (Sample.request 5)) (Sample.request 5).toNotify.toJson :=
    Sample.externals_readsBack (by decide +kernel)
  obtain ⟨_, _, relays⟩ := relayed_text_fits _ _ _ 2 _ (Sample.request 5) asks kind parsed reads
  exact ⟨_, 2, _, asks, relays.mpr (by decide +kernel)⟩

theorem relayed_text_is_lost : ¬ ∀ (lib : JsonLib) (msg : MsgNode) (told : Ledger) (target : Addr) (message : ChannelMessage)
    (request : TextChatMsgRequest), AsksFor lib msg told (.deliver target message) →
    MessageId.enumCast msg.id = some .textChatMsgReq → msg.body.length ≤ maxLength →
    parseJson lib TextChatMsgRequest.fromJson msg.bodyText = some request → ReadsBack lib request.toNotify.toJson →
    Relays lib message.msg request := by
  intro claim
  have kind : MessageId.enumCast Sample.exponentsFrame.id = some .textChatMsgReq := by
    rw [Sample.exponentsFrame, MsgNode.ofText, ofCString_id]
    decide
  have body : Sample.exponentsFrame.body.length ≤ maxLength := by
    obtain ⟨size, bounded, body, _⟩ := ofText_body MessageId.textChatMsgReq.wire Sample.exponents_visible
    rw [Sample.exponentsFrame, body, List.length_take]
    exact (Nat.min_le_left _ _).trans bounded
  have asks := textChat_asks kind Sample.exponents_parsed (by decide) "chat_server1" 2
  have relays := claim _ _ _ 2 _ _ asks kind body Sample.exponents_parsed Sample.exponents_readsBack
  have small := (relays_iff _ _ Sample.exponents_readsBack).mp relays
  have large : ¬ relaySize Sample.exponentsRequest ≤ maxLength := by decide +kernel
  exact large small

end ChatProof
