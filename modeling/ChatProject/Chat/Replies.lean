import ChatProject.Message.RoundTrip
import ChatProject.Chat.Operations

/-! What can be told from a reply. -/

namespace ChatProof

open ChatModel

def LoginSuccess (reply : ChannelMessage) : Prop := ∃ response : UserLoginResponse,
  reply = { msg := MsgNode.ofText MessageId.loginResponse.wire (responsePayload response.toJson).dump }

def CarriesError (reply : ChannelMessage) : Prop := ∃ responseId error,
  error ≠ .success ∧ reply.msg = (errorResponse responseId error).msg

theorem responsePayload_fields (body : Json Int) :
    responsePayload body = .obj [("data", body), ("message", .str ""), ("status", .num 0)] := by
  rfl

theorem responsePayload_third (body : Json Int) : (bytesOf (responsePayload body).dump)[2]? = some 100 := by
  rw [responsePayload_fields, Json.dump, bytesOf, String.toList_ofList]
  rfl

theorem errorDocument_third (error : ServerError) :
    (bytesOf (errorDocument error).dump)[2]? = some 101 := by
  cases error <;> decide +kernel

theorem errorDocument_small (error : ServerError) : (bytesOf (errorDocument error).dump).length ≤ maxLength := by
  cases error <;> decide +kernel

theorem userInfo_third (info : UserInfo) : (bytesOf info.toJson.dump)[2]? = some 105 := by
  rw [UserInfo.toJson, Json.dump, bytesOf, String.toList_ofList]
  rfl

/-- What the frame of a document has as its third character, if it has one. -/
theorem ofText_third {id : UInt32} {document : Json Int} {byte : UInt8}
    (found : (MsgNode.ofText id document.dump).bodyText[2]? = some byte) : (bytesOf document.dump)[2]? = some byte := by
  obtain ⟨size, cut, _⟩ := ofText_bodyText id (Json.dump_visible document)
  rw [cut, List.getElem?_take] at found
  split at found
  · exact found
  · cases found

theorem errorResponse_bodyText (id : UInt32) (error : ServerError) :
    (errorResponse id error).msg.bodyText = bytesOf (errorDocument error).dump := by
  obtain ⟨enough, whole, all⟩ := ofText_bodyText id (Json.dump_visible (errorDocument error))
  rw [List.take_of_length_le (all (errorDocument_small error))] at whole
  exact whole

theorem errorResponse_third (id : UInt32) (error : ServerError) : (errorResponse id error).msg.bodyText[2]? = some 101 := by
  rw [errorResponse_bodyText]
  exact errorDocument_third error

/-- The first digit of the number of an error. -/
theorem errorDocument_digit (error : ServerError) :
    (bytesOf (errorDocument error).dump)[9]? = some (if error = .success then 48 else 49) := by
  cases error <;> decide +kernel

theorem not_carriesError_success (id : UInt32) : ¬ CarriesError (errorResponse id .success) := by
  rintro ⟨responseId, error, fails, same⟩
  have texts := congrArg (fun node : MsgNode => node.bodyText[9]?) same
  change (errorResponse id .success).msg.bodyText[9]? = (errorResponse responseId error).msg.bodyText[9]? at texts
  rw [errorResponse_bodyText, errorResponse_bodyText, errorDocument_digit, errorDocument_digit, if_neg fails] at texts
  exact absurd texts (by decide)

theorem not_carriesError_message (id : UInt32) : ¬ CarriesError (messageResponse id) := not_carriesError_success id

/-- An error can be told from any document that differs in the third character, however much of it
    the frame has room for. -/
theorem not_carriesError_of_third {reply : ChannelMessage} {id : UInt32} {document : Json Int} {byte : UInt8}
    (built : reply.msg = MsgNode.ofText id document.dump) (third : (bytesOf document.dump)[2]? = some byte)
    (different : byte ≠ 101) : ¬ CarriesError reply := by
  rintro ⟨responseId, error, _, same⟩
  have heard : (MsgNode.ofText id document.dump).bodyText[2]? = some 101 := by
    rw [← built, same]
    exact errorResponse_third responseId error
  exact different (Option.some.inj (third.symm.trans (ofText_third heard)))

theorem not_carriesError_of_loginSuccess {reply : ChannelMessage} (success : LoginSuccess reply) :
    ¬ CarriesError reply := by
  obtain ⟨response, built⟩ := success
  apply not_carriesError_of_third _ (responsePayload_third response.toJson) (by decide)
  · exact MessageId.loginResponse.wire
  · rw [built]

theorem errorResponse_carriesError (responseId : UInt32) {error : ServerError} (fails : error ≠ .success) :
    CarriesError (errorResponse responseId error) := ⟨responseId, error, fails, rfl⟩

theorem errorResponseAndClose_carriesError (responseId : UInt32) {error : ServerError} (fails : error ≠ .success) :
    CarriesError (errorResponseAndClose responseId error) := ⟨responseId, error, fails, rfl⟩

end ChatProof
