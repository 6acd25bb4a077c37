import Mathlib

namespace ChatModel

inductive MessageId where
  | loginRequest
  | loginResponse
  | searchUserRequest
  | searchUserResponse
  | addFriendRequest
  | addFriendResponse
  | notifyAddFriend
  | authFriendRequest
  | authFriendResponse
  | notifyAuthFriend
  | textChatMsgReq
  | textChatMsgRsp
  | notifyTextChatMsg
  | invalidRequest
deriving DecidableEq, Repr

namespace MessageId

/-- The numbers of `enum class MessageId : uint16_t`. -/
def code : MessageId → UInt16
  | loginRequest => 1005
  | loginResponse => 1006
  | searchUserRequest => 1007
  | searchUserResponse => 1008
  | addFriendRequest => 1009
  | addFriendResponse => 1010
  | notifyAddFriend => 1011
  | authFriendRequest => 1013
  | authFriendResponse => 1014
  | notifyAuthFriend => 1015
  | textChatMsgReq => 1017
  | textChatMsgRsp => 1018
  | notifyTextChatMsg => 1019
  | invalidRequest => 1500

def all : List MessageId :=
  [loginRequest, loginResponse, searchUserRequest, searchUserResponse, addFriendRequest,
    addFriendResponse, notifyAddFriend, authFriendRequest, authFriendResponse, notifyAuthFriend,
    textChatMsgReq, textChatMsgRsp, notifyTextChatMsg, invalidRequest]

theorem mem_all (id : MessageId) : id ∈ all := by
  cases id <;> decide

theorem code_injective {first second : MessageId} (same : first.code = second.code) :
    first = second := by
  revert same
  cases first <;> cases second <;> decide

/-- `magic_enum::enum_cast<MessageId>`, whose argument is narrowed to the enum's 16 bits. -/
def enumCast (id : UInt32) : Option MessageId := all.find? fun message => message.code = id.toUInt16

theorem enumCast_eq_some {id : UInt32} {message : MessageId} :
    enumCast id = some message ↔ message.code = id.toUInt16 := by
  constructor
  · intro found
    simpa using List.find?_some found
  · intro same
    cases found : enumCast id with
    | none =>
      have absent := List.find?_eq_none.mp found message (mem_all message)
      simp [same] at absent
    | some other =>
      have reached : other.code = id.toUInt16 := by simpa using List.find?_some found
      rw [code_injective (reached.trans same.symm)]

/-- The id as it is put on the wire. -/
def wire (message : MessageId) : UInt32 := message.code.toUInt32

@[simp] theorem enumCast_wire (message : MessageId) : enumCast message.wire = some message := by
  rw [enumCast_eq_some]
  simp [wire]

def getResponseId : MessageId → MessageId
  | loginRequest => loginResponse
  | searchUserRequest => searchUserResponse
  | addFriendRequest => addFriendResponse
  | authFriendRequest => authFriendResponse
  | textChatMsgReq => textChatMsgRsp
  | _ => invalidRequest

end MessageId

inductive ServerError where
  | success
  | invalidJson
  | rpcFailed
  | verifyCodeExpired
  | verifyCodeErr
  | userExist
  | passwdError
  | emailNotMatch
  | passwdUpdateFailed
  | tokenInvalid
  | internalError
  | userNotFound
  | userUidInvalid
  | notAuthenticated
deriving DecidableEq, Repr

namespace ServerError

def code : ServerError → Nat
  | success => 0
  | invalidJson => 1001
  | rpcFailed => 1002
  | verifyCodeExpired => 1003
  | verifyCodeErr => 1004
  | userExist => 1005
  | passwdError => 1006
  | emailNotMatch => 1007
  | passwdUpdateFailed => 1008
  | tokenInvalid => 1009
  | internalError => 1010
  | userNotFound => 1011
  | userUidInvalid => 1012
  | notAuthenticated => 1013

/-- `magic_enum::enum_name`. The reflected range starts at 1001, so `Success` has no name. -/
def name : ServerError → String
  | success => ""
  | invalidJson => "InvalidJson"
  | rpcFailed => "RPCFailed"
  | verifyCodeExpired => "VerifyCodeExpired"
  | verifyCodeErr => "VerifyCodeErr"
  | userExist => "UserExist"
  | passwdError => "PasswdError"
  | emailNotMatch => "EmailNotMatch"
  | passwdUpdateFailed => "PasswdUpdateFailed"
  | tokenInvalid => "TokenInvalid"
  | internalError => "InternalError"
  | userNotFound => "UserNotFound"
  | userUidInvalid => "UserUidInvalid"
  | notAuthenticated => "NotAuthenticated"

theorem code_injective {first second : ServerError} (same : first.code = second.code) :
    first = second := by
  revert same
  cases first <;> cases second <;> decide

end ServerError

/-! ## Redis keys -/

def userLoginServerPrefix : String := "user_login_server_"
def userUidInfoPrefix : String := "user_uid_info_"
def userNameInfoPrefix : String := "user_name_info_"
def loginCountKey : String := "login_count"
def userTokenPrefix : String := "user_token_"

/-- `std::to_string` of a 64-bit number. -/
def toString64 (n : Int64) : String := n.toInt.repr

theorem toString64_injective {m n : Int64} (same : toString64 m = toString64 n) : m = n :=
  Int64.toInt_inj.mp (Int.repr_inj.mp same)

def userLoginServerKey (uid : Int64) : String := userLoginServerPrefix ++ toString64 uid
def userUidInfoKey (uid : Int64) : String := userUidInfoPrefix ++ toString64 uid
def userNameInfoKey (name : String) : String := userNameInfoPrefix ++ name
def userTokenKey (uid : Int64) : String := userTokenPrefix ++ toString64 uid

end ChatModel
