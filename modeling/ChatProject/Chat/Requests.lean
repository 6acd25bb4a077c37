import ChatProject.Library.Json
import ChatProject.Store.Tables

namespace ChatModel

/-! ## Documents as they are parsed -/

/-- A parsed number, `float m e` being `m * 2 ^ e`. -/
inductive Number where
  | int (value : Int)
  | float (mantissa exponent : Int)
deriving DecidableEq, Repr

namespace Number

def truncate (mantissa exponent : Int) : Int :=
  if 0 ≤ exponent then mantissa * 2 ^ exponent.toNat else mantissa.tdiv (2 ^ (-exponent).toNat)

/-- `get<int64_t>()`: an integer keeps its low 64 bits, a float outside the range becomes the least number. -/
def toInt64 : Number → Int64
  | int value => Int64.ofInt value
  | float mantissa exponent =>
    let value := truncate mantissa exponent
    if Int64.minValue.toInt ≤ value ∧ value ≤ Int64.maxValue.toInt then Int64.ofInt value else Int64.minValue

end Number

/-- The two JSON parsers: `nlohmann::json::parse`, and `boost::json` for a stored `UserInfo`. -/
structure JsonLib where
  parse : Bytes → Option (Json Number)
  parseUserInfo : String → Option UserInfo

def int64Field (name : String) (document : Json Number) : Option Int64 :=
  match document.field? name with
  | some (.num value) => some value.toInt64
  | _ => none

def stringField (name : String) (document : Json Number) : Option String :=
  (document.field? name).bind Json.string?

def int64 (n : Int64) : Json Int := .num n.toInt

/-! ## Requests -/

structure UserLoginRequest where
  uid : Int64
  token : String
deriving DecidableEq, Repr

structure AddFriendRequest where
  uid : Int64 := 0
  touid : Int64 := 0
deriving DecidableEq, Repr

structure AuthFriendRequest where
  fromuid : Int64
  touid : Int64
deriving DecidableEq, Repr

structure TextChatData where
  msgid : Int64
  content : String
deriving DecidableEq, Repr

structure TextChatMsgRequest where
  fromuid : Int64 := 0
  touid : Int64 := 0
  textArray : List TextChatData := []
deriving DecidableEq, Repr

def UserLoginRequest.fromJson (document : Json Number) : Option UserLoginRequest :=
  match int64Field "uid" document, stringField "token" document with
  | some uid, some token => some { uid, token }
  | _, _ => none

def AddFriendRequest.fromJson (document : Json Number) : Option AddFriendRequest :=
  match int64Field "uid" document, int64Field "touid" document with
  | some uid, some touid => some { uid, touid }
  | _, _ => none

def AuthFriendRequest.fromJson (document : Json Number) : Option AuthFriendRequest :=
  match int64Field "fromuid" document, int64Field "touid" document with
  | some fromuid, some touid => some { fromuid, touid }
  | _, _ => none

def TextChatData.fromJson (document : Json Number) : Option TextChatData :=
  match int64Field "msgid" document, stringField "content" document with
  | some msgid, some content => some { msgid, content }
  | _, _ => none

def TextChatMsgRequest.fromJson (document : Json Number) : Option TextChatMsgRequest :=
  match int64Field "fromuid" document, int64Field "touid" document,
    ((document.field? "text_array").bind Json.array?).bind (List.mapM TextChatData.fromJson) with
  | some fromuid, some touid, some textArray => some { fromuid, touid, textArray }
  | _, _, _ => none

/-- `nlohmann_parse_json<T>(msg.body())`. -/
def parseJson {T : Type} (lib : JsonLib) (fromJson : Json Number → Option T) (body : Bytes) : Option T :=
  (lib.parse body).bind fromJson

/-! ## Messages between the servers, whose numbers are `int32` -/

structure AddFriendReq where
  applyuid : Int32
  name : String
  touid : Int32
deriving DecidableEq, Repr

structure AuthFriendReq where
  fromuid : Int32
  touid : Int32
deriving DecidableEq, Repr

structure ProtoTextChatData where
  msgId : Int32
  msgcontent : String
deriving DecidableEq, Repr

structure ProtoTextChatMsgReq where
  fromuid : Int32
  touid : Int32
  textmsgs : List ProtoTextChatData
deriving DecidableEq, Repr

structure GrpcAddFriendRequest where
  fromUid : Int64
  name : String
  toUid : Int64

structure GrpcAuthFriendRequest where
  fromUid : Int64
  toUid : Int64

structure GrpcTextChatMsgRequest where
  fromUid : Int64
  toUid : Int64
  textArray : List TextChatData

def GrpcAddFriendRequest.toProto (request : GrpcAddFriendRequest) : AddFriendReq :=
  { applyuid := request.fromUid.toInt32, name := request.name, touid := request.toUid.toInt32 }

def GrpcAuthFriendRequest.toProto (request : GrpcAuthFriendRequest) : AuthFriendReq :=
  { fromuid := request.fromUid.toInt32, touid := request.toUid.toInt32 }

def GrpcTextChatMsgRequest.toProto (request : GrpcTextChatMsgRequest) : ProtoTextChatMsgReq :=
  { fromuid := request.fromUid.toInt32, touid := request.toUid.toInt32
    textmsgs := request.textArray.map fun text => { msgId := text.msgid.toInt32, msgcontent := text.content } }

/-! ## Notifications to a session -/

structure NotifyAddFriendMsg where
  applyuid : Int64 := 0
  name : String
deriving DecidableEq, Repr

structure NotifyAuthFriendMsg where
  fromuid : Int64 := 0
  touid : Int64 := 0
deriving DecidableEq, Repr

structure NotifyTextChatMessage where
  fromuid : Int64 := 0
  touid : Int64 := 0
  textArray : List TextChatData
deriving DecidableEq, Repr

def NotifyAddFriendMsg.ofProto (request : AddFriendReq) : NotifyAddFriendMsg :=
  { applyuid := request.applyuid.toInt64, name := request.name }

def NotifyAuthFriendMsg.ofProto (request : AuthFriendReq) : NotifyAuthFriendMsg :=
  { fromuid := request.fromuid.toInt64, touid := request.touid.toInt64 }

def NotifyTextChatMessage.ofProto (request : ProtoTextChatMsgReq) : NotifyTextChatMessage :=
  { fromuid := request.fromuid.toInt64, touid := request.touid.toInt64
    textArray := request.textmsgs.map fun msg => { msgid := msg.msgId.toInt64, content := msg.msgcontent } }

def AuthFriendRequest.toNotify (request : AuthFriendRequest) : NotifyAuthFriendMsg :=
  { fromuid := request.fromuid, touid := request.touid }

def TextChatMsgRequest.toNotify (request : TextChatMsgRequest) : NotifyTextChatMessage :=
  { fromuid := request.fromuid, touid := request.touid, textArray := request.textArray }

def TextChatMsgRequest.toGrpc (request : TextChatMsgRequest) : GrpcTextChatMsgRequest :=
  { fromUid := request.fromuid, toUid := request.touid, textArray := request.textArray }

/-! ## Documents as they are built -/

def TextChatData.toJson (text : TextChatData) : Json Int :=
  ((Json.null.set "msgid" (int64 text.msgid)).set "content" (.str text.content))

def NotifyAddFriendMsg.toJson (notify : NotifyAddFriendMsg) : Json Int :=
  (Json.null.set "applyuid" (int64 notify.applyuid)).set "name" (.str notify.name)

def NotifyAuthFriendMsg.toJson (notify : NotifyAuthFriendMsg) : Json Int :=
  (Json.null.set "fromuid" (int64 notify.fromuid)).set "touid" (int64 notify.touid)

def NotifyTextChatMessage.toJson (notify : NotifyTextChatMessage) : Json Int :=
  ((Json.null.set "fromuid" (int64 notify.fromuid)).set "touid" (int64 notify.touid)).set "text_array"
    (.arr (notify.textArray.map TextChatData.toJson))

def UserDetail.toJson (detail : UserDetail) : Json Int :=
  (Json.null.set "id" (int64 detail.id)).set "name" (.str detail.name)

def FriendApplyInfo.toJson (info : FriendApplyInfo) : Json Int :=
  info.userDetail.toJson.set "status" (.num info.status.toInt)

def FriendInfo.toJson (info : FriendInfo) : Json Int :=
  info.userDetail.toJson.set "back" (.str info.back)

structure UserLoginResponse where
  uid : Int64
  token : String
  name : String
  applyList : List FriendApplyInfo
  friendList : List FriendInfo

def UserLoginResponse.toJson (response : UserLoginResponse) : Json Int :=
  ((((Json.null.set "uid" (int64 response.uid)).set "token" (.str response.token)).set "name"
    (.str response.name)).set "apply_list" (.arr (response.applyList.map FriendApplyInfo.toJson))).set
      "friend_list" (.arr (response.friendList.map FriendInfo.toJson))

/-- `boost::json::value_from(user_info)`, which keeps the order of the members. -/
def UserInfo.toJson (info : UserInfo) : Json Int :=
  .obj [("id", int64 info.id), ("name", .str info.name), ("email", .str info.email), ("pwd", .str info.pwd)]

end ChatModel
