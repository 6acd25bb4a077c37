import ChatProject.Chat.Operations

namespace ChatModel

open Awaitable

namespace UserKey

def redisKey : UserKey → String
  | .uid number => userUidInfoKey number
  | .name text => userNameInfoKey text

end UserKey

/-- First Redis, then MySQL; the flag says that Redis had it. -/
def searchUserInfo (lib : JsonLib) (key : UserKey) : Awaitable (Option UserInfo × Bool) := do
  let cached ← perform (.redisGet key.redisKey)
  match cached.bind lib.parseUserInfo with
  | some userInfo => return (some userInfo, true)
  | none =>
    let stored ← attempt (perform (.getUserInfo key))
    return (stored, false)

def searchUserByType (lib : JsonLib) (key : UserKey) : Awaitable (Option UserInfo) := do
  let (result, isRedisExist) ← searchUserInfo lib key
  match result with
  | none => return none
  | some userInfo =>
    if isRedisExist then return some userInfo
    else
      let _ ← perform (.redisSet key.redisKey userInfo.toJson.dump)
      return some userInfo

def setUserLoginServer (uid : Int64) (serverName : String) : Awaitable Bool :=
  perform (.redisSet (userLoginServerKey uid) serverName)

def getUserLoginServer (uid : Int64) : Awaitable (Option String) := perform (.redisGet (userLoginServerKey uid))

def updateLoginCount : Awaitable Bool := do
  let name ← perform .serverName
  let count ← perform .participantCount
  let result ← perform (.redisHset loginCountKey name (Int64.ofNat count))
  return decide (0 ≤ result)

def login (lib : JsonLib) (msg : MsgNode) : Awaitable ChannelMessage := do
  let responseId := MessageId.loginResponse.wire
  match parseJson lib UserLoginRequest.fromJson msg.bodyText with
  | none => return errorResponseAndClose msg.id .invalidJson
  | some request =>
    let token ← perform (.redisGet (userTokenKey request.uid))
    match token with
    | none => return errorResponseAndClose responseId .tokenInvalid
    | some token =>
      if token ≠ request.token then return errorResponseAndClose responseId .tokenInvalid
      else
        let userInfo ← searchUserByType lib (.uid request.uid)
        match userInfo with
        | none => return errorResponseAndClose responseId .internalError
        | some userInfo =>
          -- a failure here is only logged
          let _ ← updateLoginCount
          perform (.setUid request.uid)
          perform .markAuthenticated
          let name ← perform .serverName
          let _ ← setUserLoginServer request.uid name
          let applyList ← attempt (perform (.getFriendApplies request.uid))
          let friendList ← attempt (perform (.getFriends request.uid))
          let response : UserLoginResponse :=
            { uid := request.uid, token, name := userInfo.name, applyList, friendList }
          return { msg := MsgNode.ofText responseId (responsePayload response.toJson).dump }

def searchUser (lib : JsonLib) (msg : MsgNode) : Awaitable ChannelMessage := do
  let responseId := MessageId.searchUserResponse.wire
  match lib.parse msg.bodyText with
  | none => return errorResponse responseId .invalidJson
  | some request =>
    let response ← match request.field? "uid", request.field? "name" with
      | some (.num uid), _ => searchUserByType lib (.uid uid.toInt64)
      | _, some (.str name) => searchUserByType lib (.name name)
      | _, _ => pure none
    match response with
    | some userInfo => return { msg := MsgNode.ofText responseId userInfo.toJson.dump }
    | none => return errorResponse responseId .userNotFound

/-- What the three notifying handlers do once they know on which server `touid` logged in. -/
def forward (msg : MsgNode) (responseId : UInt32) (touid : Int64) (targetLoginServer : String)
    (notify : MsgNode) (request : NotifyRequest) : Awaitable ChannelMessage := do
  let name ← perform .serverName
  if targetLoginServer = name then
    let targetSession ← perform (.getParticipant touid)
    match targetSession with
    | none => return errorResponse responseId .success
    | some session =>
      perform (.deliver session { msg := notify })
      return messageResponse responseId
  else
    let response ← perform (.notify request)
    if response ≠ some 0 then return errorResponse msg.id .rpcFailed
    else return messageResponse responseId

def addFriend (lib : JsonLib) (msg : MsgNode) : Awaitable ChannelMessage := do
  let responseId := MessageId.addFriendResponse.wire
  match parseJson lib AddFriendRequest.fromJson msg.bodyText with
  | none => return errorResponse responseId .invalidJson
  | some request =>
    let uid ← perform .uid
    if request.uid ≠ uid ∨ request.uid = request.touid then return errorResponse responseId .userUidInvalid
    else
      attempt (perform (.addFriendApply request.uid request.touid))
      let targetLoginServer ← getUserLoginServer request.touid
      match targetLoginServer with
      | none => return errorResponse responseId .success
      | some targetLoginServer =>
        let userInfo ← attempt (perform (.getUserInfo (.uid request.uid)))
        match userInfo with
        | none => return errorResponse responseId .internalError
        | some userInfo =>
          let notify : NotifyAddFriendMsg := { applyuid := request.uid, name := userInfo.name }
          let remote : GrpcAddFriendRequest :=
            { fromUid := request.uid, name := userInfo.name, toUid := request.touid }
          forward msg responseId request.touid targetLoginServer
            (MsgNode.ofText MessageId.notifyAddFriend.wire notify.toJson.dump) (.addFriend remote.toProto)

def authFriend (lib : JsonLib) (msg : MsgNode) : Awaitable ChannelMessage := do
  let responseId := MessageId.authFriendResponse.wire
  match parseJson lib AuthFriendRequest.fromJson msg.bodyText with
  | none => return errorResponse responseId .invalidJson
  | some request =>
    let uid ← perform .uid
    if request.fromuid ≠ uid ∨ request.fromuid = request.touid then
      return errorResponse responseId .userUidInvalid
    else
      attempt (perform (.authFriendApply request.fromuid request.touid))
      let targetLoginServer ← getUserLoginServer request.touid
      match targetLoginServer with
      | none => return errorResponse responseId .success
      | some targetLoginServer =>
        let remote : GrpcAuthFriendRequest := { fromUid := request.fromuid, toUid := request.touid }
        forward msg responseId request.touid targetLoginServer
          (MsgNode.ofText MessageId.notifyAuthFriend.wire request.toNotify.toJson.dump) (.authFriend remote.toProto)

def textChatMsg (lib : JsonLib) (msg : MsgNode) : Awaitable ChannelMessage := do
  let responseId := MessageId.textChatMsgRsp.wire
  match parseJson lib TextChatMsgRequest.fromJson msg.bodyText with
  | none => return errorResponse responseId .invalidJson
  | some request =>
    let uid ← perform .uid
    if request.fromuid ≠ uid ∨ request.fromuid = request.touid then
      return errorResponse responseId .userUidInvalid
    else
      let targetLoginServer ← getUserLoginServer request.touid
      match targetLoginServer with
      | none => return errorResponse responseId .success
      | some targetLoginServer =>
        forward msg responseId request.touid targetLoginServer
          (MsgNode.ofText MessageId.notifyTextChatMsg.wire request.toNotify.toJson.dump)
          (.textChat request.toGrpc.toProto)

/-- The table that `handlers_init` fills. -/
def handlers : MessageId → Option (JsonLib → MsgNode → Awaitable ChannelMessage)
  | .loginRequest => some login
  | .searchUserRequest => some searchUser
  | .addFriendRequest => some addFriend
  | .authFriendRequest => some authFriend
  | .textChatMsgReq => some textChatMsg
  | _ => none

def handleMessage (lib : JsonLib) (msg : MsgNode) : Awaitable ChannelMessage := do
  let isAuthenticated ← perform .isAuthenticated
  if isAuthenticated = false ∧ msg.id ≠ MessageId.loginRequest.wire then
    return errorResponseAndClose msg.id .notAuthenticated
  else
    match MessageId.enumCast msg.id with
    | none => return emptyResponse msg.id
    | some messageId =>
      match handlers messageId with
      | none => return emptyResponse msg.id
      | some handler =>
        (handler lib msg).catchWith fun _ =>
          .ret (errorResponse (MessageId.getResponseId messageId).wire .internalError)

/-- The frame that `notify_session` builds for a request of the peer, and whom it looks up. -/
def notifySession : NotifyRequest → Int64 × MsgNode
  | .addFriend request =>
    (request.touid.toInt64,
      MsgNode.ofText MessageId.notifyAddFriend.wire (NotifyAddFriendMsg.ofProto request).toJson.dump)
  | .authFriend request =>
    (request.touid.toInt64,
      MsgNode.ofText MessageId.notifyAuthFriend.wire (NotifyAuthFriendMsg.ofProto request).toJson.dump)
  | .textChat request =>
    (request.touid.toInt64,
      MsgNode.ofText MessageId.notifyTextChatMsg.wire (NotifyTextChatMessage.ofProto request).toJson.dump)

end ChatModel
