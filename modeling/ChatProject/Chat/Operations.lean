import ChatProject.Library.Coroutine
import ChatProject.Message.Node
import ChatProject.Chat.Requests

namespace ChatModel

structure ChannelMessage where
  msg : MsgNode
  closeAfterSend : Bool := false

/-- Where a session lives. The registry is a set of pointers, kept in the order of this number. -/
abbrev Addr := Nat

inductive UserKey where
  | uid (uid : Int64)
  | name (name : String)
deriving DecidableEq, Repr

/-- A call of one of the three RPCs of `ChatService`. -/
inductive NotifyRequest where
  | addFriend (request : AddFriendReq)
  | authFriend (request : AuthFriendReq)
  | textChat (request : ProtoTextChatMsgReq)
deriving DecidableEq, Repr

/-- What a handler asks of its surroundings: of Redis, of MySQL, of the peer, and of its own
    session and server. -/
inductive Op where
  | redisGet (key : String)
  | redisSet (key value : String)
  | redisHset (key field : String) (value : Int64)
  | getUserInfo (key : UserKey)
  | addFriendApply (fromUid toUid : Int64)
  | authFriendApply (fromUid toUid : Int64)
  | getFriendApplies (toUid : Int64)
  | getFriends (selfId : Int64)
  | notify (request : NotifyRequest)
  | uid
  | setUid (uid : Int64)
  | isAuthenticated
  | markAuthenticated
  | serverName
  | participantCount
  | getParticipant (uid : Int64)
  | deliver (target : Addr) (msg : ChannelMessage)

namespace Op

/-- A MySQL call may throw; a notification answers with the error number of its response, if there is one. -/
abbrev Res : Op → Type
  | redisGet _ => Option String
  | redisSet _ _ => Bool
  | redisHset _ _ _ => Int
  | getUserInfo _ => Except Failure (Option UserInfo)
  | addFriendApply _ _ | authFriendApply _ _ => Except Failure Unit
  | getFriendApplies _ => Except Failure (List FriendApplyInfo)
  | getFriends _ => Except Failure (List FriendInfo)
  | notify _ => Option Int32
  | uid => Int64
  | setUid _ | markAuthenticated | deliver _ _ => Unit
  | isAuthenticated => Bool
  | serverName => String
  | participantCount => Nat
  | getParticipant _ => Option Addr

/-- The calls that a handler has to wait for. -/
def isExternal : Op → Bool
  | redisGet _ | redisSet _ _ | redisHset _ _ _ | getUserInfo _ | addFriendApply _ _ | authFriendApply _ _
  | getFriendApplies _ | getFriends _ | notify _ => true
  | _ => false

end Op

/-- The calls a handler has made, the newest first, with their answers. -/
abbrev Ledger := List ((op : Op) × op.Res)

abbrev Awaitable (α : Type) := Coroutine Op Op.Res Failure α

namespace Awaitable

def perform (op : Op) : Awaitable op.Res := Coroutine.perform op

/-- A call whose exception ends the handler. -/
def attempt {α : Type} (call : Awaitable (Except Failure α)) : Awaitable α := call.bind Coroutine.ofExcept

end Awaitable

/-! ## Responses -/

def emptyResponse (id : UInt32) : ChannelMessage := { msg := MsgNode.ofNull id }

def errorDocument (error : ServerError) : Json Int :=
  (Json.null.set "error" (.num (error.code : Int))).set "message" (.str error.name)

def messageResponse (responseId : UInt32) : ChannelMessage :=
  { msg := MsgNode.ofText responseId (errorDocument .success).dump }

def errorResponse (responseId : UInt32) (error : ServerError) : ChannelMessage :=
  { msg := MsgNode.ofText responseId (errorDocument error).dump }

def errorResponseAndClose (responseId : UInt32) (error : ServerError) : ChannelMessage :=
  { errorResponse responseId error with closeAfterSend := true }

example : (errorDocument .invalidJson).dump = "\x7b\"error\":1001,\"message\":\"InvalidJson\"\x7d" := by
  decide +kernel

def responsePayload (body : Json Int) : Json Int :=
  ((Json.null.set "status" (.num 0)).set "message" (.str "")).set "data" body

end ChatModel
