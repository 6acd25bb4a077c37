import ChatProject.Library.OrderedMap
import ChatProject.Store.Redis

namespace ChatModel

structure ServerConfig where
  host : String
  port : Int32

/-- As `CreateChannel` and `AddListeningPort` get it. -/
def ServerConfig.target (config : ServerConfig) : String := config.host ++ ":" ++ toString config.port.toInt

structure ChatServerConfig where
  name : String
  host : String
  port : Int32
deriving DecidableEq

structure StatusConfig where
  chatServers : List ChatServerConfig

/-! ## The messages of `StatusService` -/

structure GetChatServerRequest where
  uid : Int32
deriving DecidableEq

structure GetChatServerResponse where
  error : Int32 := 0
  host : String := ""
  port : Int32 := 0
  token : String := ""
deriving DecidableEq

structure LoginRequest where
  uid : Int32
  token : String

structure LoginResponse where
  error : Int32 := 0
  uid : Int32 := 0
  token : String := ""
deriving DecidableEq

inductive GrpcErrorCode where
  | success
  | invalidUidOrToken
deriving DecidableEq

def GrpcErrorCode.code : GrpcErrorCode → Int32
  | success => 0
  | invalidUidOrToken => 1

namespace StatusService

/-- `std::string(UserTokenPrefix) + std::to_string(request->uid())`. -/
def tokenKey (uid : Int32) : String := userTokenPrefix ++ uid.toInt.repr

/-- Only whether there is a token under the key is looked at, not the token of the request. -/
def login (request : LoginRequest) (outcome : Outcome) (redis : Redis) : LoginResponse × Redis :=
  let (token, redis) := RedisClient.get (tokenKey request.uid) outcome redis
  match token with
  | none => ({ error := GrpcErrorCode.invalidUidOrToken.code }, redis)
  | some token => ({ error := GrpcErrorCode.success.code, uid := request.uid, token }, redis)

/-- The position and the count of every listed server. A name that is listed twice stands for the later
    position; the servers that Redis does not know have a count of zero. -/
def serverLoginCount (chatServers : List ChatServerConfig) (result : OrderedMap String Int64) :
    OrderedMap String (Nat × Int64) :=
  let listed := chatServers.zipIdx.foldl
    (fun counts (config, i) => counts.assign config.name (i, 0)) (OrderedMap.empty : OrderedMap String (Nat × Int64))
  result.entries.foldl (fun counts (key, value) => counts.modify key fun (i, _) => (i, value)) listed

/-- The loop over the map, with the index so far and the least count so far. -/
def leastLoaded (counts : List (String × Nat × Int64)) (best : Int32 × Int64) : Int32 × Int64 :=
  counts.foldl (fun (index, minValue) (_, i, count) =>
    -- `size_t` to `int`
    if count < minValue then (Int32.ofNat i, count) else (index, minValue)) best

def getServerIndex (chatServers : List ChatServerConfig) (result : OrderedMap String Int64) : Int32 :=
  let defaultIndex := 0
  if result.entries.isEmpty then defaultIndex
  else (leastLoaded (serverLoginCount chatServers result).entries (defaultIndex, Int64.maxValue)).1

/-- `chat_servers_[index]`, which is undefined outside the vector. -/
def serverAt (chatServers : List ChatServerConfig) (index : Int32) : Option ChatServerConfig :=
  if 0 ≤ index then chatServers[index.toInt.toNat]? else none

/-- The uuid is the one that the generator gives; the answer is `none` where it is undefined. -/
def getChatServer (chatServers : List ChatServerConfig) (uuid : String) (request : GetChatServerRequest)
    (counting setting : Outcome) (redis : Redis) : Option GetChatServerResponse × Redis :=
  let (fields, redis) := RedisClient.hgetall loginCountKey counting redis
  let index := getServerIndex chatServers (.ofList fields)
  let (stored, redis) := RedisClient.set (tokenKey request.uid) uuid setting redis
  if stored then
    ((serverAt chatServers index).map fun config => { host := config.host, port := config.port, token := uuid }, redis)
  else (some { error := 1 }, redis)

end StatusService

end ChatModel
