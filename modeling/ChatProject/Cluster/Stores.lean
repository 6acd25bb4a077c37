import ChatProject.Store.Redis
import ChatProject.Chat.Operations

namespace ChatModel

/-- Redis and MySQL, which all servers share. -/
structure Stores where
  redis : Redis := {}
  db : Tables := {}

/-- What a server calls and is not part of it: the JSON parsers, and the collation of a user's name. -/
structure Externals where
  lib : JsonLib
  sameName : String → String → Bool

namespace Stores

def onRedis {α : Type} (stores : Stores) (result : α × Redis) : α × Stores :=
  (result.1, { stores with redis := result.2 })

/-- A MySQL statement throws when it is refused and when its answer is lost. -/
def onTables {α : Type} (outcome : Outcome) (stores : Stores) (done : α × Tables) : Except Failure α × Stores :=
  let (answer, db) := outcome.settle (.ok done.1, done.2) (.error .mysql) stores.db
  (answer, { stores with db })

def addFriendApply (outcome : Outcome) (fromUid toUid : Int64) (stores : Stores) : Except Failure Unit × Stores :=
  match stores.db.addFriendApply fromUid toUid with
  | .ok db => stores.onTables outcome ((), db)
  | .error failure => (.error failure, stores)

/-- The answer to a call, and the stores after it. Calls on the server itself never get here. -/
def exec (externals : Externals) (outcome : Outcome) : (op : Op) → Stores → op.Res × Stores
  | .redisGet key, stores => stores.onRedis (RedisClient.get key outcome stores.redis)
  | .redisSet key value, stores => stores.onRedis (RedisClient.set key value outcome stores.redis)
  | .redisHset key field value, stores => stores.onRedis (RedisClient.hset key field value outcome stores.redis)
  | .getUserInfo (.uid uid), stores => stores.onTables outcome (stores.db.getUserInfoByUid uid, stores.db)
  | .getUserInfo (.name name), stores =>
    stores.onTables outcome (stores.db.getUserInfoByName externals.sameName name, stores.db)
  | .addFriendApply fromUid toUid, stores => stores.addFriendApply outcome fromUid toUid
  | .authFriendApply fromUid toUid, stores =>
    stores.onTables outcome ((), stores.db.authFriendApply fromUid toUid)
  | .getFriendApplies toUid, stores => stores.onTables outcome (stores.db.getFriendApplies toUid, stores.db)
  | .getFriends selfId, stores => stores.onTables outcome (stores.db.getFriends selfId, stores.db)
  | .notify _, stores => (none, stores)
  | .uid, stores => (0, stores)
  | .setUid _, stores => ((), stores)
  | .isAuthenticated, stores => (false, stores)
  | .markAuthenticated, stores => ((), stores)
  | .serverName, stores => ("", stores)
  | .participantCount, stores => (0, stores)
  | .getParticipant _, stores => (none, stores)
  | .deliver _ _, stores => ((), stores)

end Stores

end ChatModel
