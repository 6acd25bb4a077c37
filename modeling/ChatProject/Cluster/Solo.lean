import ChatProject.Cluster.Stores
import ChatProject.Server.Step

namespace ChatModel

/-- The load that Redis knows of this server. -/
def Redis.loginCount (name : String) (redis : Redis) : Option Int64 :=
  ((redis.hgetall loginCountKey).find? fun entry => entry.1 = name).map (·.2)

/-- One chat server with its stores, which others use as well. -/
structure Solo where
  server : ChatServer
  stores : Stores

inductive SoloAct where
  | own (act : Act)
  | exec (addr : Addr) (outcome : Outcome)
  | others (stores : Stores)

namespace Solo

def start (name : String) (stores : Stores) : Solo := { server := .fresh name, stores }

def exec (externals : Externals) (addr : Addr) (outcome : Outcome) (solo : Solo) : Option Solo :=
  match (solo.server.session addr).reader with
  | .waiting _ _ op _ =>
    (solo.server.step externals.lib (.answer addr fun op => (solo.stores.exec externals outcome op).1)).map fun server =>
      { server, stores := (solo.stores.exec externals outcome op).2 }
  | _ => none

/-- Nobody else writes the load of this server. -/
def step (externals : Externals) (solo : Solo) : SoloAct → Option Solo
  | .own (.answer _ _) => none
  | .own act => (solo.server.step externals.lib act).map fun server => { solo with server }
  | .exec addr outcome => solo.exec externals addr outcome
  | .others stores =>
    if stores.redis.loginCount solo.server.name = solo.stores.redis.loginCount solo.server.name then some { solo with stores }
    else none

end Solo

end ChatModel
