import ChatProject.Cluster.Stores
import ChatProject.Gate.Login
import ChatProject.Chat.Handlers

/-! The accounts of the users, with one request after the other: the gate server changes the table `user`, a chat
    server reads it through its cache in Redis. -/

namespace ChatModel

/-- What a request finds around it: how its calls of the stores end, and the answers of its session and server. -/
structure Surroundings where
  outcome : Op → Outcome
  answer : (op : Op) → op.Res

def Surroundings.exec (externals : Externals) (around : Surroundings) (op : Op) (stores : Stores) : op.Res × Stores :=
  if op.isExternal then stores.exec externals (around.outcome op) op else (around.answer op, stores)

/-- Names are compared by the collation of the column. -/
def externalsOf (lib : JsonLib) (weight : Collation) : Externals :=
  { lib, sameName := fun name other => weight name = weight other }

structure AccountSystem (weight : Collation) where
  gate : GateSystem weight
  db : Tables := {}

inductive AccountAct where
  | gate (act : GateAct)
  | searchUser (msg : MsgNode) (around : Surroundings)
  | login (msg : MsgNode) (around : Surroundings)
  | tick (seconds : Nat)

namespace AccountSystem

variable {weight : Collation}

/-- The stores as a chat server sees them. -/
def stores (system : AccountSystem weight) : Stores :=
  { redis := system.gate.redis
    db := { system.db with user := ⟨system.gate.users.rows, system.gate.users.primary⟩ } }

def setRedis (redis : Redis) (system : AccountSystem weight) : AccountSystem weight :=
  { system with gate := { system.gate with redis } }

/-- A request of a chat server, from its first call to its end. -/
def serve {α : Type} (lib : JsonLib) (around : Surroundings) (handler : Awaitable α) (system : AccountSystem weight) :
    Except Failure α × AccountSystem weight :=
  let (result, stores) := handler.run (around.exec (externalsOf lib weight)) system.stores
  (result, { system.setRedis stores.redis with db := stores.db })

def step (lib : JsonLib) (system : AccountSystem weight) : AccountAct → Option (AccountSystem weight)
  -- there is nobody else
  | .gate (.others _) => none
  | .gate act => (system.gate.step lib act).map fun gate => { system with gate }
  | .searchUser msg around => some (system.serve lib around (searchUser lib msg)).2
  | .login msg around => some (system.serve lib around (login lib msg)).2
  | .tick seconds => some (system.setRedis (system.gate.redis.tick seconds))

/-- The row of the user, as MySQL would return it. -/
def current (system : AccountSystem weight) : UserKey → Option UserInfo
  | .uid uid => system.stores.db.getUserInfoByUid uid
  | .name name => system.stores.db.getUserInfoByName (fun name other => weight name = weight other) name

end AccountSystem

end ChatModel
