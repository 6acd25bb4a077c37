import ChatProject.Cluster.Fleet
import ChatProject.Gate.Login
import ChatProject.Status.StatusServer
import ChatProject.Verify.VerifyService

/-! The gate server, the verification service, the status server and the chat servers, with the Redis and the MySQL
    that they share. -/

namespace ChatModel

/-- The Redis is the one of the chat servers, the table of the users is the one of the gate server. The last field
    says for which users a password check has passed. -/
structure World (deployment : Deployment) (weight : Collation) where
  fleet : Fleet deployment.Member
  gate : GateSystem weight
  verify : VerifyServer := {}
  status : StatusServer := {}
  passed : List Int32 := []

inductive WorldAct (Member : Type) where
  | chat (act : FleetAct Member)
  | gate (act : GateAct)
  | login (id : Nat) (body : Bytes) (checking : MysqlOutcome)
  | verify (act : VerifyAct)
  | status (act : StatusAct)
  | tick (seconds : Nat)

namespace World

variable {deployment : Deployment} {weight : Collation}

def redis (world : World deployment weight) : Redis := world.fleet.stores.redis

def setRedis (redis : Redis) (world : World deployment weight) : World deployment weight :=
  { world with fleet := { world.fleet with stores := { world.fleet.stores with redis } } }

/-- The gate server after a request; the chat servers see its table. -/
def setGate (gate : GateSystem weight) (world : World deployment weight) : World deployment weight :=
  let db := { world.fleet.stores.db with user := ⟨gate.users.rows, gate.users.primary⟩ }
  { world with gate, fleet := { world.fleet with stores := { world.fleet.stores with db } } }

/-- Nothing is in Redis yet, and all servers have just been started. -/
def start (deployment : Deployment) (users : UserTable weight) (db : Tables) : World deployment weight :=
  { fleet := .start deployment { db := { db with user := ⟨users.rows, users.primary⟩ } }, gate := { redis := {}, users } }

def step (externals : Externals) (network : Network) (world : World deployment weight) :
    WorldAct deployment.Member → Option (World deployment weight)
  -- there is nobody else
  | .chat (.others _) => none
  | .chat act => (world.fleet.step externals network act).map fun fleet => { world with fleet }
  | .gate (.others _) | .gate (.userLogin _ _) => none
  | .gate act => ({ world.gate with redis := world.redis }.step externals.lib act).map world.setGate
  | .login id body checking =>
    match world.status.call id, Gate.userLogin externals.lib body checking world.gate.users with
    | none, .call request _ =>
      some { world with status := world.status.receive id request, passed := request.uid :: world.passed }
    | none, _ => some world
    | some _, _ => none
  | .verify act =>
    (world.verify.step world.redis act).map fun (verify, redis) => { world.setRedis redis with verify }
  | .status act =>
    (world.status.step deployment.status.chatServers world.redis act).map fun (status, redis) =>
      { world.setRedis redis with status }
  | .tick seconds => some (world.setRedis (world.redis.tick seconds))

end World

end ChatModel
