import ChatProject.Cluster.Stores
import ChatProject.Server.Step

namespace ChatModel

inductive Side where
  | one
  | two
deriving DecidableEq, Repr

def Side.other : Side → Side
  | one => two
  | two => one

/-- Where the call of a blocked thread is: on its way to the peer, a task of the peer's
    `io_context`, or finished by the peer. -/
inductive Call where
  | idle
  | sent (request : NotifyRequest)
  | queued
  | answered

/-- The call when the peer has these tasks left: a task that it waits for is the last one, and those
    before it are of callers who have given up. -/
def Call.served : Call → List NotifyRequest → Call
  | .queued, [] => .answered
  | call, _ => call

/-- What happened, as seen by somebody who sees everything. -/
inductive Record where
  | executed (side : Side) (addr : Addr) (readMsg : MsgNode) (told : Ledger) (op : Op) (outcome : Outcome)
      (before : Tables)
  | logged (side : Side) (event : Event)

/-- Two chat servers, each the other's peer, and the stores they share. -/
structure Cluster where
  server : Side → ChatServer
  call : Side → Call := fun _ => .idle
  stores : Stores
  history : List Record := []

inductive ClusterAct where
  | own (side : Side) (act : Act)
  | exec (side : Side) (addr : Addr) (outcome : Outcome)
  | arrive (side : Side)
  | runTask (side : Side)
  | finish (side : Side)
  | fail (side : Side)
  | tick (seconds : Nat)

namespace ChatServer

/-- The request that the blocked thread has just made. -/
def outgoing (server : ChatServer) : Option NotifyRequest :=
  match server.blocked with
  | some addr =>
    match (server.session addr).reader with
    | .calling _ _ request _ => some request
    | _ => none
  | none => none

end ChatServer

/-- Steps that involve nobody but the server and its clients. -/
def Act.isOwn : Act → Bool
  | .answer _ _ | .returned _ | .arrive _ | .runTask => false
  | _ => true

namespace Cluster

def start (stores : Stores) (name : Side → String) : Cluster :=
  { server := fun side => .fresh (name side), stores }

def setCall (side : Side) (call : Call) (cluster : Cluster) : Cluster :=
  { cluster with call := fun other => if other = side then call else cluster.call other }

/-- The server of this side after a step, with what it adds to the history and the call it may have made. -/
def setServer (side : Side) (after : ChatServer) (cluster : Cluster) : Cluster :=
  let fresh := after.log.take (after.log.length - (cluster.server side).log.length)
  let call := match cluster.call side, after.outgoing with
    | .idle, some request => .sent request
    | call, _ => call
  { cluster.setCall side call with
    server := fun other => if other = side then after else cluster.server other
    history := fresh.map (.logged side) ++ cluster.history }

/-- A step of the server of one side. -/
def serverStep (externals : Externals) (side : Side) (act : Act) (cluster : Cluster) : Option Cluster :=
  ((cluster.server side).step externals.lib act).map fun after => cluster.setServer side after

def exec (externals : Externals) (side : Side) (addr : Addr) (outcome : Outcome) (cluster : Cluster) :
    Option Cluster :=
  match ((cluster.server side).session addr).reader with
  | .waiting readMsg told op _ =>
    (cluster.serverStep externals side
      (.answer addr fun op => (cluster.stores.exec externals outcome op).1)).map fun after =>
        { after with
          stores := (cluster.stores.exec externals outcome op).2
          history := .executed side addr readMsg told op outcome cluster.stores.db :: after.history }
  | _ => none

def step (externals : Externals) (cluster : Cluster) : ClusterAct → Option Cluster
  | .own side act => if act.isOwn then cluster.serverStep externals side act else none
  | .exec side addr outcome => cluster.exec externals side addr outcome
  | .arrive side =>
    match cluster.call side with
    | .sent request => (cluster.setCall side .queued).serverStep externals side.other (.arrive request)
    | _ => none
  | .runTask side =>
    (cluster.serverStep externals side .runTask).map fun after =>
      after.setCall side.other ((cluster.call side.other).served (after.server side).tasks)
  | .finish side =>
    match cluster.call side with
    | .answered => (cluster.setCall side .idle).serverStep externals side (.returned (some 0))
    | _ => none
  | .fail side =>
    -- the status is not OK, whether or not the request was executed
    match cluster.call side with
    | .idle => none
    | _ => (cluster.setCall side .idle).serverStep externals side (.returned none)
  | .tick seconds =>
    some { cluster with stores := { cluster.stores with redis := cluster.stores.redis.tick seconds } }

end Cluster

end ChatModel
