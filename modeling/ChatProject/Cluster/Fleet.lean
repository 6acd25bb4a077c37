import ChatProject.Cluster.Step
import ChatProject.Status.StatusService

namespace ChatModel

/-! ## Who is configured to talk to whom -/

structure ChatConfig where
  server : ChatServerConfig
  grpcServer : ServerConfig
  peerGrpcServer : ServerConfig

/-- The chat servers that the status server lists, each with the configuration that it is started with. -/
structure Deployment where
  status : StatusConfig
  config : Fin status.chatServers.length → ChatConfig
  listed : ∀ member, (config member).server = status.chatServers[member]

/-- Whether a channel to the one address leads to somebody who listens on the other. -/
abbrev Network := String → String → Bool

namespace Deployment

abbrev Member (deployment : Deployment) := Fin deployment.status.chatServers.length

variable (deployment : Deployment)

def name (member : deployment.Member) : String := (deployment.config member).server.name

/-- The one channel of this member for notifications leads to that one. -/
def links (network : Network) (member peer : deployment.Member) : Bool :=
  network (deployment.config member).peerGrpcServer.target (deployment.config peer).grpcServer.target

end Deployment

/-! ## All servers together -/

/-- Where the call of a blocked thread is, as in a pair of servers, but for the peer that has it. -/
inductive Rpc (Member : Type) where
  | idle
  | sent (request : NotifyRequest)
  | queued (peer : Member) (request : NotifyRequest)
  | answered

/-- Any number of chat servers, the stores they share, and which notifications each has processed. -/
structure Fleet (Member : Type) where
  server : Member → ChatServer
  rpc : Member → Rpc Member
  stores : Stores
  processed : List (Member × NotifyRequest) := []

/-- The task of a caller who has given up is nobody's. -/
inductive FleetAct (Member : Type) where
  | own (member : Member) (act : Act)
  | exec (member : Member) (addr : Addr) (outcome : Outcome)
  | arrive (member peer : Member)
  | runTask (peer : Member) (caller : Option Member)
  | finish (member : Member)
  | fail (member : Member)
  | others (stores : Stores)

namespace Fleet

section Members

variable {Member : Type} [DecidableEq Member]

def setRpc (member : Member) (rpc : Rpc Member) (fleet : Fleet Member) : Fleet Member :=
  { fleet with rpc := Function.update fleet.rpc member rpc }

/-- The member after a step, with the call that it may have made. -/
def setServer (member : Member) (after : ChatServer) (fleet : Fleet Member) : Fleet Member :=
  let rpc := match fleet.rpc member, after.outgoing with
    | .idle, some request => .sent request
    | rpc, _ => rpc
  { fleet.setRpc member rpc with server := Function.update fleet.server member after }

def serverStep (externals : Externals) (member : Member) (act : Act) (fleet : Fleet Member) : Option (Fleet Member) :=
  ((fleet.server member).step externals.lib act).map fun after => fleet.setServer member after

/-- The caller, if there is one, waits for this task of the peer. -/
def awaits (fleet : Fleet Member) (peer : Member) (request : NotifyRequest) : Option Member → Bool
  | none => true
  | some caller =>
    match fleet.rpc caller with
    | .queued other sent => other = peer && sent = request
    | _ => false

def answerCaller (caller : Option Member) (fleet : Fleet Member) : Fleet Member :=
  match caller with
  | some member => fleet.setRpc member .answered
  | none => fleet

end Members

variable {deployment : Deployment}

def start (deployment : Deployment) (stores : Stores) : Fleet deployment.Member :=
  { server := fun member => .fresh (deployment.name member), rpc := fun _ => .idle, stores }

def step (externals : Externals) (network : Network) (fleet : Fleet deployment.Member) :
    FleetAct deployment.Member → Option (Fleet deployment.Member)
  | .own member act => if act.isOwn then fleet.serverStep externals member act else none
  | .exec member addr outcome =>
    match ((fleet.server member).session addr).reader with
    | .waiting _ _ op _ =>
      (fleet.serverStep externals member (.answer addr fun op => (fleet.stores.exec externals outcome op).1)).map
        fun after => { after with stores := (fleet.stores.exec externals outcome op).2 }
    | _ => none
  | .arrive member peer =>
    match fleet.rpc member with
    | .sent request =>
      if deployment.links network member peer then
        (fleet.setRpc member (.queued peer request)).serverStep externals peer (.arrive request)
      else none
    | _ => none
  | .runTask peer caller =>
    match (fleet.server peer).tasks with
    | request :: _ =>
      if fleet.awaits peer request caller then
        (fleet.serverStep externals peer .runTask).map fun after =>
          { after.answerCaller caller with processed := (peer, request) :: after.processed }
      else none
    | [] => none
  | .finish member =>
    match fleet.rpc member with
    | .answered => (fleet.setRpc member .idle).serverStep externals member (.returned (some 0))
    | _ => none
  | .fail member =>
    -- the status is not OK, whether or not the request was executed
    match fleet.rpc member with
    | .idle => none
    | _ => (fleet.setRpc member .idle).serverStep externals member (.returned none)
  -- the other programs that use the stores
  | .others stores => some { fleet with stores }

end Fleet

end ChatModel
