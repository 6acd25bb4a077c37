import ChatProject.Chat.Routing
import ChatProject.Cluster.Deliveries
import ChatProject.Cluster.Fleet

/-! Which server a notification goes to, among any number of them. -/

namespace ChatProof

open ChatModel

/-! ## The handlers of one server in its own steps -/

section Own

variable {lib : JsonLib} {good : Addr → MsgNode → Ledger → Awaitable ChannelMessage → Prop} {server after : ChatServer} {home : String}

/-- While the thread is blocked, the clients go on sending, and nothing else. -/
theorem own_busy {act : Act} (own : act.isOwn = true) (taken : server.step lib act = some after) (busy : server.blocked ≠ none) :
    ∃ addr bytes, after = server.modify addr fun session => { session with incoming := session.incoming ++ bytes } := by
  cases act with
  | send addr bytes =>
    simp only [ChatServer.step] at taken
    split at taken <;> cases taken
    exact ⟨addr, bytes, rfl⟩
  | answer addr oracle => cases own
  | returned answer => cases own
  | arrive request => cases own
  | runTask => cases own
  | _ =>
    simp only [ChatServer.step, if_neg busy] at taken
    cases taken

section Named

variable (handed : ∀ addr readMsg, good addr readMsg [] (handleMessage lib readMsg))
  (keeps : ∀ addr readMsg server told op next answer after, server.name = home →
    ChatServer.execLocal addr op server = some (answer, after) → good addr readMsg told (.call op next) →
    good addr readMsg (⟨op, answer⟩ :: told) (next answer))
  (named : server.name = home)

include handed keeps named

/-- A server whose thread is free keeps what the answers of a server of this name keep. -/
theorem Handlers.free_step (free : server.blocked = none) {act : Act} (silent : ∀ addr oracle, act ≠ .answer addr oracle)
    (taken : server.step lib act = some after) (handlers : Handlers good server) : Handlers good after := by
  have rule : OwnRule lib (Handlers good) (fun _ => True) fun server => server.name = home ∧ server.blocked = none := by
    apply Handlers.rule_of
    intro server addr readMsg ledger rest ready known resumes handlers
    cases resumes with
    | handed idle reading =>
      have recorded : Handlers good (server.record (.handed addr readMsg)) := by
        apply handlers.record
        intro _ _ _ _ same
        cases same
      exact recorded.runHandler_of addr (Handlers.advance_named (keeps addr readMsg) _ known.1 (handed addr readMsg))
    | resumed idle reading =>
      have holds : good addr readMsg ledger rest := by
        apply handlers.suspended addr
        rw [reading]
        rfl
      exact handlers.runHandler_of addr (Handlers.advance_named (keeps addr readMsg) server known.1 holds)
    | returned answer blocked reading =>
      rw [known.2] at blocked
      cases blocked
  exact rule.step ⟨named, free⟩ silent (fun _ _ _ => trivial) taken handlers

theorem Handlers.own_step {act : Act} (own : act.isOwn = true) (taken : server.step lib act = some after)
    (handlers : Handlers good server) : Handlers good after := by
  by_cases free : server.blocked = none
  · apply handlers.free_step handed keeps named free _ taken
    intro addr oracle same
    rw [same] at own
    cases own
  · obtain ⟨addr, bytes, same⟩ := own_busy own taken free
    rw [same]
    exact handlers.sameReader addr rfl

end Named

/-- The handler whose call has returned goes on. -/
theorem Handlers.returned_step (keeps : ∀ addr readMsg server told op next answer after, server.name = home →
      ChatServer.execLocal addr op server = some (answer, after) → good addr readMsg told (.call op next) →
      good addr readMsg (⟨op, answer⟩ :: told) (next answer))
    (named : server.name = home) (addr : Addr) {readMsg : MsgNode} {told : Ledger} {request : NotifyRequest}
    (next : Option Int32 → Awaitable ChannelMessage) {answer : Option Int32}
    (holds : good addr readMsg (⟨.notify request, answer⟩ :: told) (next answer)) (handlers : Handlers good server) :
    Handlers good ({ server with blocked := none }.runHandler addr readMsg (⟨.notify request, answer⟩ :: told) (next answer)) := by
  have freed : Handlers good { server with blocked := none } := ⟨handlers.proper, handlers.suspended, handlers.replied⟩
  exact freed.runHandler_of addr (Handlers.advance_named (keeps addr readMsg) _ named holds)

end Own

/-! ## The steps of all servers -/

section Steps

variable {deployment : Deployment} {externals : Externals} {network : Network} {fleet after : Fleet deployment.Member}

theorem fleet_setServer_self (member : deployment.Member) (server : ChatServer) :
    (fleet.setServer member server).server member = server := Function.update_self _ _ _

theorem fleet_setServer_other {member other : deployment.Member} (different : other ≠ member) (server : ChatServer) :
    (fleet.setServer member server).server other = fleet.server other := Function.update_of_ne different _ _

theorem fleet_setServer_rpc_other {member other : deployment.Member} (different : other ≠ member) (server : ChatServer) :
    (fleet.setServer member server).rpc other = fleet.rpc other := Function.update_of_ne different _ _

/-- A call that is under way is not made again. -/
theorem fleet_setServer_rpc (fleet : Fleet deployment.Member) (member : deployment.Member) (server : ChatServer) :
    (fleet.setServer member server).rpc member = fleet.rpc member ∨
      fleet.rpc member = .idle ∧ ∃ request, server.outgoing = some request ∧ (fleet.setServer member server).rpc member = .sent request := by
  unfold Fleet.setServer Fleet.setRpc
  dsimp only
  rw [Function.update_self]
  cases rpc : fleet.rpc member with
  | idle =>
    cases outgoing : server.outgoing with
    | none => exact .inl rfl
    | some request => exact .inr ⟨rfl, request, rfl, rfl⟩
  | _ => exact .inl rfl

/-- Everything that a step of the servers can be. -/
inductive FleetSteps (externals : Externals) (network : Network) (fleet : Fleet deployment.Member) :
    FleetAct deployment.Member → Fleet deployment.Member → Prop
  | own {member : deployment.Member} {act : Act} {server : ChatServer} : act.isOwn = true →
      (fleet.server member).step externals.lib act = some server →
      FleetSteps externals network fleet (.own member act) (fleet.setServer member server)
  | exec {member : deployment.Member} {addr : Addr} {outcome : Outcome} {readMsg : MsgNode} {told : Ledger} {op : Op}
      {next : op.Res → Awaitable ChannelMessage} :
      ((fleet.server member).session addr).reader = .waiting readMsg told op next →
      FleetSteps externals network fleet (.exec member addr outcome)
        { fleet.setServer member ((fleet.server member).setReader addr
            (.resuming readMsg (⟨op, (fleet.stores.exec externals outcome op).1⟩ :: told)
              (next (fleet.stores.exec externals outcome op).1))) with
          stores := (fleet.stores.exec externals outcome op).2 }
  | arrive {member peer : deployment.Member} {request : NotifyRequest} : fleet.rpc member = .sent request →
      deployment.links network member peer = true →
      FleetSteps externals network fleet (.arrive member peer) ((fleet.setRpc member (.queued peer request)).setServer peer
        { fleet.server peer with tasks := (fleet.server peer).tasks ++ [request] })
  | runTask {peer : deployment.Member} {caller : Option deployment.Member} {request : NotifyRequest} {rest : List NotifyRequest} :
      (fleet.server peer).blocked = none → (fleet.server peer).tasks = request :: rest → (∀ member, caller = some member → fleet.rpc member = .queued peer request) →
      FleetSteps externals network fleet (.runTask peer caller)
        { (fleet.setServer peer ({ fleet.server peer with tasks := rest }.serveNotify request)).answerCaller caller with
          processed := (peer, request) :: fleet.processed }
  | returned {act : FleetAct deployment.Member} {member : deployment.Member} {addr : Addr} {answer : Option Int32} {readMsg : MsgNode}
      {told : Ledger} {request : NotifyRequest} {next : Option Int32 → Awaitable ChannelMessage} :
      (answer = some 0 → fleet.rpc member = .answered) → (fleet.server member).blocked = some addr →
      ((fleet.server member).session addr).reader = .calling readMsg told request next →
      FleetSteps externals network fleet act ((fleet.setRpc member .idle).setServer member
        ({ fleet.server member with blocked := none }.runHandler addr readMsg (⟨.notify request, answer⟩ :: told) (next answer)))
  | others (stores : Stores) : FleetSteps externals network fleet (.others stores) { fleet with stores }

theorem awaits_some {peer member : deployment.Member} {request : NotifyRequest}
    (awaits : fleet.awaits peer request (some member) = true) : fleet.rpc member = .queued peer request := by
  unfold Fleet.awaits at awaits
  dsimp only at awaits
  split at awaits
  · rename_i other sent queued
    rw [Bool.and_eq_true, decide_eq_true_eq, decide_eq_true_eq] at awaits
    rw [queued, awaits.1, awaits.2]
  · cases awaits

theorem fleet_serverStep {member : deployment.Member} {act : Act} (taken : fleet.serverStep externals member act = some after) :
    ∃ server, (fleet.server member).step externals.lib act = some server ∧ fleet.setServer member server = after :=
  Option.map_eq_some_iff.mp taken

theorem fleet_returned {member : deployment.Member} {act : FleetAct deployment.Member} {answer : Option Int32}
    (processed : answer = some 0 → fleet.rpc member = .answered)
    (taken : (fleet.setRpc member .idle).serverStep externals member (.returned answer) = some after) :
    FleetSteps externals network fleet act after := by
  obtain ⟨server, first, same⟩ := fleet_serverStep taken
  obtain ⟨addr, readMsg, told, request, next, blocked, reading, reached⟩ := step_returned first
  rw [← same, ← reached]
  exact .returned processed blocked reading

theorem fleet_steps {act : FleetAct deployment.Member} (taken : fleet.step externals network act = some after) :
    FleetSteps externals network fleet act after := by
  cases act with
  | own member act =>
    simp only [Fleet.step] at taken
    split at taken
    · rename_i own
      obtain ⟨server, first, same⟩ := fleet_serverStep taken
      rw [← same]
      exact .own own first
    · cases taken
  | exec member addr outcome =>
    simp only [Fleet.step] at taken
    split at taken
    · rename_i readMsg told op next reading
      obtain ⟨middle, first, same⟩ := Option.map_eq_some_iff.mp taken
      obtain ⟨server, answered, reached⟩ := fleet_serverStep first
      simp only [ChatServer.step, reading] at answered
      cases answered
      rw [← same, ← reached]
      exact .exec reading
    · cases taken
  | arrive member peer =>
    simp only [Fleet.step] at taken
    split at taken
    · rename_i request sent
      split at taken
      · rename_i linked
        obtain ⟨server, first, same⟩ := fleet_serverStep taken
        simp only [ChatServer.step] at first
        cases first
        rw [← same]
        exact .arrive sent linked
      · cases taken
    · cases taken
  | runTask peer caller =>
    simp only [Fleet.step] at taken
    split at taken
    · rename_i request rest tasks
      split at taken
      · rename_i awaits
        obtain ⟨middle, first, same⟩ := Option.map_eq_some_iff.mp taken
        obtain ⟨server, run, reached⟩ := fleet_serverStep first
        simp only [ChatServer.step] at run
        split at run
        · rename_i free
          simp only [ChatServer.threadStep, tasks] at run
          cases run
          rw [← same, ← reached]
          apply FleetSteps.runTask free tasks
          intro member here
          rw [here] at awaits
          exact awaits_some awaits
        · cases run
      · cases taken
    · cases taken
  | finish member =>
    simp only [Fleet.step] at taken
    split at taken
    · rename_i answered
      exact fleet_returned (fun _ => answered) taken
    · cases taken
  | fail member =>
    simp only [Fleet.step] at taken
    split at taken
    · cases taken
    · have lost : (none : Option Int32) = some 0 → fleet.rpc member = .answered := by
        intro zero
        cases zero
      exact fleet_returned lost taken
  | others stores =>
    cases taken
    exact .others stores

end Steps

/-! ## What the handlers of one server have heard -/

/-- The one channel of this server leads to a server of this name, and to no other. -/
def Leads (deployment : Deployment) (network : Network) (member : deployment.Member) (target : String) : Prop :=
  (∃ peer, deployment.links network member peer = true) ∧
    ∀ peer, deployment.links network member peer = true → deployment.name peer = target

instance (deployment : Deployment) (network : Network) (member : deployment.Member) (target : String) :
    Decidable (Leads deployment network member target) := inferInstanceAs (Decidable (_ ∧ _))

section Heard

variable {deployment : Deployment} (network : Network) (processed : List (deployment.Member × NotifyRequest))
  (member : deployment.Member)

/-- An answer that a handler of this server may have been given. -/
def Heard (msg : MsgNode) : (op : Op) × op.Res → Prop
  | ⟨.serverName, name⟩ => name = deployment.name member
  | ⟨.redisGet _, some target⟩ => IsNotifying msg → target ≠ deployment.name member → Leads deployment network member target
  | ⟨.notify request, some code⟩ => code = 0 → ∃ peer, deployment.links network member peer = true ∧ (peer, request) ∈ processed
  | _ => True

/-- Where the call of this server is, and which one it is. -/
def PendingCall : Rpc deployment.Member → Option NotifyRequest → Prop
  | .idle, _ => True
  | .sent request, outgoing => outgoing = some request
  | .queued peer request, outgoing => outgoing = some request ∧ deployment.links network member peer = true
  | .answered, outgoing => ∃ request peer, outgoing = some request ∧ deployment.links network member peer = true ∧
      (peer, request) ∈ processed

/-- One server, with its call. -/
structure SoundAt (lib : JsonLib) (server : ChatServer) (rpc : Rpc deployment.Member) : Prop where
  named : server.name = deployment.name member
  traced : Traced lib server
  waiting : Waiting server
  heard : Handlers (fun _ msg told _ => ∀ entry ∈ told, Heard network processed member msg entry) server
  pending : PendingCall network processed member rpc server.outgoing

variable {network processed member}

theorem Heard.mono {grown : List (deployment.Member × NotifyRequest)} (grows : ∀ entry ∈ processed, entry ∈ grown) {msg : MsgNode}
    {entry : (op : Op) × op.Res} (heard : Heard network processed member msg entry) : Heard network grown member msg entry := by
  obtain ⟨op, answer⟩ := entry
  cases op with
  | notify request =>
    cases answer with
    | none => trivial
    | some code =>
      intro success
      obtain ⟨peer, linked, done⟩ := heard success
      exact ⟨peer, linked, grows _ done⟩
  | redisGet key => cases answer <;> exact heard
  | _ => exact heard

/-- A server is asked for nothing but its name that matters here. -/
theorem heard_local {addr : Addr} {msg : MsgNode} {server after : ChatServer} {op : Op} {answer : op.Res}
    (named : server.name = deployment.name member) (answered : ChatServer.execLocal addr op server = some (answer, after)) :
    Heard network processed member msg ⟨op, answer⟩ := by
  cases op with
  | serverName =>
    cases answered
    exact named
  | redisGet key => cases answered
  | notify request => cases answered
  | _ => trivial

theorem heard_keeps (addr : Addr) (readMsg : MsgNode) (server : ChatServer) (told : Ledger) (op : Op)
    (_ : op.Res → Awaitable ChannelMessage) (answer : op.Res) (after : ChatServer) (named : server.name = deployment.name member)
    (answered : ChatServer.execLocal addr op server = some (answer, after))
    (before : ∀ entry ∈ told, Heard network processed member readMsg entry) :
    ∀ entry ∈ (⟨op, answer⟩ :: told : Ledger), Heard network processed member readMsg entry :=
  List.forall_mem_cons.mpr ⟨heard_local named answered, before⟩

theorem PendingCall.mono {grown : List (deployment.Member × NotifyRequest)} (grows : ∀ entry ∈ processed, entry ∈ grown)
    {rpc : Rpc deployment.Member} {outgoing : Option NotifyRequest} (pending : PendingCall network processed member rpc outgoing) :
    PendingCall network grown member rpc outgoing := by
  cases rpc with
  | answered =>
    obtain ⟨request, peer, calls, linked, done⟩ := pending
    exact ⟨request, peer, calls, linked, grows _ done⟩
  | _ => exact pending

/-- A server with a call under way is blocked. -/
theorem PendingCall.busy {server : ChatServer} {rpc : Rpc deployment.Member} (pending : PendingCall network processed member rpc server.outgoing)
    (away : rpc ≠ .idle) : server.blocked ≠ none := by
  intro free
  have silent : server.outgoing = none := by
    unfold ChatServer.outgoing
    rw [free]
  rw [silent] at pending
  cases rpc with
  | idle => exact away rfl
  | sent request => cases pending
  | queued peer request => cases pending.1
  | answered =>
    obtain ⟨_, _, calls, _⟩ := pending
    cases calls

theorem SoundAt.mono {grown : List (deployment.Member × NotifyRequest)} (grows : ∀ entry ∈ processed, entry ∈ grown) {lib : JsonLib}
    {server : ChatServer} {rpc : Rpc deployment.Member} (sound : SoundAt network processed member lib server rpc) :
    SoundAt network grown member lib server rpc :=
  ⟨sound.named, sound.traced, sound.waiting, sound.heard.mono fun _ _ _ _ all entry known => (all entry known).mono grows,
    sound.pending.mono grows⟩

theorem SoundAt.withRpc {lib : JsonLib} {server : ChatServer} {rpc other : Rpc deployment.Member}
    (sound : SoundAt network processed member lib server rpc) (pending : PendingCall network processed member other server.outgoing) :
    SoundAt network processed member lib server other := ⟨sound.named, sound.traced, sound.waiting, sound.heard, pending⟩

end Heard

/-! ## All servers -/

section Sound

variable {deployment : Deployment} {externals : Externals} {network : Network} {fleet after : Fleet deployment.Member}

def Sound (externals : Externals) (network : Network) (fleet : Fleet deployment.Member) : Prop :=
  ∀ member, SoundAt network fleet.processed member externals.lib (fleet.server member) (fleet.rpc member)

theorem Sound.start (externals : Externals) (network : Network) (stores : Stores) :
    Sound externals network (.start deployment stores) := fun member =>
  ⟨rfl, Traced.fresh externals.lib (deployment.name member), Waiting.of_free rfl, Handlers.fresh _ _, trivial⟩

theorem Sound.setRpc (sound : Sound externals network fleet) (member : deployment.Member) {rpc : Rpc deployment.Member}
    (pending : PendingCall network fleet.processed member rpc (fleet.server member).outgoing) :
    Sound externals network (fleet.setRpc member rpc) := by
  intro other
  by_cases here : other = member
  · subst here
    have same : (fleet.setRpc other rpc).rpc other = rpc := Function.update_self _ _ _
    rw [same]
    exact (sound other).withRpc pending
  · have same : (fleet.setRpc member rpc).rpc other = fleet.rpc other := Function.update_of_ne here _ _
    rw [same]
    exact sound other

/-- One server has made a step, which has not touched a call under way. -/
theorem Sound.setServer (sound : Sound externals network fleet) {member : deployment.Member} {server : ChatServer}
    (here : SoundAt network fleet.processed member externals.lib server .idle)
    (away : fleet.rpc member ≠ .idle → server.outgoing = (fleet.server member).outgoing) :
    Sound externals network (fleet.setServer member server) := by
  intro other
  by_cases same : other = member
  · subst same
    rw [fleet_setServer_self]
    apply here.withRpc
    rcases fleet_setServer_rpc fleet other server with kept | ⟨_, request, calls, sent⟩
    · rw [kept]
      by_cases idle : fleet.rpc other = .idle
      · rw [idle]
        trivial
      · rw [away idle]
        exact (sound other).pending
    · rw [sent]
      exact calls
  · rw [fleet_setServer_other same, fleet_setServer_rpc_other same]
    exact sound other

end Sound

/-! ## The condition -/

instance (msg : MsgNode) : Decidable (IsNotifying msg) := inferInstanceAs (Decidable (_ ∨ _ ∨ _))

/-- The frame whose handler waits for Redis, and the key. -/
def routeAsked : Reader → Option (MsgNode × String)
  | .waiting readMsg _ (.redisGet key) _ => some (readMsg, key)
  | _ => none

section Condition

variable {deployment : Deployment}

/-- Where Redis names another server to a handler that notifies somebody, the one channel of its server leads there. -/
def RoutesToPeer (network : Network) (fleet : Fleet deployment.Member) : FleetAct deployment.Member → Prop
  | .exec member addr outcome => ∀ asked ∈ routeAsked ((fleet.server member).session addr).reader, IsNotifying asked.1 →
      ∀ target ∈ (RedisClient.get asked.2 outcome fleet.stores.redis).1, target ≠ deployment.name member →
        Leads deployment network member target
  | _ => True

instance (network : Network) (fleet : Fleet deployment.Member) : (act : FleetAct deployment.Member) →
    Decidable (RoutesToPeer network fleet act)
  | .exec _ _ _ => inferInstanceAs (Decidable (∀ asked ∈ routeAsked _, _))
  | .own _ _ | .arrive _ _ | .runTask _ _ | .finish _ | .fail _ | .others _ => .isTrue trivial

end Condition

/-! ## Steps and runs -/

section Steps

variable {deployment : Deployment} {externals : Externals} {network : Network} {fleet after : Fleet deployment.Member}

/-- The answer of a store to a handler of this server. -/
theorem heard_exec {member : deployment.Member} {addr : Addr} {outcome : Outcome} {readMsg : MsgNode} {told : Ledger} {op : Op}
    {next : op.Res → Awaitable ChannelMessage} (routes : RoutesToPeer network fleet (.exec member addr outcome))
    (store : isStoreCall op = true) (reading : ((fleet.server member).session addr).reader = .waiting readMsg told op next) :
    Heard network fleet.processed member readMsg ⟨op, (fleet.stores.exec externals outcome op).1⟩ := by
  cases op with
  | redisGet key =>
    have asked : routeAsked ((fleet.server member).session addr).reader = some (readMsg, key) := by
      rw [reading]
      rfl
    cases answered : ((fleet.stores.exec externals outcome (.redisGet key)).1 : Option String) with
    | none => trivial
    | some target =>
      intro notifies elsewhere
      exact routes _ asked notifies target answered elsewhere
  | notify request => cases store
  | serverName => cases store
  | _ => trivial

theorem Sound.step (sound : Sound externals network fleet) {act : FleetAct deployment.Member} (routes : RoutesToPeer network fleet act)
    (taken : fleet.step externals network act = some after) : Sound externals network after := by
  cases fleet_steps taken with
  | @own member act server own first =>
    have before := sound member
    apply sound.setServer
    · have named : server.name = deployment.name member := step_nameIs _ _ _ before.named first
      have heard := before.heard.own_step (fun _ _ => List.forall_mem_nil _) heard_keeps before.named own first
      exact ⟨named, step_traced _ _ _ before.traced first, step_waiting _ _ _ before.waiting first, heard, trivial⟩
    · intro away
      exact own_outgoing own first (before.pending.busy away)
  | @exec member addr outcome readMsg told op next reading =>
    have before := sound member
    have store : isStoreCall op = true := by
      have proper := before.heard.proper addr
      rw [reading] at proper
      exact proper
    have answered : Sound externals network (fleet.setServer member ((fleet.server member).setReader addr
        (.resuming readMsg (⟨op, (fleet.stores.exec externals outcome op).1⟩ :: told)
          (next (fleet.stores.exec externals outcome op).1)))) := by
      apply sound.setServer
      · refine ⟨before.named, ?_, ?_, ?_, trivial⟩
        · exact (Traced.rule externals.lib).answer _ addr readMsg told op next _ trivial reading before.traced
        · exact (Waiting.rule externals.lib).answer _ addr readMsg told op next _ trivial reading before.waiting
        · exact before.heard.answer reading fun known => List.forall_mem_cons.mpr ⟨heard_exec routes store reading, known⟩
      · intro _
        exact before.waiting.outgoing_answered reading _
    exact answered
  | @arrive member peer request sent linked =>
    have calls : (fleet.server member).outgoing = some request := by
      have pending := (sound member).pending
      rw [sent] at pending
      exact pending
    have queued : Sound externals network (fleet.setRpc member (.queued peer request)) := sound.setRpc member ⟨calls, linked⟩
    have there := queued peer
    apply queued.setServer
    · exact ⟨there.named, (Traced.rule externals.lib).post _ _ there.traced, there.waiting,
        ⟨there.heard.proper, there.heard.suspended, there.heard.replied⟩, trivial⟩
    · exact fun _ => rfl
  | @runTask peer caller request rest free tasks awaited =>
    have before := sound peer
    have first : (fleet.server peer).step externals.lib .runTask =
        some ({ fleet.server peer with tasks := rest }.serveNotify request) := by
      simp only [ChatServer.step, ChatServer.threadStep, free, tasks, if_true]
    have served : Sound externals network (fleet.setServer peer ({ fleet.server peer with tasks := rest }.serveNotify request)) := by
      apply sound.setServer
      · have named := step_nameIs _ _ _ before.named first
        have silent : ∀ addr oracle, Act.runTask ≠ .answer addr oracle := fun _ _ => Act.noConfusion
        have heard := before.heard.free_step (fun _ _ => List.forall_mem_nil _) heard_keeps before.named free silent first
        exact ⟨named, step_traced _ _ _ before.traced first, step_waiting _ _ _ before.waiting first, heard, trivial⟩
      · intro away
        exact absurd free (before.pending.busy away)
    have recorded : Sound externals network { fleet.setServer peer ({ fleet.server peer with tasks := rest }.serveNotify request) with
        processed := (peer, request) :: fleet.processed } := fun member => (served member).mono fun _ => List.mem_cons_of_mem _
    cases caller with
    | none => exact recorded
    | some member =>
      have queued := awaited member rfl
      have pending := (sound member).pending
      rw [queued] at pending
      have apart : member ≠ peer := by
        intro here
        have away : fleet.rpc member ≠ .idle := by
          rw [queued]
          intro idle
          cases idle
        exact (sound member).pending.busy away (here ▸ free)
      have same : (fleet.setServer peer ({ fleet.server peer with tasks := rest }.serveNotify request)).server member =
          fleet.server member := fleet_setServer_other apart _
      have answered : PendingCall network ((peer, request) :: fleet.processed) member .answered
          ((fleet.setServer peer ({ fleet.server peer with tasks := rest }.serveNotify request)).server member).outgoing := by
        rw [same]
        exact ⟨request, peer, pending.1, pending.2, List.mem_cons_self⟩
      exact recorded.setRpc member answered
  | @returned _ member addr answer readMsg told request next processed blocked reading =>
    have before := sound member
    have calls : (fleet.server member).outgoing = some request := by
      unfold ChatServer.outgoing
      simp only [blocked, reading]
    have first : (fleet.server member).step externals.lib (.returned answer) = some ({ fleet.server member with blocked := none
        }.runHandler addr readMsg (⟨.notify request, answer⟩ :: told) (next answer)) := by
      simp only [ChatServer.step, blocked, reading]
    have known : ∀ entry ∈ told, Heard network fleet.processed member readMsg entry := by
      apply before.heard.suspended addr readMsg told (.call (.notify request) next)
      rw [reading]
      rfl
    have told_now : Heard network fleet.processed member readMsg ⟨.notify request, answer⟩ := by
      cases answer with
      | none => trivial
      | some code =>
        intro success
        have pending := before.pending
        rw [processed (by rw [success]), calls] at pending
        obtain ⟨sent, peer, same, linked, done⟩ := pending
        cases same
        exact ⟨peer, linked, done⟩
    have idle : Sound externals network (fleet.setRpc member .idle) := sound.setRpc member trivial
    apply idle.setServer
    · have heard := before.heard.returned_step heard_keeps before.named addr next (List.forall_mem_cons.mpr ⟨told_now, known⟩)
      exact ⟨step_nameIs _ _ _ before.named first, step_traced _ _ _ before.traced first, step_waiting _ _ _ before.waiting first,
        heard, trivial⟩
    · intro away
      have same : (fleet.setRpc member .idle).rpc member = .idle := Function.update_self _ _ _
      exact absurd same away
  | others stores => exact sound

end Steps

/-! ## The server that Redis names -/

section Named

variable {deployment : Deployment} {externals : Externals} {network : Network} {fleet : Fleet deployment.Member}

/-- Every call that is under way can reach the server that Redis has named and no other, and a request for somebody on another
    server is answered without an error only if that server has processed its call. -/
structure ReachesNamed (externals : Externals) (network : Network) (fleet : Fleet deployment.Member) : Prop where
  sent : ∀ member addr readMsg told request next, ((fleet.server member).session addr).reader = .calling readMsg told request next →
    ∃ accepted target, AcceptedRequest.From externals.lib readMsg told accepted ∧ request = accepted.remote ∧
      RoutedTo told accepted target ∧ target ≠ deployment.name member ∧ Leads deployment network member target
  succeeded : ∀ member addr readMsg told reply, .replied addr readMsg told reply ∈ (fleet.server member).log →
    IsNotifying readMsg → ¬ CarriesError reply → ∀ key target, Told told (.redisGet key) (some target) →
      target ≠ deployment.name member → ∃ accepted peer, AcceptedRequest.From externals.lib readMsg told accepted ∧
        RoutedTo told accepted target ∧ deployment.name peer = target ∧ (peer, accepted.remote) ∈ fleet.processed

theorem AcceptedRequest.From.notifying {lib : JsonLib} {msg : MsgNode} {told : Ledger} {accepted : AcceptedRequest}
    (known : accepted.From lib msg told) : IsNotifying msg := by
  cases accepted with
  | addFriend request userInfo => exact .inl known.1
  | authFriend request => exact .inr (.inl known.1)
  | textChat request => exact .inr (.inr known.1)

theorem Sound.sent (sound : Sound externals network fleet) {member : deployment.Member} {addr : Addr} {readMsg : MsgNode}
    {told : Ledger} {request : NotifyRequest} {next : Option Int32 → Awaitable ChannelMessage}
    (reading : ((fleet.server member).session addr).reader = .calling readMsg told request next) :
    ∃ accepted target, AcceptedRequest.From externals.lib readMsg told accepted ∧ request = accepted.remote ∧
      RoutedTo told accepted target ∧ target ≠ deployment.name member ∧ Leads deployment network member target := by
  have task : ((fleet.server member).session addr).reader.task = some (readMsg, told, .call (.notify request) next) := by
    rw [reading]
    rfl
  have heard := (sound member).heard.suspended addr _ _ _ task
  have asked := (((sound member).traced.suspended task).guided (handleMessage_asked externals.lib readMsg)).1.1
  cases asked_calls asked with
  | @elsewhere accepted target name known built routed home elsewhere =>
    have own : name = deployment.name member := heard _ home
    rw [own] at elsewhere
    exact ⟨accepted, target, known, built, routed, elsewhere, heard _ routed known.notifying elsewhere⟩

theorem Sound.succeeded (sound : Sound externals network fleet) {member : deployment.Member} {addr : Addr} {readMsg : MsgNode}
    {told : Ledger} {reply : ChannelMessage} (logged : .replied addr readMsg told reply ∈ (fleet.server member).log)
    (notifies : IsNotifying readMsg) (success : ¬ CarriesError reply) {key target : String}
    (named : Told told (.redisGet key) (some target)) (elsewhere : target ≠ deployment.name member) :
    ∃ accepted peer, AcceptedRequest.From externals.lib readMsg told accepted ∧ RoutedTo told accepted target ∧
      deployment.name peer = target ∧ (peer, accepted.remote) ∈ fleet.processed := by
  have heard := (sound member).heard.replied _ _ _ _ logged
  have reaches := (sound member).traced.replied logged
  obtain ⟨_, same, replied⟩ := reaches.guided (handleMessage_asked externals.lib readMsg)
  cases same
  cases notifying_success replied notifies success with
  | nowhere nobody => cases reaches.told_once notifies nobody named
  | @here _ other routed home =>
    cases reaches.told_once notifies routed named
    exact absurd (heard _ home) elsewhere
  | @there accepted other name known routed home apart done =>
    cases reaches.told_once notifies routed named
    obtain ⟨peer, linked, processed⟩ := heard _ done rfl
    have leads : Leads deployment network member target := heard _ named notifies elsewhere
    exact ⟨accepted, peer, known, routed, leads.2 peer linked, processed⟩

theorem notification_reaches_named (externals : Externals) (network : Network) (deployment : Deployment) (stores : Stores)
    (acts : List (FleetAct deployment.Member)) (fleet : Fleet deployment.Member)
    (run : Transition.Run (Fleet.step externals network) (.start deployment stores) acts fleet)
    (routes : Transition.Meets (Fleet.step externals network) (RoutesToPeer network) (.start deployment stores) acts) :
    ReachesNamed externals network fleet := by
  have keeps : ∀ (fleet : Fleet deployment.Member) (act : FleetAct deployment.Member) (after : Fleet deployment.Member),
      Sound externals network fleet → RoutesToPeer network fleet act → fleet.step externals network act = some after →
      Sound externals network after := fun _ _ _ sound routes taken => sound.step routes taken
  have sound := run.invariant_of_meets keeps routes (Sound.start externals network stores)
  constructor
  · intro member addr readMsg told request next reading
    exact sound.sent reading
  · intro member addr readMsg told reply logged notifies success key target named elsewhere
    exact sound.succeeded logged notifies success named elsewhere

end Named

/-! ## Two servers, and a third one -/

namespace Sample

def localhost (port : Int32) : ServerConfig := ⟨"127.0.0.1", port⟩

def chatServers : List ChatServerConfig :=
  [⟨"chat_server1", "127.0.0.1", 18080⟩, ⟨"chat_server2", "127.0.0.1", 18081⟩, ⟨"chat_server3", "127.0.0.1", 18082⟩]

/-- The first two servers are each other's peer; the third one has the first. -/
def peerPort : Nat → Int32
  | 0 => 50052
  | _ => 50051

def deployed (size : Nat) : Deployment where
  status := ⟨chatServers.take size⟩
  config member := {
    server := (chatServers.take size)[member]
    grpcServer := localhost (50051 + Int32.ofNat member)
    peerGrpcServer := localhost (peerPort member) }
  listed _ := rfl

def network : Network := fun channel listening => channel = listening

section Acts

variable {Member : Type}

/-- A connection is made, and all of its frames are sent at once. -/
def connectTo (member : Member) (addr : Addr) (frames : List (MessageId × Body)) : List (FleetAct Member) :=
  let bytes := frames.flatMap fun frame => (MsgNode.ofText frame.1.wire frame.2.1).wire
  [.own member (.accept addr 0), .own member (.startReader addr), .own member (.send addr bytes)]

/-- The next frame is read, and its handler runs over so many calls of the stores. -/
def frameOf (member : Member) (addr : Addr) (calls : Nat) : List (FleetAct Member) :=
  let read : List (FleetAct Member) := [.own member (.readDone addr), .own member (.resumeReader addr)]
  read ++ read ++ (List.replicate calls [.exec member addr .ok, .own member (.resumeReader addr)]).flatten

/-- The second user logs in on the one server, and the first one on the other and writes to the second. -/
def writesTo (here there : Member) : List (FleetAct Member) :=
  connectTo there 2 [(.loginRequest, loginBody 2 "token2")] ++ frameOf there 2 8 ++
    connectTo here 1 [(.loginRequest, loginBody 1 "token1"), (.textChatMsgReq, textBody 1 2)] ++ frameOf here 1 8 ++ frameOf here 1 1

end Acts

def textBodies : List Body := [loginBody 1 "token1", loginBody 2 "token2", textBody 1 2]

def first : (deployed 3).Member := ⟨0, by decide⟩
def second : (deployed 3).Member := ⟨1, by decide⟩
def third : (deployed 3).Member := ⟨2, by decide⟩

def firstOfTwo : (deployed 2).Member := ⟨0, by decide⟩
def secondOfTwo : (deployed 2).Member := ⟨1, by decide⟩

/-- The first user writes to the second one, whose server executes the call. -/
def delivers : List (FleetAct (deployed 2).Member) :=
  writesTo firstOfTwo secondOfTwo ++ [.arrive firstOfTwo secondOfTwo, .runTask secondOfTwo (some firstOfTwo), .finish firstOfTwo]

/-- The first server calls its peer, though Redis has named the third server. -/
def callsForThird (fleet : Fleet (deployed 3).Member) : Bool :=
  match ((fleet.server first).session 1).reader with
  | .calling _ told _ _ => told.all fun
    | ⟨.redisGet _, some target⟩ => target = "chat_server3"
    | _ => true
  | _ => false

end Sample

theorem notification_reaches_named_two : ∃ fleet,
    Transition.Run (Fleet.step (Sample.externals Sample.textBodies) Sample.network) (.start (Sample.deployed 2) Sample.stores)
      Sample.delivers fleet ∧
    fleet.processed.length = 1 ∧ ReachesNamed (Sample.externals Sample.textBodies) Sample.network fleet := by
  have possible : ((Transition.runs (Fleet.step (Sample.externals Sample.textBodies) Sample.network)
      (.start (Sample.deployed 2) Sample.stores) Sample.delivers).any fun fleet => fleet.processed.length = 1) = true := by
    decide +kernel
  have routes : Transition.Meets (Fleet.step (Sample.externals Sample.textBodies) Sample.network) (RoutesToPeer Sample.network)
      (.start (Sample.deployed 2) Sample.stores) Sample.delivers := by decide +kernel
  obtain ⟨fleet, reached, one⟩ := (Option.any_eq_true _ _).mp possible
  have run := Transition.run_iff_runs.mpr reached
  exact ⟨fleet, run, of_decide_eq_true one, notification_reaches_named _ _ _ _ _ fleet run routes⟩

/-- With three servers, the call for a user of the third one goes to the second. -/
theorem notification_misses_third : ¬ ∀ (externals : Externals) (network : Network) (deployment : Deployment) (stores : Stores)
    (acts : List (FleetAct deployment.Member)) (fleet : Fleet deployment.Member),
    Transition.Run (Fleet.step externals network) (.start deployment stores) acts fleet → ReachesNamed externals network fleet := by
  intro claim
  have possible : ((Transition.runs (Fleet.step (Sample.externals Sample.textBodies) Sample.network)
      (.start (Sample.deployed 3) Sample.stores) (Sample.writesTo Sample.first Sample.third)).any Sample.callsForThird) = true := by
    decide +kernel
  obtain ⟨fleet, reached, calls⟩ := (Option.any_eq_true _ _).mp possible
  have holds := claim _ _ _ _ _ fleet (Transition.run_iff_runs.mpr reached)
  unfold Sample.callsForThird at calls
  split at calls
  · rename_i readMsg told request next reading
    obtain ⟨accepted, target, _, _, routed, _, leads⟩ := holds.sent _ _ _ _ _ _ reading
    have named : target = "chat_server3" := of_decide_eq_true (List.all_eq_true.mp calls _ routed)
    have linked : (Sample.deployed 3).links Sample.network Sample.first Sample.second = true := by decide +kernel
    have same := leads.2 Sample.second linked
    rw [named] at same
    exact absurd same (by decide)
  · cases calls

end ChatProof
