import ChatProject.Cluster.Step
import ChatProject.Server.Handling

namespace ChatProof

open ChatModel

/-! ## Sides -/

@[simp] theorem other_other (side : Side) : side.other.other = side := by
  cases side <;> rfl

@[simp] theorem other_ne (side : Side) : side.other ≠ side := by
  cases side <;> simp [Side.other]

@[simp] theorem ne_other (side : Side) : side ≠ side.other := (other_ne side).symm

theorem eq_or_other (side other : Side) : other = side ∨ other = side.other := by
  cases side <;> cases other <;> simp [Side.other]

/-! ## What changes with the call and the server of one side -/

section Frame

variable (cluster : Cluster) (side : Side) (call : Call) (after : ChatServer)

@[simp] theorem setCall_self : (cluster.setCall side call).call side = call := if_pos rfl

@[simp] theorem setCall_other {side other : Side} (different : other ≠ side) :
    (cluster.setCall side call).call other = cluster.call other := if_neg different

@[simp] theorem setCall_server : (cluster.setCall side call).server = cluster.server := rfl
@[simp] theorem setCall_stores : (cluster.setCall side call).stores = cluster.stores := rfl
@[simp] theorem setCall_history : (cluster.setCall side call).history = cluster.history := rfl

@[simp] theorem setServer_self : (cluster.setServer side after).server side = after := if_pos rfl

@[simp] theorem setServer_other {side other : Side} (different : other ≠ side) :
    (cluster.setServer side after).server other = cluster.server other := if_neg different

@[simp] theorem setServer_call_other {side other : Side} (different : other ≠ side) :
    (cluster.setServer side after).call other = cluster.call other := if_neg different

@[simp] theorem setServer_stores : (cluster.setServer side after).stores = cluster.stores := rfl

/-- A thread that was free and is not any more has made a call. -/
theorem setServer_call_idle (idle : cluster.call side = .idle) :
    (cluster.setServer side after).call side =
      match after.outgoing with
      | some request => .sent request
      | none => .idle := by
  simp only [Cluster.setServer, Cluster.setCall, if_true, idle]
  cases after.outgoing <;> rfl

theorem setServer_call_busy (busy : cluster.call side ≠ .idle) :
    (cluster.setServer side after).call side = cluster.call side := by
  simp only [Cluster.setServer, Cluster.setCall, if_true]
  cases call : cluster.call side with
  | idle => exact absurd call busy
  | _ => rfl

theorem setServer_setCall {side other : Side} (different : other ≠ side) :
    (cluster.setServer side after).setCall other call = (cluster.setCall other call).setServer side after := by
  have sides : side ≠ other := different.symm
  have calls : ((cluster.setServer side after).setCall other call).call =
      ((cluster.setCall other call).setServer side after).call := by
    funext third
    by_cases here : third = other
    · subst here
      rw [setCall_self, setServer_call_other _ _ different, setCall_self]
    · rw [setCall_other _ _ here]
      by_cases there : third = side
      · subst there
        by_cases idle : cluster.call third = .idle
        · rw [setServer_call_idle _ _ _ idle, setServer_call_idle]
          rwa [setCall_other _ _ here]
        · rw [setServer_call_busy _ _ _ idle, setServer_call_busy]
          · rw [setCall_other _ _ here]
          · rwa [setCall_other _ _ here]
      · rw [setServer_call_other _ _ there, setServer_call_other _ _ there, setCall_other _ _ here]
  exact congrArg (fun call : Side → Call => { (cluster.setServer side after).setCall other .idle with call }) calls

end Frame

/-! ## What leaves the tasks of a server -/

theorem deliver_tasks (server : ChatServer) (addr : Addr) (msg : ChannelMessage) :
    (server.deliver addr msg).tasks = server.tasks := by
  unfold ChatServer.deliver
  split <;> rfl

theorem serveNotify_tasks (server : ChatServer) (request : NotifyRequest) :
    (server.serveNotify request).tasks = server.tasks := by
  unfold ChatServer.serveNotify
  dsimp only
  split
  · exact deliver_tasks _ _ _
  · rfl

/-! ## The steps of the cluster -/

section Steps

variable {externals : Externals} {cluster after : Cluster}

/-- Everything that a step of the cluster can be. -/
inductive Steps (externals : Externals) (cluster : Cluster) : ClusterAct → Cluster → Prop
  | own {side : Side} {act : Act} {server : ChatServer} : act.isOwn = true →
      (cluster.server side).step externals.lib act = some server →
      Steps externals cluster (.own side act) (cluster.setServer side server)
  | exec {side : Side} {addr : Addr} {outcome : Outcome} {readMsg : MsgNode} {told : Ledger} {op : Op}
      {next : op.Res → Awaitable ChannelMessage} {answer : op.Res} {stores : Stores} :
      ((cluster.server side).session addr).reader = .waiting readMsg told op next →
      cluster.stores.exec externals outcome op = (answer, stores) →
      Steps externals cluster (.exec side addr outcome)
        { cluster.setServer side ((cluster.server side).setReader addr
            (.resuming readMsg (⟨op, answer⟩ :: told) (next answer))) with
          stores
          history := .executed side addr readMsg told op outcome cluster.stores.db ::
            (cluster.setServer side ((cluster.server side).setReader addr
              (.resuming readMsg (⟨op, answer⟩ :: told) (next answer)))).history }
  | arrive {side : Side} {request : NotifyRequest} : cluster.call side = .sent request →
      Steps externals cluster (.arrive side) ((cluster.setCall side .queued).setServer side.other
        { cluster.server side.other with tasks := (cluster.server side.other).tasks ++ [request] })
  | runTask {side : Side} {request : NotifyRequest} {rest : List NotifyRequest} :
      (cluster.server side).blocked = none → (cluster.server side).tasks = request :: rest →
      Steps externals cluster (.runTask side) ((cluster.setServer side
        ({ cluster.server side with tasks := rest }.serveNotify request)).setCall side.other
          ((cluster.call side.other).served rest))
  | returned {act : ClusterAct} {side : Side} {addr : Addr} {answer : Option Int32} {readMsg : MsgNode}
      {told : Ledger} {request : NotifyRequest} {next : Option Int32 → Awaitable ChannelMessage} :
      act = .finish side ∧ cluster.call side = .answered ∧ answer = some 0 ∨
        act = .fail side ∧ cluster.call side ≠ .idle ∧ answer = none →
      (cluster.server side).blocked = some addr →
      ((cluster.server side).session addr).reader = .calling readMsg told request next →
      Steps externals cluster act ((cluster.setCall side .idle).setServer side
        ({ cluster.server side with blocked := none }.runHandler addr readMsg
          (⟨.notify request, answer⟩ :: told) (next answer)))
  | tick (seconds : Nat) : Steps externals cluster (.tick seconds)
      { cluster with stores := { cluster.stores with redis := cluster.stores.redis.tick seconds } }

theorem serverStep_eq_some {side : Side} {act : Act} : cluster.serverStep externals side act = some after ↔
    ∃ server, (cluster.server side).step externals.lib act = some server ∧ cluster.setServer side server = after :=
  Option.map_eq_some_iff

theorem step_returned {lib : JsonLib} {server after : ChatServer} {answer : Option Int32}
    (taken : server.step lib (.returned answer) = some after) :
    ∃ addr readMsg told request next, server.blocked = some addr ∧
      (server.session addr).reader = .calling readMsg told request next ∧
      { server with blocked := none }.runHandler addr readMsg (⟨.notify request, answer⟩ :: told)
        (next answer) = after := by
  simp only [ChatServer.step] at taken
  split at taken
  · rename_i addr blocked
    split at taken <;> cases taken
    rename_i readMsg told request next reading
    exact ⟨addr, readMsg, told, request, next, blocked, reading, rfl⟩
  · cases taken

theorem step_cases {act : ClusterAct} (taken : cluster.step externals act = some after) :
    Steps externals cluster act after := by
  cases act with
  | own side act =>
    simp only [Cluster.step] at taken
    split at taken
    · rename_i own
      obtain ⟨server, first, same⟩ := serverStep_eq_some.mp taken
      rw [← same]
      exact .own own first
    · cases taken
  | exec side addr outcome =>
    simp only [Cluster.step, Cluster.exec] at taken
    split at taken
    · rename_i readMsg told op next reading
      obtain ⟨middle, first, same⟩ := Option.map_eq_some_iff.mp taken
      obtain ⟨server, answered, reached⟩ := serverStep_eq_some.mp first
      simp only [ChatServer.step, reading] at answered
      cases answered
      rw [← same, ← reached]
      exact .exec reading rfl
    · cases taken
  | arrive side =>
    simp only [Cluster.step] at taken
    split at taken
    · rename_i request sent
      obtain ⟨server, first, same⟩ := serverStep_eq_some.mp taken
      simp only [ChatServer.step] at first
      cases first
      rw [← same]
      exact .arrive sent
    · cases taken
  | runTask side =>
    simp only [Cluster.step] at taken
    obtain ⟨middle, first, same⟩ := Option.map_eq_some_iff.mp taken
    obtain ⟨server, run, reached⟩ := serverStep_eq_some.mp first
    simp only [ChatServer.step] at run
    split at run
    · rename_i free
      simp only [ChatServer.threadStep] at run
      split at run <;> cases run
      rename_i request rest tasks
      rw [← same, ← reached, setServer_self, serveNotify_tasks]
      exact .runTask free tasks
    · cases run
  | finish side =>
    simp only [Cluster.step] at taken
    split at taken
    · rename_i answered
      obtain ⟨server, first, same⟩ := serverStep_eq_some.mp taken
      obtain ⟨addr, readMsg, told, request, next, blocked, reading, reached⟩ := step_returned first
      rw [← same, ← reached]
      exact .returned (.inl ⟨rfl, answered, rfl⟩) blocked reading
    · cases taken
  | fail side =>
    simp only [Cluster.step] at taken
    split at taken
    · cases taken
    · rename_i busy
      obtain ⟨server, first, same⟩ := serverStep_eq_some.mp taken
      obtain ⟨addr, readMsg, told, request, next, blocked, reading, reached⟩ := step_returned first
      rw [← same, ← reached]
      exact .returned (.inr ⟨rfl, busy, rfl⟩) blocked reading
  | tick seconds =>
    cases taken
    exact .tick seconds

/-- What a change of one server is for either of them. -/
theorem setServer_server (cluster : Cluster) (kind : Act → Prop) {which : Side} {server : ChatServer} (act : Act)
    (taken : (cluster.server which).step externals.lib act = some server) (known : kind act) (side : Side) :
    (cluster.setServer which server).server side = cluster.server side ∨
      ∃ act, kind act ∧ (cluster.server side).step externals.lib act = some ((cluster.setServer which server).server side) := by
  by_cases here : side = which
  · subst here
    rw [setServer_self]
    exact .inr ⟨act, known, taken⟩
  · exact .inl (setServer_other _ _ here)

/-- Seen from one server, a step of the cluster is one of its own steps, or nothing. It is no answer of
    a store unless a call was executed. -/
theorem step_own {act : ClusterAct} (taken : cluster.step externals act = some after)
    (own : ∀ side addr outcome, act ≠ .exec side addr outcome) (side : Side) :
    after.server side = cluster.server side ∨ ∃ act, (∀ addr oracle, act ≠ .answer addr oracle) ∧
      (cluster.server side).step externals.lib act = some (after.server side) := by
  cases step_cases taken with
  | @own which act server mine first =>
    apply setServer_server cluster _ act first _ side
    intro addr oracle same
    rw [same] at mine
    cases mine
  | exec _ _ => exact absurd rfl (own _ _ _)
  | @arrive which request sent =>
    exact setServer_server (cluster.setCall which .queued) _ (.arrive request) rfl (fun _ _ => Act.noConfusion) side
  | @runTask which request rest free tasks =>
    have first : (cluster.server which).step externals.lib .runTask =
        some ({ cluster.server which with tasks := rest }.serveNotify request) := by
      simp only [ChatServer.step, ChatServer.threadStep, free, tasks, if_true]
    exact setServer_server cluster _ .runTask first (fun _ _ => Act.noConfusion) side
  | @returned _ which addr answer readMsg told request next kind blocked reading =>
    have first : (cluster.server which).step externals.lib (.returned answer) =
        some ({ cluster.server which with blocked := none }.runHandler addr readMsg
          (⟨.notify request, answer⟩ :: told) (next answer)) := by
      simp only [ChatServer.step, blocked, reading]
    exact setServer_server (cluster.setCall which .idle) _ (.returned answer) first (fun _ _ => Act.noConfusion) side
  | tick seconds => exact .inl rfl

theorem step_server {act : ClusterAct} (taken : cluster.step externals act = some after) (side : Side) :
    after.server side = cluster.server side ∨
      ∃ act, (cluster.server side).step externals.lib act = some (after.server side) := by
  by_cases own : ∀ side addr outcome, act ≠ .exec side addr outcome
  · rcases step_own taken own side with same | ⟨act, _, first⟩
    · exact .inl same
    · exact .inr ⟨act, first⟩
  · simp only [not_forall, not_not] at own
    obtain ⟨which, addr, outcome, same⟩ := own
    subst same
    cases step_cases taken with
    | @exec _ _ _ readMsg told op next answer stores reading done =>
      let oracle : (op : Op) → op.Res := fun op => (cluster.stores.exec externals outcome op).1
      have answered : oracle op = answer := congrArg Prod.fst done
      have first : (cluster.server which).step externals.lib (.answer addr oracle) = some ((cluster.server which).setReader
          addr (.resuming readMsg (⟨op, answer⟩ :: told) (next answer))) := by
        simp only [ChatServer.step, reading, answered]
      rcases setServer_server cluster (fun _ => True) _ first trivial side with same | ⟨act, _, taken⟩
      · exact .inl same
      · exact .inr ⟨act, taken⟩
    | returned kind _ _ =>
      rcases kind with ⟨same, _⟩ | ⟨same, _⟩ <;> cases same

/-- What holds of a fresh server and is kept by each of its steps holds of both servers. -/
theorem step_servers {inv : ChatServer → Prop}
    (keeps : ∀ server act after, inv server → server.step externals.lib act = some after → inv after)
    {act : ClusterAct} (taken : cluster.step externals act = some after)
    (holds : ∀ side, inv (cluster.server side)) (side : Side) : inv (after.server side) := by
  rcases step_server taken side with same | ⟨act, first⟩
  · rw [same]
    exact holds side
  · exact keeps _ act _ (holds side) first

theorem run_servers {inv : ChatServer → Prop}
    (keeps : ∀ server act after, inv server → server.step externals.lib act = some after → inv after)
    (fresh : ∀ name, inv (.fresh name)) {stores : Stores} {name : Side → String} {acts : List ClusterAct}
    (run : Transition.Run (Cluster.step externals) (.start stores name) acts cluster) (side : Side) :
    inv (cluster.server side) := by
  have both : ∀ (cluster : Cluster) (act : ClusterAct) (after : Cluster),
      (∀ side, inv (cluster.server side)) → cluster.step externals act = some after →
      ∀ side, inv (after.server side) := fun cluster act after holds taken => step_servers keeps taken holds
  exact run.invariant both (fun side => fresh (name side)) side

theorem reachable_traced {stores : Stores} {name : Side → String}
    (reached : Transition.Reachable (Cluster.step externals) (.start stores name) cluster) (side : Side) :
    Traced externals.lib (cluster.server side) := by
  obtain ⟨acts, run⟩ := reached
  exact run_servers step_traced (Traced.fresh externals.lib) run side

end Steps

/-! ## Two users to try things with -/

namespace Sample

/-- A request body, as a text and as what the parser makes of it. -/
abbrev Body := String × Json Number

def loginBody (uid : Int) (token : String) : Body :=
  ("\x7b\"uid\":" ++ uid.repr ++ ",\"token\":\"" ++ token ++ "\"\x7d",
    .obj [("token", .str token), ("uid", .num (.int uid))])

def pairBody (first second : String) (left right : Int) : Body :=
  ("\x7b\"" ++ first ++ "\":" ++ left.repr ++ ",\"" ++ second ++ "\":" ++ right.repr ++ "\x7d",
    .obj [(first, .num (.int left)), (second, .num (.int right))])

def textBody (fromuid touid : Int) : Body :=
  ("\x7b\"fromuid\":" ++ fromuid.repr ++ ",\"touid\":" ++ touid.repr ++ ",\"text_array\":[]\x7d",
    .obj [("fromuid", .num (.int fromuid)), ("text_array", .arr []), ("touid", .num (.int touid))])

/-- The parsers, on these bodies. -/
def externals (bodies : List Body) : Externals where
  lib := {
    parse := fun text => (bodies.find? fun body => bytesOf body.1 = text).map (·.2)
    parseUserInfo := fun _ => none }
  sameName first second := first = second

def ann : UniqueTable UserRow.id := UniqueTable.empty.insertIgnore ⟨1, "ann", "ann@example.com", "pwd1"⟩

/-- Both users may log in. -/
def stores : Stores where
  redis := (({} : Redis).set "user_token_1" "token1").set "user_token_2" "token2"
  db := { user := ann.insertIgnore ⟨2, "bob", "bob@example.com", "pwd2"⟩ }

def name : Side → String
  | .one => "chat_server1"
  | .two => "chat_server2"

/-- A connection is made, and all of its frames are sent at once. -/
def connect (side : Side) (addr : Addr) (frames : List (MessageId × Body)) : List ClusterAct :=
  let bytes := frames.flatMap fun frame => (MsgNode.ofText frame.1.wire frame.2.1).wire
  [.own side (.accept addr 0), .own side (.startReader addr), .own side (.send addr bytes)]

/-- The next frame is read, and its handler runs over so many calls of the stores. -/
def frame (side : Side) (addr : Addr) (calls : Nat) : List ClusterAct :=
  let read : List ClusterAct := [.own side (.readDone addr), .own side (.resumeReader addr)]
  read ++ read ++ (List.replicate calls [.exec side addr .ok, .own side (.resumeReader addr)]).flatten

/-- What a handler of the first user is told on this server, when everybody is on the first one and
    MySQL has this user. -/
def answers (name : String) (found : Option UserInfo) : (op : Op) → op.Res
  | .redisGet _ => some "chat_server1"
  | .redisSet _ _ => true
  | .redisHset _ _ _ => 0
  | .getUserInfo _ => .ok found
  | .addFriendApply _ _ | .authFriendApply _ _ => .ok ()
  | .getFriendApplies _ => .ok []
  | .getFriends _ => .ok []
  | .notify _ => some 0
  | .uid => 1
  | .setUid _ | .markAuthenticated | .deliver _ _ => ()
  | .isAuthenticated => true
  | .serverName => name
  | .participantCount => 2
  | .getParticipant _ => some 2

end Sample

end ChatProof
