import ChatProject.Chat.Conduct
import ChatProject.Cluster.Run

/-! Where the calls between two servers are. -/

namespace ChatProof

open ChatModel

/-! ## The thread of one server -/

/-- A thread is blocked in a call of the session that made it. -/
def Waiting (server : ChatServer) : Prop := ∀ addr, server.blocked = some addr →
  ∃ readMsg told request next, (server.session addr).reader = .calling readMsg told request next

namespace Waiting

variable {server : ChatServer}

theorem of_free (free : server.blocked = none) : Waiting server := by
  intro addr blocked
  rw [free] at blocked
  cases blocked

theorem outgoing (waiting : Waiting server) (busy : server.blocked ≠ none) : ∃ request, server.outgoing = some request := by
  cases blocked : server.blocked with
  | none => exact absurd blocked busy
  | some addr =>
    obtain ⟨readMsg, told, request, next, reading⟩ := waiting addr blocked
    refine ⟨request, ?_⟩
    unfold ChatServer.outgoing
    simp only [blocked, reading]

theorem modify (waiting : Waiting server) (addr : Addr) {change : Session → Session}
    (kept : ∀ readMsg told request next, (server.session addr).reader = .calling readMsg told request next →
      (change (server.session addr)).reader = .calling readMsg told request next) :
    Waiting (server.modify addr change) := by
  intro other blocked
  obtain ⟨readMsg, told, request, next, reading⟩ := waiting other blocked
  refine ⟨readMsg, told, request, next, ?_⟩
  by_cases here : other = addr
  · subst here
    rw [ChatServer.modify_session_self]
    exact kept _ _ _ _ reading
  · rw [ChatServer.modify_session_other _ _ here]
    exact reading

/-- The answer of a store is not for the session whose handler blocks the thread. -/
theorem outgoing_answered (waiting : Waiting server) {addr : Addr} {readMsg : MsgNode} {told : Ledger} {op : Op}
    {next : op.Res → Awaitable ChannelMessage} (reading : (server.session addr).reader = .waiting readMsg told op next) (reader : Reader) :
    (server.setReader addr reader).outgoing = server.outgoing := by
  unfold ChatServer.outgoing
  cases blocked : server.blocked with
  | none => simp only [ChatServer.setReader, ChatServer.modify_blocked, blocked]
  | some caller =>
    have apart : caller ≠ addr := by
      intro here
      obtain ⟨_, _, _, _, calls⟩ := waiting caller blocked
      rw [here, reading] at calls
      cases calls
    simp only [ChatServer.setReader, ChatServer.modify_blocked, blocked, ChatServer.modify_session_other _ _ apart]

theorem runHandler (free : server.blocked = none) (addr : Addr) (readMsg : MsgNode) (told : Ledger)
    (rest : Awaitable ChannelMessage) : Waiting (server.runHandler addr readMsg told rest) := by
  obtain ⟨_, ending⟩ := runHandler_turn server addr readMsg told rest
  cases ending with
  | replied _ _ _ _ _ blocked => exact of_free (blocked.trans free)
  | quit _ _ blocked _ => exact of_free (blocked.trans free)
  | waiting _ _ _ _ _ blocked _ => exact of_free (blocked.trans free)
  | calling told request next reading _ blocked _ =>
    intro other same
    rw [blocked] at same
    cases same
    exact ⟨readMsg, told, request, next, reading⟩

theorem rule (lib : JsonLib) : StepRule lib Waiting where
  aside server addr change aside waiting := by
    apply waiting.modify
    intro readMsg told request next reading
    rw [aside.reader]
    exact reading
  plain server event _ waiting := waiting
  start server addr uid _ free _ _ _ := of_free free
  stop server addr _ free _ := of_free free
  send server addr bytes _ _ _ waiting := waiting.modify addr fun _ _ _ _ reading => reading
  begin server addr _ free _ _ _ := of_free free
  read server addr session _ free _ _ := of_free free
  decoded server addr readMsg header _ free _ _ _ := of_free free
  quit server addr _ free _ _ := of_free free
  answer server addr readMsg ledger op next answer _ reading waiting := by
    apply waiting.modify
    intro _ _ _ _ calls
    rw [reading] at calls
    cases calls
  post server tasks waiting := waiting
  handler server addr readMsg ledger rest ready _ resumes _ := by
    apply runHandler
    cases resumes with
    | handed free _ => exact free
    | resumed free _ => exact free
    | returned _ _ _ => rfl

end Waiting

theorem step_waiting {lib : JsonLib} (server : ChatServer) (act : Act) (after : ChatServer)
    (waiting : Waiting server) (taken : server.step lib act = some after) : Waiting after :=
  (Waiting.rule lib).step trivial (fun _ _ _ => trivial) taken waiting

theorem deliver_blocked (server : ChatServer) (addr : Addr) (msg : ChannelMessage) :
    (server.deliver addr msg).blocked = server.blocked := by
  unfold ChatServer.deliver
  split <;> rfl

theorem serveNotify_blocked (server : ChatServer) (request : NotifyRequest) :
    (server.serveNotify request).blocked = server.blocked := by
  unfold ChatServer.serveNotify
  dsimp only
  split
  · exact deliver_blocked _ _ _
  · rfl

theorem resumeReader_tasks {lib : JsonLib} {server after : ChatServer} {addr : Addr}
    (taken : server.resumeReader lib addr = some after) : after.tasks = server.tasks := by
  unfold ChatServer.resumeReader at taken
  split at taken
  · split at taken <;> cases taken <;> rfl
  · cases taken
    exact (runHandler_turn _ _ _ _ _).1.tasks
  · cases taken
    exact (runHandler_turn _ _ _ _ _).1.tasks
  · cases taken

/-- The tasks of a server change only when one arrives or is run. -/
theorem own_tasks {lib : JsonLib} {server after : ChatServer} {act : Act} (own : act.isOwn = true)
    (taken : server.step lib act = some after) : after.tasks = server.tasks := by
  have thread : (if server.blocked = none then server.threadStep lib act else none) = some after →
      server.threadStep lib act = some after := by
    intro taken
    split at taken
    · exact taken
    · cases taken
  cases act with
  | send addr bytes =>
    simp only [ChatServer.step] at taken
    split at taken <;> cases taken
    rfl
  | readDone addr =>
    obtain ⟨session, _, same⟩ := Option.map_eq_some_iff.mp (thread taken)
    subst same
    rfl
  | resumeReader addr => exact resumeReader_tasks (thread taken)
  | resumeWriter addr =>
    have resumed : server.resumeWriter addr = some after := thread taken
    unfold ChatServer.resumeWriter at resumed
    split at resumed
    · cases resumed
      rfl
    · split at resumed <;> cases resumed <;> rfl
    · cases resumed
  | resumeDeadline addr =>
    have resumed : server.resumeDeadline addr = some after := thread taken
    unfold ChatServer.resumeDeadline at resumed
    split at resumed
    · cases resumed
      rfl
    · split at resumed <;> cases resumed <;> rfl
    · cases resumed
  | answer addr oracle => cases own
  | returned answer => cases own
  | arrive request => cases own
  | runTask => cases own
  | _ =>
    have first := thread taken
    simp only [ChatServer.threadStep] at first
    split at first <;> cases first
    rfl

/-- A blocked thread stays in its call until that returns. -/
theorem own_blocked {lib : JsonLib} {server after : ChatServer} {act : Act} (own : act.isOwn = true)
    (taken : server.step lib act = some after) (busy : server.blocked ≠ none) : after.blocked = server.blocked := by
  cases act with
  | send addr bytes =>
    simp only [ChatServer.step] at taken
    split at taken <;> cases taken
    rfl
  | answer addr oracle => cases own
  | returned answer => cases own
  | arrive request => cases own
  | runTask => cases own
  | _ =>
    simp only [ChatServer.step, if_neg busy] at taken
    cases taken

/-- The handler whose call has returned has nothing left to do but to reply. -/
theorem returned_replies {lib : JsonLib} {readMsg : MsgNode} {told : Ledger} {request : NotifyRequest} {answer : Option Int32}
    {rest : Awaitable ChannelMessage} (reaches : Reaches lib readMsg (⟨.notify request, answer⟩ :: told) rest) :
    ∃ reply, rest = .ret reply := by
  have asks := reaches.guided (handleMessage_asked lib readMsg)
  cases rest with
  | ret reply => exact ⟨reply, rfl⟩
  | throw error =>
    obtain ⟨_, same, _⟩ := asks
    cases same
  | call op next => exact absurd (asks.1.2 ⟨.notify request, answer⟩ List.mem_cons_self) Bool.noConfusion

/-- So it makes no other call. -/
theorem returned_blocked {lib : JsonLib} {server : ChatServer} {addr : Addr} {readMsg : MsgNode} {told : Ledger}
    {request : NotifyRequest} {answer : Option Int32} {rest : Awaitable ChannelMessage}
    (reaches : Reaches lib readMsg (⟨.notify request, answer⟩ :: told) rest) (free : server.blocked = none) :
    (server.runHandler addr readMsg (⟨.notify request, answer⟩ :: told) rest).blocked = none := by
  obtain ⟨reply, same⟩ := returned_replies reaches
  subst same
  have sent := deliver_blocked (server.record (.replied addr readMsg (⟨.notify request, answer⟩ :: told) reply)) addr reply
  exact sent.trans free

/-! ## Two threads and their calls -/

/-- A call has a task at the peer until that is run. What callers have left there who have given up is run first. -/
def Posted : Call → List NotifyRequest → Prop
  | .queued, tasks => tasks ≠ []
  | .answered, tasks => tasks = []
  | _, _ => True

theorem served_idle {call : Call} {tasks : List NotifyRequest} : call.served tasks = .idle ↔ call = .idle := by
  cases call with
  | queued => cases tasks <;> exact ⟨Call.noConfusion, Call.noConfusion⟩
  | _ => exact Iff.rfl

theorem served_posted {call : Call} {request : NotifyRequest} {rest : List NotifyRequest}
    (posted : Posted call (request :: rest)) : Posted (call.served rest) rest := by
  cases call with
  | queued =>
    cases rest with
    | nil => rfl
    | cons next rest => exact List.cons_ne_nil next rest
  | answered => cases posted
  | _ => trivial

/-- The call of a side is where the two servers say it is. -/
structure Linked (cluster : Cluster) : Prop where
  waiting : ∀ side, Waiting (cluster.server side)
  idle : ∀ side, cluster.call side = .idle ↔ (cluster.server side).blocked = none
  posted : ∀ side, Posted (cluster.call side) (cluster.server side.other).tasks

namespace Linked

variable {externals : Externals} {cluster after : Cluster}

theorem setServer {side : Side} {server : ChatServer} (waiting : Waiting (cluster.server side.other))
    (waits : Waiting server) (idle : cluster.call side.other = .idle ↔ (cluster.server side.other).blocked = none)
    (busy : cluster.call side ≠ .idle → server.blocked ≠ none)
    (posted : Posted (cluster.call side) (cluster.server side.other).tasks)
    (tasks : Posted (cluster.call side.other) server.tasks) : Linked (cluster.setServer side server) := by
  have sides : ∀ {motive : Side → Prop}, motive side → motive side.other → ∀ third, motive third := by
    intro motive self other third
    rcases eq_or_other side third with rfl | rfl
    · exact self
    · exact other
  refine ⟨sides ?_ ?_, sides ?_ ?_, sides ?_ ?_⟩
  · rw [setServer_self]
    exact waits
  · rw [setServer_other _ _ (other_ne side)]
    exact waiting
  · rw [setServer_self]
    by_cases quiet : cluster.call side = .idle
    · rw [setServer_call_idle _ _ _ quiet]
      cases blocked : server.blocked with
      | none =>
        have silent : server.outgoing = none := by
          unfold ChatServer.outgoing
          rw [blocked]
        simp [silent]
      | some addr =>
        obtain ⟨request, asked⟩ := waits.outgoing (by rw [blocked]; exact Option.some_ne_none addr)
        simp [asked]
    · rw [setServer_call_busy _ _ _ quiet]
      exact ⟨fun same => absurd same quiet, fun free => absurd free (busy quiet)⟩
  · rw [setServer_other _ _ (other_ne side), setServer_call_other _ _ (other_ne side)]
    exact idle
  · rw [setServer_other _ _ (other_ne side)]
    by_cases quiet : cluster.call side = .idle
    · rw [setServer_call_idle _ _ _ quiet]
      cases server.outgoing <;> trivial
    · rw [setServer_call_busy _ _ _ quiet]
      exact posted
  · rw [other_other, setServer_self, setServer_call_other _ _ (other_ne side)]
    exact tasks

theorem start (stores : Stores) (name : Side → String) : Linked (.start stores name) where
  waiting _ := Waiting.of_free rfl
  idle _ := ⟨fun _ => rfl, fun _ => rfl⟩
  posted _ := trivial

theorem step (traced : ∀ side, Traced externals.lib (cluster.server side)) {act : ClusterAct} (linked : Linked cluster)
    (taken : cluster.step externals act = some after) : Linked after := by
  have mine : ∀ side, Posted (cluster.call side.other) (cluster.server side).tasks := by
    intro side
    have posted := linked.posted side.other
    rw [other_other] at posted
    exact posted
  have blocks : ∀ side, cluster.call side ≠ .idle → (cluster.server side).blocked ≠ none :=
    fun side busy free => busy ((linked.idle side).mpr free)
  cases step_cases taken with
  | @own side act server own first =>
    apply setServer
    · exact linked.waiting side.other
    · exact step_waiting _ _ _ (linked.waiting side) first
    · exact linked.idle side.other
    · intro busy
      rw [own_blocked own first (blocks side busy)]
      exact blocks side busy
    · exact linked.posted side
    · rw [own_tasks own first]
      exact mine side
  | @exec side addr outcome readMsg told op next answer stores reading done =>
    have waits : Waiting ((cluster.server side).setReader addr (.resuming readMsg (⟨op, answer⟩ :: told) (next answer))) :=
      (Waiting.rule externals.lib).answer _ addr readMsg told op next answer trivial reading (linked.waiting side)
    have answered := setServer (linked.waiting side.other) waits (linked.idle side.other) (blocks side)
      (linked.posted side) (mine side)
    exact ⟨answered.waiting, answered.idle, answered.posted⟩
  | @arrive side request sent =>
    apply setServer
    · rw [other_other]
      exact linked.waiting side
    · exact linked.waiting side.other
    · rw [other_other, setCall_self]
      have busy := blocks side (by rw [sent]; exact Call.noConfusion)
      exact ⟨fun idle => Call.noConfusion idle, fun free => absurd free busy⟩
    · rw [setCall_other _ _ (other_ne side)]
      exact blocks side.other
    · rw [setCall_other _ _ (other_ne side)]
      exact linked.posted side.other
    · rw [other_other, setCall_self]
      exact List.append_ne_nil_of_right_ne_nil _ (List.cons_ne_nil request [])
  | @runTask side request rest free tasks =>
    have posted := mine side
    rw [tasks] at posted
    have unblocked : (({ cluster.server side with tasks := rest }).serveNotify request).blocked = none :=
      (serveNotify_blocked _ _).trans free
    rw [setServer_setCall _ _ _ (other_ne side)]
    apply setServer
    · exact linked.waiting side.other
    · exact Waiting.of_free unblocked
    · rw [setCall_self, served_idle]
      exact linked.idle side.other
    · rw [setCall_other _ _ (ne_other side)]
      intro busy
      exact absurd free (blocks side busy)
    · rw [setCall_other _ _ (ne_other side)]
      exact linked.posted side
    · rw [setCall_self, serveNotify_tasks]
      exact served_posted posted
  | @returned _ side addr answer readMsg told request next kind blocked reading =>
    have reaches : Reaches externals.lib readMsg (⟨.notify request, answer⟩ :: told) (next answer) :=
      (traced side).resumes (.returned answer blocked reading)
    have unblocked : ({ cluster.server side with blocked := none }.runHandler addr readMsg
        (⟨.notify request, answer⟩ :: told) (next answer)).blocked = none := returned_blocked reaches rfl
    apply setServer
    · exact linked.waiting side.other
    · exact Waiting.of_free unblocked
    · rw [setCall_other _ _ (other_ne side)]
      exact linked.idle side.other
    · rw [setCall_self]
      exact fun busy => absurd rfl busy
    · rw [setCall_self]
      trivial
    · rw [setCall_other _ _ (other_ne side), (runHandler_turn _ _ _ _ _).1.tasks]
      exact mine side
  | tick seconds => exact ⟨linked.waiting, linked.idle, linked.posted⟩

end Linked

section Reachable

variable {externals : Externals} {stores : Stores} {name : Side → String} {cluster : Cluster}

theorem reachable_linked (reached : Transition.Reachable (Cluster.step externals) (.start stores name) cluster) :
    Linked cluster := by
  apply reached.invariant_with
  · exact fun cluster reached => reachable_traced reached
  · exact fun cluster act after traced linked taken => linked.step traced taken
  · exact Linked.start stores name

end Reachable

end ChatProof
