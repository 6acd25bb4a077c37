import ChatProject.Cluster.Calls
import ChatProject.Server.Turns

/-! What each step of the two servers puts into which queue, and for whom. -/

namespace ChatProof

open ChatModel

/-! ## The other steps -/

/-- A step of a server that is none of a handler leaves the log, but for what has been written. -/
inductive OwnStep (lib : JsonLib) (server : ChatServer) (act : Act) (after : ChatServer) : Prop
  | handler {addr : Addr} {readMsg : MsgNode} {told : Ledger} {rest : Awaitable ChannelMessage} {ready : ChatServer} :
      act = .resumeReader addr → Resumes lib server addr readMsg told rest ready →
      after = ready.runHandler addr readMsg told rest → OwnStep lib server act after
  | other : (after.log = server.log ∨ ∃ addr out, after.log = .written addr out :: server.log) →
      (∀ addr, (server.session addr).reader.task = none → (after.session addr).reader.task = none) →
      OwnStep lib server act after

theorem modify_idle {server : ChatServer} (addr : Addr) {change : Session → Session}
    (idle : (server.session addr).reader.task = none → (change (server.session addr)).reader.task = none) (other : Addr)
    (before : (server.session other).reader.task = none) : ((server.modify addr change).session other).reader.task = none := by
  by_cases here : other = addr
  · subst here
    rw [ChatServer.modify_session_self]
    exact idle before
  · rw [ChatServer.modify_session_other _ _ here]
    exact before

theorem stop_idle {server : ChatServer} (addr other : Addr) (before : (server.session other).reader.task = none) :
    ((server.stop addr).session other).reader.task = none := by
  have reader := (cancelDeadline_aside (server.session addr)).reader
  have left : ((server.leave addr).session other).reader.task = none := before
  apply modify_idle addr _ other left
  intro idle
  exact (congrArg Reader.task reader).trans idle

theorem resumeReader_step {lib : JsonLib} {server after : ChatServer} {addr : Addr} (idle : server.blocked = none)
    (taken : server.resumeReader lib addr = some after) : OwnStep lib server (.resumeReader addr) after := by
  unfold ChatServer.resumeReader at taken
  split at taken
  · rename_i readMsg reading
    split at taken <;> cases taken
    · exact .other (.inl rfl) fun other before => modify_idle addr (fun _ => rfl) other before
    · exact .other (.inl rfl) fun other before => modify_idle addr (fun _ => rfl) other (stop_idle addr other before)
  · rename_i readMsg reading
    cases taken
    exact .handler rfl (.handed idle reading) rfl
  · rename_i readMsg told rest reading
    cases taken
    exact .handler rfl (.resumed idle reading) rfl
  · cases taken

theorem own_step {lib : JsonLib} {server after : ChatServer} {act : Act} (own : act.isOwn = true)
    (taken : server.step lib act = some after) : OwnStep lib server act after := by
  have thread : (if server.blocked = none then server.threadStep lib act else none) = some after →
      server.blocked = none ∧ server.threadStep lib act = some after := by
    intro taken
    split at taken
    · rename_i idle
      exact ⟨idle, taken⟩
    · cases taken
  have keeps : ∀ addr (change : Session → Session), (change (server.session addr)).reader = (server.session addr).reader →
      OwnStep lib server act (server.modify addr change) := by
    intro addr change same
    refine .other (.inl rfl) fun other before => modify_idle addr ?_ other before
    intro idle
    exact (congrArg Reader.task same).trans idle
  have stops : ∀ addr (change : Session → Session), (∀ session, (change session).reader.task = none ∨
      (change session).reader = session.reader) → OwnStep lib server act ((server.stop addr).modify addr change) := by
    intro addr change quiet
    refine .other (.inl rfl) fun other before => modify_idle addr ?_ other (stop_idle addr other before)
    intro idle
    rcases quiet ((server.stop addr).session addr) with none | same
    · exact none
    · exact (congrArg Reader.task same).trans idle
  cases act with
  | send addr bytes =>
    simp only [ChatServer.step] at taken
    split at taken <;> cases taken
    exact keeps addr _ rfl
  | answer addr oracle => cases own
  | returned answer => cases own
  | arrive request => cases own
  | runTask => cases own
  | accept addr uid =>
    obtain ⟨_, first⟩ := thread taken
    simp only [ChatServer.threadStep] at first
    split at first <;> cases first
    refine .other (.inl rfl) fun other before => ?_
    have started : ((server.modify addr fun _ => { uid, started := true }).session other).reader.task = none :=
      modify_idle addr (fun _ => rfl) other before
    exact started
  | startReader addr =>
    obtain ⟨_, first⟩ := thread taken
    simp only [ChatServer.threadStep] at first
    split at first <;> cases first
    exact .other (.inl rfl) fun other before => modify_idle addr (fun _ => rfl) other before
  | readDone addr =>
    obtain ⟨_, first⟩ := thread taken
    obtain ⟨session, done, same⟩ := Option.map_eq_some_iff.mp first
    subst same
    refine .other (.inl rfl) fun other before => modify_idle addr (fun _ => ?_) other before
    unfold ChatServer.readDone at done
    split at done
    · split at done <;> cases done
      rfl
    · dsimp only at done
      split at done <;> cases done
      rfl
    · cases done
  | readFailed addr =>
    obtain ⟨_, first⟩ := thread taken
    simp only [ChatServer.threadStep] at first
    split at first <;> cases first
    exact stops addr _ fun _ => .inl rfl
  | resumeReader addr =>
    obtain ⟨idle, first⟩ := thread taken
    exact resumeReader_step idle first
  | startWriter addr =>
    obtain ⟨_, first⟩ := thread taken
    simp only [ChatServer.threadStep] at first
    split at first <;> cases first
    exact keeps addr _ (receive_aside _).reader
  | writeDone addr =>
    obtain ⟨_, first⟩ := thread taken
    simp only [ChatServer.threadStep] at first
    split at first <;> cases first
    rename_i out _ _
    have idle : ∀ other, (server.session other).reader.task = none →
        ((server.setWriter addr (.written out)).session other).reader.task = none := by
      apply modify_idle addr
      exact id
    exact .other (.inr ⟨_, _, rfl⟩) idle
  | writeFailed addr =>
    obtain ⟨_, first⟩ := thread taken
    simp only [ChatServer.threadStep] at first
    split at first <;> cases first
    exact stops addr _ fun _ => .inr rfl
  | resumeWriter addr =>
    obtain ⟨_, first⟩ := thread taken
    have resumed : server.resumeWriter addr = some after := first
    unfold ChatServer.resumeWriter at resumed
    split at resumed
    · cases resumed
      exact keeps addr _ rfl
    · split at resumed <;> cases resumed
      · exact stops addr _ fun _ => .inr rfl
      · exact keeps addr _ (receive_aside _).reader
    · cases resumed
  | startDeadline addr =>
    obtain ⟨_, first⟩ := thread taken
    simp only [ChatServer.threadStep] at first
    split at first <;> cases first
    exact keeps addr _ rfl
  | expire addr =>
    obtain ⟨_, first⟩ := thread taken
    simp only [ChatServer.threadStep] at first
    split at first <;> cases first
    exact keeps addr _ rfl
  | resumeDeadline addr =>
    obtain ⟨_, first⟩ := thread taken
    have resumed : server.resumeDeadline addr = some after := first
    unfold ChatServer.resumeDeadline at resumed
    split at resumed
    · cases resumed
      exact keeps addr _ rfl
    · split at resumed <;> cases resumed
      · exact keeps addr _ rfl
      · exact stops addr _ fun _ => .inr rfl
    · cases resumed

/-! ## The calls between the servers -/

/-- A call that has not been executed is the one in which the thread of its server waits. -/
def MatchedAt (call : Call) (own peer : ChatServer) : Prop :=
  match call with
  | .sent request => own.outgoing = some request
  | .queued => ∃ request earlier, own.outgoing = some request ∧ peer.tasks = earlier ++ [request]
  | _ => True

def Matched (cluster : Cluster) : Prop :=
  ∀ side, MatchedAt (cluster.call side) (cluster.server side) (cluster.server side.other)

theorem MatchedAt.same {call : Call} {own peer after later : ChatServer} (matched : MatchedAt call own peer)
    (outgoing : after.outgoing = own.outgoing) (tasks : later.tasks = peer.tasks) : MatchedAt call after later := by
  cases call with
  | idle => trivial
  | sent request => exact outgoing.trans matched
  | queued =>
    obtain ⟨request, earlier, calls, posted⟩ := matched
    exact ⟨request, earlier, outgoing.trans calls, tasks.trans posted⟩
  | answered => trivial

/-- The peer has run the first of its tasks. -/
theorem MatchedAt.served {call : Call} {own peer after : ChatServer} {request : NotifyRequest} {rest : List NotifyRequest}
    (matched : MatchedAt call own peer) (tasks : peer.tasks = request :: rest) (left : after.tasks = rest) :
    MatchedAt (call.served rest) own after := by
  cases call with
  | idle => trivial
  | sent sent => exact matched
  | queued =>
    obtain ⟨sent, earlier, calls, posted⟩ := matched
    rw [tasks] at posted
    cases rest with
    | nil => trivial
    | cons next rest =>
      cases earlier with
      | nil => cases posted
      | cons first earlier => exact ⟨sent, earlier, calls, left.trans (List.cons.inj posted).2⟩
  | answered => trivial

/-- A blocked thread goes on with nothing but what its clients send. -/
theorem own_outgoing {lib : JsonLib} {server after : ChatServer} {act : Act} (own : act.isOwn = true)
    (taken : server.step lib act = some after) (busy : server.blocked ≠ none) : after.outgoing = server.outgoing := by
  cases act with
  | send addr bytes =>
    simp only [ChatServer.step] at taken
    split at taken <;> cases taken
    unfold ChatServer.outgoing
    cases blocked : server.blocked with
    | none => exact absurd blocked busy
    | some caller =>
      simp only [ChatServer.modify_blocked, blocked]
      by_cases here : caller = addr
      · rw [here, ChatServer.modify_session_self]
      · rw [ChatServer.modify_session_other _ _ here]
  | answer addr oracle => cases own
  | returned answer => cases own
  | arrive request => cases own
  | runTask => cases own
  | _ =>
    simp only [ChatServer.step, if_neg busy] at taken
    cases taken

namespace Matched

variable {externals : Externals} {cluster after : Cluster}

theorem setServer {side : Side} {server : ChatServer}
    (here : MatchedAt (cluster.call side) server (cluster.server side.other))
    (there : MatchedAt (cluster.call side.other) (cluster.server side.other) server) : Matched (cluster.setServer side server) := by
  intro which
  rcases eq_or_other side which with same | same
  · subst same
    rw [setServer_self, setServer_other _ _ (other_ne which)]
    by_cases idle : cluster.call which = .idle
    · rw [setServer_call_idle _ _ _ idle]
      cases calls : server.outgoing with
      | none => trivial
      | some request => exact calls
    · rw [setServer_call_busy _ _ _ idle]
      exact here
  · subst same
    rw [other_other, setServer_self, setServer_other _ _ (other_ne side), setServer_call_other _ _ (other_ne side)]
    exact there

theorem start (stores : Stores) (name : Side → String) : Matched (.start stores name) := fun _ => trivial

theorem step (linked : Linked cluster) (matched : Matched cluster) {act : ClusterAct}
    (taken : cluster.step externals act = some after) : Matched after := by
  have peer : ∀ side, MatchedAt (cluster.call side.other) (cluster.server side.other) (cluster.server side) := by
    intro side
    have there := matched side.other
    rw [other_other] at there
    exact there
  cases step_cases taken with
  | @own side act server own first =>
    apply setServer
    · by_cases idle : cluster.call side = .idle
      · rw [idle]
        trivial
      · have busy : (cluster.server side).blocked ≠ none := fun free => idle ((linked.idle side).mpr free)
        exact (matched side).same (own_outgoing own first busy) rfl
    · exact (peer side).same rfl (own_tasks own first)
  | @exec side addr outcome readMsg told op next answer stores reading done =>
    have outgoing : ((cluster.server side).setReader addr (.resuming readMsg (⟨op, answer⟩ :: told) (next answer))).outgoing =
        (cluster.server side).outgoing := (linked.waiting side).outgoing_answered reading _
    have answered := setServer ((matched side).same outgoing rfl) ((peer side).same rfl rfl)
    exact answered
  | @arrive side request sent =>
    have calls := matched side
    rw [sent] at calls
    apply setServer
    · rw [other_other, setCall_other _ _ (other_ne side)]
      exact (peer side).same rfl rfl
    · rw [other_other, setCall_self]
      exact ⟨request, _, calls, rfl⟩
  | @runTask side request rest free tasks =>
    have idle := (linked.idle side).mpr free
    rw [setServer_setCall _ _ _ (other_ne side)]
    apply setServer
    · rw [setCall_other _ _ (ne_other side), idle]
      trivial
    · rw [setCall_self]
      exact (peer side).served tasks (serveNotify_tasks _ _)
  | @returned _ side addr answer readMsg told request next kind blocked reading =>
    apply setServer
    · rw [setCall_self]
      trivial
    · rw [setCall_other _ _ (other_ne side)]
      exact (peer side).same rfl (runHandler_turn _ _ _ _ _).1.tasks
  | tick seconds => exact matched

end Matched

section Reachable

variable {externals : Externals} {stores : Stores} {name : Side → String} {cluster : Cluster}

theorem reachable_matched (reached : Transition.Reachable (Cluster.step externals) (.start stores name) cluster) :
    Matched cluster := by
  apply reached.invariant_with
  · exact fun cluster reached => reachable_linked reached
  · exact fun cluster act after linked matched taken => matched.step linked taken
  · exact Matched.start stores name

theorem reachable_tracked (reached : Transition.Reachable (Cluster.step externals) (.start stores name) cluster) (side : Side) :
    Tracked externals.lib (cluster.server side) := by
  obtain ⟨acts, run⟩ := reached
  exact run_servers step_tracked (fresh_tracked externals.lib) run side

end Reachable

/-! ## Who has asked for the tasks of a server -/

theorem outgoing_calling {server : ChatServer} {request : NotifyRequest} (outgoing : server.outgoing = some request) :
    ∃ addr readMsg told next, server.blocked = some addr ∧ (server.session addr).reader = .calling readMsg told request next := by
  unfold ChatServer.outgoing at outgoing
  split at outgoing
  · rename_i addr blocked
    split at outgoing <;> cases outgoing
    rename_i readMsg told next reading
    exact ⟨addr, readMsg, told, next, blocked, reading⟩
  · cases outgoing

/-- The session that waits for a call has asked for the notification, as the user whom it counts as. -/
theorem calling_notice {lib : JsonLib} {server : ChatServer} (tracked : Tracked lib server) {addr : Addr} {readMsg : MsgNode}
    {told : Ledger} {request : NotifyRequest} {next : Option Int32 → Awaitable ChannelMessage}
    (reading : (server.session addr).reader = .calling readMsg told request next) :
    ∃ (notice : AcceptedRequest) (early : Ledger), notice.From lib readMsg early ∧ request = notice.remote ∧
      Acts lib server addr notice.sender ∧ (handed server.log addr).getLast? = some readMsg := by
  have runs : (server.session addr).reader.task = some (readMsg, told, .call (.notify request) next) := by
    rw [reading]
    rfl
  have reaches := tracked.traced.suspended runs
  have asked := (reaches.guided (handleMessage_asked lib readMsg)).1.1
  obtain ⟨notice, name, early, entry, known, built⟩ := asked_notify asked
  subst entry
  have own := known.own.1.tail ⟨.serverName, name⟩
  have gated := asked_gated asked (List.cons_ne_nil _ _) (reaches.separate.asked _ own)
  exact ⟨notice, early, known, built, tracked.speaks runs own gated, tracked.current addr _ _ _ runs⟩

section Tasks

variable {externals : Externals} {cluster after : Cluster} {act : ClusterAct}

/-- The tasks of a server are a queue. -/
theorem step_tasks (taken : cluster.step externals act = some after) (side : Side) :
    (after.server side).tasks = (cluster.server side).tasks ∨
      (∃ request, act = .arrive side.other ∧ cluster.call side.other = .sent request ∧
        (after.server side).tasks = (cluster.server side).tasks ++ [request]) ∨
      act = .runTask side ∧ ∃ request, (cluster.server side).tasks = request :: (after.server side).tasks := by
  have keeps : ∀ {which : Side} {server : ChatServer} (cluster : Cluster), server.tasks = (cluster.server which).tasks →
      ((cluster.setServer which server).server side).tasks = (cluster.server side).tasks := by
    intro which server cluster same
    by_cases here : side = which
    · rw [here, setServer_self, same]
    · rw [setServer_other _ _ here]
  cases step_cases taken with
  | own own first => exact .inl (keeps cluster (own_tasks own first))
  | @exec which addr outcome readMsg told op next answer stores reading done =>
    left
    have same := @keeps which ((cluster.server which).setReader addr (.resuming readMsg (⟨op, answer⟩ :: told) (next answer)))
      cluster rfl
    exact same
  | @arrive which request sent =>
    rcases eq_or_other which side with rfl | rfl
    · left
      rw [setServer_other _ _ (ne_other side)]
      rfl
    · right
      left
      rw [other_other, setServer_self]
      exact ⟨request, rfl, sent, rfl⟩
  | @runTask which request rest free tasks =>
    by_cases here : side = which
    · subst here
      rw [setCall_server, setServer_self, serveNotify_tasks]
      exact .inr (.inr ⟨rfl, request, tasks⟩)
    · rw [setCall_server, setServer_other _ _ here]
      exact .inl rfl
  | @returned _ which addr answer readMsg told request next kind blocked reading =>
    exact .inl (keeps _ (runHandler_turn _ _ _ _ _).1.tasks)
  | tick seconds => exact .inl rfl

/-- On the way from `root` to this state, the server of `side` has called its peer for this. -/
def HasCalled (externals : Externals) (root cluster : Cluster) (side : Side) (request : NotifyRequest) : Prop :=
  ∃ past, Transition.Reachable (Cluster.step externals) root past ∧ Transition.Reachable (Cluster.step externals) past cluster ∧
    (past.server side).outgoing = some request

theorem HasCalled.next {root : Cluster} {side : Side} {request : NotifyRequest}
    (called : HasCalled externals root cluster side request) (taken : cluster.step externals act = some after) :
    HasCalled externals root after side request := by
  obtain ⟨past, reached, since, asked⟩ := called
  exact ⟨past, reached, since.next taken, asked⟩

/-- A task stays with the peer when its caller has given up, but there was a call for it. -/
theorem reachable_called {stores : Stores} {name : Side → String}
    (reached : Transition.Reachable (Cluster.step externals) (.start stores name) cluster) {side : Side} {request : NotifyRequest}
    (member : request ∈ (cluster.server side).tasks) : HasCalled externals (.start stores name) cluster side.other request := by
  have keeps : ∀ (cluster : Cluster) (act : ClusterAct) (after : Cluster),
      (Transition.Reachable (Cluster.step externals) (.start stores name) cluster ∧ Matched cluster) →
      (∀ side, ∀ request ∈ (cluster.server side).tasks, HasCalled externals (.start stores name) cluster side.other request) →
      cluster.step externals act = some after →
      ∀ side, ∀ request ∈ (after.server side).tasks, HasCalled externals (.start stores name) after side.other request := by
    intro cluster act after known called taken side request member
    rcases step_tasks taken side with same | ⟨asked, _, sent, same⟩ | ⟨_, first, same⟩
    · rw [same] at member
      exact (called side request member).next taken
    · rw [same] at member
      rcases List.mem_append.mp member with old | new
      · exact (called side request old).next taken
      · have calls := known.2 side.other
        rw [sent] at calls
        rw [List.mem_singleton.mp new]
        exact HasCalled.next ⟨cluster, known.1, .refl _, calls⟩ taken
    · have old : request ∈ (cluster.server side).tasks := by
        rw [same]
        exact List.mem_cons_of_mem _ member
      exact (called side request old).next taken
  refine reached.invariant_with (fun cluster reached => ⟨reached, reachable_matched reached⟩) keeps ?_ side request member
  intro side request nothing
  cases nothing

end Tasks

/-! ## What a step puts into a queue -/

/-- The session whose handler a step is about. -/
def actor (cluster : Cluster) : ClusterAct → Option (Side × Addr)
  | .own side (.resumeReader addr) => some (side, addr)
  | .exec side addr _ => some (side, addr)
  | .runTask side =>
    -- the caller who waits for the task that is run, if one does
    match cluster.call side.other, (cluster.server side).tasks with
    | .queued, [_] => (cluster.server side.other).blocked.map fun addr => (side.other, addr)
    | _, _ => none
  | .finish side | .fail side => (cluster.server side).blocked.map fun addr => (side, addr)
  | _ => none

/-- The notification as it comes to a session of `side`, when it was asked for at `origin`. -/
def AcceptedRequest.arriving (request : AcceptedRequest) (origin side : Side) : Notification :=
  if origin = side then request.here else notified request.remote

/-- Before this state, the session `addr` of `side` has called the peer for this, as the user whom it counted as then. -/
def HadAsked (externals : Externals) (root cluster : Cluster) (side : Side) (addr : Addr) (request : AcceptedRequest) : Prop :=
  ∃ past readMsg told, Transition.Reachable (Cluster.step externals) root past ∧
    Transition.Reachable (Cluster.step externals) past cluster ∧ (past.server side).blocked = some addr ∧
    (past.server side).outgoing = some request.remote ∧ (handed (past.server side).log addr).getLast? = some readMsg ∧
    request.From externals.lib readMsg told ∧ Acts externals.lib (past.server side) addr request.sender

/-- A message that a step has put into the queue of the session `target` of `side`: the reply of its own
    handler, or a notification that somebody else has asked for who is logged in, or was when he asked the
    peer for it. -/
inductive Fresh (externals : Externals) (root cluster : Cluster) (act : ClusterAct) (after : Cluster) (side : Side) (target : Addr)
    (message : ChannelMessage) : Prop
  | reply {readMsg : MsgNode} {told : Ledger} : actor cluster act = some (side, target) →
      .replied target readMsg told message ∈ (after.server side).log → Fresh externals root cluster act after side target message
  | push {origin : Side} {addr : Addr} {readMsg : MsgNode} {told : Ledger} (request : AcceptedRequest) :
      actor cluster act = some (origin, addr) → (origin, addr) ≠ (side, target) →
      (handed (after.server origin).log addr).getLast? = some readMsg → request.From externals.lib readMsg told →
      Acts externals.lib (after.server origin) addr request.sender →
      message = { msg := (request.arriving origin side).frame } → Fresh externals root cluster act after side target message
  | late {addr : Addr} (request : AcceptedRequest) : act = .runTask side → actor cluster act = none →
      HadAsked externals root cluster side.other addr request →
      message = { msg := (request.arriving side.other side).frame } → Fresh externals root cluster act after side target message

section Fresh

variable {externals : Externals} {root cluster after : Cluster} {act : ClusterAct}

theorem resumes_accepted {lib : JsonLib} {server ready : ChatServer} {addr : Addr} {readMsg : MsgNode} {told : Ledger}
    {rest : Awaitable ChannelMessage} (resumes : Resumes lib server addr readMsg told rest ready) (target : Addr) :
    accepted ready.log target = accepted server.log target := by
  cases resumes with
  | handed idle reading => exact accepted_other rfl server.log
  | resumed idle reading => rfl
  | returned answer blocked reading => rfl

/-- The turn of a handler of `side`. -/
theorem turn_fresh {side : Side} {addr : Addr} {readMsg : MsgNode} {told : Ledger} {rest : Awaitable ChannelMessage}
    {ready : ChatServer} (before : Tracked externals.lib (cluster.server side)) (tracked : Tracked externals.lib (after.server side))
    (resumes : Resumes externals.lib (cluster.server side) addr readMsg told rest ready)
    (ran : after.server side = ready.runHandler addr readMsg told rest) (acts : actor cluster act = some (side, addr)) (target : Addr) :
    accepted (after.server side).log target = accepted (cluster.server side).log target ∨
      ∃ message, accepted (after.server side).log target = accepted (cluster.server side).log target ++ [message] ∧
        Fresh externals root cluster act after side target message := by
  have added := before.added resumes
  have last := before.current.resumes resumes
  have same := (runHandler_turn ready addr readMsg told rest).2.handed addr
  rw [← ran] at added same
  rw [← resumes_accepted resumes target]
  rcases added.accepted target with full | ⟨message, sent, ⟨here, told, logged⟩ | ⟨apart, reading, request, notifies, built⟩⟩
  · exact .inl full
  · subst here
    exact .inr ⟨message, sent, .reply acts logged⟩
  · have known := tracked.acts reading notifies.isAuthenticated
    obtain ⟨early, accepts⟩ := notifies.known
    rw [notifies.sender] at known
    refine .inr ⟨message, sent, .push request acts ?_ ?_ accepts known ?_⟩
    · intro here
      exact apart (Prod.mk.inj here).2.symm
    · exact (congrArg List.getLast? same).trans last
    · rw [built, AcceptedRequest.arriving, if_pos rfl]

/-- The task that the call of its peer waits for. -/
theorem task_calling {side : Side} {request : NotifyRequest} (matched : Matched cluster)
    (call : cluster.call side.other = .queued) (tasks : (cluster.server side).tasks = [request]) :
    ∃ addr readMsg told next, (cluster.server side.other).blocked = some addr ∧
      ((cluster.server side.other).session addr).reader = .calling readMsg told request next := by
  have calls := matched side.other
  rw [call, other_other] at calls
  obtain ⟨sent, earlier, outgoing, posted⟩ := calls
  rw [tasks] at posted
  cases earlier with
  | nil =>
    cases posted
    exact outgoing_calling outgoing
  | cons first earlier => cases (List.append_eq_nil_iff.mp (List.cons.inj posted).2.symm).2

/-- A task was asked for on a session that was logged in, whether or not somebody waits for it still. -/
theorem reachable_asked {stores : Stores} {name : Side → String}
    (reached : Transition.Reachable (Cluster.step externals) (.start stores name) cluster) {side : Side} {request : NotifyRequest}
    (member : request ∈ (cluster.server side).tasks) : ∃ addr notice, request = AcceptedRequest.remote notice ∧
      HadAsked externals (.start stores name) cluster side.other addr notice := by
  obtain ⟨past, before, since, outgoing⟩ := reachable_called reached member
  have tracked := reachable_tracked before side.other
  obtain ⟨addr, readMsg, told, next, blocked, reading⟩ := outgoing_calling outgoing
  obtain ⟨notice, early, known, rfl, speaks, last⟩ := calling_notice tracked reading
  exact ⟨addr, notice, rfl, past, readMsg, early, before, since, blocked, outgoing, last, known, speaks⟩

theorem actor_task {side : Side} {addr : Addr} {request : NotifyRequest} (call : cluster.call side.other = .queued)
    (tasks : (cluster.server side).tasks = [request]) (blocked : (cluster.server side.other).blocked = some addr) :
    actor cluster (.runTask side) = some (side.other, addr) := by
  simp only [actor, call, tasks, blocked, Option.map_some]

theorem actor_late {side : Side} {request : NotifyRequest} {rest : List NotifyRequest}
    (tasks : (cluster.server side).tasks = request :: rest) (late : ¬ (cluster.call side.other = .queued ∧ rest = [])) :
    actor cluster (.runTask side) = none := by
  unfold actor
  dsimp only
  split
  · rename_i queued only
    rw [tasks] at only
    exact absurd ⟨queued, (List.cons.inj only).2⟩ late
  · rfl

theorem serveNotify_accepted (server : ChatServer) (request : NotifyRequest) (target : Addr) :
    accepted (server.serveNotify request).log target = accepted server.log target ∨
      accepted (server.serveNotify request).log target = accepted server.log target ++ [{ msg := (notified request).frame }] := by
  unfold ChatServer.serveNotify
  rw [notifySession_eq]
  dsimp only
  split
  · rename_i found looked
    have delivered := deliver_log server found { msg := (notified request).frame }
    by_cases here : target = found
    · subst here
      exact delivered.accepted_self
    · exact .inl (delivered.accepted_other here)
  · exact .inl rfl

theorem step_accepted {stores : Stores} {name : Side → String}
    (reached : Transition.Reachable (Cluster.step externals) (.start stores name) cluster)
    (taken : cluster.step externals act = some after) (side : Side) (target : Addr) :
    accepted (after.server side).log target = accepted (cluster.server side).log target ∨
      ∃ message, accepted (after.server side).log target = accepted (cluster.server side).log target ++ [message] ∧
        Fresh externals (.start stores name) cluster act after side target message := by
  have before := reachable_tracked reached
  have tracked := reachable_tracked (reached.next taken)
  have matched := reachable_matched reached
  cases step_cases taken with
  | @own which act server own first =>
    by_cases here : side = which
    · subst here
      have same : (cluster.setServer side server).server side = server := setServer_self _ _ _
      cases own_step own first with
      | @handler addr readMsg told rest ready kind resumes ran =>
        subst kind
        exact turn_fresh (before side) (tracked side) resumes (same.trans ran) rfl target
      | other logged _ =>
        rw [same]
        rcases logged with quiet | ⟨addr, out, wrote⟩
        · exact .inl (congrArg (accepted · target) quiet)
        · exact .inl ((congrArg (accepted · target) wrote).trans (accepted_other rfl _))
    · rw [setServer_other _ _ here]
      exact .inl rfl
  | @exec which addr outcome readMsg told op next answer stores reading done =>
    left
    change accepted ((cluster.setServer which _).server side).log target = _
    by_cases here : side = which
    · subst here
      rw [setServer_self]
      rfl
    · rw [setServer_other _ _ here]
  | @arrive which request sent =>
    left
    by_cases here : side = which.other
    · subst here
      rw [setServer_self]
    · rw [setServer_other _ _ here]
      rfl
  | @runTask which request rest free tasks =>
    by_cases here : side = which
    · subst here
      rw [setCall_server, setServer_self]
      rcases serveNotify_accepted { cluster.server side with tasks := rest } request target with full | sent
      · exact .inl full
      · refine .inr ⟨_, sent, ?_⟩
        by_cases live : cluster.call side.other = .queued ∧ rest = []
        · obtain ⟨call, rfl⟩ := live
          obtain ⟨addr, readMsg, told, next, blocked, reading⟩ := task_calling matched call tasks
          obtain ⟨notice, early, known, rfl, speaks, last⟩ := calling_notice (before side.other) reading
          refine .push notice (actor_task call tasks blocked) ?_ ?_ known ?_ ?_
          · intro same
            exact other_ne side (Prod.mk.inj same).1
          · rw [setCall_server, setServer_other _ _ (other_ne side)]
            exact last
          · rw [setCall_server, setServer_other _ _ (other_ne side)]
            exact speaks
          · rw [AcceptedRequest.arriving, if_neg (other_ne side)]
        · obtain ⟨addr, notice, rfl, had⟩ := reachable_asked reached (tasks ▸ List.mem_cons_self)
          refine .late notice rfl (actor_late tasks live) had ?_
          rw [AcceptedRequest.arriving, if_neg (other_ne side)]
    · rw [setCall_server, setServer_other _ _ here]
      exact .inl rfl
  | @returned _ which addr answer readMsg told request next kind blocked reading =>
    by_cases here : side = which
    · subst here
      have acts : actor cluster act = some (side, addr) := by
        rcases kind with ⟨same, _⟩ | ⟨same, _⟩ <;> subst same <;> simp only [actor, blocked, Option.map_some]
      exact turn_fresh (before side) (tracked side) (.returned answer blocked reading) (setServer_self _ _ _) acts target
    · rw [setServer_other _ _ here]
      exact .inl rfl
  | tick seconds => exact .inl rfl

end Fresh

end ChatProof
