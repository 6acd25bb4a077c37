import ChatProject.Server.Handling

/-! The ten seconds in which a connection has to log in. -/

namespace ChatProof

open ChatModel

/-- The deadline coroutine is about to wait, waits, or has its expiry queued. -/
def Deadline.isArmed : Deadline → Bool
  | .unstarted | .armed | .expired => true
  | .aborted | .finished => false

/-- As long as a connection may still be closed for not logging in, its deadline is there to do so. -/
def Watched (session : Session) : Prop :=
  session.started = true → session.stopped = false → session.isAuthenticated = false →
    Deadline.isArmed session.loginDeadline = true

def AllWatched (server : ChatServer) : Prop := ∀ addr, Watched (server.session addr)

theorem watched_same {before after : Session} (watched : Watched before) (started : after.started = before.started)
    (stopped : after.stopped = before.stopped) (isAuthenticated : after.isAuthenticated = before.isAuthenticated)
    (loginDeadline : after.loginDeadline = before.loginDeadline) : Watched after := by
  unfold Watched
  rw [started, stopped, isAuthenticated, loginDeadline]
  exact watched

theorem watched_stopped {session : Session} (stopped : session.stopped = true) : Watched session := by
  intro _ opened
  rw [stopped] at opened
  cases opened

theorem watched_authenticated {session : Session} (authenticated : session.isAuthenticated = true) :
    Watched session := by
  intro _ _ stranger
  rw [authenticated] at stranger
  cases stranger

theorem watched_armed {session : Session} (armed : Deadline.isArmed session.loginDeadline = true) : Watched session :=
  fun _ _ _ => armed

theorem trySend_loginDeadline {msg : ChannelMessage} {session after : Session}
    (sent : session.trySend msg = some after) : after.loginDeadline = session.loginDeadline := by
  unfold Session.trySend at sent
  split at sent
  · cases sent
    rfl
  · obtain ⟨channel, _, same⟩ := Option.map_eq_some_iff.mp sent
    subst same
    rfl

theorem trySend_watched {msg : ChannelMessage} {session after : Session} (sent : session.trySend msg = some after)
    (watched : Watched session) : Watched after := by
  have aside := trySend_aside sent
  exact watched_same watched aside.started aside.stopped aside.isAuthenticated (trySend_loginDeadline sent)

theorem receive_watched {session : Session} (watched : Watched session) : Watched session.receive := by
  have aside := receive_aside session
  apply watched_same watched aside.started aside.stopped aside.isAuthenticated
  unfold Session.receive
  split <;> rfl

namespace AllWatched

variable {server : ChatServer}

theorem modify (watched : AllWatched server) (addr : Addr) {change : Session → Session}
    (here : Watched (change (server.session addr))) : AllWatched (server.modify addr change) := by
  intro other
  by_cases same : other = addr
  · rw [same, ChatServer.modify_session_self]
    exact here
  · rw [ChatServer.modify_session_other _ _ same]
    exact watched other

theorem setReader (watched : AllWatched server) (addr : Addr) (reader : Reader) :
    AllWatched (server.setReader addr reader) := watched.modify addr (watched addr)

theorem setWriter (watched : AllWatched server) (addr : Addr) (writer : Writer) :
    AllWatched (server.setWriter addr writer) := watched.modify addr (watched addr)

theorem record (watched : AllWatched server) (event : Event) : AllWatched (server.record event) := watched

theorem stop (watched : AllWatched server) (addr : Addr) : AllWatched (server.stop addr) := by
  have left : AllWatched (server.leave addr) := watched
  exact left.modify addr (watched_stopped rfl)

theorem deliver (watched : AllWatched server) (addr : Addr) (msg : ChannelMessage) :
    AllWatched (server.deliver addr msg) := by
  unfold ChatServer.deliver
  split
  · rename_i session sent
    have here : Watched session := trySend_watched sent (watched addr)
    have sentOff : AllWatched (server.modify addr fun _ => session) := watched.modify addr here
    exact sentOff.record _
  · exact watched.record _

theorem execLocal (watched : AllWatched server) {own : Addr} {op : Op} {answer : op.Res} {after : ChatServer}
    (answered : ChatServer.execLocal own op server = some (answer, after)) : AllWatched after := by
  cases op <;> simp only [ChatServer.execLocal, Option.some.injEq, Prod.mk.injEq, reduceCtorEq] at answered
  case setUid uid =>
    rw [← answered.2]
    exact watched.modify own (watched own)
  case markAuthenticated =>
    rw [← answered.2]
    exact watched.modify own (watched_authenticated rfl)
  case deliver target msg =>
    rw [← answered.2]
    exact watched.deliver target msg
  all_goals
    rw [← answered.2]
    exact watched

theorem runHandler (watched : AllWatched server) (addr : Addr) (readMsg : MsgNode) (ledger : Ledger)
    (rest : Awaitable ChannelMessage) : AllWatched (server.runHandler addr readMsg ledger rest) := by
  have answers : ∀ op (state : ChatServer × Ledger) answer after, True →
      ChatServer.execRecorded addr op state = some (answer, after) → AllWatched state.1 → AllWatched after.1 := by
    intro op state answer after _ answered before
    obtain ⟨pair, done, same⟩ := Option.map_eq_some_iff.mp answered
    obtain ⟨found, reached⟩ := pair
    cases same
    exact before.execLocal done
  have ran : AllWatched (rest.advance (ChatServer.execRecorded addr) (server, ledger)).2.1 :=
    Coroutine.advance_preserves _ answers (Coroutine.asksOnly_all rest) watched
  unfold ChatServer.runHandler
  generalize rest.advance (ChatServer.execRecorded addr) (server, ledger) = stopped at ran
  obtain ⟨left, reached, told⟩ := stopped
  cases left with
  | ret reply =>
    have sent := (ran.record (.replied addr readMsg told reply)).deliver addr reply
    exact sent.setReader addr .readingHeader
  | throw error => exact (ran.stop addr).setReader addr .finished
  | call op next =>
    cases op
    case notify request => exact ran.setReader addr (.calling readMsg told request next)
    all_goals exact ran.setReader addr (.waiting readMsg told _ next)

theorem rule (lib : JsonLib) : ActRule lib AllWatched where
  deliver _ addr msg _ watched := watched.deliver addr msg
  start server addr uid _ _ _ _ watched := by
    have born : Watched { uid, started := true } := watched_armed rfl
    have started : AllWatched (server.modify addr fun _ => { uid, started := true }) := watched.modify addr born
    exact started
  send _ addr _ _ _ _ watched := watched.modify addr (watched addr)
  begin _ addr _ _ _ _ watched := watched.setReader addr .readingHeader
  read server addr session _ _ done watched := by
    obtain ⟨started, stopped, _, isAuthenticated⟩ := ChatServer.readDone_login done
    apply watched.modify addr
    apply watched_same (watched addr) started stopped isAuthenticated
    unfold ChatServer.readDone at done
    split at done
    · split at done <;> cases done
      rfl
    · dsimp only at done
      split at done <;> cases done
      rfl
    · cases done
  decoded _ addr _ header _ _ _ _ watched := watched.setReader addr (.readingBody header)
  quit _ addr _ _ _ _ watched := (watched.stop addr).setReader addr .finished
  answer _ addr readMsg ledger op next oracle _ _ watched := watched.setReader addr _
  post _ _ watched := watched
  handler server addr readMsg ledger rest ready _ _ _ resumes watched := by
    have ready : AllWatched ready := by
      cases resumes <;> exact watched
    exact ready.runHandler addr readMsg ledger rest
  beginWriter _ addr _ _ _ _ watched := watched.modify addr (receive_watched (watched addr))
  write _ addr out _ _ _ watched := watched.setWriter addr (.writing out)
  written _ addr out _ _ _ _ watched := watched.setWriter addr (.written out)
  writeFailed _ addr _ _ _ _ watched := (watched.stop addr).setWriter addr .finished
  close _ addr _ _ _ _ _ watched := (watched.stop addr).setWriter addr .finished
  receive _ addr _ _ _ _ _ watched := watched.modify addr (receive_watched (watched addr))
  beginDeadline _ addr _ _ _ _ watched := watched.modify addr (watched_armed rfl)
  expire _ addr _ _ _ watched := watched.modify addr (watched_armed rfl)
  aborted server addr _ _ aborted watched := by
    apply watched.modify addr
    -- the wait was cancelled by a login or by `stop`
    intro started opened stranger
    have armed := watched addr started opened stranger
    rw [aborted] at armed
    cases armed
  expired _ addr _ _ _ authenticated watched := watched.modify addr (watched_authenticated authenticated)
  timeout server addr _ _ _ _ watched := by
    have stopped := watched.stop addr
    apply stopped.modify addr
    apply watched_stopped
    rw [stop_self]

theorem fresh (name : String) : AllWatched (.fresh name) := by
  intro addr started
  cases started

end AllWatched

/-- The steps of the coroutines `check_login_deadline`. -/
def isDeadlineStep : Act → Bool
  | .startDeadline _ | .expire _ | .resumeDeadline _ => true
  | _ => false

theorem setDeadline_stopped (server : ChatServer) (other addr : Addr) (deadline : Deadline) :
    ((server.setDeadline other deadline).session addr).stopped = (server.session addr).stopped := by
  by_cases here : addr = other
  · subst here
    have same : (server.setDeadline addr deadline).session addr =
        { server.session addr with loginDeadline := deadline } := if_pos rfl
    rw [same]
  · exact congrArg Session.stopped (ChatServer.modify_session_other _ _ here)

/-- No deadline closes a session that is logged in. -/
theorem deadlineStep_spares {lib : JsonLib} {server after : ChatServer} {addr : Addr} {act : Act}
    (deadline : isDeadlineStep act = true) (authenticated : (server.session addr).isAuthenticated = true)
    (taken : server.step lib act = some after) :
    (after.session addr).stopped = (server.session addr).stopped ∧
      (addr ∈ after.participants ↔ addr ∈ server.participants) := by
  have moved : ∀ other deadline, ((server.setDeadline other deadline).session addr).stopped =
      (server.session addr).stopped ∧ (addr ∈ (server.setDeadline other deadline).participants ↔
        addr ∈ server.participants) :=
    fun other deadline => ⟨setDeadline_stopped server other addr deadline, Iff.rfl⟩
  cases act with
  | startDeadline other =>
    simp only [ChatServer.step, ChatServer.threadStep] at taken
    split at taken
    · split at taken <;> cases taken
      exact moved other .armed
    · cases taken
  | expire other =>
    simp only [ChatServer.step, ChatServer.threadStep] at taken
    split at taken
    · split at taken <;> cases taken
      exact moved other .expired
    · cases taken
  | resumeDeadline other =>
    simp only [ChatServer.step, ChatServer.threadStep, ChatServer.resumeDeadline] at taken
    split at taken
    · split at taken
      · cases taken
        exact moved other .finished
      · split at taken <;> cases taken
        · exact moved other .finished
        · rename_i stranger
          -- the one that is closed is not logged in
          have different : addr ≠ other := fun same => stranger (same ▸ authenticated)
          have stopped := setDeadline_stopped (server.stop other) other addr .finished
          rw [stop_other server different] at stopped
          refine ⟨stopped, ?_⟩
          have members : ((server.stop other).setDeadline other .finished).participants =
              server.participants.erase other := rfl
          rw [members, OrderedSet.mem_erase]
          exact ⟨fun member => member.1, fun member => ⟨member, different⟩⟩
      · cases taken
    · cases taken
  | _ => cases deadline

theorem login_deadline_armed (lib : JsonLib) (name : String) (acts : List Act) (server : ChatServer)
    (run : Transition.Run (ChatServer.step lib) (.fresh name) acts server) (addr : Addr) :
    ((server.session addr).started = true → (server.session addr).stopped = false →
      (server.session addr).isAuthenticated = false → Deadline.isArmed (server.session addr).loginDeadline = true) ∧
    ∀ act after, isDeadlineStep act = true → (server.session addr).isAuthenticated = true →
      server.step lib act = some after → (after.session addr).stopped = (server.session addr).stopped ∧
        (addr ∈ after.participants ↔ addr ∈ server.participants) := by
  have keeps : ∀ server act after, AllWatched server → server.step lib act = some after → AllWatched after :=
    fun server act after watched taken => (AllWatched.rule lib).step trivial (fun _ _ _ => trivial) taken watched
  have watched : AllWatched server := run.invariant keeps (AllWatched.fresh name)
  exact ⟨watched addr, fun act after deadline authenticated taken => deadlineStep_spares deadline authenticated taken⟩

theorem login_deadline_armed_expired : ∃ server,
    Transition.Run (ChatServer.step ⟨fun _ => none, fun _ => none⟩) (.fresh "chat_server1")
      [.accept 1 0, .startDeadline 1, .expire 1] server ∧ Deadline.isArmed (server.session 1).loginDeadline = true := by
  have possible : ((Transition.runs (ChatServer.step ⟨fun _ => none, fun _ => none⟩) (.fresh "chat_server1")
      [.accept 1 0, .startDeadline 1, .expire 1]).any fun server =>
        decide ((server.session 1).started = true ∧ (server.session 1).stopped = false ∧
          (server.session 1).isAuthenticated = false)) = true := by decide +kernel
  obtain ⟨server, reached, found⟩ := (Option.any_eq_true _ _).mp possible
  obtain ⟨started, opened, stranger⟩ := of_decide_eq_true found
  have run := Transition.run_iff_runs.mpr reached
  exact ⟨server, run, (login_deadline_armed _ _ _ server run 1).1 started opened stranger⟩

end ChatProof
