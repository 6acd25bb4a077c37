import ChatProject.Chat.Dispatch
import ChatProject.Server.Identity
import ChatProject.Server.Lookup

/-! A request that is no login leaves its session as it was, whatever it says and whatever fails. -/

namespace ChatProof

open ChatModel

/-! ## The reply -/

section Reply

variable {lib : JsonLib} {readMsg : MsgNode} {told : Ledger} {rest : Awaitable ChannelMessage}

theorem asked_isAuthenticated (asked : Asked lib readMsg told .isAuthenticated) : told = [] := by
  have never : ∀ {α : Type} {spec : Notifying α}, (∀ request, spec.statement request ≠ some .isAuthenticated) →
      ¬ spec.Questions told .isAuthenticated := by
    intro α spec other questions
    cases questions with
    | prepare asks =>
      cases asks with
      | statement _ same => exact other _ same
  cases asked with
  | gate same => exact same
  | login _ asks => cases asks
  | search _ _ _ asks => cases asks
  | addFriend _ _ questions => exact (never (fun _ same => by cases same) questions).elim
  | authFriend _ _ questions => exact (never (fun _ same => by cases same) questions).elim
  | textChat _ _ questions => exact (never (fun _ same => by cases same) questions).elim

/-- A handler that was refused by the gate is told nothing else. -/
theorem Reaches.refused (reaches : Reaches lib readMsg told rest) (kind : MessageId.enumCast readMsg.id ≠ some .loginRequest)
    (stranger : Told told .isAuthenticated false) : told = [⟨.isAuthenticated, false⟩] := by
  revert stranger
  apply reaches.kept
  · intro stranger
    cases stranger
  · intro told op answer asked before stranger
    rcases List.mem_cons.mp stranger with here | early
    · cases here
      rw [asked_isAuthenticated asked]
    · have same := before early
      subst same
      have gated := asked_gated asked (List.cons_ne_nil _ _) kind
      cases List.mem_singleton.mp gated

/-- Only the gate closes a session whose request is no login. -/
theorem Reaches.stays {reply : ChannelMessage} (reaches : Reaches lib readMsg told (.ret reply))
    (kind : MessageId.enumCast readMsg.id ≠ some .loginRequest) (admitted : told ≠ [⟨.isAuthenticated, false⟩]) :
    reply.closeAfterSend = false := by
  obtain ⟨_, same, replied⟩ := reaches.guided (handleMessage_asked lib readMsg)
  cases same
  have answered : ∀ {α : Type} {spec : Notifying α}, spec.Answers readMsg told reply → reply.closeAfterSend = false := by
    intro α spec answers
    cases answers with
    | prepare replies => cases replies <;> rfl
    | _ => rfl
  cases replied with
  | rejected _ same => exact absurd same admitted
  | unknown _ _ => rfl
  | thrown _ => rfl
  | login other _ => exact absurd other kind
  | search _ _ replies => cases replies <;> rfl
  | addFriend _ _ answers => exact answered answers
  | authFriend _ _ answers => exact answered answers
  | textChat _ _ answers => exact answered answers

theorem Reaches.never_throws {failure : Failure} (reaches : Reaches lib readMsg told (.throw failure)) : False := by
  obtain ⟨_, same, _⟩ := reaches.guided (handleMessage_asked lib readMsg)
  cases same

end Reply

/-! ## The session -/

/-- Nobody is logged in or out by this, and nobody comes or goes. -/
structure Gentle (before after : ChatServer) : Prop where
  participants : after.participants = before.participants
  stopped : ∀ addr, (after.session addr).stopped = (before.session addr).stopped
  uid : ∀ addr, (after.session addr).uid = (before.session addr).uid
  isAuthenticated : ∀ addr, (after.session addr).isAuthenticated = (before.session addr).isAuthenticated

namespace Gentle

variable {server middle after : ChatServer}

theorem refl (server : ChatServer) : Gentle server server := ⟨rfl, fun _ => rfl, fun _ => rfl, fun _ => rfl⟩

theorem trans (first : Gentle server middle) (second : Gentle middle after) : Gentle server after :=
  ⟨second.participants.trans first.participants, fun addr => (second.stopped addr).trans (first.stopped addr),
    fun addr => (second.uid addr).trans (first.uid addr),
    fun addr => (second.isAuthenticated addr).trans (first.isAuthenticated addr)⟩

theorem modify (addr : Addr) {change : Session → Session}
    (stopped : (change (server.session addr)).stopped = (server.session addr).stopped)
    (uid : (change (server.session addr)).uid = (server.session addr).uid)
    (isAuthenticated : (change (server.session addr)).isAuthenticated = (server.session addr).isAuthenticated) :
    Gentle server (server.modify addr change) := by
  have same : ∀ {β : Type} (field : Session → β), field (change (server.session addr)) = field (server.session addr) →
      ∀ other, field ((server.modify addr change).session other) = field (server.session other) := by
    intro β field kept other
    by_cases here : other = addr
    · subst here
      rw [ChatServer.modify_session_self]
      exact kept
    · rw [ChatServer.modify_session_other _ _ here]
  exact ⟨rfl, same _ stopped, same _ uid, same _ isAuthenticated⟩

theorem setReader (addr : Addr) (reader : Reader) : Gentle server (server.setReader addr reader) := modify addr rfl rfl rfl

theorem record (event : Event) : Gentle server (server.record event) := ⟨rfl, fun _ => rfl, fun _ => rfl, fun _ => rfl⟩

theorem deliver (addr : Addr) (msg : ChannelMessage) : Gentle server (server.deliver addr msg) := by
  unfold ChatServer.deliver
  split
  · rename_i session sent
    have aside := trySend_aside sent
    have sentOff : Gentle server (server.modify addr fun _ => session) :=
      modify addr aside.stopped aside.uid aside.isAuthenticated
    exact sentOff.trans (record _)
  · exact record _

theorem execLocal {own : Addr} {op : Op} {answer : op.Res} (plain : isLoginOnly op = false)
    (answered : ChatServer.execLocal own op server = some (answer, after)) : Gentle server after := by
  cases op <;> simp only [ChatServer.execLocal, Option.some.injEq, Prod.mk.injEq, reduceCtorEq] at answered
  case setUid uid => cases plain
  case markAuthenticated => cases plain
  case deliver target msg =>
    rw [← answered.2]
    exact deliver target msg
  all_goals
    rw [← answered.2]
    exact refl server

end Gentle

/-- The turn of a handler has ended at a call, or with one reply that does not close the session. -/
inductive Unhurt (addr : Addr) (readMsg : MsgNode) (ready after : ChatServer) : Prop
  | waits {told : Ledger} {rest : Awaitable ChannelMessage} :
      (after.session addr).reader.task = some (readMsg, told, rest) → Adds ready.log after.log → Unhurt addr readMsg ready after
  | replied {told : Ledger} {reply : ChannelMessage} {log : List Event} : (after.session addr).reader = .readingHeader →
      reply.closeAfterSend = false → Adds ready.log log → Adds (.replied addr readMsg told reply :: log) after.log →
      Unhurt addr readMsg ready after

/-- What holds of an authenticated session during the turn of its handler. -/
structure Steady (addr : Addr) (before server : ChatServer) (told : Ledger) : Prop where
  gentle : Gentle before server
  authenticated : (server.session addr).isAuthenticated = true
  admitted : told ≠ [⟨.isAuthenticated, false⟩]

section Turn

variable {lib : JsonLib} {addr : Addr} {readMsg : MsgNode} {told : Ledger} {before server after : ChatServer}

theorem Steady.execLocal {op : Op} {answer : op.Res} (kind : MessageId.enumCast readMsg.id ≠ some .loginRequest)
    (asked : Asked lib readMsg told op) (answered : ChatServer.execLocal addr op server = some (answer, after))
    (steady : Steady addr before server told) : Steady addr before after (⟨op, answer⟩ :: told) := by
  have plain : isLoginOnly op = false := by
    by_contra only
    exact kind (asked_loginOnly asked (Bool.not_eq_false _ ▸ only)).1
  have gentle := Gentle.execLocal plain answered
  refine ⟨steady.gentle.trans gentle, (gentle.isAuthenticated addr).trans steady.authenticated, ?_⟩
  intro same
  cases same
  have flag : (server.session addr).isAuthenticated = false := by
    simp only [ChatServer.execLocal, Option.some.injEq, Prod.mk.injEq] at answered
    exact answered.1
  rw [steady.authenticated] at flag
  cases flag

theorem settle_reader (task : Awaitable ChannelMessage) (server : ChatServer) (told : Ledger) {op : Op}
    {next : op.Res → Awaitable ChannelMessage} (same : task = .call op next) :
    ∃ reader blocked, reader.task = some (readMsg, told, task) ∧
      ChatServer.settle addr readMsg (task, server, told) = { server.setReader addr reader with blocked } := by
  subst same
  cases op
  case notify request => exact ⟨.calling readMsg told request next, some addr, rfl, rfl⟩
  all_goals exact ⟨.waiting readMsg told _ next, server.blocked, rfl, rfl⟩

theorem runHandler_unhurt {rest : Awaitable ChannelMessage} (reaches : Reaches lib readMsg told rest)
    (kind : MessageId.enumCast readMsg.id ≠ some .loginRequest) (steady : Steady addr before server told) :
    Gentle before (server.runHandler addr readMsg told rest) ∧
      Unhurt addr readMsg server (server.runHandler addr readMsg told rest) := by
  have keeps : ∀ op server told answer after, (Asked lib readMsg told op ∧ NoPush told) →
      ChatServer.execLocal addr op server = some (answer, after) → Steady addr before server told →
      Steady addr before after (⟨op, answer⟩ :: told) := fun op server told answer after asked answered steady =>
    steady.execLocal kind asked.1 answered
  have turn := (advance_guided keeps (reaches.guided (handleMessage_asked lib readMsg)) steady).1
  have calm := advance_calm addr server told rest
  have reached : Reaches lib readMsg (rest.advance (ChatServer.execRecorded addr) (server, told)).2.2
      (rest.advance (ChatServer.execRecorded addr) (server, told)).1 :=
    Handlers.advance (Traced.follows lib) server reaches
  unfold ChatServer.runHandler
  generalize rest.advance (ChatServer.execRecorded addr) (server, told) = stopped at turn calm reached ⊢
  obtain ⟨left, middle, heard⟩ := stopped
  cases left with
  | ret reply =>
    have recorded := turn.gentle.trans (Gentle.record (.replied addr readMsg heard reply))
    have delivered := recorded.trans (Gentle.deliver addr reply)
    refine ⟨delivered.trans (Gentle.setReader addr .readingHeader), ?_⟩
    apply Unhurt.replied _ (reached.stays kind turn.admitted) calm.log
    · exact (Calm.deliver addr addr reply).log
    · rw [ChatServer.settle, setReader_self]
  | throw failure => exact reached.never_throws.elim
  | call op next =>
    obtain ⟨reader, blocked, task, same⟩ := settle_reader (.call op next) middle heard rfl
    rw [same]
    have waits := turn.gentle.trans (Gentle.setReader addr reader)
    refine ⟨⟨waits.participants, waits.stopped, waits.uid, waits.isAuthenticated⟩, ?_⟩
    have waiting : ((middle.setReader addr reader).session addr).reader.task = some (readMsg, heard, .call op next) := by
      rw [setReader_self]
      exact task
    exact .waits waiting calm.log

/-- A turn begins with the session as the step found it. -/
theorem Steady.resumes {rest : Awaitable ChannelMessage} {ready : ChatServer} (traced : Traced lib server)
    (authenticated : (server.session addr).isAuthenticated = true) (resumes : Resumes lib server addr readMsg told rest ready) :
    Steady addr server ready told := by
  cases resumes with
  | handed idle reading => exact ⟨.record _, authenticated, nofun⟩
  | resumed idle reading =>
    refine ⟨.refl server, authenticated, ?_⟩
    intro same
    have proper := traced.proper addr
    rw [reading] at proper
    obtain ⟨op, answer, before, entry, store⟩ := proper
    rw [same] at entry
    cases entry
    cases store
  | returned answer blocked reading => exact ⟨⟨rfl, fun _ => rfl, fun _ => rfl, fun _ => rfl⟩, authenticated, nofun⟩

end Turn

theorem run_stays {σ : Type} (exec : (op : Op) → σ → op.Res × σ) {lib : JsonLib} {readMsg : MsgNode}
    (kind : MessageId.enumCast readMsg.id ≠ some .loginRequest) (gate : ∀ state, (exec .isAuthenticated state).1 = true)
    (state : σ) : ∃ reply after told,
      (handleMessage lib readMsg).run (recorded exec) (state, []) = (.ok reply, after, told) ∧ reply.closeAfterSend = false := by
  obtain ⟨reply, after, told, ended, reaches⟩ := handleMessage_replies exec lib readMsg state
  refine ⟨reply, after, told, ended, reaches.stays kind ?_⟩
  have answers : ∀ op (state : σ × Ledger), True → ¬ Told state.2 .isAuthenticated false →
      ¬ Told (recorded exec op state).2.2 .isAuthenticated false := by
    intro op state _ before known
    rcases List.mem_cons.mp known with here | early
    · change (⟨.isAuthenticated, false⟩ : (op : Op) × op.Res) = ⟨op, (exec op state.1).1⟩ at here
      generalize answered : (exec op state.1).1 = answer at here
      cases here
      exact Bool.noConfusion ((gate state.1).symm.trans answered)
    · exact before early
  have kept : ¬ Told (((handleMessage lib readMsg).run (recorded exec) (state, [])).2).2 .isAuthenticated false :=
    Coroutine.run_preserves (recorded exec) answers (Coroutine.asksOnly_all _) List.not_mem_nil
  rw [ended] at kept
  intro same
  rw [same] at kept
  exact kept (told_head _ _ _)

/-- Whatever it says and whatever fails, a request that is no login gets one reply on an authenticated session that
    leaves the session open, and each turn of its handler leaves every session and the registry as they were. -/
theorem bad_request_harmless (lib : JsonLib) (readMsg : MsgNode) (other : MessageId.enumCast readMsg.id ≠ some .loginRequest) :
    (∀ (σ : Type) (exec : (op : Op) → σ → op.Res × σ) (state : σ), (∀ state, (exec .isAuthenticated state).1 = true) →
      ∃ reply after told, (handleMessage lib readMsg).run (recorded exec) (state, []) = (.ok reply, after, told) ∧
        reply.closeAfterSend = false) ∧
    (∀ (name : String) (acts : List Act) (server ready : ChatServer) (addr : Addr) (told : Ledger) (rest : Awaitable ChannelMessage),
      Transition.Run (ChatServer.step lib) (.fresh name) acts server → (server.session addr).isAuthenticated = true →
      Resumes lib server addr readMsg told rest ready →
      Gentle server (ready.runHandler addr readMsg told rest) ∧
        Unhurt addr readMsg ready (ready.runHandler addr readMsg told rest)) := by
  refine ⟨fun σ exec state gate => run_stays exec other gate state, ?_⟩
  intro name acts server ready addr told rest run authenticated resumes
  have traced := run_traced run
  exact runHandler_unhurt (traced.resumes resumes) other (.resumes traced authenticated resumes)

/-- The session is logged in, and nobody finds anything. -/
def findsNothing (op : Op) (state : Unit) : op.Res × Unit :=
  (match op with
    | .redisGet _ => none
    | .redisSet _ _ => true
    | .redisHset _ _ _ => 0
    | .getUserInfo _ => .ok none
    | .addFriendApply _ _ | .authFriendApply _ _ => .ok ()
    | .getFriendApplies _ => .ok []
    | .getFriends _ => .ok []
    | .notify _ => none
    | .uid => 0
    | .setUid _ | .markAuthenticated | .deliver _ _ => ()
    | .isAuthenticated => true
    | .serverName => "chat_server1"
    | .participantCount => 1
    | .getParticipant _ => none, state)

/-- Once logged in, the user sends an application that names nobody. -/
def asksForNobody : List Act :=
  logsInFirst ++ [.send 1 (MsgNode.ofText MessageId.addFriendRequest.wire searchText).wire, .readDone 1, .resumeReader 1, .readDone 1]

theorem bad_request_harmless_nobody : ∃ server readMsg,
    Transition.Run (ChatServer.step loginLib) (.fresh "chat_server1") asksForNobody server ∧
      (server.session 1).reader = .bodyRead readMsg ∧
      (∃ reply after told, (handleMessage loginLib readMsg).run (recorded findsNothing) ((), []) = (.ok reply, after, told) ∧
        reply.closeAfterSend = false) ∧
      Gentle server ((server.record (.handed 1 readMsg)).runHandler 1 readMsg [] (handleMessage loginLib readMsg)) ∧
      Unhurt 1 readMsg (server.record (.handed 1 readMsg))
        ((server.record (.handed 1 readMsg)).runHandler 1 readMsg [] (handleMessage loginLib readMsg)) := by
  have possible : ((Transition.runs (ChatServer.step loginLib) (.fresh "chat_server1") asksForNobody).any fun server =>
      (server.session 1).isAuthenticated && server.blocked.isNone &&
        (frameRead (server.session 1).reader).any fun readMsg =>
          MessageId.enumCast readMsg.id = some .addFriendRequest) = true := by decide +kernel
  obtain ⟨server, reached, found⟩ := (Option.any_eq_true _ _).mp possible
  simp only [Bool.and_eq_true] at found
  obtain ⟨⟨authenticated, idle⟩, reads⟩ := found
  have run := Transition.run_iff_runs.mpr reached
  obtain ⟨readMsg, read, isApplication⟩ := (Option.any_eq_true _ _).mp reads
  have reading := frameRead_eq_some.mp read
  have kind : MessageId.enumCast readMsg.id = some .addFriendRequest := of_decide_eq_true isApplication
  have other : MessageId.enumCast readMsg.id ≠ some .loginRequest := by
    rw [kind]
    decide
  obtain ⟨replies, turns⟩ := bad_request_harmless loginLib readMsg other
  exact ⟨server, readMsg, run, reading, replies Unit findsNothing () fun _ => rfl,
    turns _ _ server _ 1 [] _ run authenticated (.handed (Option.isNone_iff_eq_none.mp idle) reading)⟩

end ChatProof
