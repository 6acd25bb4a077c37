import ChatProject.Server.Invariants

namespace ChatProof

open ChatModel

/-- What the part of a handler that needs no store may change of its server. -/
structure Calm (own : Addr) (before after : ChatServer) : Prop where
  name : after.name = before.name
  participants : after.participants = before.participants
  blocked : after.blocked = before.blocked
  tasks : after.tasks = before.tasks
  incoming : ∀ addr, (after.session addr).incoming = (before.session addr).incoming
  started : ∀ addr, (after.session addr).started = (before.session addr).started
  stopped : ∀ addr, (after.session addr).stopped = (before.session addr).stopped
  reader : ∀ addr, (after.session addr).reader = (before.session addr).reader
  uid : ∀ addr, addr ≠ own → (after.session addr).uid = (before.session addr).uid
  isAuthenticated : ∀ addr, addr ≠ own →
    (after.session addr).isAuthenticated = (before.session addr).isAuthenticated
  log : ∃ events, after.log = events ++ before.log ∧ ∀ event ∈ events, Event.isPlain event

namespace Calm

variable {own : Addr} {server middle after : ChatServer}

theorem refl (own : Addr) (server : ChatServer) : Calm own server server :=
  ⟨rfl, rfl, rfl, rfl, fun _ => rfl, fun _ => rfl, fun _ => rfl, fun _ => rfl, fun _ _ => rfl, fun _ _ => rfl,
    [], rfl, by simp⟩

theorem trans (first : Calm own server middle) (second : Calm own middle after) : Calm own server after := by
  obtain ⟨early, sameEarly, plainEarly⟩ := first.log
  obtain ⟨late, sameLate, plainLate⟩ := second.log
  refine ⟨second.name.trans first.name, second.participants.trans first.participants,
    second.blocked.trans first.blocked, second.tasks.trans first.tasks,
    fun addr => (second.incoming addr).trans (first.incoming addr),
    fun addr => (second.started addr).trans (first.started addr),
    fun addr => (second.stopped addr).trans (first.stopped addr),
    fun addr => (second.reader addr).trans (first.reader addr),
    fun addr other => (second.uid addr other).trans (first.uid addr other),
    fun addr other => (second.isAuthenticated addr other).trans (first.isAuthenticated addr other),
    late ++ early, ?_, ?_⟩
  · rw [sameLate, sameEarly, List.append_assoc]
  · intro event member
    rcases List.mem_append.mp member with member | member
    · exact plainLate event member
    · exact plainEarly event member

theorem modify_aside (own addr : Addr) {change : Session → Session}
    (aside : Aside (server.session addr) (change (server.session addr))) :
    Calm own server (server.modify addr change) := by
  have same : ∀ {β : Type} (field : Session → β),
      field (change (server.session addr)) = field (server.session addr) →
      ∀ other, field ((server.modify addr change).session other) = field (server.session other) := by
    intro β field kept other
    by_cases here : other = addr
    · subst here
      rw [ChatServer.modify_session_self]
      exact kept
    · rw [ChatServer.modify_session_other _ _ here]
  exact ⟨rfl, rfl, rfl, rfl, same _ aside.incoming, same _ aside.started, same _ aside.stopped,
    same _ aside.reader, fun other _ => same _ aside.uid other,
    fun other _ => same _ aside.isAuthenticated other, [], rfl, by simp⟩

theorem modify_login (own : Addr) {change : Session → Session}
    (incoming : (change (server.session own)).incoming = (server.session own).incoming)
    (started : (change (server.session own)).started = (server.session own).started)
    (stopped : (change (server.session own)).stopped = (server.session own).stopped)
    (reader : (change (server.session own)).reader = (server.session own).reader) :
    Calm own server (server.modify own change) := by
  have same : ∀ {β : Type} (field : Session → β),
      field (change (server.session own)) = field (server.session own) →
      ∀ other, field ((server.modify own change).session other) = field (server.session other) := by
    intro β field kept other
    by_cases here : other = own
    · subst here
      rw [ChatServer.modify_session_self]
      exact kept
    · rw [ChatServer.modify_session_other _ _ here]
  refine ⟨rfl, rfl, rfl, rfl, same _ incoming, same _ started, same _ stopped, same _ reader, ?_, ?_,
    [], rfl, by simp⟩
  all_goals
    intro other different
    rw [ChatServer.modify_session_other _ _ different]

theorem record (own : Addr) {event : Event} (plain : Event.isPlain event) :
    Calm own server (server.record event) :=
  ⟨rfl, rfl, rfl, rfl, fun _ => rfl, fun _ => rfl, fun _ => rfl, fun _ => rfl, fun _ _ => rfl, fun _ _ => rfl,
    [event], rfl, by simpa using plain⟩

theorem deliver (own addr : Addr) (msg : ChannelMessage) : Calm own server (server.deliver addr msg) := by
  unfold ChatServer.deliver
  split
  · rename_i session sent
    have sentOff : Calm own server (server.modify addr fun _ => session) := modify_aside own addr (trySend_aside sent)
    exact sentOff.trans (record own trivial)
  · exact record own trivial

theorem execLocal {op : Op} {answer : op.Res}
    (answered : ChatServer.execLocal own op server = some (answer, after)) : Calm own server after := by
  cases op <;> simp only [ChatServer.execLocal, Option.some.injEq, Prod.mk.injEq, reduceCtorEq] at answered
  case setUid uid =>
    rw [← answered.2]
    exact modify_login own rfl rfl rfl rfl
  case markAuthenticated =>
    have aside := cancelDeadline_aside (server.session own)
    rw [← answered.2]
    exact modify_login own aside.incoming aside.started aside.stopped aside.reader
  case deliver target msg =>
    rw [← answered.2]
    exact deliver own target msg
  all_goals
    rw [← answered.2]
    exact refl own server

end Calm

/-- `rest` is what the handler of this frame has left to do once it has been told all of the ledger. -/
inductive Reaches (lib : JsonLib) (readMsg : MsgNode) : Ledger → Awaitable ChannelMessage → Prop
  | start : Reaches lib readMsg [] (handleMessage lib readMsg)
  | answer {ledger : Ledger} {op : Op} {next : op.Res → Awaitable ChannelMessage} (answer : op.Res) :
      Reaches lib readMsg ledger (.call op next) → Reaches lib readMsg (⟨op, answer⟩ :: ledger) (next answer)

theorem Reaches.guided {lib : JsonLib} {readMsg : MsgNode} {ledger : Ledger} {rest : Awaitable ChannelMessage}
    {ask : Ledger → Op → Prop} {post : Ledger → Except Failure ChannelMessage → Prop}
    (reaches : Reaches lib readMsg ledger rest) (guided : (handleMessage lib readMsg).Guided ask post []) :
    rest.Guided ask post ledger := by
  induction reaches with
  | start => exact guided
  | answer answer _ ih => exact ih.2 answer

/-- The handler of this frame, told all of this, asks for this operation. -/
def AsksFor (lib : JsonLib) (readMsg : MsgNode) (told : Ledger) (op : Op) : Prop :=
  ∃ next, Reaches lib readMsg told (.call op next)

theorem Reaches.asked {lib : JsonLib} {readMsg : MsgNode} {told : Ledger} {op : Op} {answer : op.Res}
    {rest : Awaitable ChannelMessage} (reaches : Reaches lib readMsg (⟨op, answer⟩ :: told) rest) :
    AsksFor lib readMsg told op := by
  cases reaches with
  | answer _ before => exact ⟨_, before⟩

/-- Every question has this answer. -/
def replay (oracle : (op : Op) → op.Res) (op : Op) (told : Ledger) : op.Res × Ledger :=
  (oracle op, ⟨op, oracle op⟩ :: told)

theorem Reaches.replayed {lib : JsonLib} {readMsg : MsgNode} {told : Ledger} {rest : Awaitable ChannelMessage}
    (reaches : Reaches lib readMsg told rest) (oracle : (op : Op) → op.Res) :
    Reaches lib readMsg (rest.run (replay oracle) told).2 (.ofExcept (rest.run (replay oracle) told).1) := by
  induction rest generalizing told with
  | ret reply => exact reaches
  | throw failure => exact reaches
  | call op next ih => exact ih (oracle op) (.answer (oracle op) reaches)

theorem replay_answer (oracle : (op : Op) → op.Res) {rest : Awaitable ChannelMessage} {told : Ledger} {op : Op} {answer : op.Res}
    (heard : ⟨op, answer⟩ ∈ (rest.run (replay oracle) told).2) : answer = oracle op ∨ ⟨op, answer⟩ ∈ told := by
  induction rest generalizing told with
  | ret reply => exact .inr heard
  | throw failure => exact .inr heard
  | call asked next ih =>
    rcases ih (oracle asked) heard with same | before
    · exact .inl same
    · rcases List.mem_cons.mp before with here | early
      · cases here
        exact .inl rfl
      · exact .inr early

section Advance

variable {lib : JsonLib} {readMsg : MsgNode} {ledger : Ledger} {rest : Awaitable ChannelMessage}

theorem advance_calm (own : Addr) (server : ChatServer) (ledger : Ledger) (rest : Awaitable ChannelMessage) :
    Calm own server (rest.advance (ChatServer.execRecorded own) (server, ledger)).2.1 := by
  have answers : ∀ op (state : ChatServer × Ledger) answer after, True →
      ChatServer.execRecorded own op state = some (answer, after) → Calm own server state.1 →
      Calm own server after.1 := by
    intro op state answer after _ answered before
    obtain ⟨pair, done, same⟩ := Option.map_eq_some_iff.mp answered
    obtain ⟨found, reached⟩ := pair
    cases same
    exact before.trans (.execLocal done)
  exact Coroutine.advance_preserves _ answers (Coroutine.asksOnly_all rest) (.refl own server)

/-- A turn keeps what each question that the handler may ask at that moment keeps. -/
theorem advance_guided {own : Addr} {ask : Ledger → Op → Prop} {post : Ledger → Except Failure ChannelMessage → Prop}
    {inv : ChatServer → Ledger → Prop} (keeps : ∀ op server told answer after, ask told op →
      ChatServer.execLocal own op server = some (answer, after) → inv server told → inv after (⟨op, answer⟩ :: told))
    {server : ChatServer} (guided : rest.Guided ask post ledger) (holds : inv server ledger) :
    inv (rest.advance (ChatServer.execRecorded own) (server, ledger)).2.1
        (rest.advance (ChatServer.execRecorded own) (server, ledger)).2.2 ∧
      (rest.advance (ChatServer.execRecorded own) (server, ledger)).1.Guided ask post
        (rest.advance (ChatServer.execRecorded own) (server, ledger)).2.2 := by
  induction rest generalizing server ledger with
  | ret reply => exact ⟨holds, guided⟩
  | throw error => exact ⟨holds, guided⟩
  | call op next ih =>
    unfold Coroutine.advance ChatServer.execRecorded
    cases answered : ChatServer.execLocal own op server with
    | none => exact ⟨holds, guided⟩
    | some pair => exact ih pair.1 (guided.2 pair.1) (keeps op server ledger pair.1 pair.2 guided.1 answered holds)

end Advance

theorem execLocal_eq_none {own : Addr} {op : Op} {server : ChatServer} :
    ChatServer.execLocal own op server = none ↔ op.isExternal = true := by
  cases op <;> simp [ChatServer.execLocal, Op.isExternal]

theorem advance_external {own : Addr} {server after : ChatServer} {ledger told : Ledger}
    {rest : Awaitable ChannelMessage} {op : Op} {next : op.Res → Awaitable ChannelMessage}
    (stopped : rest.advance (ChatServer.execRecorded own) (server, ledger) = (.call op next, after, told)) :
    op.isExternal = true := by
  have silent := Coroutine.advance_suspended _ stopped
  unfold ChatServer.execRecorded at silent
  exact execLocal_eq_none.mp (Option.map_eq_none_iff.mp silent)

/-- The new entries of a log that say nothing about frames and replies. -/
def Adds (before after : List Event) : Prop :=
  ∃ events, after = events ++ before ∧ ∀ event ∈ events, Event.isPlain event

/-- How the turn of a handler ends: with its reply, with an exception, or at a call. -/
inductive TurnEnd (addr : Addr) (readMsg : MsgNode) (before after : ChatServer) : Prop
  | replied (told : Ledger) (reply : ChannelMessage) (log : List Event) :
      (after.session addr).reader = .readingHeader →
      (after.session addr).stopped = (before.session addr).stopped → after.blocked = before.blocked →
      Adds before.log log → Adds (.replied addr readMsg told reply :: log) after.log →
      TurnEnd addr readMsg before after
  | quit : (after.session addr).reader = .finished → (after.session addr).stopped = true →
      after.blocked = before.blocked → Adds before.log after.log → TurnEnd addr readMsg before after
  | waiting (told : Ledger) (op : Op) (next : op.Res → Awaitable ChannelMessage) :
      (after.session addr).reader = .waiting readMsg told op next →
      (after.session addr).stopped = (before.session addr).stopped → after.blocked = before.blocked →
      Adds before.log after.log → TurnEnd addr readMsg before after
  | calling (told : Ledger) (request : NotifyRequest) (next : Option Int32 → Awaitable ChannelMessage) :
      (after.session addr).reader = .calling readMsg told request next →
      (after.session addr).stopped = (before.session addr).stopped → after.blocked = some addr →
      Adds before.log after.log → TurnEnd addr readMsg before after

/-- What a turn of the handler of `addr` leaves alone. -/
structure Undisturbed (addr : Addr) (before after : ChatServer) : Prop where
  name : after.name = before.name
  tasks : after.tasks = before.tasks
  incoming : ∀ other, (after.session other).incoming = (before.session other).incoming
  started : ∀ other, (after.session other).started = (before.session other).started
  stopped : ∀ other, other ≠ addr → (after.session other).stopped = (before.session other).stopped
  reader : ∀ other, other ≠ addr → (after.session other).reader = (before.session other).reader

theorem setReader_self (server : ChatServer) (addr : Addr) (reader : Reader) :
    (server.setReader addr reader).session addr = { server.session addr with reader } := if_pos rfl

theorem setReader_other (server : ChatServer) {addr other : Addr} (different : other ≠ addr) (reader : Reader) :
    (server.setReader addr reader).session other = server.session other := if_neg different

theorem setReader_undisturbed {addr : Addr} {before after : ChatServer} (undisturbed : Undisturbed addr before after)
    (reader : Reader) : Undisturbed addr before (after.setReader addr reader) := by
  refine ⟨undisturbed.name, undisturbed.tasks, ?_, ?_, ?_, ?_⟩
  · intro other
    by_cases here : other = addr
    · rw [here, setReader_self]
      exact undisturbed.incoming addr
    · rw [setReader_other _ here]
      exact undisturbed.incoming other
  · intro other
    by_cases here : other = addr
    · rw [here, setReader_self]
      exact undisturbed.started addr
    · rw [setReader_other _ here]
      exact undisturbed.started other
  · intro other different
    rw [setReader_other _ different]
    exact undisturbed.stopped other different
  · intro other different
    rw [setReader_other _ different]
    exact undisturbed.reader other different

theorem Calm.undisturbed {addr : Addr} {before after : ChatServer} (calm : Calm addr before after) :
    Undisturbed addr before after :=
  ⟨calm.name, calm.tasks, calm.incoming, calm.started, fun other _ => calm.stopped other,
    fun other _ => calm.reader other⟩

theorem stop_self (server : ChatServer) (addr : Addr) :
    (server.stop addr).session addr = { (server.session addr).cancelDeadline with stopped := true } := if_pos rfl

theorem stop_other (server : ChatServer) {addr other : Addr} (different : other ≠ addr) :
    (server.stop addr).session other = server.session other := if_neg different

theorem stop_undisturbed {addr : Addr} {before after : ChatServer} (undisturbed : Undisturbed addr before after) :
    Undisturbed addr before (after.stop addr) := by
  have aside := cancelDeadline_aside (after.session addr)
  refine ⟨undisturbed.name, undisturbed.tasks, ?_, ?_, ?_, ?_⟩
  · intro other
    by_cases here : other = addr
    · rw [here, stop_self]
      exact aside.incoming.trans (undisturbed.incoming addr)
    · rw [stop_other _ here]
      exact undisturbed.incoming other
  · intro other
    by_cases here : other = addr
    · rw [here, stop_self]
      exact aside.started.trans (undisturbed.started addr)
    · rw [stop_other _ here]
      exact undisturbed.started other
  · intro other different
    rw [stop_other _ different]
    exact undisturbed.stopped other different
  · intro other different
    rw [stop_other _ different]
    exact undisturbed.reader other different

/-- The one lemma about a turn of a handler: what it leaves alone, and how it ends. -/
theorem runHandler_turn (server : ChatServer) (addr : Addr) (readMsg : MsgNode) (ledger : Ledger)
    (rest : Awaitable ChannelMessage) :
    Undisturbed addr server (server.runHandler addr readMsg ledger rest) ∧
      TurnEnd addr readMsg server (server.runHandler addr readMsg ledger rest) := by
  have calm := advance_calm addr server ledger rest
  unfold ChatServer.runHandler
  generalize rest.advance (ChatServer.execRecorded addr) (server, ledger) = stopped at calm ⊢
  obtain ⟨left, reached, told⟩ := stopped
  dsimp only at calm
  cases left with
  | ret reply =>
    have recorded : Undisturbed addr server (reached.record (.replied addr readMsg told reply)) :=
      ⟨calm.name, calm.tasks, calm.incoming, calm.started, fun other _ => calm.stopped other,
        fun other _ => calm.reader other⟩
    have sent : Calm addr (reached.record (.replied addr readMsg told reply))
        ((reached.record (.replied addr readMsg told reply)).deliver addr reply) := .deliver addr addr reply
    have delivered : Undisturbed addr server
        ((reached.record (.replied addr readMsg told reply)).deliver addr reply) :=
      ⟨sent.name.trans recorded.name, sent.tasks.trans recorded.tasks,
        fun other => (sent.incoming other).trans (recorded.incoming other),
        fun other => (sent.started other).trans (recorded.started other),
        fun other different => (sent.stopped other).trans (recorded.stopped other different),
        fun other different => (sent.reader other).trans (recorded.reader other different)⟩
    refine ⟨setReader_undisturbed delivered .readingHeader, ?_⟩
    refine .replied told reply reached.log ?_ ?_ (sent.blocked.trans calm.blocked) calm.log sent.log
    · exact congrArg Session.reader (setReader_self _ addr .readingHeader)
    · have same := congrArg Session.stopped (setReader_self
        ((reached.record (.replied addr readMsg told reply)).deliver addr reply) addr .readingHeader)
      exact same.trans ((sent.stopped addr).trans (calm.stopped addr))
  | throw error =>
    refine ⟨setReader_undisturbed (stop_undisturbed calm.undisturbed) .finished, ?_⟩
    refine .quit ?_ ?_ calm.blocked calm.log
    · exact congrArg Session.reader (setReader_self _ addr .finished)
    · have same := congrArg Session.stopped (setReader_self (reached.stop addr) addr .finished)
      exact same.trans (congrArg Session.stopped (stop_self reached addr))
  | call op next =>
    have stopped : ∀ reader, ((reached.setReader addr reader).session addr).stopped =
        (server.session addr).stopped := by
      intro reader
      rw [setReader_self]
      exact calm.stopped addr
    have reading : ∀ reader, ((reached.setReader addr reader).session addr).reader = reader := by
      intro reader
      rw [setReader_self]
    have waits := setReader_undisturbed calm.undisturbed (.waiting readMsg told op next)
    have waiting : TurnEnd addr readMsg server (reached.setReader addr (.waiting readMsg told op next)) :=
      .waiting told op next (reading _) (stopped _) calm.blocked calm.log
    cases op
    case notify request =>
      have calls := setReader_undisturbed calm.undisturbed (.calling readMsg told request next)
      refine ⟨⟨calls.name, calls.tasks, calls.incoming, calls.started, calls.stopped, calls.reader⟩, ?_⟩
      exact .calling told request next (reading _) (stopped _) rfl calm.log
    all_goals exact ⟨waits, waiting⟩

/-- The calls that a store answers. -/
def isStoreCall : Op → Bool
  | .notify _ => false
  | op => op.isExternal

theorem external_of_isStoreCall {op : Op} (store : isStoreCall op = true) : op.isExternal = true := by
  cases op <;> first | rfl | exact store

/-- A handler waits for a store, and goes on after the answer of one. -/
def Proper : Reader → Prop
  | .waiting _ _ op _ => isStoreCall op = true
  | .resuming _ ledger _ => ∃ op answer told, ledger = ⟨op, answer⟩ :: told ∧ isStoreCall op = true
  | _ => True

theorem proper_of_idle {reader : Reader} (idle : reader.task = none) : Proper reader := by
  cases reader <;> trivial

/-- `good` begins with every frame, and is kept by all answers but those of the stores. -/
structure Follows (lib : JsonLib) (good : Addr → MsgNode → Ledger → Awaitable ChannelMessage → Prop) : Prop where
  handed : ∀ addr readMsg, good addr readMsg [] (handleMessage lib readMsg)
  quick : ∀ addr readMsg told op next (answer : op.Res), isStoreCall op = false → good addr readMsg told (.call op next) →
    good addr readMsg (⟨op, answer⟩ :: told) (next answer)

/-- Every handler that waits, and every reply, is good. -/
structure Handlers (good : Addr → MsgNode → Ledger → Awaitable ChannelMessage → Prop) (server : ChatServer) : Prop where
  proper : ∀ addr, Proper (server.session addr).reader
  suspended : ∀ addr readMsg ledger rest,
    (server.session addr).reader.task = some (readMsg, ledger, rest) → good addr readMsg ledger rest
  replied : ∀ addr readMsg ledger reply,
    Event.replied addr readMsg ledger reply ∈ server.log → good addr readMsg ledger (.ret reply)

namespace Handlers

variable {lib : JsonLib} {good : Addr → MsgNode → Ledger → Awaitable ChannelMessage → Prop} {server after : ChatServer}

theorem modify (handlers : Handlers good server) (addr : Addr) {change : Session → Session}
    (proper : Proper (change (server.session addr)).reader)
    (suspended : ∀ readMsg ledger rest,
      (change (server.session addr)).reader.task = some (readMsg, ledger, rest) → good addr readMsg ledger rest) :
    Handlers good (server.modify addr change) := by
  refine ⟨?_, ?_, handlers.replied⟩
  · intro other
    by_cases here : other = addr
    · subst here
      rw [ChatServer.modify_session_self]
      exact proper
    · rw [ChatServer.modify_session_other _ _ here]
      exact handlers.proper other
  · intro other readMsg ledger rest task
    by_cases here : other = addr
    · subst here
      rw [ChatServer.modify_session_self] at task
      exact suspended _ _ _ task
    · rw [ChatServer.modify_session_other _ _ here] at task
      exact handlers.suspended _ _ _ _ task

theorem sameReader (handlers : Handlers good server) (addr : Addr) {change : Session → Session}
    (reader : (change (server.session addr)).reader = (server.session addr).reader) :
    Handlers good (server.modify addr change) := by
  apply handlers.modify
  · rw [reader]
    exact handlers.proper addr
  · intro readMsg ledger rest task
    rw [reader] at task
    exact handlers.suspended _ _ _ _ task

theorem idleReader (handlers : Handlers good server) (addr : Addr) {change : Session → Session}
    (idle : (change (server.session addr)).reader.task = none) : Handlers good (server.modify addr change) := by
  apply handlers.modify
  · exact proper_of_idle idle
  · intro readMsg ledger rest task
    rw [idle] at task
    cases task

theorem setReader (handlers : Handlers good server) (addr : Addr) (reader : Reader) (idle : reader.task = none) :
    Handlers good (server.setReader addr reader) := handlers.idleReader addr idle

theorem record (handlers : Handlers good server) {event : Event}
    (known : ∀ addr readMsg ledger reply, event = .replied addr readMsg ledger reply →
      good addr readMsg ledger (.ret reply)) : Handlers good (server.record event) := by
  refine ⟨handlers.proper, handlers.suspended, ?_⟩
  intro addr readMsg ledger reply member
  rcases List.mem_cons.mp member with same | member
  · exact known _ _ _ _ same.symm
  · exact handlers.replied _ _ _ _ member

theorem calm (handlers : Handlers good server) {own : Addr} (calm : Calm own server after) : Handlers good after := by
  refine ⟨?_, ?_, ?_⟩
  · intro addr
    rw [calm.reader]
    exact handlers.proper addr
  · intro addr readMsg ledger rest task
    rw [calm.reader] at task
    exact handlers.suspended _ _ _ _ task
  · intro addr readMsg ledger reply member
    obtain ⟨events, same, plain⟩ := calm.log
    rw [same] at member
    rcases List.mem_append.mp member with member | member
    · exact (plain _ member).elim
    · exact handlers.replied _ _ _ _ member

theorem stop (handlers : Handlers good server) (addr : Addr) : Handlers good (server.stop addr) := by
  have left : Handlers good (server.leave addr) := ⟨handlers.proper, handlers.suspended, handlers.replied⟩
  apply left.sameReader
  exact (cancelDeadline_aside (server.session addr)).reader

theorem settle (handlers : Handlers good server) (addr : Addr) {readMsg : MsgNode} {ledger : Ledger}
    {rest : Awaitable ChannelMessage} (reaches : good addr readMsg ledger rest)
    (external : ∀ op next, rest = .call op next → op.isExternal = true) :
    Handlers good (ChatServer.settle addr readMsg (rest, server, ledger)) := by
  have waits : ∀ reader : Reader, Proper reader → reader.task = some (readMsg, ledger, rest) →
      Handlers good (server.setReader addr reader) := by
    intro reader proper task
    apply handlers.modify
    · exact proper
    · intro other told left found
      rw [task] at found
      cases found
      exact reaches
  cases rest with
  | ret reply =>
    have recorded : Handlers good (server.record (.replied addr readMsg ledger reply)) := by
      apply handlers.record
      intro _ _ _ _ same
      cases same
      exact reaches
    have delivered := recorded.calm (Calm.deliver addr addr reply)
    exact delivered.setReader addr .readingHeader rfl
  | throw error => exact (handlers.stop addr).setReader addr .finished rfl
  | call op next =>
    have outside := external op next rfl
    cases op
    case notify request =>
      have called := waits (.calling readMsg ledger request next) trivial rfl
      exact ⟨called.proper, called.suspended, called.replied⟩
    all_goals exact waits (.waiting readMsg ledger _ next) outside rfl

/-- A turn keeps what each answer of a server of this name keeps. -/
theorem advance_named {addr : Addr} {readMsg : MsgNode} {home : String} (keeps : ∀ server told op next answer after, server.name = home →
      ChatServer.execLocal addr op server = some (answer, after) → good addr readMsg told (.call op next) →
      good addr readMsg (⟨op, answer⟩ :: told) (next answer))
    {ledger : Ledger} {rest : Awaitable ChannelMessage} (server : ChatServer) (named : server.name = home)
    (holds : good addr readMsg ledger rest) :
    good addr readMsg (rest.advance (ChatServer.execRecorded addr) (server, ledger)).2.2
      (rest.advance (ChatServer.execRecorded addr) (server, ledger)).1 := by
  induction rest generalizing server ledger with
  | ret reply => exact holds
  | throw error => exact holds
  | call op next ih =>
    unfold Coroutine.advance ChatServer.execRecorded
    cases answered : ChatServer.execLocal addr op server with
    | none => exact holds
    | some pair =>
      have same : pair.2.name = home := (Calm.execLocal answered).name.trans named
      exact ih pair.1 pair.2 same (keeps server ledger op next pair.1 pair.2 named answered holds)

theorem advance (follows : Follows lib good) {addr : Addr} {readMsg : MsgNode} {ledger : Ledger}
    {rest : Awaitable ChannelMessage} (server : ChatServer) (holds : good addr readMsg ledger rest) :
    good addr readMsg (rest.advance (ChatServer.execRecorded addr) (server, ledger)).2.2
      (rest.advance (ChatServer.execRecorded addr) (server, ledger)).1 := by
  apply advance_named _ server rfl holds
  intro _ told op next answer _ _ answered before
  have here : isStoreCall op = false := by
    cases op <;> first | rfl | cases answered
  exact follows.quick addr readMsg told op next answer here before

theorem runHandler_of (handlers : Handlers good server) (addr : Addr) {readMsg : MsgNode} {ledger : Ledger}
    {rest : Awaitable ChannelMessage} (reached : good addr readMsg (rest.advance (ChatServer.execRecorded addr) (server, ledger)).2.2
      (rest.advance (ChatServer.execRecorded addr) (server, ledger)).1) :
    Handlers good (server.runHandler addr readMsg ledger rest) := by
  have calm := advance_calm addr server ledger rest
  have external : ∀ after told op next,
      rest.advance (ChatServer.execRecorded addr) (server, ledger) = (.call op next, after, told) →
      op.isExternal = true := fun _ _ _ _ stopped => advance_external stopped
  unfold ChatServer.runHandler
  generalize rest.advance (ChatServer.execRecorded addr) (server, ledger) = stopped at reached calm external ⊢
  obtain ⟨left, after, told⟩ := stopped
  apply (handlers.calm calm).settle addr reached
  intro op next same
  dsimp only at same
  subst same
  exact external after told op next rfl

theorem runHandler (follows : Follows lib good) (handlers : Handlers good server) (addr : Addr) {readMsg : MsgNode}
    {ledger : Ledger} {rest : Awaitable ChannelMessage} (holds : good addr readMsg ledger rest) :
    Handlers good (server.runHandler addr readMsg ledger rest) := handlers.runHandler_of addr (advance follows server holds)

theorem resumes (follows : Follows lib good) (handlers : Handlers good server) {addr : Addr} {readMsg : MsgNode}
    {ledger : Ledger} {rest : Awaitable ChannelMessage} {ready : ChatServer}
    (resumes : Resumes lib server addr readMsg ledger rest ready) : good addr readMsg ledger rest := by
  cases resumes with
  | handed idle reading => exact follows.handed addr readMsg
  | resumed idle reading =>
    apply handlers.suspended addr
    rw [reading]
    rfl
  | returned answer blocked reading =>
    apply follows.quick addr readMsg _ (.notify _) _ answer rfl
    apply handlers.suspended addr
    rw [reading]
    rfl

/-- Outside of its turns nothing happens to a handler. -/
theorem rule_of {known : ChatServer → Prop} (turn : ∀ server addr readMsg ledger rest ready, known server →
    Resumes lib server addr readMsg ledger rest ready → Handlers good server → Handlers good (ready.runHandler addr readMsg ledger rest)) :
    OwnRule lib (Handlers good) (fun _ => True) known where
  aside server addr change aside handlers := handlers.sameReader addr aside.reader
  plain server event plain handlers := by
    apply handlers.record
    intro _ _ _ _ same
    rw [same] at plain
    exact plain.elim
  start server addr uid _ _ _ _ handlers := by
    have started : Handlers good (server.modify addr fun _ => { uid, started := true }) := handlers.idleReader addr rfl
    exact ⟨started.proper, started.suspended, started.replied⟩
  stop server addr _ _ handlers := handlers.stop addr
  send server addr bytes _ _ _ handlers := handlers.sameReader addr rfl
  begin server addr _ _ _ _ handlers := handlers.setReader addr .readingHeader rfl
  read server addr session _ _ done handlers := by
    apply handlers.idleReader
    unfold ChatServer.readDone at done
    split at done
    · split at done <;> cases done
      rfl
    · dsimp only at done
      split at done <;> cases done
      rfl
    · cases done
  decoded server addr readMsg header _ _ _ _ handlers := handlers.setReader addr (.readingBody header) rfl
  quit server addr _ _ _ handlers := (handlers.stop addr).setReader addr .finished rfl
  post server tasks handlers := ⟨handlers.proper, handlers.suspended, handlers.replied⟩
  handler := turn

theorem rule (follows : Follows lib good) : OwnRule lib (Handlers good) := by
  apply rule_of
  intro server addr readMsg ledger rest ready _ resumes handlers
  have holds := Handlers.resumes follows handlers resumes
  cases resumes with
  | handed idle reading =>
    have handed : Handlers good (server.record (.handed addr readMsg)) := by
      apply handlers.record
      intro _ _ _ _ same
      cases same
    exact handed.runHandler follows addr holds
  | resumed idle reading => exact handlers.runHandler follows addr holds
  | returned answer blocked reading =>
    have freed : Handlers good { server with blocked := none } :=
      ⟨handlers.proper, handlers.suspended, handlers.replied⟩
    exact freed.runHandler follows addr holds

/-- The answer of a store, if that is good, too. -/
theorem answer (handlers : Handlers good server) {addr : Addr} {readMsg : MsgNode} {ledger : Ledger} {op : Op}
    {next : op.Res → Awaitable ChannelMessage} {answer : op.Res}
    (reading : (server.session addr).reader = .waiting readMsg ledger op next)
    (holds : good addr readMsg ledger (.call op next) → good addr readMsg (⟨op, answer⟩ :: ledger) (next answer)) :
    Handlers good (server.setReader addr (.resuming readMsg (⟨op, answer⟩ :: ledger) (next answer))) := by
  have store : isStoreCall op = true := by
    have proper := handlers.proper addr
    rw [reading] at proper
    exact proper
  apply handlers.modify
  · exact ⟨op, answer, ledger, rfl, store⟩
  · intro _ _ _ task
    cases task
    apply holds
    apply handlers.suspended addr
    rw [reading]
    rfl

theorem mono {weaker : Addr → MsgNode → Ledger → Awaitable ChannelMessage → Prop} (handlers : Handlers good server)
    (implies : ∀ addr readMsg told rest, good addr readMsg told rest → weaker addr readMsg told rest) : Handlers weaker server :=
  ⟨handlers.proper, fun _ _ _ _ task => implies _ _ _ _ (handlers.suspended _ _ _ _ task),
    fun _ _ _ _ logged => implies _ _ _ _ (handlers.replied _ _ _ _ logged)⟩

theorem fresh (good : Addr → MsgNode → Ledger → Awaitable ChannelMessage → Prop) (name : String) :
    Handlers good (.fresh name) where
  proper _ := trivial
  suspended := by
    intro _ _ _ _ task
    cases task
  replied := by
    intro _ _ _ _ member
    cases member

end Handlers

/-- Every handler that waits, and every reply, goes back to a frame and the answers it was given. -/
def Traced (lib : JsonLib) : ChatServer → Prop := Handlers fun _ => Reaches lib

namespace Traced

variable {lib : JsonLib} {server after : ChatServer}

theorem follows (lib : JsonLib) : Follows lib fun _ => Reaches lib where
  handed _ _ := .start
  quick _ _ _ _ _ answer _ reaches := reaches.answer answer

theorem proper (traced : Traced lib server) (addr : Addr) : Proper (server.session addr).reader :=
  Handlers.proper traced addr

theorem suspended (traced : Traced lib server) {addr : Addr} {readMsg : MsgNode} {ledger : Ledger}
    {rest : Awaitable ChannelMessage} (task : (server.session addr).reader.task = some (readMsg, ledger, rest)) :
    Reaches lib readMsg ledger rest := Handlers.suspended traced addr readMsg ledger rest task

theorem replied (traced : Traced lib server) {addr : Addr} {readMsg : MsgNode} {ledger : Ledger} {reply : ChannelMessage}
    (logged : Event.replied addr readMsg ledger reply ∈ server.log) : Reaches lib readMsg ledger (.ret reply) :=
  Handlers.replied traced addr readMsg ledger reply logged

theorem resumes (traced : Traced lib server) {addr : Addr} {readMsg : MsgNode} {ledger : Ledger}
    {rest : Awaitable ChannelMessage} {ready : ChatServer}
    (resumes : Resumes lib server addr readMsg ledger rest ready) : Reaches lib readMsg ledger rest :=
  Handlers.resumes (follows lib) traced resumes

/-- A handler goes on after the answer of a store or of the peer, so it has just looked up nobody. -/
theorem begins (traced : Traced lib server) {addr : Addr} {readMsg : MsgNode} {ledger : Ledger}
    {rest : Awaitable ChannelMessage} {ready : ChatServer} (resumes : Resumes lib server addr readMsg ledger rest ready)
    (uid : Int64) (found : Option Addr) (before : Ledger) : ledger ≠ ⟨.getParticipant uid, found⟩ :: before := by
  intro same
  cases resumes with
  | handed idle reading => cases same
  | resumed idle reading =>
    have proper := traced.proper addr
    rw [reading] at proper
    obtain ⟨op, answer, told, entry, external⟩ := proper
    rw [same] at entry
    cases entry
    cases external
  | returned answer blocked reading => cases same

theorem rule (lib : JsonLib) : StepRule lib (Traced lib) where
  toOwnRule := Handlers.rule (follows lib)
  answer _ _ _ _ _ _ answer _ reading traced := Handlers.answer traced reading fun reaches => reaches.answer answer

theorem fresh (lib : JsonLib) (name : String) : Traced lib (.fresh name) := Handlers.fresh _ name

end Traced

theorem step_traced {lib : JsonLib} (server : ChatServer) (act : Act) (after : ChatServer)
    (traced : Traced lib server) (taken : server.step lib act = some after) : Traced lib after :=
  (Traced.rule lib).step trivial (fun _ _ _ => trivial) taken traced

theorem run_traced {lib : JsonLib} {name : String} {server : ChatServer} {acts : List Act}
    (run : Transition.Run (ChatServer.step lib) (.fresh name) acts server) : Traced lib server :=
  run.invariant step_traced (Traced.fresh lib name)

/-- A server keeps its name. -/
def NameIs (name : String) (server : ChatServer) : Prop := server.name = name

theorem NameIs.rule (lib : JsonLib) (name : String) : StepRule lib (NameIs name) where
  aside _ _ _ _ named := named
  plain _ _ _ named := named
  start _ _ _ _ _ _ _ named := named
  stop _ _ _ _ named := named
  send _ _ _ _ _ _ named := named
  begin _ _ _ _ _ _ named := named
  read _ _ _ _ _ _ named := named
  decoded _ _ _ _ _ _ _ _ named := named
  quit _ _ _ _ _ named := named
  answer _ _ _ _ _ _ _ _ _ named := named
  post _ _ named := named
  handler server addr readMsg ledger rest ready _ resumes named := by
    have same : ready.name = server.name := by
      cases resumes <;> rfl
    exact (runHandler_turn ready addr readMsg ledger rest).1.name.trans (same.trans named)

theorem step_nameIs {lib : JsonLib} {name : String} (server : ChatServer) (act : Act) (after : ChatServer)
    (named : NameIs name server) (taken : server.step lib act = some after) : NameIs name after :=
  (NameIs.rule lib name).step trivial (fun _ _ _ => trivial) taken named

/-- A connection that has not been accepted has no reader. -/
def Unused (server : ChatServer) : Prop :=
  ∀ addr, (server.session addr).started = false → (server.session addr).reader = .unstarted

namespace Unused

variable {server : ChatServer}

theorem started (unused : Unused server) {addr : Addr} (moved : (server.session addr).reader ≠ .unstarted) :
    (server.session addr).started = true := by
  cases used : (server.session addr).started with
  | true => rfl
  | false => exact absurd (unused addr used) moved

theorem modify (unused : Unused server) (addr : Addr) {change : Session → Session}
    (here : (change (server.session addr)).started = false → (change (server.session addr)).reader = .unstarted) :
    Unused (server.modify addr change) := by
  intro other
  by_cases same : other = addr
  · rw [same, ChatServer.modify_session_self]
    exact here
  · rw [ChatServer.modify_session_other _ _ same]
    exact unused other

theorem ofStarted (unused : Unused server) (addr : Addr) {change : Session → Session}
    (started : (change (server.session addr)).started = true) : Unused (server.modify addr change) := by
  apply unused.modify addr
  intro fresh
  rw [started] at fresh
  cases fresh

theorem stop (unused : Unused server) (addr : Addr) : Unused (server.stop addr) := by
  have aside := cancelDeadline_aside (server.session addr)
  have left : Unused (server.leave addr) := unused
  apply left.modify addr
  intro fresh
  exact aside.reader.trans (unused addr (aside.started.symm.trans fresh))

theorem resumes (unused : Unused server) {lib : JsonLib} {addr : Addr} {readMsg : MsgNode} {ledger : Ledger}
    {rest : Awaitable ChannelMessage} {ready : ChatServer} (resumes : Resumes lib server addr readMsg ledger rest ready) :
    (ready.session addr).started = true := by
  cases resumes with
  | handed idle reading => exact unused.started (by rw [reading]; exact Reader.noConfusion)
  | resumed idle reading => exact unused.started (by rw [reading]; exact Reader.noConfusion)
  | returned answer blocked reading => exact unused.started (by rw [reading]; exact Reader.noConfusion)

theorem rule (lib : JsonLib) : StepRule lib Unused where
  aside server addr change aside unused := by
    apply unused.modify addr
    intro fresh
    exact aside.reader.trans (unused addr (aside.started.symm.trans fresh))
  plain _ _ _ unused := unused
  start server addr uid _ _ _ _ unused := by
    have started : Unused (server.modify addr fun _ => { uid, started := true }) := unused.ofStarted addr rfl
    exact started
  stop _ addr _ _ unused := unused.stop addr
  send _ addr _ _ started _ unused := unused.ofStarted addr started
  begin _ addr _ _ started _ unused := unused.ofStarted addr started
  read server addr session _ _ done unused := by
    apply unused.ofStarted addr
    apply (ChatServer.readDone_login done).1.trans
    apply unused.started
    intro unstarted
    unfold ChatServer.readDone at done
    rw [unstarted] at done
    cases done
  decoded _ addr _ _ _ _ reading _ unused := by
    apply unused.ofStarted addr
    exact unused.started (by rw [reading]; exact Reader.noConfusion)
  quit server addr _ _ reading unused := by
    apply (unused.stop addr).ofStarted addr
    apply (unused.stop addr).started
    intro unstarted
    rw [stop_self] at unstarted
    rw [(cancelDeadline_aside _).reader.symm.trans unstarted] at reading
    cases reading
  answer _ addr _ _ _ _ _ _ reading unused := by
    apply unused.ofStarted addr
    exact unused.started (by rw [reading]; exact Reader.noConfusion)
  post _ _ unused := unused
  handler server addr readMsg ledger rest ready _ resumes unused := by
    have used := unused.resumes resumes
    have same : ready.session = server.session := by
      cases resumes <;> rfl
    have turn := (runHandler_turn ready addr readMsg ledger rest).1
    intro other fresh
    rw [turn.started] at fresh
    have different : other ≠ addr := by
      intro here
      rw [here, used] at fresh
      cases fresh
    rw [turn.reader other different, same]
    rw [same] at fresh
    exact unused other fresh

end Unused

theorem step_unused {lib : JsonLib} (server : ChatServer) (act : Act) (after : ChatServer)
    (unused : Unused server) (taken : server.step lib act = some after) : Unused after :=
  (Unused.rule lib).step trivial (fun _ _ _ => trivial) taken unused

theorem fresh_unused (name : String) : Unused (.fresh name) := by
  intro _ _
  rfl

/-- The frame that the handler has not been given yet. -/
def frameRead : Reader → Option MsgNode
  | .bodyRead readMsg => some readMsg
  | _ => none

theorem frameRead_eq_some {reader : Reader} {readMsg : MsgNode} : frameRead reader = some readMsg ↔ reader = .bodyRead readMsg := by
  cases reader <;> simp [frameRead]

end ChatProof
