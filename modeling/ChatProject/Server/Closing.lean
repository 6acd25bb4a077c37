import ChatProject.Server.Harmless

/-! What keeps a session alive after its connection has been closed. -/

namespace ChatProof

open ChatModel

/-! ## Coroutines that are through, and those that something will resume -/

/-- A completion of the socket or of a store is outstanding or queued, or a task that was posted. -/
def Reader.isPending : Reader → Bool
  | .finished => false
  | _ => true

/-- The same of the writer, which may also wait at the channel. -/
def Writer.isPending : Writer → Bool
  | .receiving | .finished => false
  | _ => true

def Deadline.isPending : Deadline → Bool
  | .finished => false
  | _ => true

/-- Nothing of the session is outstanding or queued. -/
structure NothingPending (session : Session) : Prop where
  reader : Reader.isPending session.reader = false
  writer : Writer.isPending session.writer = false
  loginDeadline : Deadline.isPending session.loginDeadline = false

structure AllFinished (session : Session) : Prop where
  reader : session.reader = .finished
  writer : session.writer = .finished
  loginDeadline : session.loginDeadline = .finished

/-- The writer waits for a message, and the coroutine that could still send one is through. -/
structure Stranded (session : Session) : Prop where
  reader : session.reader = .finished
  writer : session.writer = .receiving

def Writer.isReceiving : Writer → Bool
  | .receiving => true
  | _ => false

/-- The reader is about to refuse a header. -/
def Reader.refusesHeader : Reader → Bool
  | .headerRead readMsg => !readMsg.decodeHeader.1
  | _ => false

/-- The writer is about to go back to the channel. -/
def Writer.goesOn : Writer → Bool
  | .written out => !out.closeAfterSend
  | _ => false

/-- The step neither ends the reader of the session while its writer waits at the channel, nor lets the writer wait at an
    empty channel after the reader has ended. -/
def Frees (addr : Addr) (server : ChatServer) : Act → Prop
  | .readFailed other => other = addr → Writer.isReceiving (server.session addr).writer = false
  | .resumeReader other => other = addr → Reader.refusesHeader (server.session addr).reader = true →
      Writer.isReceiving (server.session addr).writer = false
  | .startWriter other => other = addr → Reader.isPending (server.session addr).reader = false →
      (server.session addr).channel.toList.isEmpty = false
  | .resumeWriter other => other = addr → Writer.goesOn (server.session addr).writer = true →
      Reader.isPending (server.session addr).reader = false → (server.session addr).channel.toList.isEmpty = false
  | _ => True

instance (addr : Addr) (server : ChatServer) : (act : Act) → Decidable (Frees addr server act)
  | .readFailed _ => inferInstanceAs (Decidable (_ → _))
  | .resumeReader _ => inferInstanceAs (Decidable (_ → _ → _))
  | .startWriter _ => inferInstanceAs (Decidable (_ → _ → _))
  | .resumeWriter _ => inferInstanceAs (Decidable (_ → _ → _ → _))
  | .accept _ _ | .send _ _ | .startReader _ | .readDone _ | .answer _ _ | .returned _ | .writeDone _ | .writeFailed _
  | .startDeadline _ | .expire _ | .resumeDeadline _ | .arrive _ | .runTask => .isTrue trivial

theorem reader_through {reader : Reader} : Reader.isPending reader = false ↔ reader = .finished := by
  cases reader <;> simp [Reader.isPending]

theorem writer_waiting {writer : Writer} : Writer.isReceiving writer = true ↔ writer = .receiving := by
  cases writer <;> simp [Writer.isReceiving]

theorem deadline_through {deadline : Deadline} : Deadline.isPending deadline = false ↔ deadline = .finished := by
  cases deadline <;> simp [Deadline.isPending]

/-! ## What each change of a session keeps -/

/-- The reader has not left the writer behind. -/
def Released (session : Session) : Prop := session.reader = .finished → session.writer ≠ .receiving

theorem released_same {before after : Session} (released : Released before) (reader : after.reader = before.reader)
    (writer : after.writer = before.writer) : Released after := by
  unfold Released
  rw [reader, writer]
  exact released

theorem released_reader {session : Session} (running : session.reader ≠ .finished) : Released session :=
  fun finished => absurd finished running

theorem released_writer {session : Session} (busy : session.writer ≠ .receiving) : Released session := fun _ => busy

theorem cancelDeadline_coroutines (session : Session) :
    session.cancelDeadline.reader = session.reader ∧ session.cancelDeadline.writer = session.writer := by
  unfold Session.cancelDeadline
  split <;> exact ⟨rfl, rfl⟩

/-- A message that is sent takes the writer from the channel. -/
theorem trySend_released {msg : ChannelMessage} {session after : Session} (sent : session.trySend msg = some after)
    (released : Released session) : Released after := by
  unfold Session.trySend at sent
  split at sent
  · cases sent
    exact released_writer nofun
  · obtain ⟨channel, _, same⟩ := Option.map_eq_some_iff.mp sent
    subst same
    exact released

theorem receive_released {session : Session}
    (more : Reader.isPending session.reader = false → session.channel.toList.isEmpty = false) : Released session.receive := by
  unfold Session.receive
  cases taken : session.channel.tryReceive with
  | some pair => exact released_writer nofun
  | none =>
    have empty := BoundedQueue.tryReceive_eq_none.mp taken
    apply released_reader
    intro finished
    have held := more (reader_through.mpr finished)
    rw [empty] at held
    cases held

theorem readDone_released {session after : Session} (done : ChatServer.readDone session = some after) : Released after := by
  unfold ChatServer.readDone at done
  split at done
  · split at done <;> cases done
    exact released_reader Reader.noConfusion
  · dsimp only at done
    split at done <;> cases done
    exact released_reader Reader.noConfusion
  · cases done

/-! ## One session of a server -/

section Steps

variable {lib : JsonLib} {addr : Addr} {server after : ChatServer}

theorem modify_at {holds : Session → Prop} (before : holds (server.session addr)) (other : Addr) {change : Session → Session}
    (here : other = addr → holds (change (server.session addr))) : holds ((server.modify other change).session addr) := by
  by_cases same : addr = other
  · rw [same, ChatServer.modify_session_self, ← same]
    exact here same.symm
  · rw [ChatServer.modify_session_other _ _ same]
    exact before

theorem released_setReader (released : Released (server.session addr)) (other : Addr) {reader : Reader} (running : reader ≠ .finished) :
    Released ((server.setReader other reader).session addr) :=
  modify_at released other fun _ => released_reader running

theorem released_deliver (released : Released (server.session addr)) (other : Addr) (msg : ChannelMessage) :
    Released ((server.deliver other msg).session addr) := by
  unfold ChatServer.deliver
  split
  · rename_i session sent
    have sentOff : Released ((server.modify other fun _ => session).session addr) := by
      apply modify_at released other
      intro same
      rw [same] at sent
      exact trySend_released sent released
    exact sentOff
  · exact released

/-- A connection is closed by the coroutine that is through with it. -/
theorem released_stop (released : Released (server.session addr)) (other : Addr) : Released ((server.stop other).session addr) := by
  have left : Released ((server.leave other).session addr) := released
  apply modify_at left other
  intro _
  obtain ⟨reader, writer⟩ := cancelDeadline_coroutines (server.session addr)
  exact released_same released reader writer

theorem released_execLocal {own : Addr} {op : Op} {answer : op.Res} (released : Released (server.session addr))
    (answered : ChatServer.execLocal own op server = some (answer, after)) : Released (after.session addr) := by
  cases op <;> simp only [ChatServer.execLocal, Option.some.injEq, Prod.mk.injEq, reduceCtorEq] at answered
  case setUid uid =>
    rw [← answered.2]
    exact modify_at released own fun _ => released
  case markAuthenticated =>
    rw [← answered.2]
    obtain ⟨reader, writer⟩ := cancelDeadline_coroutines (server.session addr)
    exact modify_at released own fun _ => released_same released reader writer
  case deliver target msg =>
    rw [← answered.2]
    exact released_deliver released target msg
  all_goals
    rw [← answered.2]
    exact released

/-- A turn of a handler that does not throw leaves its reader running. -/
theorem released_runHandler {own : Addr} {readMsg : MsgNode} {told : Ledger} {rest : Awaitable ChannelMessage}
    (reaches : Reaches lib readMsg told rest) (released : Released (server.session addr)) :
    Released ((server.runHandler own readMsg told rest).session addr) := by
  have answers : ∀ op (state : ChatServer × Ledger) answer after, True →
      ChatServer.execRecorded own op state = some (answer, after) → Released (state.1.session addr) →
      Released (after.1.session addr) := by
    intro op state answer after _ answered before
    obtain ⟨pair, done, same⟩ := Option.map_eq_some_iff.mp answered
    obtain ⟨found, reached⟩ := pair
    cases same
    exact released_execLocal before done
  have ran : Released ((rest.advance (ChatServer.execRecorded own) (server, told)).2.1.session addr) :=
    Coroutine.advance_preserves _ answers (Coroutine.asksOnly_all rest) released
  have reached : Reaches lib readMsg (rest.advance (ChatServer.execRecorded own) (server, told)).2.2
      (rest.advance (ChatServer.execRecorded own) (server, told)).1 :=
    Handlers.advance (Traced.follows lib) server reaches
  unfold ChatServer.runHandler
  generalize rest.advance (ChatServer.execRecorded own) (server, told) = stopped at ran reached ⊢
  obtain ⟨left, middle, heard⟩ := stopped
  cases left with
  | ret reply =>
    have recorded : Released ((middle.record (.replied own readMsg heard reply)).session addr) := ran
    exact released_setReader (released_deliver recorded own reply) own nofun
  | throw failure => exact reached.never_throws.elim
  | call op next =>
    obtain ⟨reader, blocked, task, same⟩ := settle_reader (.call op next) middle heard rfl
    have running : reader ≠ .finished := by
      intro finished
      rw [finished] at task
      cases task
    rw [same]
    exact released_setReader ran own running

theorem released_rule (lib : JsonLib) (addr : Addr) : ActRule lib (fun server => Released (server.session addr)) (fun _ => True)
    (fun server act => Traced lib server ∧ Frees addr server act) where
  deliver _ other msg _ released := released_deliver released other msg
  start server other uid _ _ _ _ released := by
    have born : Released { uid, started := true } := released_reader nofun
    have begun : Released ((server.modify other fun _ => { uid, started := true }).session addr) :=
      modify_at released other fun _ => born
    exact begun
  send _ other _ _ _ _ released := modify_at released other fun _ => released
  begin _ other _ _ _ _ released := released_setReader released other nofun
  read server other session _ _ done released := by
    apply modify_at released other
    intro _
    exact readDone_released done
  decoded _ other _ header _ _ _ _ released := released_setReader released other nofun
  quit server other act knows _ quits released := by
    apply modify_at (released_stop released other) other
    intro same
    have busy : (server.session addr).writer ≠ .receiving := by
      intro waits
      have frees : Writer.isReceiving (server.session addr).writer = false := by
        cases quits with
        | failed _ => exact knows.2 same
        | refused reading refused =>
          apply knows.2 same
          rw [← same, reading, Reader.refusesHeader, refused]
          rfl
      rw [waits] at frees
      cases frees
    apply released_writer
    rw [same, stop_self]
    rw [← (cancelDeadline_coroutines (server.session addr)).2] at busy
    exact busy
  answer _ other readMsg ledger op next oracle _ _ released := released_setReader released other nofun
  post _ _ released := released
  handler server other readMsg ledger rest ready act knows _ resumes released := by
    have begins : Released (ready.session addr) := by
      cases resumes <;> exact released
    exact released_runHandler (knows.1.resumes resumes) begins
  beginWriter server other knows _ _ _ released := modify_at released other fun same => receive_released (knows.2 same)
  write _ other out _ _ _ released := modify_at released other fun _ => released_writer nofun
  written server other out _ _ _ _ released := by
    have through : Released ((server.setWriter other (.written out)).session addr) :=
      modify_at released other fun _ => released_writer nofun
    exact through
  writeFailed _ other _ _ _ _ released := modify_at (released_stop released other) other fun _ => released_writer nofun
  close _ other _ _ _ _ _ released := modify_at (released_stop released other) other fun _ => released_writer nofun
  receive server other out knows _ written stays released := by
    apply modify_at released other
    intro same
    apply receive_released
    apply knows.2 same
    rw [← same, written, Writer.goesOn, stays]
    rfl
  beginDeadline _ other _ _ _ _ released := modify_at released other fun _ => released
  expire _ other _ _ _ released := modify_at released other fun _ => released
  aborted _ other _ _ _ released := modify_at released other fun _ => released
  expired _ other _ _ _ _ released := modify_at released other fun _ => released
  timeout server other _ _ _ _ released := by
    have stopped := released_stop released other
    exact modify_at stopped other fun _ => stopped

/-- A step that does not meet the condition leaves the writer behind. -/
theorem stranded_of_step {act : Act} (strands : ¬ Frees addr server act) (taken : server.step lib act = some after) :
    Stranded (after.session addr) := by
  have closed : ∀ {server : ChatServer}, Writer.isReceiving (server.session addr).writer = true →
      Stranded ((((server.stop addr).setReader addr .finished)).session addr) := by
    intro server waits
    rw [setReader_self, stop_self]
    exact ⟨rfl, (cancelDeadline_coroutines (server.session addr)).2.trans (writer_waiting.mp waits)⟩
  have received : ∀ {server : ChatServer}, Reader.isPending (server.session addr).reader = false →
      (server.session addr).channel.toList.isEmpty = true → Stranded ((server.modify addr Session.receive).session addr) := by
    intro server through empty
    have none := BoundedQueue.tryReceive_eq_none.mpr (List.isEmpty_iff.mp empty)
    rw [ChatServer.modify_session_self, Session.receive, none]
    exact ⟨reader_through.mp through, rfl⟩
  cases act with
  | readFailed other =>
    simp only [Frees, not_forall, Bool.not_eq_false] at strands
    obtain ⟨same, waits⟩ := strands
    subst same
    simp only [ChatServer.step, ChatServer.threadStep] at taken
    split at taken
    · split at taken <;> cases taken
      exact closed waits
    · cases taken
  | resumeReader other =>
    simp only [Frees, not_forall, Bool.not_eq_false] at strands
    obtain ⟨same, refuses, waits⟩ := strands
    subst same
    simp only [ChatServer.step, ChatServer.threadStep, ChatServer.resumeReader] at taken
    split at taken
    · cases reading : (server.session other).reader with
      | headerRead readMsg =>
        simp only [reading, Reader.refusesHeader, Bool.not_eq_true'] at refuses
        simp only [reading] at taken
        split at taken
        · rename_i accepted
          rw [accepted] at refuses
          cases refuses
        · cases taken
          exact closed waits
      | _ =>
        rw [reading] at refuses
        cases refuses
    · cases taken
  | startWriter other =>
    simp only [Frees, not_forall, Bool.not_eq_false] at strands
    obtain ⟨same, through, empty⟩ := strands
    subst same
    simp only [ChatServer.step, ChatServer.threadStep] at taken
    split at taken
    · split at taken <;> cases taken
      exact received through empty
    · cases taken
  | resumeWriter other =>
    simp only [Frees, not_forall, Bool.not_eq_false] at strands
    obtain ⟨same, goesOn, through, empty⟩ := strands
    subst same
    simp only [ChatServer.step, ChatServer.threadStep, ChatServer.resumeWriter] at taken
    split at taken
    · cases writing : (server.session other).writer with
      | written out =>
        simp only [writing, Writer.goesOn, Bool.not_eq_true'] at goesOn
        simp only [writing, goesOn, Bool.false_eq_true, if_false] at taken
        cases taken
        exact received through empty
      | _ =>
        rw [writing] at goesOn
        cases goesOn
    · cases taken
  | _ => exact absurd trivial strands

end Steps

/-- In every run whose steps leave no writer of this session behind, its coroutines are through once it is closed and nothing
    of it is outstanding; any other step does leave the writer behind. -/
theorem closed_session_finishes (lib : JsonLib) (name : String) (acts : List Act) (server : ChatServer) (addr : Addr)
    (run : Transition.Run (ChatServer.step lib) (.fresh name) acts server)
    (meets : Transition.Meets (ChatServer.step lib) (Frees addr) (.fresh name) acts) :
    ((server.session addr).stopped = true → NothingPending (server.session addr) → AllFinished (server.session addr)) ∧
    ∀ act after, ¬ Frees addr server act → server.step lib act = some after → Stranded (after.session addr) := by
  have keeps : ∀ server act after, (Released (server.session addr) ∧ Traced lib server) → Frees addr server act →
      server.step lib act = some after → Released (after.session addr) ∧ Traced lib after := by
    intro server act after known frees taken
    refine ⟨?_, step_traced server act after known.2 taken⟩
    exact (released_rule lib addr).step ⟨known.2, frees⟩ (fun _ _ _ => trivial) taken known.1
  have fresh : Released ((ChatServer.fresh name).session addr) := released_reader nofun
  obtain ⟨released, _⟩ := run.invariant_of_meets keeps meets ⟨fresh, Traced.fresh lib name⟩
  refine ⟨?_, fun act after strands taken => stranded_of_step strands taken⟩
  intro _ quiet
  have through := reader_through.mp quiet.reader
  refine ⟨through, ?_, deadline_through.mp quiet.loginDeadline⟩
  have writer := quiet.writer
  have busy := released through
  cases writing : (server.session addr).writer with
  | finished => rfl
  | receiving => exact absurd writing busy
  | _ =>
    rw [writing] at writer
    cases writer

/-- A stranger asks for something, and the reply closes the connection. -/
def turnedAway : List Act :=
  [.accept 1 0, .startReader 1, .startWriter 1, .startDeadline 1,
    .send 1 (MsgNode.ofText MessageId.searchUserRequest.wire "x").wire, .readDone 1, .resumeReader 1, .readDone 1, .resumeReader 1,
    .resumeWriter 1, .writeDone 1, .resumeWriter 1, .readFailed 1, .resumeDeadline 1]

theorem closed_session_finishes_turnedAway : ∃ server,
    Transition.Run (ChatServer.step blind) (.fresh "chat_server1") turnedAway server ∧ AllFinished (server.session 1) := by
  have possible : ((Transition.runs (ChatServer.step blind) (.fresh "chat_server1") turnedAway).any fun server =>
      decide ((server.session 1).stopped = true ∧ Reader.isPending (server.session 1).reader = false ∧
        Writer.isPending (server.session 1).writer = false ∧ Deadline.isPending (server.session 1).loginDeadline = false)) = true := by
    decide +kernel
  have meets : Transition.Meets (ChatServer.step blind) (Frees 1) (.fresh "chat_server1") turnedAway := by decide +kernel
  obtain ⟨server, reached, found⟩ := (Option.any_eq_true _ _).mp possible
  obtain ⟨stopped, reader, writer, loginDeadline⟩ := of_decide_eq_true found
  have run := Transition.run_iff_runs.mpr reached
  exact ⟨server, run, (closed_session_finishes _ _ _ server 1 run meets).1 stopped ⟨reader, writer, loginDeadline⟩⟩

/-- A client connects and leaves. -/
theorem closed_session_keeps_its_writer : ¬ ∀ (lib : JsonLib) (name : String) (acts : List Act) (server : ChatServer) (addr : Addr),
    Transition.Run (ChatServer.step lib) (.fresh name) acts server → (server.session addr).stopped = true →
    NothingPending (server.session addr) → AllFinished (server.session addr) := by
  intro claim
  have possible : ((Transition.runs (ChatServer.step blind) (.fresh "chat_server1") [.accept 1 0, .startDeadline 1, .startReader 1,
      .startWriter 1, .readFailed 1, .resumeDeadline 1]).any fun server =>
        decide ((server.session 1).stopped = true ∧ Reader.isPending (server.session 1).reader = false ∧
          Writer.isReceiving (server.session 1).writer = true ∧ Deadline.isPending (server.session 1).loginDeadline = false)) = true := by
    decide +kernel
  obtain ⟨server, reached, found⟩ := (Option.any_eq_true _ _).mp possible
  obtain ⟨stopped, reader, waits, loginDeadline⟩ := of_decide_eq_true found
  have waiting := writer_waiting.mp waits
  have writer : Writer.isPending (server.session 1).writer = false := by
    rw [waiting]
    rfl
  have run := Transition.run_iff_runs.mpr reached
  have finished := (claim blind _ _ server 1 run stopped ⟨reader, writer, loginDeadline⟩).writer
  rw [waiting] at finished
  cases finished

end ChatProof
