import ChatProject.Message.Stream
import ChatProject.Server.Turns

/-! The frames that come to the handlers of a session are those that its client has sent, in that order. -/

namespace ChatProof

open ChatModel

/-- How far a session is in what its client has sent, when these frames have come to its handlers. -/
def Reading (sent : Bytes) (frames : List MsgNode) (session : Session) : Prop :=
  match session.reader with
  | .headerRead readMsg => ∃ front : Bytes, front.length = prefixLen ∧ readMsg = ({} : MsgNode).write 0 front ∧
      frameReader.Takes sent frames (front ++ session.incoming)
  | .readingBody readMsg => ∃ front : Bytes, front.length = prefixLen ∧
      (({} : MsgNode).write 0 front).decodeHeader = (true, readMsg) ∧ frameReader.Takes sent frames (front ++ session.incoming)
  | .bodyRead readMsg => frameReader.Takes sent (frames ++ [readMsg]) session.incoming
  | .finished => ∃ rest, frameReader.Takes sent frames rest
  | _ => frameReader.Takes sent frames session.incoming

namespace Reading

variable {sent : Bytes} {frames : List MsgNode} {session after : Session}

theorem same (reads : Reading sent frames session) (reader : after.reader = session.reader)
    (incoming : after.incoming = session.incoming) : Reading sent frames after := by
  unfold Reading at reads ⊢
  rw [reader, incoming]
  exact reads

/-- The client sends more. -/
theorem more (reads : Reading sent frames session) (bytes : Bytes) :
    Reading (sent ++ bytes) frames { session with incoming := session.incoming ++ bytes } := by
  unfold Reading at reads ⊢
  dsimp only
  split at reads
  · obtain ⟨front, long, same, takes⟩ := reads
    refine ⟨front, long, same, ?_⟩
    rw [← List.append_assoc]
    exact takes_append takes bytes
  · obtain ⟨front, long, same, takes⟩ := reads
    refine ⟨front, long, same, ?_⟩
    rw [← List.append_assoc]
    exact takes_append takes bytes
  · exact takes_append reads bytes
  · obtain ⟨rest, takes⟩ := reads
    exact ⟨rest ++ bytes, takes_append takes bytes⟩
  · exact takes_append reads bytes

/-- A reader that stops before it has a frame. -/
theorem quit (reads : Reading sent frames session) (reading : session.reader.isReading = true) (finished : after.reader = .finished) :
    Reading sent frames after := by
  unfold Reading at reads ⊢
  rw [finished]
  split at reads
  · obtain ⟨front, _, _, takes⟩ := reads
    exact ⟨_, takes⟩
  · obtain ⟨front, _, _, takes⟩ := reads
    exact ⟨_, takes⟩
  · rename_i same
    rw [same] at reading
    cases reading
  · exact reads
  · exact ⟨_, reads⟩

theorem readDone (reads : Reading sent frames session) (done : ChatServer.readDone session = some after) :
    Reading sent frames after := by
  unfold ChatServer.readDone at done
  split at done
  · rename_i reading
    split at done <;> cases done
    rename_i ready
    unfold Reading at reads
    rw [reading] at reads
    refine ⟨session.incoming.take prefixLen, ?_, rfl, ?_⟩
    · rw [List.length_take]
      exact Nat.min_eq_left ready.2
    · rw [List.take_append_drop]
      exact reads
  · rename_i readMsg reading
    dsimp only at done
    split at done <;> cases done
    rename_i ready
    unfold Reading at reads
    rw [reading] at reads
    obtain ⟨front, long, decoded, takes⟩ := reads
    have enough : ¬ (front ++ session.incoming).length < prefixLen := by
      rw [List.length_append]
      omega
    have fits : ¬ (true = false ∨ session.incoming.length < readMsg.bodyLength.toInt.toNat) := by
      rw [not_or]
      exact ⟨Bool.noConfusion, Nat.not_lt_of_le ready.2⟩
    have received : MsgNode.receive (front ++ session.incoming) =
        some (readMsg.write prefixLen (session.incoming.take readMsg.bodyLength.toInt.toNat),
          session.incoming.drop readMsg.bodyLength.toInt.toNat) := by
      unfold MsgNode.receive
      rw [if_neg enough, List.take_left' long, List.drop_left' long, decoded]
      exact if_neg fits
    exact takes.next received
  · cases done

end Reading

/-- So far is each session of a server. -/
structure Fed (sent : Addr → Bytes) (server : ChatServer) : Prop where
  unused : ∀ addr, (server.session addr).started = false → sent addr = [] ∧ handed server.log addr = []
  reads : ∀ addr, Reading (sent addr) (handed server.log addr) (server.session addr)

namespace Fed

variable {sent : Addr → Bytes} {server : ChatServer}

theorem frames (fed : Fed sent server) (addr : Addr) : handed server.log addr <+: (receiveAll (sent addr)).1 := by
  have prefixed : ∀ {rest}, frameReader.Takes (sent addr) (handed server.log addr) rest →
      handed server.log addr <+: (receiveAll (sent addr)).1 := fun takes => ⟨_, takes.readAll.symm⟩
  have reads := fed.reads addr
  unfold Reading at reads
  split at reads
  · obtain ⟨_, _, _, takes⟩ := reads
    exact prefixed takes
  · obtain ⟨_, _, _, takes⟩ := reads
    exact prefixed takes
  · apply (List.prefix_append _ _).trans
    exact ⟨_, reads.readAll.symm⟩
  · obtain ⟨_, takes⟩ := reads
    exact prefixed takes
  · exact prefixed reads

theorem modify (fed : Fed sent server) (addr : Addr) {change : Session → Session}
    (started : (change (server.session addr)).started = (server.session addr).started)
    (here : Reading (sent addr) (handed server.log addr) (change (server.session addr))) : Fed sent (server.modify addr change) := by
  constructor
  · intro other fresh
    by_cases same : other = addr
    · subst same
      rw [ChatServer.modify_session_self, started] at fresh
      exact fed.unused other fresh
    · rw [ChatServer.modify_session_other _ _ same] at fresh
      exact fed.unused other fresh
  · intro other
    by_cases same : other = addr
    · subst same
      rw [ChatServer.modify_session_self]
      exact here
    · rw [ChatServer.modify_session_other _ _ same]
      exact fed.reads other

theorem aside (fed : Fed sent server) (addr : Addr) {change : Session → Session}
    (aside : Aside (server.session addr) (change (server.session addr))) : Fed sent (server.modify addr change) :=
  fed.modify addr aside.started ((fed.reads addr).same aside.reader aside.incoming)

theorem record (fed : Fed sent server) {event : Event} (plain : Event.isPlain event) : Fed sent (server.record event) := by
  have same : ∀ addr, handed (event :: server.log) addr = handed server.log addr := fun addr =>
    handed_none (handedBy_plain plain addr) server.log
  constructor
  · intro addr fresh
    rw [ChatServer.record_log, same]
    exact fed.unused addr fresh
  · intro addr
    rw [ChatServer.record_log, same]
    exact fed.reads addr

theorem setWriter (fed : Fed sent server) (addr : Addr) (writer : Writer) : Fed sent (server.setWriter addr writer) :=
  fed.aside addr ⟨rfl, rfl, rfl, rfl, rfl, rfl⟩

theorem setDeadline (fed : Fed sent server) (addr : Addr) (deadline : Deadline) : Fed sent (server.setDeadline addr deadline) :=
  fed.aside addr ⟨rfl, rfl, rfl, rfl, rfl, rfl⟩

theorem stop (fed : Fed sent server) (addr : Addr) : Fed sent (server.stop addr) := by
  have aside := cancelDeadline_aside (server.session addr)
  have left : Fed sent (server.leave addr) := ⟨fed.unused, fed.reads⟩
  exact left.modify addr aside.started ((fed.reads addr).same aside.reader aside.incoming)

/-- A session that is not read has nothing before it but what has come and has not been read. -/
theorem setReader (fed : Fed sent server) (addr : Addr) {reader : Reader}
    (here : Reading (sent addr) (handed server.log addr) { server.session addr with reader }) : Fed sent (server.setReader addr reader) :=
  fed.modify addr rfl here

theorem deliver (fed : Fed sent server) (addr : Addr) (msg : ChannelMessage) : Fed sent (server.deliver addr msg) := by
  unfold ChatServer.deliver
  split
  · rename_i session accepted
    have sentOff : Fed sent (server.modify addr fun _ => session) := fed.aside addr (trySend_aside accepted)
    exact sentOff.record trivial
  · exact fed.record trivial

theorem start (fed : Fed sent server) (addr : Addr) (uid : Int64) (fresh : (server.session addr).started = false) :
    Fed sent (server.start addr uid) := by
  obtain ⟨nothing, silent⟩ := fed.unused addr fresh
  constructor
  · intro other unused
    by_cases same : other = addr
    · exact same ▸ fed.unused addr fresh
    · have kept : ((server.start addr uid).session other).started = (server.session other).started :=
        congrArg Session.started (if_neg same)
      exact fed.unused other (kept.symm.trans unused)
  · intro other
    by_cases same : other = addr
    · subst same
      have born : (server.start other uid).session other = { uid, started := true } := if_pos rfl
      have log : (server.start other uid).log = server.log := rfl
      rw [born, log, nothing, silent]
      exact .none
    · have kept : (server.start addr uid).session other = server.session other := if_neg same
      rw [kept]
      exact fed.reads other

theorem handler (fed : Fed sent server) (unused : Unused server) {lib : JsonLib} {addr : Addr} {readMsg : MsgNode} {told : Ledger}
    {rest : Awaitable ChannelMessage} {ready : ChatServer} (resumes : Resumes lib server addr readMsg told rest ready) :
    Fed sent (ready.runHandler addr readMsg told rest) := by
  have used := unused.resumes resumes
  have session : ready.session = server.session := by
    cases resumes <;> rfl
  have others : ∀ other, other ≠ addr → handed ready.log other = handed server.log other := by
    intro other different
    cases resumes with
    | handed idle reading =>
      have silent : handedBy other (.handed addr readMsg) = none := if_neg different.symm
      exact handed_none silent server.log
    | resumed idle reading => rfl
    | returned answer blocked reading => rfl
  have here : frameReader.Takes (sent addr) (handed ready.log addr) (server.session addr).incoming := by
    have reads := fed.reads addr
    unfold Reading at reads
    cases resumes with
    | handed idle reading =>
      rw [reading] at reads
      rw [ChatServer.record_log, handed_handed]
      exact reads
    | resumed idle reading =>
      rw [reading] at reads
      exact reads
    | returned answer blocked reading =>
      rw [reading] at reads
      exact reads
  obtain ⟨undisturbed, turn⟩ := runHandler_turn ready addr readMsg told rest
  have came := undisturbed.incoming addr
  rw [session] at came
  constructor
  · intro other fresh
    rw [undisturbed.started, session] at fresh
    have different : other ≠ addr := by
      intro same
      rw [← session, same, used] at fresh
      cases fresh
    rw [turn.handed, others other different]
    exact fed.unused other fresh
  · intro other
    rw [turn.handed]
    by_cases same : other = addr
    · subst same
      unfold Reading
      rw [came]
      cases turn with
      | replied _ _ _ reading _ _ _ _ =>
        rw [reading]
        exact here
      | quit reading _ _ _ =>
        rw [reading]
        exact ⟨_, here⟩
      | waiting _ _ _ reading _ _ _ =>
        rw [reading]
        exact here
      | calling _ _ _ reading _ _ _ =>
        rw [reading]
        exact here
    · have reader := undisturbed.reader other same
      have incoming := undisturbed.incoming other
      rw [session] at reader incoming
      rw [others other same]
      exact (fed.reads other).same reader incoming

/-- Every step but that of a client which sends something. -/
theorem rule (lib : JsonLib) (sent : Addr → Bytes) : ActRule lib (Fed sent) (fun _ => True)
    fun server act => Unused server ∧ ∀ addr bytes, act ≠ .send addr bytes where
  deliver server addr msg _ fed := fed.deliver addr msg
  start server addr uid _ _ _ fresh fed := fed.start addr uid fresh
  send server addr bytes knows _ _ _ := absurd rfl (knows.2 addr bytes)
  begin server addr _ _ _ unstarted fed := by
    apply fed.setReader addr
    have reads := fed.reads addr
    unfold Reading at reads
    rw [unstarted] at reads
    exact reads
  read server addr session _ _ done fed :=
    fed.modify addr (ChatServer.readDone_login done).1 ((fed.reads addr).readDone done)
  decoded server addr readMsg header _ _ reading decoded fed := by
    apply fed.setReader addr
    have reads := fed.reads addr
    unfold Reading at reads
    rw [reading] at reads
    obtain ⟨front, long, same, takes⟩ := reads
    exact ⟨front, long, same ▸ decoded, takes⟩
  quit server addr act _ _ quits fed := by
    apply (fed.stop addr).setReader addr
    have reads : Reading (sent addr) (handed server.log addr) ((server.stop addr).session addr) := (fed.stop addr).reads addr
    apply reads.quit _ rfl
    rw [stop_self]
    exact (congrArg Reader.isReading (cancelDeadline_aside _).reader).trans quits.reading
  answer server addr readMsg ledger op next oracle _ reading fed := by
    apply fed.setReader addr
    have reads := fed.reads addr
    unfold Reading at reads
    rw [reading] at reads
    exact reads
  post server tasks fed := ⟨fed.unused, fed.reads⟩
  handler server addr readMsg ledger rest ready act knows _ resumes fed := fed.handler knows.1 resumes
  beginWriter server addr _ _ _ _ fed := fed.aside addr (receive_aside _)
  write server addr out _ _ _ fed := fed.setWriter addr (.writing out)
  written server addr out _ _ _ _ fed := (fed.setWriter addr (.written out)).record trivial
  writeFailed server addr out _ _ _ fed := (fed.stop addr).setWriter addr .finished
  close server addr out _ _ _ _ fed := (fed.stop addr).setWriter addr .finished
  receive server addr out _ _ _ _ fed := fed.aside addr (receive_aside _)
  beginDeadline server addr _ _ _ _ fed := fed.setDeadline addr .armed
  expire server addr _ _ _ fed := fed.setDeadline addr .expired
  aborted server addr _ _ _ fed := fed.setDeadline addr .finished
  expired server addr _ _ _ _ fed := fed.setDeadline addr .finished
  timeout server addr _ _ _ _ fed := (fed.stop addr).setDeadline addr .finished

theorem fresh (name : String) : Fed (fun _ => []) (.fresh name) where
  unused _ _ := ⟨rfl, rfl⟩
  reads _ := .none

end Fed

/-- What a step of a server adds to what the client of this session has sent. -/
def sentBy (addr : Addr) : Act → Bytes
  | .send other bytes => if other = addr then bytes else []
  | _ => []

theorem step_fed {lib : JsonLib} {sent : Addr → Bytes} {server after : ChatServer} {act : Act} (unused : Unused server)
    (fed : Fed sent server) (taken : server.step lib act = some after) : Fed (fun addr => sent addr ++ sentBy addr act) after := by
  by_cases sends : ∃ addr bytes, act = .send addr bytes
  · obtain ⟨addr, bytes, same⟩ := sends
    subst same
    simp only [ChatServer.step] at taken
    split at taken <;> cases taken
    rename_i started _
    constructor
    · intro other fresh
      have different : addr ≠ other := by
        intro here
        subst here
        rw [ChatServer.modify_session_self] at fresh
        exact absurd (started.symm.trans fresh) Bool.noConfusion
      rw [ChatServer.modify_session_other _ _ (Ne.symm different)] at fresh
      rw [sentBy, if_neg different, List.append_nil]
      exact fed.unused other fresh
    · intro other
      by_cases here : addr = other
      · subst here
        rw [ChatServer.modify_session_self, sentBy, if_pos rfl]
        exact (fed.reads addr).more bytes
      · rw [ChatServer.modify_session_other _ _ (Ne.symm here), sentBy, if_neg here, List.append_nil]
        exact fed.reads other
  · have silent : ∀ addr bytes, act ≠ .send addr bytes := fun addr bytes same => sends ⟨addr, bytes, same⟩
    have nothing : ∀ addr, sent addr ++ sentBy addr act = sent addr := by
      intro addr
      cases act with
      | send other bytes => exact absurd rfl (silent other bytes)
      | _ => exact List.append_nil _
    rw [funext nothing]
    exact (Fed.rule lib sent).step ⟨unused, silent⟩ (fun _ _ _ => trivial) taken fed

end ChatProof
