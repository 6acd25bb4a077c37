import ChatProject.Chat.Conduct
import ChatProject.Server.Handling

/-! What becomes of the messages that are delivered to a session. -/

namespace ChatProof

open ChatModel

/-! ## Accepted and written messages, the oldest first -/

def acceptedBy (addr : Addr) : Event → Option ChannelMessage
  | .enqueued other msg => if other = addr then some msg else none
  | _ => none

def writtenBy (addr : Addr) : Event → Option ChannelMessage
  | .written other msg => if other = addr then some msg else none
  | _ => none

def accepted (log : List Event) (addr : Addr) : List ChannelMessage := (log.filterMap (acceptedBy addr)).reverse

def written (log : List Event) (addr : Addr) : List ChannelMessage := (log.filterMap (writtenBy addr)).reverse

theorem accepted_other {addr : Addr} {event : Event} (silent : acceptedBy addr event = none) (log : List Event) :
    accepted (event :: log) addr = accepted log addr := by
  simp only [accepted, List.filterMap_cons, silent]

theorem written_other {addr : Addr} {event : Event} (silent : writtenBy addr event = none) (log : List Event) :
    written (event :: log) addr = written log addr := by
  simp only [written, List.filterMap_cons, silent]

theorem accepted_enqueued (addr : Addr) (msg : ChannelMessage) (log : List Event) :
    accepted (.enqueued addr msg :: log) addr = accepted log addr ++ [msg] := by
  simp [accepted, acceptedBy]

theorem written_written (addr : Addr) (msg : ChannelMessage) (log : List Event) :
    written (.written addr msg :: log) addr = written log addr ++ [msg] := by
  simp [written, writtenBy]

/-- What the writer has taken from the channel and not written yet. -/
def inHand : Writer → List ChannelMessage
  | .received out | .writing out => [out]
  | _ => []

/-- Nothing was written after a message that closes the connection. -/
def Silent : List Event → Prop
  | .written addr _ :: older => (∀ msg ∈ written older addr, msg.closeAfterSend = false) ∧ Silent older
  | _ :: older => Silent older
  | [] => True

/-! ## One session -/

/-- Where the accepted messages of a session are. -/
structure Flows (log : List Event) (addr : Addr) (session : Session) : Prop where
  unused : session.started = false → accepted log addr = [] ∧ written log addr = [] ∧ session.writer = .unstarted
  flow : ∃ held, accepted log addr = written log addr ++ held ++ session.channel.toList ∧
    (session.writer ≠ .finished → held = inHand session.writer)
  idle : session.writer = .receiving → session.channel.toList = []
  closing : (∃ msg ∈ written log addr, msg.closeAfterSend = true) →
    session.writer = .finished ∨ ∃ out, session.writer = .written out ∧ out.closeAfterSend = true

namespace Flows

variable {log : List Event} {addr : Addr} {session after : Session}

theorem same (flows : Flows log addr session) (started : after.started = session.started)
    (channel : after.channel = session.channel) (writer : after.writer = session.writer) : Flows log addr after := by
  refine ⟨?_, ?_, ?_, ?_⟩
  · rw [started, writer]
    exact flows.unused
  · rw [channel, writer]
    exact flows.flow
  · rw [channel, writer]
    exact flows.idle
  · rw [writer]
    exact flows.closing

theorem other (flows : Flows log addr session) {event : Event} (accepts : acceptedBy addr event = none)
    (writes : writtenBy addr event = none) : Flows (event :: log) addr session := by
  refine ⟨?_, ?_, flows.idle, ?_⟩
  · rw [accepted_other accepts, written_other writes]
    exact flows.unused
  · rw [accepted_other accepts, written_other writes]
    exact flows.flow
  · rw [written_other writes]
    exact flows.closing

theorem started (flows : Flows log addr session) (busy : session.writer ≠ .unstarted) : session.started = true := by
  cases used : session.started with
  | true => rfl
  | false => exact absurd (flows.unused used).2.2 busy

theorem start (flows : Flows log addr session) (fresh : session.started = false) (uid : Int64) :
    Flows log addr { uid, started := true } := by
  obtain ⟨nothing, silent, _⟩ := flows.unused fresh
  refine ⟨?_, ⟨[], ?_, fun _ => rfl⟩, nofun, ?_⟩
  · intro unstarted
    cases unstarted
  · rw [nothing, silent]
    rfl
  · rw [silent]
    rintro ⟨_, member, _⟩
    cases member

theorem trySend {msg : ChannelMessage} (flows : Flows log addr session) (started : session.started = true)
    (sent : session.trySend msg = some after) : Flows (.enqueued addr msg :: log) addr after := by
  have writes : writtenBy addr (.enqueued addr msg) = none := rfl
  obtain ⟨held, placed, inHands⟩ := flows.flow
  have used : after.started = true := (trySend_aside sent).started.trans started
  unfold Session.trySend at sent
  split at sent
  · rename_i receiving
    cases sent
    have busy : session.writer ≠ .finished := by
      rw [receiving]
      exact Writer.noConfusion
    refine ⟨?_, ⟨[msg], ?_, fun _ => rfl⟩, nofun, ?_⟩
    · intro unstarted
      rw [used] at unstarted
      cases unstarted
    · rw [accepted_enqueued, written_other writes, placed, inHands busy, flows.idle receiving, receiving]
      simp [inHand]
    · rw [written_other writes]
      intro closes
      rcases flows.closing closes with finished | ⟨out, writing, _⟩
      · exact absurd finished busy
      · rw [receiving] at writing
        cases writing
  · rename_i waiting
    obtain ⟨channel, room, same⟩ := Option.map_eq_some_iff.mp sent
    subst same
    rw [BoundedQueue.trySend_eq_some] at room
    refine ⟨?_, ⟨held, ?_, inHands⟩, ?_, ?_⟩
    · intro unstarted
      rw [used] at unstarted
      cases unstarted
    · rw [accepted_enqueued, written_other writes, placed, room]
      simp
    · intro receiving
      exact absurd receiving waiting
    · rw [written_other writes]
      exact flows.closing

/-- The writer takes the next message, or waits for one. -/
theorem receive (flows : Flows log addr session) (used : session.started = true)
    (ready : inHand session.writer = []) (working : session.writer ≠ .finished)
    (stays : ∀ out, session.writer = .written out → out.closeAfterSend = false) : Flows log addr session.receive := by
  obtain ⟨held, placed, inHands⟩ := flows.flow
  have nothing : held = [] := (inHands working).trans ready
  subst nothing
  have quiet : ¬ ∃ msg ∈ written log addr, msg.closeAfterSend = true := by
    intro closes
    rcases flows.closing closes with finished | ⟨out, writing, closing⟩
    · exact working finished
    · rw [stays out writing] at closing
      cases closing
  have unused : ∀ writer, session.started = false →
      accepted log addr = [] ∧ ChatProof.written log addr = [] ∧ writer = Writer.unstarted :=
    fun _ unstarted => absurd (used.symm.trans unstarted) Bool.noConfusion
  unfold Session.receive
  split
  · rename_i out channel taken
    rw [BoundedQueue.tryReceive_eq_some] at taken
    refine ⟨unused _, ⟨[out], ?_, fun _ => rfl⟩, nofun, fun closes => absurd closes quiet⟩
    rw [placed, taken]
    simp
  · rename_i empty
    rw [BoundedQueue.tryReceive_eq_none] at empty
    exact ⟨unused _, ⟨[], placed, fun _ => rfl⟩, fun _ => empty, fun closes => absurd closes quiet⟩

theorem write {out : ChannelMessage} (flows : Flows log addr session) (received : session.writer = .received out) :
    Flows log addr { session with writer := .writing out } := by
  obtain ⟨held, placed, inHands⟩ := flows.flow
  have busy : session.writer ≠ .finished := by
    rw [received]
    exact Writer.noConfusion
  have taken := inHands busy
  rw [received] at taken
  have used := flows.started (by rw [received]; exact Writer.noConfusion)
  refine ⟨fun unstarted => absurd (used.symm.trans unstarted) Bool.noConfusion,
    ⟨held, placed, fun _ => taken⟩, nofun, ?_⟩
  intro closes
  rcases flows.closing closes with finished | ⟨_, writing, _⟩
  · exact absurd finished busy
  · rw [received] at writing
    cases writing

theorem notClosing {out : ChannelMessage} (flows : Flows log addr session) (writing : session.writer = .writing out) :
    ∀ msg ∈ written log addr, msg.closeAfterSend = false := by
  intro msg member
  cases closes : msg.closeAfterSend with
  | false => rfl
  | true =>
    rcases flows.closing ⟨msg, member, closes⟩ with finished | ⟨_, other, _⟩
    · rw [writing] at finished
      cases finished
    · rw [writing] at other
      cases other

theorem written {out : ChannelMessage} (flows : Flows log addr session)
    (writing : session.writer = .writing out) :
    Flows (.written addr out :: log) addr { session with writer := .written out } := by
  have accepts : acceptedBy addr (.written addr out) = none := rfl
  obtain ⟨held, placed, inHands⟩ := flows.flow
  have busy : session.writer ≠ .finished := by
    rw [writing]
    exact Writer.noConfusion
  have taken : held = [out] := by
    have taken := inHands busy
    rw [writing] at taken
    exact taken
  refine ⟨?_, ⟨[], ?_, fun _ => rfl⟩, nofun, ?_⟩
  · have used := flows.started (by rw [writing]; exact Writer.noConfusion)
    exact fun unstarted => absurd (used.symm.trans unstarted) Bool.noConfusion
  · rw [accepted_other accepts, written_written, placed, taken]
    simp
  · rintro ⟨msg, member, closes⟩
    rw [written_written] at member
    rcases List.mem_append.mp member with member | member
    · rw [flows.notClosing writing msg member] at closes
      cases closes
    · cases List.mem_singleton.mp member
      exact .inr ⟨_, rfl, closes⟩

theorem finish (flows : Flows log addr session) (busy : session.writer ≠ .unstarted) (started : after.started = session.started)
    (channel : after.channel = session.channel) (finished : after.writer = .finished) : Flows log addr after := by
  obtain ⟨held, placed, _⟩ := flows.flow
  refine ⟨?_, ⟨held, ?_, fun busy => absurd finished busy⟩, ?_, fun _ => .inl finished⟩
  · rw [started, flows.started busy]
    exact nofun
  · rw [channel]
    exact placed
  · rw [finished]
    exact nofun

/-- The messages that wait are the last of the accepted ones. -/
theorem waiting (flows : Flows log addr session) : session.channel.toList <:+ accepted log addr := by
  obtain ⟨held, placed, _⟩ := flows.flow
  exact ⟨ChatProof.written log addr ++ held, placed.symm⟩

end Flows

/-! ## The server -/

/-- The target of a delivery has just been found in the registry. -/
def DeliversFound (told : Ledger) (op : Op) : Prop :=
  ∀ target msg, op = .deliver target msg → ∃ uid before, told = ⟨.getParticipant uid, some target⟩ :: before

/-- Then it is a session that has been started. -/
def Found (server : ChatServer) (told : Ledger) : Prop := ∀ uid target before,
  told = ⟨.getParticipant uid, some target⟩ :: before → (server.session target).started = true

structure Outgoing (server : ChatServer) : Prop where
  flows : ∀ addr, Flows server.log addr (server.session addr)
  joined : ∀ addr, addr ∈ server.participants → (server.session addr).started = true
  silent : Silent server.log

namespace Outgoing

variable {server after : ChatServer}

theorem modify (outgoing : Outgoing server) (addr : Addr) {change : Session → Session}
    (here : Flows server.log addr (change (server.session addr)))
    (started : (change (server.session addr)).started = (server.session addr).started) :
    Outgoing (server.modify addr change) := by
  refine ⟨?_, ?_, outgoing.silent⟩
  · intro other
    by_cases same : other = addr
    · subst same
      rw [ChatServer.modify_session_self]
      exact here
    · rw [ChatServer.modify_session_other _ _ same]
      exact outgoing.flows other
  · intro other member
    by_cases same : other = addr
    · subst same
      rw [ChatServer.modify_session_self, started]
      exact outgoing.joined other member
    · rw [ChatServer.modify_session_other _ _ same]
      exact outgoing.joined other member

theorem same (outgoing : Outgoing server) (addr : Addr) {change : Session → Session}
    (started : (change (server.session addr)).started = (server.session addr).started)
    (channel : (change (server.session addr)).channel = (server.session addr).channel)
    (writer : (change (server.session addr)).writer = (server.session addr).writer) :
    Outgoing (server.modify addr change) :=
  outgoing.modify addr ((outgoing.flows addr).same started channel writer) started

theorem setReader (outgoing : Outgoing server) (addr : Addr) (reader : Reader) :
    Outgoing (server.setReader addr reader) := outgoing.same addr rfl rfl rfl

theorem setDeadline (outgoing : Outgoing server) (addr : Addr) (deadline : Deadline) :
    Outgoing (server.setDeadline addr deadline) := outgoing.same addr rfl rfl rfl

theorem handed (outgoing : Outgoing server) (addr : Addr) (readMsg : MsgNode) :
    Outgoing (server.record (.handed addr readMsg)) :=
  ⟨fun other => (outgoing.flows other).other rfl rfl, outgoing.joined, outgoing.silent⟩

theorem replied (outgoing : Outgoing server) (addr : Addr) (readMsg : MsgNode) (told : Ledger) (reply : ChannelMessage) :
    Outgoing (server.record (.replied addr readMsg told reply)) :=
  ⟨fun other => (outgoing.flows other).other rfl rfl, outgoing.joined, outgoing.silent⟩

theorem cancelDeadline_flow (session : Session) : session.cancelDeadline.channel = session.channel ∧
    session.cancelDeadline.writer = session.writer := by
  unfold Session.cancelDeadline
  split <;> exact ⟨rfl, rfl⟩

theorem stop (outgoing : Outgoing server) (addr : Addr) : Outgoing (server.stop addr) := by
  have left : Outgoing (server.leave addr) := by
    refine ⟨outgoing.flows, ?_, outgoing.silent⟩
    intro other member
    exact outgoing.joined other (OrderedSet.mem_erase.mp member).1
  have kept := cancelDeadline_flow (server.session addr)
  exact left.same addr (cancelDeadline_aside (server.session addr)).started kept.1 kept.2

theorem start (outgoing : Outgoing server) (addr : Addr) (uid : Int64)
    (fresh : (server.session addr).started = false) : Outgoing (server.start addr uid) := by
  have self : (server.start addr uid).session addr = { uid, started := true } := if_pos rfl
  have rest : ∀ other, other ≠ addr → (server.start addr uid).session other = server.session other :=
    fun other different => if_neg different
  refine ⟨?_, ?_, outgoing.silent⟩
  · intro other
    by_cases same : other = addr
    · subst same
      rw [self]
      exact (outgoing.flows other).start fresh uid
    · rw [rest other same]
      exact outgoing.flows other
  · intro other member
    by_cases same : other = addr
    · subst same
      rw [self]
    · rw [rest other same]
      apply outgoing.joined
      have inserted : other ∈ server.participants.insert addr := member
      exact (OrderedSet.mem_insert.mp inserted).resolve_left same

theorem deliver (outgoing : Outgoing server) {addr : Addr} (started : (server.session addr).started = true)
    (msg : ChannelMessage) : Outgoing (server.deliver addr msg) := by
  unfold ChatServer.deliver
  cases sent : (server.session addr).trySend msg with
  | none =>
    refine ⟨?_, outgoing.joined, outgoing.silent⟩
    intro other
    exact (outgoing.flows other).other rfl rfl
  | some session =>
    have used : session.started = (server.session addr).started := (trySend_aside sent).started
    refine ⟨?_, ?_, outgoing.silent⟩
    · intro other
      by_cases same : other = addr
      · subst same
        have self : ((server.modify other fun _ => session).record (.enqueued other msg)).session other = session :=
          if_pos rfl
        rw [self]
        exact (outgoing.flows other).trySend started sent
      · have kept : ((server.modify addr fun _ => session).record (.enqueued addr msg)).session other =
            server.session other := if_neg same
        rw [kept]
        apply (outgoing.flows other).other
        · exact if_neg (Ne.symm same)
        · rfl
    · intro other member
      by_cases same : other = addr
      · subst same
        have self : ((server.modify other fun _ => session).record (.enqueued other msg)).session other = session :=
          if_pos rfl
        rw [self]
        exact used.trans started
      · have kept : ((server.modify addr fun _ => session).record (.enqueued addr msg)).session other =
            server.session other := if_neg same
        rw [kept]
        exact outgoing.joined other member

theorem written {addr : Addr} {out : ChannelMessage} (outgoing : Outgoing server) (writing : (server.session addr).writer = .writing out) :
    Outgoing ((server.setWriter addr (.written out)).record (.written addr out)) := by
  refine ⟨?_, ?_, ?_⟩
  · intro other
    by_cases same : other = addr
    · subst same
      have self : ((server.setWriter other (.written out)).record (.written other out)).session other =
          { server.session other with writer := .written out } := if_pos rfl
      rw [self]
      exact (outgoing.flows other).written writing
    · have kept : ((server.setWriter addr (.written out)).record (.written addr out)).session other =
          server.session other := if_neg same
      rw [kept]
      apply (outgoing.flows other).other rfl
      exact if_neg (Ne.symm same)
  · intro other member
    by_cases same : other = addr
    · subst same
      have self : ((server.setWriter other (.written out)).record (.written other out)).session other =
          { server.session other with writer := .written out } := if_pos rfl
      rw [self]
      exact outgoing.joined other member
    · have kept : ((server.setWriter addr (.written out)).record (.written addr out)).session other =
          server.session other := if_neg same
      rw [kept]
      exact outgoing.joined other member
  · exact ⟨(outgoing.flows addr).notClosing writing, outgoing.silent⟩

theorem finish (outgoing : Outgoing server) {addr : Addr} (busy : (server.session addr).writer ≠ .unstarted) :
    Outgoing ((server.stop addr).setWriter addr .finished) := by
  have stopped := outgoing.stop addr
  have kept : ((server.stop addr).session addr).writer = (server.session addr).writer := by
    rw [stop_self]
    exact (cancelDeadline_flow (server.session addr)).2
  apply stopped.modify addr _ rfl
  exact (stopped.flows addr).finish (by rw [kept]; exact busy) rfl rfl rfl

theorem fresh (name : String) : Outgoing (.fresh name) where
  flows addr := ⟨fun _ => ⟨rfl, rfl, rfl⟩, ⟨[], rfl, fun _ => rfl⟩, nofun, fun closes => by
    obtain ⟨_, member, _⟩ := closes
    cases member⟩
  joined addr member := (OrderedSet.not_mem_empty addr member).elim
  silent := trivial

theorem execLocal {own : Addr} {op : Op} {told : Ledger} {answer : op.Res} (delivers : DeliversFound told op)
    (answered : ChatServer.execLocal own op server = some (answer, after)) (outgoing : Outgoing server)
    (found : Found server told) : Outgoing after ∧ Found after (⟨op, answer⟩ :: told) := by
  have forgets : ∀ server, (∀ uid, op ≠ .getParticipant uid) → Found server (⟨op, answer⟩ :: told) := by
    intro server other uid target before same
    cases same
    exact absurd rfl (other uid)
  cases op <;> simp only [ChatServer.execLocal, Option.some.injEq, Prod.mk.injEq, reduceCtorEq] at answered
  case setUid uid =>
    refine ⟨?_, forgets _ fun _ => Op.noConfusion⟩
    rw [← answered.2]
    exact outgoing.same own rfl rfl rfl
  case markAuthenticated =>
    refine ⟨?_, forgets _ fun _ => Op.noConfusion⟩
    rw [← answered.2]
    have kept := cancelDeadline_flow (server.session own)
    exact outgoing.same own (cancelDeadline_aside (server.session own)).started kept.1 kept.2
  case deliver target msg =>
    refine ⟨?_, forgets _ fun _ => Op.noConfusion⟩
    rw [← answered.2]
    obtain ⟨uid, before, same⟩ := delivers target msg rfl
    exact outgoing.deliver (found uid target before same) msg
  case getParticipant uid =>
    obtain ⟨looked, same⟩ := answered
    subst same
    refine ⟨outgoing, ?_⟩
    intro other target before entry
    cases entry
    exact outgoing.joined target (OrderedSet.first_mem looked)
  all_goals
    refine ⟨?_, forgets _ fun _ => Op.noConfusion⟩
    rw [← answered.2]
    exact outgoing

end Outgoing

/-! ## Handlers deliver to registered sessions -/

theorem asked_deliversFound {lib : JsonLib} {readMsg : MsgNode} {told : Ledger} {op : Op}
    (asked : Asked lib readMsg told op) : DeliversFound told op := by
  intro target msg same
  subst same
  have found : ∀ {α : Type} {spec : Notifying α}, (∀ request op, spec.statement request = some op → isPush op = false) →
      spec.Questions told (.deliver target msg) →
      ∃ uid early, told = ⟨.getParticipant uid, some target⟩ :: early := by
    intro α spec plain questions
    cases questions with
    | prepare asks =>
      cases asks with
      | statement _ same => exact absurd (plain _ _ same) nofun
    | deliver _ same => exact ⟨_, _, same⟩
  cases asked with
  | login _ asks => cases asks
  | search _ _ _ asks => cases asks
  | addFriend _ _ questions =>
    apply found _ questions
    intro request op same
    cases same
    rfl
  | authFriend _ _ questions =>
    apply found _ questions
    intro request op same
    cases same
    rfl
  | textChat _ _ questions =>
    apply found _ questions
    intro request op same
    cases same

theorem handleMessage_deliversFound (lib : JsonLib) (msg : MsgNode) :
    (handleMessage lib msg).Guided DeliversFound (fun _ _ => True) [] := by
  have keeps : ∀ told op (answer : op.Res), (Asked lib msg told op ∧ NoPush told) → True → True := fun _ _ _ _ known => known
  exact (handleMessage_asked lib msg).imp (fun told op asks _ => asked_deliversFound asks.1)
    (fun told op answer asks known => keeps told op answer asks known) (fun _ _ _ _ => trivial) trivial

namespace Outgoing

variable {server : ChatServer}

theorem runHandler (outgoing : Outgoing server) {addr : Addr} (used : (server.session addr).started = true)
    {told : Ledger} {rest : Awaitable ChannelMessage} (guided : rest.Guided DeliversFound (fun _ _ => True) told)
    (found : Found server told) (readMsg : MsgNode) : Outgoing (server.runHandler addr readMsg told rest) := by
  have keeps : ∀ op (server : ChatServer) told answer after, DeliversFound told op →
      ChatServer.execLocal addr op server = some (answer, after) → (Outgoing server ∧ Found server told) →
      Outgoing after ∧ Found after (⟨op, answer⟩ :: told) :=
    fun _ _ _ _ _ delivers answered before => before.1.execLocal delivers answered before.2
  have ran := (advance_guided keeps guided ⟨outgoing, found⟩).1.1
  have calm := advance_calm addr server told rest
  unfold ChatServer.runHandler
  generalize rest.advance (ChatServer.execRecorded addr) (server, told) = stopped at ran calm
  obtain ⟨left, reached, ledger⟩ := stopped
  have used : (reached.session addr).started = true := (calm.started addr).trans used
  cases left with
  | ret reply =>
    have sent := (ran.replied addr readMsg ledger reply).deliver used reply
    exact sent.setReader addr .readingHeader
  | throw error => exact (ran.stop addr).setReader addr .finished
  | call op next =>
    cases op
    case notify request =>
      have called := ran.setReader addr (.calling readMsg ledger request next)
      exact ⟨called.flows, called.joined, called.silent⟩
    all_goals exact ran.setReader addr (.waiting readMsg ledger _ next)

theorem resumes_found {lib : JsonLib} {addr : Addr} {readMsg : MsgNode} {ledger : Ledger}
    {rest : Awaitable ChannelMessage} {ready : ChatServer} (traced : Traced lib server)
    (resumes : Resumes lib server addr readMsg ledger rest ready) : Found ready ledger :=
  fun uid target before same => absurd same (traced.begins resumes uid (some target) before)

theorem rule (lib : JsonLib) : ActRule lib Outgoing (fun _ => True) fun server _ => Traced lib server ∧ Unused server where
  deliver server addr msg member outgoing := outgoing.deliver (outgoing.joined addr member) msg
  start server addr uid _ _ _ fresh outgoing := outgoing.start addr uid fresh
  send server addr bytes _ _ _ outgoing := outgoing.same addr rfl rfl rfl
  begin server addr _ _ _ _ outgoing := outgoing.setReader addr .readingHeader
  read server addr session _ _ done outgoing := by
    have started := (ChatServer.readDone_login done).1
    have rest : session.channel = (server.session addr).channel ∧ session.writer = (server.session addr).writer := by
      unfold ChatServer.readDone at done
      split at done
      · split at done <;> cases done
        exact ⟨rfl, rfl⟩
      · dsimp only at done
        split at done <;> cases done
        exact ⟨rfl, rfl⟩
      · cases done
    exact outgoing.same addr started rest.1 rest.2
  decoded server addr readMsg header _ _ _ _ outgoing := outgoing.setReader addr (.readingBody header)
  quit server addr _ _ _ _ outgoing := (outgoing.stop addr).setReader addr .finished
  answer server addr readMsg ledger op next oracle _ _ outgoing := outgoing.setReader addr _
  post server tasks outgoing := ⟨outgoing.flows, outgoing.joined, outgoing.silent⟩
  handler server addr readMsg ledger rest ready _ knows _ resumes outgoing := by
    have guided := (knows.1.resumes resumes).guided (handleMessage_deliversFound lib readMsg)
    have used := knows.2.resumes resumes
    have found := resumes_found knows.1 resumes
    have ready : Outgoing ready := by
      cases resumes with
      | handed idle reading => exact outgoing.handed addr readMsg
      | resumed idle reading => exact outgoing
      | returned answer blocked reading =>
        exact ⟨outgoing.flows, outgoing.joined, outgoing.silent⟩
    exact ready.runHandler used guided found readMsg
  beginWriter server addr _ _ started unstarted outgoing := by
    have kept := receive_aside (server.session addr)
    apply outgoing.modify addr _ kept.started
    apply (outgoing.flows addr).receive started
    · rw [unstarted]
      rfl
    · rw [unstarted]
      exact Writer.noConfusion
    · intro other same
      rw [unstarted] at same
      cases same
  write server addr out _ _ received outgoing := outgoing.modify addr ((outgoing.flows addr).write received) rfl
  written server addr out _ _ _ writing outgoing := outgoing.written writing
  writeFailed server addr out _ _ writing outgoing := by
    apply outgoing.finish
    rw [writing]
    exact Writer.noConfusion
  close server addr out _ _ written _ outgoing := by
    apply outgoing.finish
    rw [written]
    exact Writer.noConfusion
  receive server addr out _ _ written stays outgoing := by
    have kept := receive_aside (server.session addr)
    apply outgoing.modify addr _ kept.started
    have busy : (server.session addr).writer ≠ .unstarted := by
      rw [written]
      exact Writer.noConfusion
    apply (outgoing.flows addr).receive ((outgoing.flows addr).started busy)
    · rw [written]
      rfl
    · rw [written]
      exact Writer.noConfusion
    · intro other same
      rw [written] at same
      cases same
      exact stays
  beginDeadline server addr _ _ _ _ outgoing := outgoing.setDeadline addr .armed
  expire server addr _ _ _ outgoing := outgoing.setDeadline addr .expired
  aborted server addr _ _ _ outgoing := outgoing.setDeadline addr .finished
  expired server addr _ _ _ _ outgoing := outgoing.setDeadline addr .finished
  timeout server addr _ _ _ _ outgoing := (outgoing.stop addr).setDeadline addr .finished

end Outgoing

theorem run_outgoing {lib : JsonLib} {name : String} {server : ChatServer} {acts : List Act}
    (run : Transition.Run (ChatServer.step lib) (.fresh name) acts server) :
    (Traced lib server ∧ Unused server) ∧ Outgoing server := by
  have keeps : ∀ server act after, (Traced lib server ∧ Unused server) ∧ Outgoing server →
      server.step lib act = some after → (Traced lib after ∧ Unused after) ∧ Outgoing after := by
    intro server act after holds taken
    obtain ⟨knows, outgoing⟩ := holds
    refine ⟨⟨step_traced server act after knows.1 taken, step_unused server act after knows.2 taken⟩, ?_⟩
    exact (Outgoing.rule lib).step knows (fun _ _ _ => trivial) taken outgoing
  exact run.invariant keeps ⟨⟨.fresh lib name, fresh_unused name⟩, .fresh name⟩

/-! ## Refused messages -/

def isDropped : Event → Bool
  | .dropped _ _ => true
  | _ => false

/-- Whoever was refused a message since the log was `base` has a full channel, and of messages
    accepted before. -/
def Refuses (base : List Event) (server : ChatServer) : Prop := ∀ addr msg newer older,
  server.log = newer ++ .dropped addr msg :: older → base <:+ older →
  (server.session addr).channel.toList.length = 64 ∧ (server.session addr).channel.toList <:+ accepted older addr

theorem refuses_of_calm {base events : List Event} {server : ChatServer} (log : server.log = events ++ base)
    (calm : ∀ event ∈ events, isDropped event = false) : Refuses base server := by
  rintro addr msg newer _ same ⟨between, rfl⟩
  have split : events ++ base = (newer ++ .dropped addr msg :: between) ++ base := by
    rw [← log, same, List.append_assoc]
    rfl
  have member : Event.dropped addr msg ∈ events := by
    rw [List.append_cancel_right split]
    exact List.mem_append_right newer List.mem_cons_self
  have dropped := calm _ member
  cases dropped

namespace Refuses

variable {base : List Event} {server after : ChatServer}

theorem same (refuses : Refuses base server) (log : after.log = server.log)
    (channel : ∀ addr, (after.session addr).channel = (server.session addr).channel) : Refuses base after := by
  intro addr msg newer older entry older_than
  rw [channel]
  rw [log] at entry
  exact refuses addr msg newer older entry older_than

theorem modify (refuses : Refuses base server) (addr : Addr) {change : Session → Session}
    (channel : (change (server.session addr)).channel = (server.session addr).channel) :
    Refuses base (server.modify addr change) := by
  apply refuses.same (server.modify_log addr change)
  intro other
  by_cases same : other = addr
  · subst same
    rw [ChatServer.modify_session_self]
    exact channel
  · rw [ChatServer.modify_session_other _ _ same]

theorem record (refuses : Refuses base server) {event : Event} (calm : isDropped event = false) :
    Refuses base (server.record event) := by
  intro addr msg newer older entry after
  cases newer with
  | nil =>
    cases entry
    cases calm
  | cons first newer =>
    simp only [ChatServer.record_log, List.cons_append, List.cons.injEq] at entry
    exact refuses addr msg newer older entry.2 after

theorem stop (refuses : Refuses base server) (addr : Addr) : Refuses base (server.stop addr) := by
  have left : Refuses base (server.leave addr) := refuses
  exact left.modify addr (Outgoing.cancelDeadline_flow (server.session addr)).1

theorem trySend_room {log : List Event} {addr : Addr} {msg : ChannelMessage} {session sent : Session}
    (flows : Flows log addr session) (accepted : session.trySend msg = some sent) :
    session.channel.toList.length ≠ 64 := by
  intro full
  unfold Session.trySend at accepted
  split at accepted
  · rename_i receiving
    rw [flows.idle receiving] at full
    cases full
  · rw [BoundedQueue.trySend_eq_none.mpr full] at accepted
    cases accepted

theorem deliver (refuses : Refuses base server) (outgoing : Outgoing server) (addr : Addr) (msg : ChannelMessage) :
    Refuses base (server.deliver addr msg) := by
  unfold ChatServer.deliver
  cases sent : (server.session addr).trySend msg with
  | none =>
    have full : (server.session addr).channel.toList.length = 64 := by
      unfold Session.trySend at sent
      split at sent
      · cases sent
      · exact BoundedQueue.trySend_eq_none.mp (Option.map_eq_none_iff.mp sent)
    intro other refused newer older entry older_than
    cases newer with
    | nil =>
      cases entry
      exact ⟨full, (outgoing.flows addr).waiting⟩
    | cons first newer =>
      simp only [ChatServer.record_log, List.cons_append, List.cons.injEq] at entry
      exact refuses other refused newer older entry.2 older_than
  | some session =>
    intro other refused newer older entry older_than
    cases newer with
    | nil => cases entry
    | cons first newer =>
      simp only [ChatServer.record_log, ChatServer.modify_log, List.cons_append, List.cons.injEq] at entry
      have before := refuses other refused newer older entry.2 older_than
      -- there was room for this message, so it is another session that had none
      have different : other ≠ addr := by
        intro same
        rw [same] at before
        exact trySend_room (outgoing.flows addr) sent before.1
      have kept : ((server.modify addr fun _ => session).record (.enqueued addr msg)).session other =
          server.session other := if_neg different
      rw [kept]
      exact before

theorem execLocal {own : Addr} {op : Op} {answer : op.Res} (refuses : Refuses base server) (outgoing : Outgoing server)
    (answered : ChatServer.execLocal own op server = some (answer, after)) : Refuses base after := by
  cases op <;> simp only [ChatServer.execLocal, Option.some.injEq, Prod.mk.injEq, reduceCtorEq] at answered
  case setUid uid =>
    rw [← answered.2]
    exact refuses.modify own rfl
  case markAuthenticated =>
    rw [← answered.2]
    exact refuses.modify own (Outgoing.cancelDeadline_flow (server.session own)).1
  case deliver target msg =>
    rw [← answered.2]
    exact refuses.deliver outgoing target msg
  all_goals
    rw [← answered.2]
    exact refuses

theorem runHandler (refuses : Refuses base server) (outgoing : Outgoing server) {addr : Addr} {told : Ledger}
    {rest : Awaitable ChannelMessage} (guided : rest.Guided DeliversFound (fun _ _ => True) told)
    (found : Found server told) (readMsg : MsgNode) : Refuses base (server.runHandler addr readMsg told rest) := by
  have keeps : ∀ op (server : ChatServer) told answer after, DeliversFound told op →
      ChatServer.execLocal addr op server = some (answer, after) →
      ((Outgoing server ∧ Found server told) ∧ Refuses base server) →
      (Outgoing after ∧ Found after (⟨op, answer⟩ :: told)) ∧ Refuses base after :=
    fun _ _ _ _ _ delivers answered before =>
      ⟨before.1.1.execLocal delivers answered before.1.2, before.2.execLocal before.1.1 answered⟩
  have ran := (advance_guided keeps guided ⟨⟨outgoing, found⟩, refuses⟩).1
  unfold ChatServer.runHandler
  generalize rest.advance (ChatServer.execRecorded addr) (server, told) = stopped at ran
  obtain ⟨left, reached, ledger⟩ := stopped
  have queues := ran.1.1
  have refuses := ran.2
  cases left with
  | ret reply =>
    have replied : Refuses base (reached.record (.replied addr readMsg ledger reply)) := refuses.record rfl
    have delivered := replied.deliver (queues.replied addr readMsg ledger reply) addr reply
    exact delivered.modify addr rfl
  | throw error => exact (refuses.stop addr).modify addr rfl
  | call op next =>
    cases op
    case notify request =>
      have called : Refuses base (reached.setReader addr (.calling readMsg ledger request next)) := refuses.modify addr rfl
      exact called.same rfl fun _ => rfl
    all_goals exact refuses.modify addr rfl

/-- Only the handlers and the tasks deliver, so nobody is refused anything in another step. -/
theorem rule (lib : JsonLib) (start : ChatServer) : ActRule lib (fun server => Outgoing server ∧ Refuses start.log server)
    (fun _ => True) fun server _ => server = start ∧ Traced lib server ∧ Unused server := by
  apply (Outgoing.rule lib).withLog
  · intro after log
    have nothing : after.log = [] ++ start.log := log
    exact refuses_of_calm nothing nofun
  · intro server addr out refuses
    exact refuses.record rfl
  · intro server addr msg outgoing refuses
    exact refuses.deliver outgoing addr msg
  · intro server tasks refuses
    exact refuses
  · intro addr readMsg ledger rest ready knows resumes outgoing refuses
    have guided := (knows.1.resumes resumes).guided (handleMessage_deliversFound lib readMsg)
    have found := Outgoing.resumes_found knows.1 resumes
    cases resumes with
    | handed idle reading =>
      have handed : Refuses start.log (start.record (.handed addr readMsg)) := refuses.record rfl
      exact handed.runHandler (outgoing.handed addr readMsg) guided found readMsg
    | resumed idle reading => exact refuses.runHandler outgoing guided found readMsg
    | returned answer blocked reading =>
      have freed : Outgoing { start with blocked := none } := ⟨outgoing.flows, outgoing.joined, outgoing.silent⟩
      have same : Refuses start.log { start with blocked := none } := refuses
      exact same.runHandler freed guided found readMsg

end Refuses

theorem Silent.older {addr : Addr} {out : ChannelMessage} {newer older : List Event}
    (silent : Silent (newer ++ .written addr out :: older)) : ∀ msg ∈ written older addr, msg.closeAfterSend = false := by
  induction newer with
  | nil => exact silent.1
  | cons event newer ih =>
    apply ih
    cases event with
    | written other msg => exact silent.2
    | handed other readMsg => exact silent
    | replied other readMsg ledger reply => exact silent
    | enqueued other msg => exact silent
    | dropped other msg => exact silent

theorem outgoing_queue (lib : JsonLib) (name : String) (acts : List Act) (server : ChatServer)
    (run : Transition.Run (ChatServer.step lib) (.fresh name) acts server) (addr : Addr) :
    written server.log addr <+: accepted server.log addr ∧
    (∀ act after msg newer older, server.step lib act = some after →
      after.log = newer ++ .dropped addr msg :: older → server.log <:+ older →
      (after.session addr).channel.toList.length = 64 ∧ (after.session addr).channel.toList <:+ accepted older addr) ∧
    ∀ out newer older, server.log = newer ++ .written addr out :: older →
      ∀ msg ∈ written older addr, msg.closeAfterSend = false := by
  obtain ⟨knows, outgoing⟩ := run_outgoing run
  refine ⟨?_, ?_, ?_⟩
  · obtain ⟨held, placed, _⟩ := (outgoing.flows addr).flow
    rw [placed, List.append_assoc]
    exact List.prefix_append _ _
  · intro act after msg newer older taken entry
    have nothing : server.log = [] ++ server.log := rfl
    have before : Refuses server.log server := refuses_of_calm nothing nofun
    have refuses := (Refuses.rule lib server).step ⟨rfl, knows⟩ (fun _ _ _ => trivial) taken ⟨outgoing, before⟩
    exact refuses.2 addr msg newer older entry
  · intro out newer older entry
    have silent := outgoing.silent
    rw [entry] at silent
    exact silent.older

/-- Nobody logs in, and the peer's pushes for the uid that the session was constructed with pile up. -/
def crowd : Nat → List Act
  | 0 => [.arrive (.authFriend ⟨8, 7⟩)]
  | more + 1 => .arrive (.authFriend ⟨8, 7⟩) :: .runTask :: crowd more

theorem serveNotify_full {server : ChatServer} {request : NotifyRequest} {addr : Addr}
    (registered : server.getParticipant (notifySession request).1 = some addr)
    (full : (server.session addr).trySend { msg := (notifySession request).2 } = none) :
    server.serveNotify request = server.record (.dropped addr { msg := (notifySession request).2 }) := by
  unfold ChatServer.serveNotify
  simp only [registered, ChatServer.deliver, full]

theorem outgoing_queue_full : ∃ (server after : ChatServer) (msg : ChannelMessage),
    Transition.Run (ChatServer.step ⟨fun _ => none, fun _ => none⟩) (.fresh "chat_server1") (.accept 1 7 :: crowd 64) server ∧
    after.log = .dropped 1 msg :: server.log ∧ (after.session 1).channel.toList.length = 64 := by
  have possible : ((Transition.runs (ChatServer.step ⟨fun _ => none, fun _ => none⟩) (.fresh "chat_server1")
      (.accept 1 7 :: crowd 64)).any fun server => decide (server.blocked = none ∧
        server.tasks = [.authFriend ⟨8, 7⟩] ∧ server.getParticipant 7 = some 1 ∧
        ((server.session 1).trySend { msg := (notifySession (.authFriend ⟨8, 7⟩)).2 }).isNone = true)) = true := by
    decide +kernel
  obtain ⟨server, reached, found⟩ := (Option.any_eq_true _ _).mp possible
  obtain ⟨idle, tasks, registered, full⟩ := of_decide_eq_true found
  have run := Transition.run_iff_runs.mpr reached
  have served : { server with tasks := [] }.serveNotify (.authFriend ⟨8, 7⟩) =
      { server with tasks := [] }.record (.dropped 1 { msg := (notifySession (.authFriend ⟨8, 7⟩)).2 }) :=
    serveNotify_full registered (Option.isNone_iff_eq_none.mp full)
  have taken : server.step ⟨fun _ => none, fun _ => none⟩ .runTask =
      some ({ server with tasks := [] }.record (.dropped 1 { msg := (notifySession (.authFriend ⟨8, 7⟩)).2 })) := by
    rw [← served]
    simp only [ChatServer.step, ChatServer.threadStep, if_pos idle, tasks]
  have refused := (outgoing_queue _ _ _ server run 1).2.1 .runTask _ _ [] server.log taken rfl (List.suffix_refl _)
  exact ⟨server, _, { msg := (notifySession (.authFriend ⟨8, 7⟩)).2 }, run, rfl, refused.1⟩

end ChatProof
