import ChatProject.Server.Handling

namespace ChatProof

open ChatModel

def Live (server : ChatServer) (addr : Addr) : Prop :=
  (server.session addr).started = true ∧ (server.session addr).stopped = false

def Registered (server : ChatServer) : Prop := ∀ addr, addr ∈ server.participants ↔ Live server addr

namespace Registered

variable {server after : ChatServer}

theorem same (registered : Registered server) (participants : after.participants = server.participants)
    (started : ∀ addr, (after.session addr).started = (server.session addr).started)
    (stopped : ∀ addr, (after.session addr).stopped = (server.session addr).stopped) : Registered after := by
  intro addr
  unfold Live
  rw [participants, started, stopped]
  exact registered addr

theorem modify (registered : Registered server) (addr : Addr) {change : Session → Session}
    (started : (change (server.session addr)).started = (server.session addr).started)
    (stopped : (change (server.session addr)).stopped = (server.session addr).stopped) :
    Registered (server.modify addr change) := by
  apply registered.same
  · rfl
  · intro other
    by_cases here : other = addr
    · subst here
      rw [ChatServer.modify_session_self, started]
    · rw [ChatServer.modify_session_other _ _ here]
  · intro other
    by_cases here : other = addr
    · subst here
      rw [ChatServer.modify_session_self, stopped]
    · rw [ChatServer.modify_session_other _ _ here]

theorem setReader (registered : Registered server) (addr : Addr) (reader : Reader) :
    Registered (server.setReader addr reader) := registered.modify addr rfl rfl

theorem calm {own : Addr} (registered : Registered server) (calm : Calm own server after) : Registered after :=
  registered.same calm.participants calm.started calm.stopped

theorem start (registered : Registered server) (addr : Addr) (uid : Int64) : Registered (server.start addr uid) := by
  intro other
  unfold Live
  have members : (server.start addr uid).participants = server.participants.insert addr := rfl
  rw [members, OrderedSet.mem_insert]
  by_cases here : other = addr
  · subst here
    have session : (server.start other uid).session other = { uid, started := true } := if_pos rfl
    rw [session]
    simp
  · have session : (server.start addr uid).session other = server.session other := if_neg here
    rw [session]
    have known := registered other
    unfold Live at known
    simp [here, known]

theorem stop (registered : Registered server) (addr : Addr) : Registered (server.stop addr) := by
  intro other
  unfold Live
  have members : (server.stop addr).participants = server.participants.erase addr := rfl
  rw [members, OrderedSet.mem_erase]
  by_cases here : other = addr
  · subst here
    have session : (server.stop other).session other =
        { (server.session other).cancelDeadline with stopped := true } := if_pos rfl
    rw [session]
    simp
  · have session : (server.stop addr).session other = server.session other := if_neg here
    rw [session]
    have known := registered other
    unfold Live at known
    simp [here, known]

theorem settle (registered : Registered server) (addr : Addr) (readMsg : MsgNode) (ledger : Ledger)
    (rest : Awaitable ChannelMessage) : Registered (ChatServer.settle addr readMsg (rest, server, ledger)) := by
  cases rest with
  | ret reply =>
    have recorded : Registered (server.record (.replied addr readMsg ledger reply)) := registered
    have delivered := recorded.calm (Calm.deliver addr addr reply)
    exact delivered.setReader addr .readingHeader
  | throw error => exact (registered.stop addr).setReader addr .finished
  | call op next =>
    cases op
    case notify request => exact registered.setReader addr (.calling readMsg ledger request next)
    all_goals exact registered.setReader addr (.waiting readMsg ledger _ next)

theorem runHandler (registered : Registered server) (addr : Addr) (readMsg : MsgNode) (ledger : Ledger)
    (rest : Awaitable ChannelMessage) : Registered (server.runHandler addr readMsg ledger rest) :=
  (registered.calm (advance_calm addr server ledger rest)).settle addr readMsg _ _

theorem rule (lib : JsonLib) : StepRule lib Registered where
  aside server addr change aside registered := registered.modify addr aside.started aside.stopped
  plain server event _ registered := registered
  start server addr uid _ _ _ _ registered := registered.start addr uid
  stop server addr _ _ registered := registered.stop addr
  send server addr bytes _ _ _ registered := registered.modify addr rfl rfl
  begin server addr _ _ _ _ registered := registered.modify addr rfl rfl
  read server addr session _ _ done registered := by
    have kept := ChatServer.readDone_login done
    exact registered.modify addr kept.1 kept.2.1
  decoded server addr readMsg header _ _ _ _ registered := registered.modify addr rfl rfl
  quit server addr _ _ _ registered := (registered.stop addr).modify addr rfl rfl
  answer server addr readMsg ledger op next answer _ _ registered := registered.modify addr rfl rfl
  post server tasks registered := registered
  handler server addr readMsg ledger rest ready _ resumes registered := by
    have ready : Registered ready := by
      cases resumes <;> exact registered
    exact ready.runHandler addr readMsg ledger rest

theorem fresh (name : String) : Registered (.fresh name) := by
  intro addr
  constructor
  · intro member
    exact (OrderedSet.not_mem_empty addr member).elim
  · intro live
    cases live.1

end Registered

theorem run_registered {lib : JsonLib} {name : String} {server : ChatServer} {acts : List Act}
    (run : Transition.Run (ChatServer.step lib) (.fresh name) acts server) : Registered server :=
  (Registered.rule lib).run (fun _ _ _ _ _ => trivial) (fun _ _ _ => trivial) run trivial (Registered.fresh name)

end ChatProof
