import ChatProject.Library.Transition
import ChatProject.Server.Step

namespace ChatProof

open ChatModel

/-- A change of a session that has nothing to do with its connection, its login or its reader. -/
structure Aside (before after : Session) : Prop where
  incoming : after.incoming = before.incoming
  started : after.started = before.started
  stopped : after.stopped = before.stopped
  uid : after.uid = before.uid
  isAuthenticated : after.isAuthenticated = before.isAuthenticated
  reader : after.reader = before.reader

theorem cancelDeadline_aside (session : Session) : Aside session session.cancelDeadline := by
  unfold Session.cancelDeadline
  split <;> exact ⟨rfl, rfl, rfl, rfl, rfl, rfl⟩

theorem trySend_aside {msg : ChannelMessage} {session after : Session}
    (sent : session.trySend msg = some after) : Aside session after := by
  unfold Session.trySend at sent
  split at sent
  · cases sent
    exact ⟨rfl, rfl, rfl, rfl, rfl, rfl⟩
  · obtain ⟨channel, _, same⟩ := Option.map_eq_some_iff.mp sent
    subst same
    exact ⟨rfl, rfl, rfl, rfl, rfl, rfl⟩

theorem receive_aside (session : Session) : Aside session session.receive := by
  unfold Session.receive
  split <;> exact ⟨rfl, rfl, rfl, rfl, rfl, rfl⟩

/-- How a handler comes to run: for a frame that was just read, after the answer of a store, or
    after the answer of the peer. -/
inductive Resumes (lib : JsonLib) (server : ChatServer) (addr : Addr) :
    MsgNode → Ledger → Awaitable ChannelMessage → ChatServer → Prop
  | handed {readMsg : MsgNode} : server.blocked = none → (server.session addr).reader = .bodyRead readMsg →
      Resumes lib server addr readMsg [] (handleMessage lib readMsg) (server.record (.handed addr readMsg))
  | resumed {readMsg : MsgNode} {ledger : Ledger} {rest : Awaitable ChannelMessage} : server.blocked = none →
      (server.session addr).reader = .resuming readMsg ledger rest →
      Resumes lib server addr readMsg ledger rest server
  | returned {readMsg : MsgNode} {ledger : Ledger} {request : NotifyRequest}
      {next : Option Int32 → Awaitable ChannelMessage} (answer : Option Int32) : server.blocked = some addr →
      (server.session addr).reader = .calling readMsg ledger request next →
      Resumes lib server addr readMsg (⟨.notify request, answer⟩ :: ledger) (next answer)
        { server with blocked := none }

def Event.isPlain : Event → Prop
  | .enqueued _ _ | .dropped _ _ | .written _ _ => True
  | .handed _ _ | .replied _ _ _ _ => False

/-- Everything that a step of a server is made of, but for the answers of the stores, when `uid_` is
    found as `accepts` says and `known` holds of the server before the step. -/
structure OwnRule (lib : JsonLib) (inv : ChatServer → Prop) (accepts : Int64 → Prop := fun _ => True)
    (known : ChatServer → Prop := fun _ => True) : Prop where
  aside : ∀ server addr change, Aside (server.session addr) (change (server.session addr)) →
    inv server → inv (server.modify addr change)
  plain : ∀ server event, Event.isPlain event → inv server → inv (server.record event)
  start : ∀ server addr uid, known server → server.blocked = none → accepts uid → (server.session addr).started = false → inv server → inv (server.start addr uid)
  stop : ∀ server addr, known server → server.blocked = none → inv server → inv (server.stop addr)
  send : ∀ server addr bytes, known server → (server.session addr).started = true → (server.session addr).stopped = false →
    inv server → inv (server.modify addr fun session => { session with incoming := session.incoming ++ bytes })
  begin : ∀ server addr, known server → server.blocked = none → (server.session addr).started = true →
    (server.session addr).reader = .unstarted → inv server → inv (server.setReader addr .readingHeader)
  read : ∀ server addr session, known server → server.blocked = none → ChatServer.readDone (server.session addr) = some session →
    inv server → inv (server.modify addr fun _ => session)
  decoded : ∀ server addr readMsg header, known server → server.blocked = none →
    (server.session addr).reader = .headerRead readMsg → readMsg.decodeHeader = (true, header) → inv server → inv (server.setReader addr (.readingBody header))
  quit : ∀ server addr, known server → server.blocked = none → (server.session addr).reader.isReading → inv server →
    inv ((server.stop addr).setReader addr .finished)
  post : ∀ server tasks, inv server → inv { server with tasks }
  handler : ∀ server addr readMsg ledger rest ready, known server →
    Resumes lib server addr readMsg ledger rest ready → inv server → inv (ready.runHandler addr readMsg ledger rest)

/-- The same with those answers, whatever they are. -/
structure StepRule (lib : JsonLib) (inv : ChatServer → Prop) (accepts : Int64 → Prop := fun _ => True)
    (known : ChatServer → Prop := fun _ => True) : Prop extends OwnRule lib inv accepts known where
  answer : ∀ server addr readMsg ledger op next (answer : op.Res), known server →
    (server.session addr).reader = .waiting readMsg ledger op next → inv server →
    inv (server.setReader addr (.resuming readMsg (⟨op, answer⟩ :: ledger) (next answer)))

/-- How a reader ends outside of a handler: a read fails, or a header is refused. -/
inductive Quits (server : ChatServer) (addr : Addr) : Act → Prop
  | failed : ChatServer.canFail (server.session addr).reader = true → Quits server addr (.readFailed addr)
  | refused {readMsg : MsgNode} : (server.session addr).reader = .headerRead readMsg → readMsg.decodeHeader.1 = false →
      Quits server addr (.resumeReader addr)

theorem Quits.reading {server : ChatServer} {addr : Addr} {act : Act} (quits : Quits server addr act) :
    (server.session addr).reader.isReading = true := by
  cases quits with
  | failed fails => exact ChatServer.canFail_reading fails
  | refused reading _ =>
    rw [reading]
    rfl

/-- The steps in which a handler of this session has its turn. -/
inductive TakesTurn (server : ChatServer) (addr : Addr) : Act → Prop
  | resumed : TakesTurn server addr (.resumeReader addr)
  | returned (answer : Option Int32) : server.blocked = some addr → TakesTurn server addr (.returned answer)

/-- The same, with the writer and the deadline in full: each change of a session of its own. Here
    `known` may also speak of what is about to happen. -/
structure ActRule (lib : JsonLib) (inv : ChatServer → Prop) (accepts : Int64 → Prop := fun _ => True)
    (known : ChatServer → Act → Prop := fun _ _ => True) : Prop where
  deliver : ∀ server addr msg, addr ∈ server.participants → inv server → inv (server.deliver addr msg)
  start : ∀ server addr uid, known server (.accept addr uid) → server.blocked = none → accepts uid →
    (server.session addr).started = false → inv server → inv (server.start addr uid)
  send : ∀ server addr bytes, known server (.send addr bytes) → (server.session addr).started = true →
    (server.session addr).stopped = false → inv server →
    inv (server.modify addr fun session => { session with incoming := session.incoming ++ bytes })
  begin : ∀ server addr, known server (.startReader addr) → server.blocked = none →
    (server.session addr).started = true → (server.session addr).reader = .unstarted → inv server →
    inv (server.setReader addr .readingHeader)
  read : ∀ server addr session, known server (.readDone addr) → server.blocked = none →
    ChatServer.readDone (server.session addr) = some session → inv server → inv (server.modify addr fun _ => session)
  decoded : ∀ server addr readMsg header, known server (.resumeReader addr) → server.blocked = none →
    (server.session addr).reader = .headerRead readMsg → readMsg.decodeHeader = (true, header) → inv server →
    inv (server.setReader addr (.readingBody header))
  quit : ∀ server addr act, known server act → server.blocked = none → Quits server addr act →
    inv server → inv ((server.stop addr).setReader addr .finished)
  answer : ∀ server addr readMsg ledger op next oracle, known server (.answer addr oracle) →
    (server.session addr).reader = .waiting readMsg ledger op next → inv server →
    inv (server.setReader addr (.resuming readMsg (⟨op, oracle op⟩ :: ledger) (next (oracle op))))
  post : ∀ server tasks, inv server → inv { server with tasks }
  handler : ∀ server addr readMsg ledger rest ready act, known server act → TakesTurn server addr act →
    Resumes lib server addr readMsg ledger rest ready → inv server → inv (ready.runHandler addr readMsg ledger rest)
  beginWriter : ∀ server addr, known server (.startWriter addr) → server.blocked = none →
    (server.session addr).started = true → (server.session addr).writer = .unstarted → inv server →
    inv (server.modify addr Session.receive)
  write : ∀ server addr out, known server (.resumeWriter addr) → server.blocked = none →
    (server.session addr).writer = .received out → inv server → inv (server.setWriter addr (.writing out))
  written : ∀ server addr out, known server (.writeDone addr) → server.blocked = none →
    (server.session addr).stopped = false → (server.session addr).writer = .writing out → inv server →
    inv ((server.setWriter addr (.written out)).record (.written addr out))
  writeFailed : ∀ server addr out, known server (.writeFailed addr) → server.blocked = none →
    (server.session addr).writer = .writing out → inv server → inv ((server.stop addr).setWriter addr .finished)
  close : ∀ server addr out, known server (.resumeWriter addr) → server.blocked = none →
    (server.session addr).writer = .written out → out.closeAfterSend = true → inv server →
    inv ((server.stop addr).setWriter addr .finished)
  receive : ∀ server addr out, known server (.resumeWriter addr) → server.blocked = none →
    (server.session addr).writer = .written out → out.closeAfterSend = false → inv server →
    inv (server.modify addr Session.receive)
  beginDeadline : ∀ server addr, known server (.startDeadline addr) → server.blocked = none →
    (server.session addr).started = true → (server.session addr).loginDeadline = .unstarted → inv server →
    inv (server.setDeadline addr .armed)
  expire : ∀ server addr, known server (.expire addr) → server.blocked = none →
    (server.session addr).loginDeadline = .armed → inv server → inv (server.setDeadline addr .expired)
  aborted : ∀ server addr, known server (.resumeDeadline addr) → server.blocked = none →
    (server.session addr).loginDeadline = .aborted → inv server → inv (server.setDeadline addr .finished)
  expired : ∀ server addr, known server (.resumeDeadline addr) → server.blocked = none →
    (server.session addr).loginDeadline = .expired → (server.session addr).isAuthenticated = true → inv server →
    inv (server.setDeadline addr .finished)
  timeout : ∀ server addr, known server (.resumeDeadline addr) → server.blocked = none →
    (server.session addr).loginDeadline = .expired → (server.session addr).isAuthenticated = false → inv server →
    inv ((server.stop addr).setDeadline addr .finished)

namespace ActRule

variable {lib : JsonLib} {inv : ChatServer → Prop} {accepts : Int64 → Prop} {known : ChatServer → Act → Prop}
  (rule : ActRule lib inv accepts known) {server after : ChatServer}

include rule

theorem resumeReader {addr : Addr} (knows : known server (.resumeReader addr)) (idle : server.blocked = none)
    (taken : server.resumeReader lib addr = some after) (holds : inv server) : inv after := by
  unfold ChatServer.resumeReader at taken
  split at taken
  · rename_i readMsg reading
    split at taken <;> cases taken
    · rename_i header decoded
      exact rule.decoded _ _ _ _ knows idle reading decoded holds
    · rename_i refused
      have same : readMsg.decodeHeader.1 = false := congrArg Prod.fst refused
      exact rule.quit _ _ _ knows idle (.refused reading same) holds
  · rename_i readMsg reading
    cases taken
    exact rule.handler _ _ _ _ _ _ _ knows .resumed (.handed idle reading) holds
  · rename_i readMsg ledger rest reading
    cases taken
    exact rule.handler _ _ _ _ _ _ _ knows .resumed (.resumed idle reading) holds
  · cases taken

theorem resumeWriter {addr : Addr} (knows : known server (.resumeWriter addr)) (idle : server.blocked = none)
    (taken : server.resumeWriter addr = some after) (holds : inv server) : inv after := by
  unfold ChatServer.resumeWriter at taken
  split at taken
  · rename_i out received
    cases taken
    exact rule.write _ _ _ knows idle received holds
  · rename_i out written
    split at taken <;> cases taken
    · rename_i closes
      exact rule.close _ _ _ knows idle written closes holds
    · rename_i stays
      exact rule.receive _ _ _ knows idle written (Bool.not_eq_true _ ▸ stays) holds
  · cases taken

theorem resumeDeadline {addr : Addr} (knows : known server (.resumeDeadline addr)) (idle : server.blocked = none)
    (taken : server.resumeDeadline addr = some after) (holds : inv server) : inv after := by
  unfold ChatServer.resumeDeadline at taken
  split at taken
  · rename_i aborted
    cases taken
    exact rule.aborted _ _ knows idle aborted holds
  · rename_i expired
    split at taken <;> cases taken
    · rename_i authenticated
      exact rule.expired _ _ knows idle expired authenticated holds
    · rename_i stranger
      exact rule.timeout _ _ knows idle expired (Bool.not_eq_true _ ▸ stranger) holds
  · cases taken

theorem serveNotify (request : NotifyRequest) (holds : inv server) : inv (server.serveNotify request) := by
  unfold ChatServer.serveNotify
  dsimp only
  split
  · rename_i addr found
    exact rule.deliver _ _ _ (OrderedSet.first_mem found) holds
  · exact holds

theorem threadStep {act : Act} (knows : known server act) (idle : server.blocked = none)
    (allowed : ∀ addr uid, act = .accept addr uid → accepts uid) (taken : server.threadStep lib act = some after)
    (holds : inv server) : inv after := by
  cases act with
  | accept addr uid =>
    simp only [ChatServer.threadStep] at taken
    split at taken <;> cases taken
    rename_i fresh
    exact rule.start _ _ _ knows idle (allowed _ _ rfl) (by simpa using fresh) holds
  | startReader addr =>
    simp only [ChatServer.threadStep] at taken
    split at taken <;> cases taken
    rename_i started unstarted
    exact rule.begin _ _ knows idle started unstarted holds
  | readDone addr =>
    obtain ⟨session, done, same⟩ := Option.map_eq_some_iff.mp taken
    subst same
    exact rule.read _ _ _ knows idle done holds
  | readFailed addr =>
    simp only [ChatServer.threadStep] at taken
    split at taken <;> cases taken
    rename_i fails
    exact rule.quit _ _ _ knows idle (.failed fails) holds
  | resumeReader addr => exact rule.resumeReader knows idle taken holds
  | startWriter addr =>
    simp only [ChatServer.threadStep] at taken
    split at taken <;> cases taken
    rename_i started unstarted
    exact rule.beginWriter _ _ knows idle started unstarted holds
  | writeDone addr =>
    simp only [ChatServer.threadStep] at taken
    split at taken <;> cases taken
    rename_i out opened writing
    exact rule.written _ _ _ knows idle opened writing holds
  | writeFailed addr =>
    simp only [ChatServer.threadStep] at taken
    split at taken <;> cases taken
    rename_i out writing
    exact rule.writeFailed _ _ _ knows idle writing holds
  | resumeWriter addr => exact rule.resumeWriter knows idle taken holds
  | startDeadline addr =>
    simp only [ChatServer.threadStep] at taken
    split at taken <;> cases taken
    rename_i started unstarted
    exact rule.beginDeadline _ _ knows idle started unstarted holds
  | expire addr =>
    simp only [ChatServer.threadStep] at taken
    split at taken <;> cases taken
    rename_i armed
    exact rule.expire _ _ knows idle armed holds
  | resumeDeadline addr => exact rule.resumeDeadline knows idle taken holds
  | runTask =>
    simp only [ChatServer.threadStep] at taken
    split at taken <;> cases taken
    apply rule.serveNotify
    exact rule.post _ _ holds
  | send addr bytes => cases taken
  | answer addr oracle => cases taken
  | returned answer => cases taken
  | arrive request => cases taken

theorem step {act : Act} (knows : known server act)
    (allowed : ∀ addr uid, act = .accept addr uid → accepts uid)
    (taken : server.step lib act = some after) (holds : inv server) : inv after := by
  have thread : (if server.blocked = none then server.threadStep lib act else none) = some after →
      inv after := by
    intro taken
    split at taken
    · rename_i idle
      exact rule.threadStep knows idle allowed taken holds
    · cases taken
  cases act with
  | send addr bytes =>
    simp only [ChatServer.step] at taken
    split at taken <;> cases taken
    rename_i started opened
    exact rule.send _ _ _ knows started opened holds
  | answer addr oracle =>
    simp only [ChatServer.step] at taken
    split at taken <;> cases taken
    rename_i reading
    exact rule.answer _ _ _ _ _ _ _ knows reading holds
  | returned answer =>
    simp only [ChatServer.step] at taken
    split at taken
    · rename_i addr blocked
      split at taken <;> cases taken
      rename_i reading
      exact rule.handler _ _ _ _ _ _ _ knows (.returned answer blocked) (.returned answer blocked reading) holds
    · cases taken
  | arrive request =>
    cases taken
    exact rule.post _ _ holds
  | _ => exact thread taken

end ActRule

/-- What a single step from `start` brings about, next to an invariant: a step that leaves the log
    as it is has to be looked at for nothing else. -/
theorem ActRule.withLog {lib : JsonLib} {ground inv : ChatServer → Prop} {accepts : Int64 → Prop}
    {known : ChatServer → Prop} {start : ChatServer} (grounds : ActRule lib ground accepts fun server _ => known server)
    (silent : ∀ after, after.log = start.log → inv after)
    (written : ∀ server addr out, inv server → inv (server.record (.written addr out)))
    (deliver : ∀ server addr msg, ground server → inv server → inv (server.deliver addr msg))
    (post : ∀ server tasks, inv server → inv { server with tasks })
    (handler : ∀ addr readMsg ledger rest ready, known start → Resumes lib start addr readMsg ledger rest ready →
      ground start → inv start → inv (ready.runHandler addr readMsg ledger rest)) :
    ActRule lib (fun server => ground server ∧ inv server) accepts fun server _ => server = start ∧ known server := by
  have same : ∀ server after, server = start → after.log = server.log → inv after :=
    fun server after here log => silent after (here ▸ log)
  exact {
    deliver := fun server addr msg member holds =>
      ⟨grounds.deliver server addr msg member holds.1, deliver server addr msg holds.1 holds.2⟩
    start := fun server addr uid knows idle allowed fresh holds =>
      ⟨grounds.start server addr uid knows.2 idle allowed fresh holds.1, same server _ knows.1 rfl⟩
    send := fun server addr bytes knows started opened holds =>
      ⟨grounds.send server addr bytes knows.2 started opened holds.1, same server _ knows.1 rfl⟩
    begin := fun server addr knows idle started unstarted holds =>
      ⟨grounds.begin server addr knows.2 idle started unstarted holds.1, same server _ knows.1 rfl⟩
    read := fun server addr session knows idle done holds =>
      ⟨grounds.read server addr session knows.2 idle done holds.1, same server _ knows.1 rfl⟩
    decoded := fun server addr readMsg header knows idle reading decoded holds =>
      ⟨grounds.decoded server addr readMsg header knows.2 idle reading decoded holds.1, same server _ knows.1 rfl⟩
    quit := fun server addr act knows idle reading holds =>
      ⟨grounds.quit server addr act knows.2 idle reading holds.1, same server _ knows.1 rfl⟩
    answer := fun server addr readMsg ledger op next oracle knows reading holds =>
      ⟨grounds.answer server addr readMsg ledger op next oracle knows.2 reading holds.1, same server _ knows.1 rfl⟩
    post := fun server tasks holds => ⟨grounds.post server tasks holds.1, post server tasks holds.2⟩
    handler := fun server addr readMsg ledger rest ready act knows turn resumes holds =>
      ⟨grounds.handler server addr readMsg ledger rest ready act knows.2 turn resumes holds.1, by
        obtain ⟨here, knows⟩ := knows
        subst here
        exact handler addr readMsg ledger rest ready knows resumes holds.1 holds.2⟩
    beginWriter := fun server addr knows idle started unstarted holds =>
      ⟨grounds.beginWriter server addr knows.2 idle started unstarted holds.1, same server _ knows.1 rfl⟩
    write := fun server addr out knows idle received holds =>
      ⟨grounds.write server addr out knows.2 idle received holds.1, same server _ knows.1 rfl⟩
    written := fun server addr out knows idle opened writing holds =>
      ⟨grounds.written server addr out knows.2 idle opened writing holds.1,
        written _ addr out (same server (server.setWriter addr (.written out)) knows.1 rfl)⟩
    writeFailed := fun server addr out knows idle writing holds =>
      ⟨grounds.writeFailed server addr out knows.2 idle writing holds.1, same server _ knows.1 rfl⟩
    close := fun server addr out knows idle written closes holds =>
      ⟨grounds.close server addr out knows.2 idle written closes holds.1, same server _ knows.1 rfl⟩
    receive := fun server addr out knows idle written stays holds =>
      ⟨grounds.receive server addr out knows.2 idle written stays holds.1, same server _ knows.1 rfl⟩
    beginDeadline := fun server addr knows idle started unstarted holds =>
      ⟨grounds.beginDeadline server addr knows.2 idle started unstarted holds.1, same server _ knows.1 rfl⟩
    expire := fun server addr knows idle armed holds =>
      ⟨grounds.expire server addr knows.2 idle armed holds.1, same server _ knows.1 rfl⟩
    aborted := fun server addr knows idle aborted holds =>
      ⟨grounds.aborted server addr knows.2 idle aborted holds.1, same server _ knows.1 rfl⟩
    expired := fun server addr knows idle expired authenticated holds =>
      ⟨grounds.expired server addr knows.2 idle expired authenticated holds.1, same server _ knows.1 rfl⟩
    timeout := fun server addr knows idle expired stranger holds =>
      ⟨grounds.timeout server addr knows.2 idle expired stranger holds.1, same server _ knows.1 rfl⟩ }

namespace OwnRule

variable {lib : JsonLib} {inv : ChatServer → Prop} {accepts : Int64 → Prop} {known : ChatServer → Prop}
  (rule : OwnRule lib inv accepts known) {server after : ChatServer}

include rule

theorem deliver (addr : Addr) (msg : ChannelMessage) (holds : inv server) : inv (server.deliver addr msg) := by
  unfold ChatServer.deliver
  split
  · rename_i session sent
    have sentOff := rule.aside _ addr (fun _ => session) (trySend_aside sent) holds
    exact rule.plain _ (.enqueued addr msg) trivial sentOff
  · exact rule.plain _ (.dropped addr msg) trivial holds

theorem setWriter (addr : Addr) (writer : Writer) (holds : inv server) : inv (server.setWriter addr writer) :=
  rule.aside _ _ _ ⟨rfl, rfl, rfl, rfl, rfl, rfl⟩ holds

theorem setDeadline (addr : Addr) (deadline : Deadline) (holds : inv server) :
    inv (server.setDeadline addr deadline) :=
  rule.aside _ _ _ ⟨rfl, rfl, rfl, rfl, rfl, rfl⟩ holds

/-- Where the writer and the deadline do not matter, one field stands for all their steps. -/
theorem toActRule {knows : ChatServer → Act → Prop} (weaken : ∀ server act, knows server act → known server)
    (answer : ∀ server addr readMsg ledger op next oracle, knows server (.answer addr oracle) →
      (server.session addr).reader = .waiting readMsg ledger op next → inv server →
      inv (server.setReader addr (.resuming readMsg (⟨op, oracle op⟩ :: ledger) (next (oracle op))))) :
    ActRule lib inv accepts knows where
  deliver _ addr msg _ holds := rule.deliver addr msg holds
  start server addr uid knows := rule.start server addr uid (weaken _ _ knows)
  send server addr bytes knows := rule.send server addr bytes (weaken _ _ knows)
  begin server addr knows := rule.begin server addr (weaken _ _ knows)
  read server addr session knows := rule.read server addr session (weaken _ _ knows)
  decoded server addr readMsg header knows := rule.decoded server addr readMsg header (weaken _ _ knows)
  quit server addr _ knows idle quits := rule.quit server addr (weaken _ _ knows) idle quits.reading
  answer := answer
  post := rule.post
  handler server addr readMsg ledger rest ready _ knows _ :=
    rule.handler server addr readMsg ledger rest ready (weaken _ _ knows)
  beginWriter _ _ _ _ _ _ holds := rule.aside _ _ _ (receive_aside _) holds
  write _ addr out _ _ _ holds := rule.setWriter addr (.writing out) holds
  written _ addr out _ _ _ _ holds := rule.plain _ (.written addr out) trivial (rule.setWriter addr (.written out) holds)
  writeFailed _ addr _ knows idle _ holds := rule.setWriter addr .finished (rule.stop _ _ (weaken _ _ knows) idle holds)
  close _ addr _ knows idle _ _ holds := rule.setWriter addr .finished (rule.stop _ _ (weaken _ _ knows) idle holds)
  receive _ _ _ _ _ _ _ holds := rule.aside _ _ _ (receive_aside _) holds
  beginDeadline _ addr _ _ _ _ holds := rule.setDeadline addr .armed holds
  expire _ addr _ _ _ holds := rule.setDeadline addr .expired holds
  aborted _ addr _ _ _ holds := rule.setDeadline addr .finished holds
  expired _ addr _ _ _ _ holds := rule.setDeadline addr .finished holds
  timeout _ addr knows idle _ _ holds := rule.setDeadline addr .finished (rule.stop _ _ (weaken _ _ knows) idle holds)

/-- A step of the server that is not the answer of a store. -/
theorem step {act : Act} (knows : known server) (own : ∀ addr oracle, act ≠ .answer addr oracle)
    (allowed : ∀ addr uid, act = .accept addr uid → accepts uid) (taken : server.step lib act = some after)
    (holds : inv server) : inv after := by
  have silent : ActRule lib inv accepts fun server act => known server ∧ ∀ addr oracle, act ≠ .answer addr oracle := by
    apply rule.toActRule fun _ _ knows => knows.1
    intro server addr readMsg ledger op next oracle knows _ _
    exact absurd rfl (knows.2 addr oracle)
  exact silent.step ⟨knows, own⟩ allowed taken holds

end OwnRule

namespace StepRule

variable {lib : JsonLib} {inv : ChatServer → Prop} {accepts : Int64 → Prop} {known : ChatServer → Prop}
  (rule : StepRule lib inv accepts known) {server after : ChatServer}

include rule

theorem step {act : Act} (knows : known server) (allowed : ∀ addr uid, act = .accept addr uid → accepts uid)
    (taken : server.step lib act = some after) (holds : inv server) : inv after := by
  have full : ActRule lib inv accepts fun server _ => known server := by
    apply rule.toOwnRule.toActRule fun _ _ knows => knows
    exact fun server addr readMsg ledger op next oracle => rule.answer server addr readMsg ledger op next (oracle op)
  exact full.step knows allowed taken holds

theorem run (track : ∀ server act after, known server → server.step lib act = some after → known after)
    {acts : List Act} (allowed : ∀ addr uid, .accept addr uid ∈ acts → accepts uid)
    (taken : Transition.Run (ChatServer.step lib) server acts after) (knows : known server)
    (holds : inv server) : inv after := by
  induction taken with
  | nil _ => exact holds
  | cons first _ ih =>
    apply ih
    · intro addr uid member
      exact allowed addr uid (List.mem_cons_of_mem _ member)
    · exact track _ _ _ knows first
    · apply rule.step knows _ first holds
      intro addr uid same
      exact allowed addr uid (same ▸ List.mem_cons_self)

end StepRule

end ChatProof
