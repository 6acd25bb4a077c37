import ChatProject.Chat.Counting
import ChatProject.Server.Closing
import ChatProject.Server.Registry

/-! The figure of a server and the sessions that are logged in, from one step to the next. -/

namespace ChatProof

open ChatModel

/-! ## The order of a login, on whole ledgers -/

section Ledgers

variable {lib : JsonLib} {readMsg : MsgNode} {told later : Ledger} {rest : Awaitable ChannelMessage}

theorem Counted.mono (counted : Counted told) (suffix : told <:+ later) : Counted later := by
  obtain ⟨entry, member, kind⟩ := counted
  exact ⟨entry, suffix.subset member, kind⟩

theorem Written.mono (written : Written told) (suffix : told <:+ later) : Written later := by
  obtain ⟨entry, member, kind⟩ := written
  exact ⟨entry, suffix.subset member, kind⟩

theorem Marked.mono (marked : Marked told) (suffix : told <:+ later) : Marked later := by
  obtain ⟨entry, member, kind⟩ := marked
  exact ⟨entry, suffix.subset member, kind⟩

theorem Reaches.asks (reaches : Reaches lib readMsg told rest) : rest.Guided CountAsks (CountEnds readMsg) told :=
  reaches.guided (handleMessage_counts lib readMsg)

theorem isLoad_count {op : Op} (plain : isLoad op = false) : isCount op = false ∧ isFigure op = false ∧ isMark op = false := by
  simp only [isLoad, Bool.or_eq_false_iff] at plain
  exact ⟨plain.1.1, plain.1.2, plain.2⟩

/-- Nobody is marked before his figure has been written, and no figure is written that has not been counted. -/
structure Ordered (told : Ledger) : Prop where
  written : Written told → Counted told
  marked : Marked told → Written told

theorem Ordered.nil : Ordered [] := ⟨fun written => absurd written Uncounted.nil.written, fun marked => absurd marked Uncounted.nil.marked⟩

theorem Ordered.cons {op : Op} (ordered : Ordered told) (asks : CountAsks told op) (answer : op.Res) :
    Ordered (⟨op, answer⟩ :: told) := by
  constructor
  · intro written
    rw [counted_cons]
    rcases written_cons.mp written with figure | early
    · cases asks with
      | aside plain _ => exact absurd ((isLoad_count plain).2.1.symm.trans figure) nofun
      | count _ => cases figure
      | write same _ =>
        rw [same]
        exact .inr ⟨_, List.mem_cons_self, rfl⟩
      | mark _ _ => cases figure
    · exact .inr (ordered.written early)
  · intro marked
    rw [written_cons]
    rcases marked_cons.mp marked with mark | early
    · cases asks with
      | aside plain _ => exact absurd ((isLoad_count plain).2.2.symm.trans mark) nofun
      | count _ => cases mark
      | write _ _ => cases mark
      | mark written _ => exact .inr written
    · exact .inr (ordered.marked early)

theorem Reaches.ordered (reaches : Reaches lib readMsg told rest) : Ordered told := by
  induction reaches with
  | start => exact .nil
  | answer answer before ih => exact ih.cons before.asks.1 answer

end Ledgers

/-! ## One turn -/

section Turn

variable {lib : JsonLib} {addr : Addr} {start server after : ChatServer} {first told : Ledger}

theorem execLocal_isAuthenticated {op : Op} {answer : op.Res} (plain : isMark op = false)
    (answered : ChatServer.execLocal addr op server = some (answer, after)) (other : Addr) :
    (after.session other).isAuthenticated = (server.session other).isAuthenticated := by
  cases op <;> simp only [ChatServer.execLocal, Option.some.injEq, Prod.mk.injEq, reduceCtorEq] at answered
  case setUid uid =>
    rw [← answered.2]
    by_cases here : other = addr
    · rw [here, ChatServer.setUid, ChatServer.modify_session_self]
    · rw [ChatServer.setUid, ChatServer.modify_session_other _ _ here]
  case markAuthenticated => cases plain
  case deliver target msg =>
    rw [← answered.2]
    exact (Gentle.deliver target msg).isAuthenticated other
  all_goals rw [← answered.2]

/-- What is known in the middle of a turn that began at `start` with the ledger `first`. -/
structure SoFar (addr : Addr) (start : ChatServer) (first : Ledger) (server : ChatServer) (told : Ledger) : Prop where
  calm : Calm addr start server
  suffix : first <:+ told
  written : Written told → Written first
  marked : Marked told → Written first
  flag : (server.session addr).isAuthenticated = true ∧ Marked told ∧ ¬ Marked first ∨
    (server.session addr).isAuthenticated = (start.session addr).isAuthenticated ∧ (Marked told → Marked first)
  named : ∀ name early, told = ⟨.serverName, name⟩ :: early → name = start.name ∨ told = first
  counted : Counted told → Counted first ∨ ∃ early, told = ⟨.participantCount, start.participantCount⟩ :: early ∧
    ∀ name rest, early = ⟨.serverName, name⟩ :: rest → name = start.name ∨ early = first

theorem SoFar.refl (addr : Addr) (start : ChatServer) {first : Ledger} (ordered : Ordered first) : SoFar addr start first start first where
  calm := .refl addr start
  suffix := List.suffix_refl first
  written := id
  marked := ordered.marked
  flag := .inr ⟨rfl, id⟩
  named := fun _ _ _ => .inr rfl
  counted := .inl

theorem SoFar.execLocal (ordered : Ordered first) {op : Op} {answer : op.Res} (asks : CountAsks told op)
    (answered : ChatServer.execLocal addr op server = some (answer, after)) (soFar : SoFar addr start first server told) :
    SoFar addr start first after (⟨op, answer⟩ :: told) := by
  have calm := soFar.calm.trans (.execLocal answered)
  have suffix : first <:+ ⟨op, answer⟩ :: told := soFar.suffix.trans (List.suffix_cons _ told)
  have local_ : op.isExternal = false := by
    cases external : op.isExternal with
    | false => rfl
    | true =>
      rw [execLocal_eq_none.mpr external] at answered
      cases answered
  cases asks with
  | aside plain quiet =>
    obtain ⟨count, figure, mark⟩ := isLoad_count plain
    have same := execLocal_isAuthenticated mark answered addr
    refine ⟨calm, suffix, ?_, ?_, ?_, ?_, ?_⟩
    · rw [written_cons, figure]
      simpa using soFar.written
    · rw [marked_cons, mark]
      simpa using soFar.marked
    · rw [marked_cons, mark, same]
      simpa using soFar.flag
    · intro name early head
      cases head
      simp only [ChatServer.execLocal, Option.some.injEq, Prod.mk.injEq] at answered
      exact .inl (answered.1.symm.trans soFar.calm.name)
    · intro counted
      left
      have before : Counted told := by
        rw [counted_cons, count] at counted
        simpa using counted
      rcases quiet before with marked | ⟨written, _⟩
      · exact ordered.written (soFar.marked marked)
      · exact ordered.written (soFar.written written)
  | count uncounted =>
    have same := execLocal_isAuthenticated rfl answered addr
    refine ⟨calm, suffix, ?_, ?_, ?_, ?_, ?_⟩
    · rw [written_cons]
      simpa [isFigure] using soFar.written
    · rw [marked_cons]
      simpa [isMark] using soFar.marked
    · rw [marked_cons, same]
      simpa [isMark] using soFar.flag
    · intro name early head
      cases head
    · intro _
      right
      simp only [ChatServer.execLocal, Option.some.injEq, Prod.mk.injEq] at answered
      have size : server.participantCount = start.participantCount := by
        rw [ChatServer.participantCount, soFar.calm.participants]
        rfl
      exact ⟨told, by rw [← answered.1, size], soFar.named⟩
  | write _ _ => cases local_
  | mark written unmarked =>
    refine ⟨calm, suffix, ?_, ?_, ?_, ?_, ?_⟩
    · rw [written_cons]
      simpa [isFigure] using soFar.written
    · exact fun _ => soFar.written written
    · left
      refine ⟨?_, marked_cons.mpr (.inl rfl), fun marked => unmarked (marked.mono soFar.suffix)⟩
      simp only [ChatServer.execLocal, Option.some.injEq, Prod.mk.injEq] at answered
      rw [← answered.2]
      change ((server.modify addr _).session addr).isAuthenticated = true
      rw [ChatServer.modify_session_self]
    · intro name early head
      cases head
    · exact fun _ => .inl (ordered.written (soFar.written written))

/-- How the reader stands at the end of a turn. -/
inductive Left (readMsg : MsgNode) (told : Ledger) (reader : Reader) : Prop
  | ended : reader.task = none → (Counted told → Marked told) → Left readMsg told reader
  | waits {op : Op} {next : op.Res → Awaitable ChannelMessage} : reader.task = some (readMsg, told, .call op next) →
      op.isExternal = true → CountAsks told op → Left readMsg told reader

/-- The ledger at the end of the turn that begins here. -/
def turnLedger (addr : Addr) (server : ChatServer) (told : Ledger) (rest : Awaitable ChannelMessage) : Ledger :=
  (rest.advance (ChatServer.execRecorded addr) (server, told)).2.2

/-- What a turn does to its server. -/
structure TurnEnds (addr : Addr) (readMsg : MsgNode) (start middle after : ChatServer) (first told : Ledger) : Prop where
  soFar : SoFar addr start first middle told
  gentle : Gentle middle after
  name : after.name = middle.name
  others : ∀ other, other ≠ addr → (after.session other).reader = (middle.session other).reader
  left : Left readMsg told (after.session addr).reader

theorem runHandler_turnEnds {readMsg : MsgNode} {rest : Awaitable ChannelMessage} (reaches : Reaches lib readMsg first rest) :
    ∃ middle, TurnEnds addr readMsg start middle (start.runHandler addr readMsg first rest) first (turnLedger addr start first rest) := by
  have ordered := reaches.ordered
  have keeps : ∀ op server told answer after, CountAsks told op → ChatServer.execLocal addr op server = some (answer, after) →
      SoFar addr start first server told → SoFar addr start first after (⟨op, answer⟩ :: told) :=
    fun op server told answer after asks answered soFar => soFar.execLocal ordered asks answered
  obtain ⟨soFar, guided⟩ := advance_guided keeps reaches.asks (.refl addr start ordered)
  have reached : Reaches lib readMsg (rest.advance (ChatServer.execRecorded addr) (start, first)).2.2
      (rest.advance (ChatServer.execRecorded addr) (start, first)).1 :=
    Handlers.advance (Traced.follows lib) start reaches
  have external : ∀ after told op next,
      rest.advance (ChatServer.execRecorded addr) (start, first) = (.call op next, after, told) → op.isExternal = true :=
    fun _ _ _ _ stopped => advance_external stopped
  unfold ChatServer.runHandler turnLedger
  generalize rest.advance (ChatServer.execRecorded addr) (start, first) = stopped at soFar guided reached external ⊢
  obtain ⟨left, middle, told⟩ := stopped
  refine ⟨middle, ?_⟩
  cases left with
  | ret reply =>
    have recorded : Gentle middle (middle.record (.replied addr readMsg told reply)) := Gentle.record _
    have delivered := recorded.trans (Gentle.deliver addr reply)
    have calm : Calm addr (middle.record (.replied addr readMsg told reply))
        ((middle.record (.replied addr readMsg told reply)).deliver addr reply) := .deliver addr addr reply
    refine ⟨soFar, delivered.trans (Gentle.setReader addr .readingHeader), calm.name, ?_, ?_⟩
    · intro other different
      have same := setReader_other ((middle.record (.replied addr readMsg told reply)).deliver addr reply) different .readingHeader
      exact (congrArg Session.reader same).trans (calm.reader other)
    · apply Left.ended _ guided.marked
      rw [ChatServer.settle, setReader_self]
      rfl
  | throw failure => exact reached.never_throws.elim
  | call op next =>
    obtain ⟨reader, blocked, task, same⟩ := settle_reader (.call op next) middle told rfl
    rw [same]
    have waits : Gentle middle (middle.setReader addr reader) := Gentle.setReader addr reader
    refine ⟨soFar, ⟨waits.participants, waits.stopped, waits.uid, waits.isAuthenticated⟩, rfl, ?_, ?_⟩
    · intro other different
      exact congrArg Session.reader (setReader_other middle different reader)
    · have waiting : ((middle.setReader addr reader).session addr).reader.task = some (readMsg, told, .call op next) := by
        rw [setReader_self]
        exact task
      exact .waits waiting (external middle told op next rfl) guided.1

end Turn

/-! ## The balance -/

/-- The sessions of a server that are logged in. -/
def loggedIn (server : ChatServer) : Nat := server.participants.count fun addr => (server.session addr).isAuthenticated

/-- The same with the session of this address. -/
def loggedInWith (addr : Addr) (server : ChatServer) : Nat :=
  server.participants.count fun other => (server.session other).isAuthenticated || other = addr

/-- A login of this session has counted the connections, and its session is not marked yet. -/
def Reader.isEntering (reader : Reader) : Bool :=
  match reader.task with
  | some (_, told, _) => decide (Entering told)
  | none => false

/-- The figure is right, but for the session of a login that is entering. `unwritten`: there has been no figure yet. -/
inductive Balanced (figure : Option Int64) (unwritten : Prop) (server : ChatServer) : Prop
  | settled : (∀ addr, Reader.isEntering (server.session addr).reader = false) →
      figure = some (Int64.ofNat (loggedIn server)) ∨ unwritten → Balanced figure unwritten server
  | counted {addr : Addr} {readMsg : MsgNode} {count : Nat} {early : Ledger} {rest : Awaitable ChannelMessage} :
      (∀ other, other ≠ addr → Reader.isEntering (server.session other).reader = false) →
      (server.session addr).reader.task =
        some (readMsg, ⟨.participantCount, count⟩ :: ⟨.serverName, server.name⟩ :: early, rest) →
      Uncounted early → count = loggedInWith addr server →
      figure = some (Int64.ofNat (loggedIn server)) ∨ unwritten → Balanced figure unwritten server
  | written {addr : Addr} {readMsg : MsgNode} {told : Ledger} {rest : Awaitable ChannelMessage} :
      (∀ other, other ≠ addr → Reader.isEntering (server.session other).reader = false) →
      (server.session addr).reader.task = some (readMsg, told, rest) → Entering told → Written told →
      figure = some (Int64.ofNat (loggedInWith addr server)) → Balanced figure unwritten server

section Balance

variable {lib : JsonLib} {figure : Option Int64} {unwritten : Prop} {server after : ChatServer}

theorem isEntering_task {reader : Reader} {readMsg : MsgNode} {told : Ledger} {rest : Awaitable ChannelMessage}
    (task : reader.task = some (readMsg, told, rest)) : Reader.isEntering reader = decide (Entering told) := by
  rw [Reader.isEntering, task]

theorem isEntering_idle {reader : Reader} (idle : reader.task = none) : Reader.isEntering reader = false := by
  rw [Reader.isEntering, idle]

theorem isEntering_same {first second : Reader} (task : first.task = second.task) : Reader.isEntering first = Reader.isEntering second := by
  rw [Reader.isEntering, Reader.isEntering, task]

/-- A login that has just counted is entering. -/
theorem entering_counted {count : Nat} {name : String} {early : Ledger} (uncounted : Uncounted early) :
    Entering (⟨.participantCount, count⟩ :: ⟨.serverName, name⟩ :: early) := by
  refine ⟨⟨_, List.mem_cons_self, rfl⟩, ?_⟩
  rw [marked_cons, marked_cons]
  rintro (same | same | marked)
  · cases same
  · cases same
  · exact uncounted.marked marked

theorem Balanced.mono {later : Prop} (balanced : Balanced figure unwritten server) (implies : unwritten → later) :
    Balanced figure later server := by
  cases balanced with
  | settled still right => exact .settled still (right.imp_right implies)
  | counted still task uncounted count right => exact .counted still task uncounted count (right.imp_right implies)
  | written still task entering written right => exact .written still task entering written right

/-- Nobody comes, goes, logs in or out, and at most one turn of a handler that is not entering has taken place. -/
theorem Balanced.same (balanced : Balanced figure unwritten server) (name : after.name = server.name)
    (participants : after.participants = server.participants)
    (isAuthenticated : ∀ addr, (after.session addr).isAuthenticated = (server.session addr).isAuthenticated)
    (readers : ∀ addr, (after.session addr).reader.task = (server.session addr).reader.task ∨
      Reader.isEntering (server.session addr).reader = false ∧ Reader.isEntering (after.session addr).reader = false) :
    Balanced figure unwritten after := by
  have sizes : loggedIn after = loggedIn server := by
    simp only [loggedIn, participants, isAuthenticated]
  have others : ∀ addr, loggedInWith addr after = loggedInWith addr server := by
    intro addr
    simp only [loggedInWith, participants, isAuthenticated]
  have quiet : ∀ addr, Reader.isEntering (server.session addr).reader = false → Reader.isEntering (after.session addr).reader = false := by
    intro addr before
    rcases readers addr with same | ⟨_, now⟩
    · rw [isEntering_same same]
      exact before
    · exact now
  have kept : ∀ {addr readMsg told rest}, (server.session addr).reader.task = some (readMsg, told, rest) → Entering told →
      (after.session addr).reader.task = some (readMsg, told, rest) := by
    intro addr readMsg told rest task entering
    rcases readers addr with same | ⟨before, _⟩
    · rw [same]
      exact task
    · rw [isEntering_task task] at before
      exact absurd entering (of_decide_eq_false before)
  cases balanced with
  | settled still right =>
    rw [← sizes] at right
    exact .settled (fun addr => quiet addr (still addr)) right
  | @counted addr readMsg count early rest still task uncounted count_eq right =>
    rw [← sizes] at right
    rw [← others addr] at count_eq
    have now := kept task (entering_counted uncounted)
    rw [← name] at now
    exact .counted (fun other different => quiet other (still other different)) now uncounted count_eq right
  | @written addr readMsg told rest still task entering written right =>
    rw [← others addr] at right
    exact .written (fun other different => quiet other (still other different)) (kept task entering) entering written right

/-- Somebody goes who is not logged in, or has gone already. -/
theorem Balanced.stop (balanced : Balanced figure unwritten server) (addr : Addr)
    (uncounted : addr ∈ server.participants → (server.session addr).isAuthenticated = false ∧
      Reader.isEntering (server.session addr).reader = false) : Balanced figure unwritten (server.stop addr) := by
  have left : Balanced figure unwritten (server.leave addr) := by
    have size : loggedIn (server.leave addr) = loggedIn server := OrderedSet.count_erase fun member => (uncounted member).1
    have sizes : ∀ other, (addr ∈ server.participants → addr ≠ other) → loggedInWith other (server.leave addr) = loggedInWith other server :=
      fun other different => OrderedSet.count_erase fun member => by
        have stranger : ((server.leave addr).session addr).isAuthenticated = false := (uncounted member).1
        simp [stranger, different member]
    have different : ∀ {other readMsg told rest}, (server.session other).reader.task = some (readMsg, told, rest) → Entering told →
        addr ∈ server.participants → addr ≠ other := by
      intro other readMsg told rest task entering member same
      have still := (uncounted member).2
      rw [same, isEntering_task task] at still
      exact of_decide_eq_false still entering
    cases balanced with
    | settled still right =>
      rw [← size] at right
      exact .settled still right
    | @counted other readMsg count early rest still task uncounted count_eq right =>
      rw [← size] at right
      rw [← sizes other (different task (entering_counted uncounted))] at count_eq
      have waits : ((server.leave addr).session other).reader.task =
          some (readMsg, ⟨.participantCount, count⟩ :: ⟨.serverName, (server.leave addr).name⟩ :: early, rest) := task
      exact .counted still waits uncounted count_eq right
    | @written other readMsg told rest still task entering written right =>
      rw [← sizes other (different task entering)] at right
      have waits : ((server.leave addr).session other).reader.task = some (readMsg, told, rest) := task
      exact .written still waits entering written right
  refine left.same rfl rfl ?_ ?_
  · intro other
    by_cases here : other = addr
    · rw [here, stop_self]
      exact (cancelDeadline_aside (server.session addr)).isAuthenticated
    · rw [stop_other server here]
      rfl
  · intro other
    left
    by_cases here : other = addr
    · rw [here, stop_self]
      exact congrArg Reader.task (cancelDeadline_coroutines (server.session addr)).1
    · rw [stop_other server here]
      rfl

/-- A new connection is not logged in. -/
theorem Balanced.start (balanced : Balanced figure unwritten server) (unused : Unused server) (registered : Registered server)
    {addr : Addr} (fresh : (server.session addr).started = false) (uid : Int64) : Balanced figure unwritten (server.start addr uid) := by
  have idle := unused addr fresh
  have absent : addr ∉ server.participants := by
    intro member
    have started := ((registered addr).mp member).1
    rw [fresh] at started
    cases started
  have born : ∀ other, other ≠ addr → (server.start addr uid).session other = server.session other := fun other different =>
    if_neg different
  have own : (server.start addr uid).session addr = { uid, started := true } := if_pos rfl
  have entered : ∀ {other readMsg told rest}, (server.session other).reader.task = some (readMsg, told, rest) → other ≠ addr := by
    intro other readMsg told rest task same
    rw [same, idle] at task
    cases task
  have size : loggedIn (server.start addr uid) = loggedIn server := by
    have stranger : ((server.start addr uid).session addr).isAuthenticated = false := by rw [own]
    have inserted : loggedIn (server.start addr uid) =
        server.participants.count fun other => ((server.start addr uid).session other).isAuthenticated := OrderedSet.count_insert stranger
    rw [inserted]
    apply OrderedSet.count_congr
    intro other member
    rw [born other fun same => absent (same ▸ member)]
  have sizes : ∀ other, other ≠ addr → loggedInWith other (server.start addr uid) = loggedInWith other server := by
    intro other different
    have stranger : (((server.start addr uid).session addr).isAuthenticated || decide (addr = other)) = false := by
      rw [own]
      simp [Ne.symm different]
    have inserted : loggedInWith other (server.start addr uid) = server.participants.count fun third =>
        ((server.start addr uid).session third).isAuthenticated || decide (third = other) := OrderedSet.count_insert stranger
    rw [inserted]
    apply OrderedSet.count_congr
    intro third member
    rw [born third fun same => absent (same ▸ member)]
  have quiet : ∀ other, Reader.isEntering (server.session other).reader = false →
      Reader.isEntering ((server.start addr uid).session other).reader = false := by
    intro other before
    by_cases here : other = addr
    · rw [here, own]
      rfl
    · rw [born other here]
      exact before
  cases balanced with
  | settled still right =>
    rw [← size] at right
    exact .settled (fun other => quiet other (still other)) right
  | @counted other readMsg count early rest still task uncounted count_eq right =>
    have different := entered task
    rw [← size] at right
    rw [← sizes other different] at count_eq
    have waits : ((server.start addr uid).session other).reader.task =
        some (readMsg, ⟨.participantCount, count⟩ :: ⟨.serverName, (server.start addr uid).name⟩ :: early, rest) := by
      rw [born other different]
      exact task
    exact .counted (fun third away => quiet third (still third away)) waits uncounted count_eq right
  | @written other readMsg told rest still task entering written right =>
    have different := entered task
    rw [← sizes other different] at right
    rw [← born other different] at task
    exact .written (fun third away => quiet third (still third away)) task entering written right

end Balance

/-! ## What keeps the balance -/

/-- The connection that a step closes. -/
def closing (server : ChatServer) : Act → Option Addr
  | .readFailed addr => some addr
  | .resumeReader addr => if Reader.refusesHeader (server.session addr).reader then some addr else none
  | .writeFailed addr => some addr
  | .resumeWriter addr =>
    match (server.session addr).writer with
    | .written out => if out.closeAfterSend then some addr else none
    | _ => none
  | .resumeDeadline addr =>
    if (server.session addr).loginDeadline = .expired ∧ (server.session addr).isAuthenticated = false then some addr else none
  | _ => none

/-- The session whose handler reads the number of connections in the turn that a step gives it. -/
def counts (lib : JsonLib) (server : ChatServer) : Act → Option Addr
  | .resumeReader addr =>
    match (server.session addr).reader with
    | .bodyRead readMsg =>
      if Counted (turnLedger addr (server.record (.handed addr readMsg)) [] (handleMessage lib readMsg)) then some addr else none
    | .resuming _ told rest => if ¬ Counted told ∧ Counted (turnLedger addr server told rest) then some addr else none
    | _ => none
  | _ => none

/-- No connection is closed that is logged in or has just been counted for its login, and a login counts the connections when
    every other one is logged in. -/
structure KeepsLoad (lib : JsonLib) (server : ChatServer) (act : Act) : Prop where
  closes : ∀ addr, closing server act = some addr → addr ∈ server.participants →
    (server.session addr).isAuthenticated = false ∧ Reader.isEntering (server.session addr).reader = false
  counts : ∀ addr, ChatProof.counts lib server act = some addr →
    (∀ other ∈ server.participants, other ≠ addr → (server.session other).isAuthenticated = true) ∧
      (∀ other, other ≠ addr → Reader.isEntering (server.session other).reader = false) ∧ server.participants.size < 2 ^ 32

section Resume

variable {lib : JsonLib} {addr : Addr} {readMsg : MsgNode} {first : Ledger} {rest : Awaitable ChannelMessage}
  {server ready : ChatServer}

/-- A turn begins after the answer of a store or of the peer, if not at the beginning. -/
theorem Resumes.head (traced : Traced lib server) (resumes : Resumes lib server addr readMsg first rest ready) {op : Op}
    {answer : op.Res} {early : Ledger} (same : first = ⟨op, answer⟩ :: early) : op.isExternal = true := by
  cases resumes with
  | handed idle reading => cases same
  | resumed idle reading =>
    have proper := traced.proper addr
    rw [reading] at proper
    obtain ⟨other, _, before, entry, store⟩ := proper
    rw [same] at entry
    cases entry
    exact external_of_isStoreCall store
  | returned answer blocked reading =>
    cases same
    rfl

theorem Resumes.begins (resumes : Resumes lib server addr readMsg first rest ready) : ready.session = server.session ∧
    ready.participants = server.participants ∧ ready.name = server.name := by
  cases resumes <;> exact ⟨rfl, rfl, rfl⟩

/-- A handler that has called the peer asks nothing else. -/
theorem returned_through {told : Ledger} {request : NotifyRequest} {answer : Option Int32}
    (reaches : Reaches lib readMsg (⟨.notify request, answer⟩ :: told) rest) : ∃ reply, rest = .ret reply := by
  have guided := reaches.guided (handleMessage_asked lib readMsg)
  cases rest with
  | ret reply => exact ⟨reply, rfl⟩
  | throw failure => exact reaches.never_throws.elim
  | call op next => exact absurd (guided.1.2 _ List.mem_cons_self) nofun

/-- While the peer is called, nothing has been counted that is not marked. -/
theorem Resumes.entering (traced : Traced lib server) (resumes : Resumes lib server addr readMsg first rest ready) :
    Reader.isEntering (server.session addr).reader = decide (Entering first) ∧
      (Entering first → (server.session addr).reader = .resuming readMsg first rest) := by
  cases resumes with
  | handed idle reading =>
    have early : ¬ Entering [] := fun entering => Uncounted.nil.counted entering.1
    rw [reading]
    exact ⟨(decide_eq_false early).symm, fun entering => absurd entering early⟩
  | resumed idle reading =>
    rw [reading]
    exact ⟨rfl, fun _ => rfl⟩
  | @returned told request next answer blocked reading =>
    have reaches : Reaches lib readMsg told (.call (.notify request) next) := by
      apply traced.suspended
      rw [reading]
      rfl
    have through : ¬ Entering told := by
      rintro ⟨counted, unmarked⟩
      cases reaches.asks.1 with
      | aside _ quiet =>
        rcases quiet counted with marked | ⟨_, inside⟩
        · exact unmarked marked
        · cases inside
    have later : ¬ Entering (⟨.notify request, answer⟩ :: told) := by
      intro entering
      apply through
      rw [Entering, counted_cons, marked_cons] at entering
      simpa [Entering, isCount, isMark] using entering
    rw [reading]
    have before : Reader.isEntering (.calling readMsg told request next) = decide (Entering told) := rfl
    rw [before, decide_eq_false through]
    exact ⟨(decide_eq_false later).symm, fun entering => absurd entering later⟩

theorem turnLedger_ret (addr : Addr) (server : ChatServer) (told : Ledger) (reply : ChannelMessage) :
    turnLedger addr server told (.ret reply) = told := rfl

/-- A turn that counts is one that the condition speaks of. -/
theorem Resumes.counts (traced : Traced lib server) (resumes : Resumes lib server addr readMsg first rest ready) {act : Act}
    (turn : TakesTurn server addr act) (early : ¬ Counted first) (late : Counted (turnLedger addr ready first rest)) :
    ChatProof.counts lib server act = some addr := by
  cases resumes with
  | handed idle reading =>
    cases turn with
    | resumed => simp only [ChatProof.counts, reading, late, if_true]
    | returned answer blocked =>
      rw [idle] at blocked
      cases blocked
  | resumed idle reading =>
    cases turn with
    | resumed => simp only [ChatProof.counts, reading, late, early, not_false_eq_true, and_self, if_true]
    | returned answer blocked =>
      rw [idle] at blocked
      cases blocked
  | @returned told request next answer blocked reading =>
    have reaches : Reaches lib readMsg told (.call (.notify request) next) := by
      apply traced.suspended
      rw [reading]
      rfl
    obtain ⟨reply, same⟩ := returned_through (reaches.answer answer)
    rw [same, turnLedger_ret] at late
    exact absurd late early

/-- A login that is left entering has counted in this turn, and Redis has not been told yet. -/
theorem TurnEnds.counted (traced : Traced lib server) (resumes : Resumes lib server addr readMsg first rest ready)
    {told : Ledger} {middle after : ChatServer} (ends : TurnEnds addr readMsg ready middle after first told) (entering : Entering told) :
    ¬ Counted first ∧ ∃ early rest, told = ⟨.participantCount, ready.participantCount⟩ :: ⟨.serverName, ready.name⟩ :: early ∧
      Uncounted early ∧ (after.session addr).reader.task = some (readMsg, told, rest) := by
  have inside : ∀ {op : Op} {answer : op.Res} {early : Ledger}, op.isExternal = false → first ≠ ⟨op, answer⟩ :: early := by
    intro op answer early own same
    have external := resumes.head traced same
    rw [own] at external
    cases external
  obtain ⟨name, count, early, rest, same, uncounted, task⟩ : ∃ name count early rest,
      told = ⟨.participantCount, count⟩ :: ⟨.serverName, name⟩ :: early ∧ Uncounted early ∧
        (after.session addr).reader.task = some (readMsg, told, rest) := by
    cases ends.left with
    | ended _ marked => exact absurd (marked entering.1) entering.2
    | @waits op next task external asks =>
      cases asks with
      | aside _ quiet =>
        rcases quiet entering.1 with marked | ⟨_, own⟩
        · exact absurd marked entering.2
        · rw [external] at own
          cases own
      | count _ => cases external
      | @write name count early same uncounted => exact ⟨name, count, early, _, same, uncounted, task⟩
      | mark _ _ => cases external
  have fresh : ¬ Counted first := by
    intro counted
    have suffix := ends.soFar.suffix
    rw [same] at suffix
    rcases List.suffix_cons_iff.mp suffix with whole | part
    · exact inside rfl whole
    · have later := counted.mono part
      rw [counted_cons] at later
      rcases later with own | before
      · cases own
      · exact uncounted.counted before
  refine ⟨fresh, early, rest, ?_, uncounted, task⟩
  rcases ends.soFar.counted entering.1 with before | ⟨heard, entry, named⟩
  · exact absurd before fresh
  · rw [same] at entry
    cases entry
    rcases named name early rfl with here | whole
    · rw [same, here]
    · exact absurd whole.symm (inside rfl)

end Resume

section Turn

variable {lib : JsonLib} {addr : Addr} {readMsg : MsgNode} {first : Ledger} {rest : Awaitable ChannelMessage}
  {server ready : ChatServer} {figure : Option Int64} {unwritten : Prop}

theorem Balanced.right (balanced : Balanced figure unwritten server)
    (still : ∀ other, Reader.isEntering (server.session other).reader = false) :
    figure = some (Int64.ofNat (loggedIn server)) ∨ unwritten := by
  cases balanced with
  | settled _ right => exact right
  | counted _ _ _ _ right => exact right
  | @written other _ _ _ _ task entering _ _ =>
    have quiet := still other
    rw [isEntering_task task] at quiet
    exact absurd entering (of_decide_eq_false quiet)

/-- A login that goes on after Redis has been told marks its session in that turn. -/
theorem Balanced.figure_written (balanced : Balanced figure unwritten server) (traced : Traced lib server)
    (resumes : Resumes lib server addr readMsg first rest ready) (entering : Entering first) :
    (∀ other, other ≠ addr → Reader.isEntering (server.session other).reader = false) ∧
      figure = some (Int64.ofNat (loggedInWith addr server)) := by
  have reading := (resumes.entering traced).2 entering
  have task : (server.session addr).reader.task = some (readMsg, first, rest) := by
    rw [reading]
    rfl
  have own : ∀ other, (∀ third, third ≠ other → Reader.isEntering (server.session third).reader = false) → addr = other := by
    intro other still
    by_contra different
    have quiet := still addr different
    rw [isEntering_task task] at quiet
    exact of_decide_eq_false quiet entering
  cases balanced with
  | settled still _ =>
    have quiet := still addr
    rw [isEntering_task task] at quiet
    exact absurd entering (of_decide_eq_false quiet)
  | counted still waits _ _ _ =>
    have here := own _ still
    subst here
    rw [task] at waits
    cases waits
    exact absurd (resumes.head traced rfl) nofun
  | written still _ _ _ right =>
    have here := own _ still
    subst here
    exact ⟨still, right⟩

theorem Balanced.turn (balanced : Balanced figure unwritten server) (traced : Traced lib server) {act : Act}
    (turn : TakesTurn server addr act) (resumes : Resumes lib server addr readMsg first rest ready)
    (keeps : KeepsLoad lib server act) : Balanced figure unwritten (ready.runHandler addr readMsg first rest) := by
  have reaches := traced.resumes resumes
  obtain ⟨middle, ends⟩ := runHandler_turnEnds reaches
  obtain ⟨sessions, members, named⟩ := resumes.begins
  have before := (resumes.entering traced).1
  generalize same : turnLedger addr ready first rest = told at ends
  have counting : ¬ Counted first → Counted told → counts lib server act = some addr := by
    rw [← same]
    exact resumes.counts traced turn
  generalize ready.runHandler addr readMsg first rest = after at ends ⊢
  have name : after.name = server.name := ends.name.trans (ends.soFar.calm.name.trans named)
  have participants : after.participants = server.participants := ends.gentle.participants.trans (ends.soFar.calm.participants.trans members)
  have readers : ∀ other, other ≠ addr → (after.session other).reader = (server.session other).reader := by
    intro other different
    rw [ends.others other different, ends.soFar.calm.reader, sessions]
  have flags : ∀ other, other ≠ addr → (after.session other).isAuthenticated = (server.session other).isAuthenticated := by
    intro other different
    rw [ends.gentle.isAuthenticated, ends.soFar.calm.isAuthenticated other different, sessions]
  have flag := ends.soFar.flag
  rw [← ends.gentle.isAuthenticated addr, sessions] at flag
  have unmarked : ¬ Marked told → ∀ other, (after.session other).isAuthenticated = (server.session other).isAuthenticated := by
    intro nobody other
    by_cases here : other = addr
    · rw [here]
      rcases flag with ⟨_, marked, _⟩ | ⟨kept, _⟩
      · exact absurd marked nobody
      · exact kept
    · exact flags other here
  by_cases entering : Entering told
  · obtain ⟨fresh, early, left, entry, uncounted, task⟩ := ends.counted traced resumes entering
    obtain ⟨all, still, bounded⟩ := keeps.counts addr (counting fresh entering.1)
    have quiet : ∀ other, Reader.isEntering (server.session other).reader = false := by
      intro other
      by_cases here : other = addr
      · rw [here, before]
        exact decide_eq_false fun early => fresh early.1
      · exact still other here
    have kept := unmarked entering.2
    have right := balanced.right quiet
    have sizes : loggedIn after = loggedIn server := by simp only [loggedIn, participants, kept]
    have count : ready.participantCount = loggedInWith addr after := by
      have everybody : loggedInWith addr after = after.participants.size := by
        apply OrderedSet.count_eq_size
        intro other member
        by_cases here : other = addr
        · simp [here]
        · rw [participants] at member
          simp [kept, all other member here]
      rw [everybody, ChatServer.participantCount, members, participants]
      exact Nat.mod_eq_of_lt bounded
    rw [← sizes] at right
    rw [entry, named, ← name] at task
    refine .counted ?_ task uncounted count right
    intro other different
    rw [readers other different]
    exact still other different
  · have through : Reader.isEntering (after.session addr).reader = false := by
      cases ends.left with
      | ended idle _ => exact isEntering_idle idle
      | waits task _ _ =>
        rw [isEntering_task task]
        exact decide_eq_false entering
    by_cases began : Entering first
    · obtain ⟨still, right⟩ := balanced.figure_written traced resumes began
      have marked : Marked told := by
        by_contra nobody
        exact entering ⟨began.1.mono ends.soFar.suffix, nobody⟩
      have sizes : loggedIn after = loggedInWith addr server := by
        rw [loggedIn, loggedInWith, participants]
        apply OrderedSet.count_congr
        intro other _
        by_cases here : other = addr
        · rw [here]
          rcases flag with ⟨logs, _, _⟩ | ⟨_, kept⟩
          · simp [logs]
          · exact absurd (kept marked) began.2
        · simp [flags other here, here]
      rw [← sizes] at right
      refine .settled ?_ (.inl right)
      intro other
      by_cases here : other = addr
      · rw [here]
        exact through
      · rw [readers other here]
        exact still other here
    · have kept : ∀ other, (after.session other).isAuthenticated = (server.session other).isAuthenticated := by
        intro other
        by_cases here : other = addr
        · rw [here]
          rcases flag with ⟨_, marked, fresh⟩ | ⟨kept, _⟩
          · exact absurd ⟨reaches.ordered.written (ends.soFar.marked marked), fresh⟩ began
          · exact kept
        · exact flags other here
      apply balanced.same name participants kept
      intro other
      by_cases here : other = addr
      · rw [here, before]
        exact .inr ⟨decide_eq_false began, through⟩
      · rw [readers other here]
        exact .inl rfl

end Turn

/-! ## One step of the server -/

section Steps

variable {lib : JsonLib} {figure : Option Int64} {unwritten : Prop} {server : ChatServer}

theorem Balanced.modify (balanced : Balanced figure unwritten server) (addr : Addr) {change : Session → Session}
    (isAuthenticated : (change (server.session addr)).isAuthenticated = (server.session addr).isAuthenticated)
    (reader : (change (server.session addr)).reader.task = (server.session addr).reader.task ∨
      Reader.isEntering (server.session addr).reader = false ∧ Reader.isEntering (change (server.session addr)).reader = false) :
    Balanced figure unwritten (server.modify addr change) := by
  apply balanced.same (server.modify_name addr change) (server.modify_participants addr change)
  · intro other
    by_cases here : other = addr
    · rw [here, ChatServer.modify_session_self]
      exact isAuthenticated
    · rw [ChatServer.modify_session_other _ _ here]
  · intro other
    by_cases here : other = addr
    · rw [here, ChatServer.modify_session_self]
      exact reader
    · rw [ChatServer.modify_session_other _ _ here]
      exact .inl rfl

theorem Balanced.aside (balanced : Balanced figure unwritten server) (addr : Addr) {change : Session → Session}
    (aside : Aside (server.session addr) (change (server.session addr))) : Balanced figure unwritten (server.modify addr change) :=
  balanced.modify addr aside.isAuthenticated (.inl (congrArg Reader.task aside.reader))

theorem Balanced.idle (balanced : Balanced figure unwritten server) (addr : Addr) {change : Session → Session}
    (isAuthenticated : (change (server.session addr)).isAuthenticated = (server.session addr).isAuthenticated)
    (before : (server.session addr).reader.isReading = true ∨ (server.session addr).reader = .unstarted)
    (after : (change (server.session addr)).reader.task = none) : Balanced figure unwritten (server.modify addr change) := by
  apply balanced.modify addr isAuthenticated
  right
  refine ⟨?_, isEntering_idle after⟩
  cases reading : (server.session addr).reader <;> simp [reading, Reader.isReading, Reader.isEntering, Reader.task] at before ⊢

theorem Balanced.record (balanced : Balanced figure unwritten server) (event : Event) : Balanced figure unwritten (server.record event) :=
  balanced.same rfl rfl (fun _ => rfl) fun _ => .inl rfl

theorem Balanced.deliver (balanced : Balanced figure unwritten server) (addr : Addr) (msg : ChannelMessage) :
    Balanced figure unwritten (server.deliver addr msg) := by
  have calm : Calm addr server (server.deliver addr msg) := .deliver addr addr msg
  have gentle : Gentle server (server.deliver addr msg) := Gentle.deliver addr msg
  apply balanced.same calm.name calm.participants gentle.isAuthenticated
  intro other
  exact .inl (congrArg Reader.task (calm.reader other))

theorem readDone_reading {session after : Session} (done : ChatServer.readDone session = some after) :
    session.reader.isReading = true ∧ after.reader.task = none := by
  unfold ChatServer.readDone at done
  split at done
  · rename_i reading
    split at done <;> cases done
    rw [reading]
    exact ⟨rfl, rfl⟩
  · rename_i readMsg reading
    dsimp only at done
    split at done <;> cases done
    rw [reading]
    exact ⟨rfl, rfl⟩
  · cases done

/-- The answers of the stores apart, a server whose steps keep its load stays balanced. -/
theorem Balanced.rule (lib : JsonLib) (figure : Option Int64) (unwritten : Prop) :
    ActRule lib (Balanced figure unwritten) (fun _ => True) fun server act => Traced lib server ∧ Unused server ∧ Registered server ∧
      KeepsLoad lib server act ∧ ∀ addr oracle, act ≠ .answer addr oracle where
  deliver _ addr msg _ balanced := balanced.deliver addr msg
  start _ _ uid knows _ _ fresh balanced := balanced.start knows.2.1 knows.2.2.1 fresh uid
  send _ addr _ _ _ _ balanced := balanced.modify addr rfl (.inl rfl)
  begin _ addr _ _ _ unstarted balanced := balanced.idle addr rfl (.inr unstarted) rfl
  read server addr session _ _ done balanced := by
    obtain ⟨reading, idle⟩ := readDone_reading done
    exact balanced.idle addr (ChatServer.readDone_login done).2.2.2 (.inl reading) idle
  decoded server addr readMsg header _ _ reading _ balanced := by
    apply balanced.idle addr rfl _ rfl
    rw [reading]
    exact .inl rfl
  quit server addr act knows _ quits balanced := by
    have closes : closing server act = some addr := by
      cases quits with
      | failed _ => rfl
      | refused reading refused =>
        have refuses : Reader.refusesHeader (server.session addr).reader = true := by
          rw [reading, Reader.refusesHeader, refused]
          rfl
        simp only [closing, refuses, if_true]
    have stopped := balanced.stop addr (knows.2.2.2.1.closes addr closes)
    apply stopped.idle addr rfl _ rfl
    rw [stop_self]
    left
    change (server.session addr).cancelDeadline.reader.isReading = true
    rw [(cancelDeadline_coroutines _).1]
    exact quits.reading
  answer _ addr _ _ _ _ oracle knows _ _ := absurd rfl (knows.2.2.2.2 addr oracle)
  post _ _ balanced := balanced.same rfl rfl (fun _ => rfl) fun _ => .inl rfl
  handler server addr readMsg ledger rest ready act knows turn resumes balanced := balanced.turn knows.1 turn resumes knows.2.2.2.1
  beginWriter _ addr _ _ _ _ balanced := balanced.aside addr (receive_aside _)
  write _ addr _ _ _ _ balanced := balanced.modify addr rfl (.inl rfl)
  written server addr out _ _ _ _ balanced := by
    have through : Balanced figure unwritten (server.setWriter addr (.written out)) := balanced.modify addr rfl (.inl rfl)
    exact through.record _
  writeFailed _ addr _ knows _ _ balanced := (balanced.stop addr (knows.2.2.2.1.closes addr rfl)).modify addr rfl (.inl rfl)
  close server addr out knows _ written closes balanced := by
    have closing : closing server (.resumeWriter addr) = some addr := by simp only [closing, written, closes, if_true]
    exact (balanced.stop addr (knows.2.2.2.1.closes addr closing)).modify addr rfl (.inl rfl)
  receive _ addr _ _ _ _ _ balanced := balanced.aside addr (receive_aside _)
  beginDeadline _ addr _ _ _ _ balanced := balanced.modify addr rfl (.inl rfl)
  expire _ addr _ _ _ balanced := balanced.modify addr rfl (.inl rfl)
  aborted _ addr _ _ _ balanced := balanced.modify addr rfl (.inl rfl)
  expired _ addr _ _ _ _ balanced := balanced.modify addr rfl (.inl rfl)
  timeout server addr knows _ expired stranger balanced := by
    have closing : closing server (.resumeDeadline addr) = some addr := by
      simp only [closing, expired, stranger, and_self, if_true]
    exact (balanced.stop addr (knows.2.2.2.1.closes addr closing)).modify addr rfl (.inl rfl)

/-- The answer of a store that has not been told a figure. -/
theorem Balanced.answer (balanced : Balanced figure unwritten server) (traced : Traced lib server) {addr : Addr} {readMsg : MsgNode}
    {told : Ledger} {op : Op} {next : op.Res → Awaitable ChannelMessage}
    (reading : (server.session addr).reader = .waiting readMsg told op next) (plain : isFigure op = false) (answer : op.Res) :
    Balanced figure unwritten (server.setReader addr (.resuming readMsg (⟨op, answer⟩ :: told) (next answer))) := by
  have task : (server.session addr).reader.task = some (readMsg, told, .call op next) := by
    rw [reading]
    rfl
  have external : op.isExternal = true := by
    have proper := traced.proper addr
    rw [reading] at proper
    exact external_of_isStoreCall proper
  obtain ⟨quiet, same⟩ : ¬ Entering told ∧ (Entering (⟨op, answer⟩ :: told) → Entering told) := by
    cases (traced.suspended task).asks.1 with
    | aside aside through =>
      obtain ⟨count, _, mark⟩ := isLoad_count aside
      constructor
      · rintro ⟨counted, unmarked⟩
        rcases through counted with marked | ⟨_, own⟩
        · exact unmarked marked
        · rw [external] at own
          cases own
      · rintro ⟨counted, unmarked⟩
        rw [counted_cons, count] at counted
        rw [marked_cons, mark] at unmarked
        exact ⟨by simpa using counted, by simpa using unmarked⟩
    | count _ => cases external
    | write _ _ => cases plain
    | mark _ _ => cases external
  apply balanced.modify addr rfl
  right
  rw [isEntering_task task]
  exact ⟨decide_eq_false quiet, decide_eq_false fun entering => quiet (same entering)⟩

/-- The answer of Redis to a figure, which it has now. -/
theorem Balanced.answer_figure (balanced : Balanced figure unwritten server) (traced : Traced lib server) {addr : Addr} {readMsg : MsgNode}
    {told : Ledger} {key field : String} {value : Int64} {next : Int → Awaitable ChannelMessage}
    (reading : (server.session addr).reader = .waiting readMsg told (.redisHset key field value) next) (answer : Int) (later : Prop) :
    key = loginCountKey ∧ field = server.name ∧
      Balanced (some value) later (server.setReader addr (.resuming readMsg (⟨.redisHset key field value, answer⟩ :: told) (next answer))) := by
  have task : (server.session addr).reader.task = some (readMsg, told, .call (.redisHset key field value) next) := by
    rw [reading]
    rfl
  cases (traced.suspended task).asks.1 with
  | aside plain _ => cases plain
  | @write _ count early same uncounted =>
    subst same
    have entering : Entering (⟨.participantCount, count⟩ :: ⟨.serverName, field⟩ :: early) := entering_counted uncounted
    have own : ∀ other, (∀ third, third ≠ other → Reader.isEntering (server.session third).reader = false) → addr = other := by
      intro other still
      by_contra different
      have quiet := still addr different
      rw [isEntering_task task] at quiet
      exact of_decide_eq_false quiet entering
    cases balanced with
    | settled still _ =>
      have quiet := still addr
      rw [isEntering_task task] at quiet
      exact absurd entering (of_decide_eq_false quiet)
    | written still waits _ written _ =>
      have here := own _ still
      subst here
      rw [task] at waits
      cases waits
      rw [written_cons, written_cons] at written
      rcases written with figure | figure | written
      · cases figure
      · cases figure
      · exact absurd written uncounted.written
    | counted still waits _ right _ =>
      have here := own _ still
      subst here
      rw [task] at waits
      cases waits
      refine ⟨rfl, rfl, ?_⟩
      let answered : Reader := .resuming readMsg (⟨.redisHset loginCountKey server.name (Int64.ofNat count), answer⟩ ::
        ⟨.participantCount, count⟩ :: ⟨.serverName, server.name⟩ :: early) (next answer)
      have gentle : Gentle server (server.setReader addr answered) := Gentle.setReader addr answered
      have size : loggedInWith addr (server.setReader addr answered) = loggedInWith addr server := by
        simp only [loggedInWith, gentle.participants, gentle.isAuthenticated]
      have marked : ¬ Marked (⟨.redisHset loginCountKey server.name (Int64.ofNat count), answer⟩ :: ⟨.participantCount, count⟩ ::
          ⟨.serverName, server.name⟩ :: early) := by
        rw [marked_cons]
        rintro (mark | marked)
        · cases mark
        · exact entering.2 marked
      have waiting : ((server.setReader addr answered).session addr).reader.task = answered.task := by rw [setReader_self]
      refine .written ?_ waiting ⟨⟨_, List.mem_cons_of_mem _ List.mem_cons_self, rfl⟩, marked⟩ ⟨_, List.mem_cons_self, rfl⟩ ?_
      · intro other different
        rw [setReader_other server different]
        exact still other different
      · rw [size, right]

end Steps

theorem Balanced.fresh (figure : Option Int64) {unwritten : Prop} (quiet : unwritten) (name : String) :
    Balanced figure unwritten (.fresh name) := .settled (fun _ => rfl) (.inr quiet)

end ChatProof
