import ChatProject.Chat.Footprint
import ChatProject.Server.Rejection
import ChatProject.Store.Keys

/-! What a session that has been stopped still does. -/

namespace ChatProof

open ChatModel

/-- The calls that make a login: those on the session, and the SET of its login server. -/
inductive LogsIn : Op → Prop
  | setUid (uid : Int64) : LogsIn (.setUid uid)
  | markAuthenticated : LogsIn .markAuthenticated
  | route (uid : Int64) (name : String) : LogsIn (.redisSet (userLoginServerKey uid) name)

/-- Whatever it is answered, it makes no login. -/
def Harmless (rest : Awaitable ChannelMessage) : Prop := rest.AsksOnly fun op => ¬ LogsIn op

theorem allowsNotifying_harmless : AllowsNotifying fun op => ¬ LogsIn op :=
  ⟨nofun, fun _ => nofun, nofun, fun _ => nofun, fun _ _ => nofun, fun _ => nofun⟩

theorem not_logsIn_redisSet (key : UserKey) (text : String) : ¬ LogsIn (.redisSet key.redisKey text) := by
  intro logsIn
  generalize same : key.redisKey = name at logsIn
  cases logsIn with
  | route uid server => exact userLoginServerKey_ne_redisKey uid key same.symm

/-- Only a login request that can be read makes a login. -/
theorem handleMessage_harmless {lib : JsonLib} {msg : MsgNode}
    (unread : MessageId.enumCast msg.id = some .loginRequest → lib.parse msg.bodyText = none) : Harmless (handleMessage lib msg) := by
  have all : ∀ messageId handler, MessageId.enumCast msg.id = some messageId → handlers messageId = some handler →
      Harmless (handler lib msg) := by
    intro messageId handler kind found
    cases messageId <;> cases found
    case loginRequest =>
      unfold login parseJson
      rw [unread kind]
      trivial
    case searchUserRequest =>
      exact searchUser_asksOnly lib msg (fun _ => nofun) (fun _ => nofun) not_logsIn_redisSet
    case addFriendRequest =>
      exact addFriend_asksOnly lib msg allowsNotifying_harmless (fun _ _ => nofun) fun _ => nofun
    case authFriendRequest => exact authFriend_asksOnly lib msg allowsNotifying_harmless fun _ _ => nofun
    case textChatMsgReq => exact textChatMsg_asksOnly lib msg allowsNotifying_harmless
  refine ⟨nofun, ?_⟩
  intro flag
  change Harmless (if flag = false ∧ msg.id ≠ MessageId.loginRequest.wire then _ else _)
  split
  · trivial
  · cases kind : MessageId.enumCast msg.id with
    | none => trivial
    | some messageId =>
      dsimp only
      cases found : handlers messageId with
      | none => trivial
      | some handler =>
        apply Coroutine.AsksOnly.catchWith (all messageId handler kind found)
        intro error
        trivial

/-- The frame that the reader has in hand leads to no login any more. -/
def Inert (lib : JsonLib) : Reader → Prop
  | .bodyRead readMsg => Harmless (handleMessage lib readMsg)
  | .waiting _ _ op next => Harmless (.call op next)
  | .resuming _ _ rest => Harmless rest
  | .calling _ _ request next => Harmless (.call (.notify request) next)
  | _ => True

theorem inert_of_reading (lib : JsonLib) {reader : Reader} (reading : reader.isReading = true) : Inert lib reader := by
  cases reader with
  | readingHeader => trivial
  | headerRead readMsg => trivial
  | readingBody readMsg => trivial
  | _ => cases reading

theorem harmless_reaches {lib : JsonLib} {readMsg : MsgNode} {told : Ledger} {rest : Awaitable ChannelMessage}
    (reaches : Reaches lib readMsg told rest) (harmless : Harmless (handleMessage lib readMsg)) : Harmless rest := by
  induction reaches with
  | start => exact harmless
  | answer answer _ ih => exact ih.2 answer

/-- The handler of a frame that is no login has no login left to make, wherever it is. -/
theorem inert_of_other {lib : JsonLib} {server : ChatServer} (traced : Traced lib server) {addr : Addr} {readMsg : MsgNode}
    {told : Ledger} {rest : Awaitable ChannelMessage} (task : (server.session addr).reader.task = some (readMsg, told, rest))
    (other : MessageId.enumCast readMsg.id ≠ some .loginRequest) : Inert lib (server.session addr).reader := by
  have harmless : Harmless rest := harmless_reaches (traced.suspended task) (handleMessage_harmless fun kind => absurd kind other)
  cases at_work : (server.session addr).reader <;> rw [at_work] at task <;> cases task <;> exact harmless

/-! ## A turn of such a handler -/

section Turn

variable {addr : Addr} {server : ChatServer} {rest : Awaitable ChannelMessage}

/-- The login of every session is as it was. -/
def SameLogins (before after : ChatServer) : Prop := ∀ addr,
  (after.session addr).uid = (before.session addr).uid ∧
    (after.session addr).isAuthenticated = (before.session addr).isAuthenticated

theorem SameLogins.trans {before middle after : ChatServer} (first : SameLogins before middle)
    (second : SameLogins middle after) : SameLogins before after :=
  fun addr => ⟨(second addr).1.trans (first addr).1, (second addr).2.trans (first addr).2⟩

theorem sameLogins_modify (server : ChatServer) (addr : Addr) {change : Session → Session}
    (uid : (change (server.session addr)).uid = (server.session addr).uid)
    (isAuthenticated : (change (server.session addr)).isAuthenticated = (server.session addr).isAuthenticated) :
    SameLogins server (server.modify addr change) := by
  intro other
  by_cases same : other = addr
  · subst same
    rw [ChatServer.modify_session_self]
    exact ⟨uid, isAuthenticated⟩
  · rw [ChatServer.modify_session_other _ _ same]
    exact ⟨rfl, rfl⟩

theorem sameLogins_setReader (server : ChatServer) (addr : Addr) (reader : Reader) :
    SameLogins server (server.setReader addr reader) := sameLogins_modify server addr rfl rfl

theorem sameLogins_stop (server : ChatServer) (addr : Addr) : SameLogins server (server.stop addr) := by
  have aside := cancelDeadline_aside (server.session addr)
  have left : SameLogins server (server.leave addr) := fun _ => ⟨rfl, rfl⟩
  exact left.trans (sameLogins_modify (server.leave addr) addr aside.uid aside.isAuthenticated)

theorem sameLogins_deliver (server : ChatServer) (addr : Addr) (msg : ChannelMessage) :
    SameLogins server (server.deliver addr msg) := by
  unfold ChatServer.deliver
  split
  · rename_i session sent
    have aside := trySend_aside sent
    have sentOff : SameLogins server (server.modify addr fun _ => session) :=
      sameLogins_modify server addr aside.uid aside.isAuthenticated
    exact sentOff
  · exact fun _ => ⟨rfl, rfl⟩

theorem execLocal_sameLogins {own : Addr} {op : Op} {answer : op.Res} {after : ChatServer} (harmless : ¬ LogsIn op)
    (answered : ChatServer.execLocal own op server = some (answer, after)) : SameLogins server after := by
  cases op <;> simp only [ChatServer.execLocal, Option.some.injEq, Prod.mk.injEq, reduceCtorEq] at answered
  case setUid uid => exact absurd (.setUid uid) harmless
  case markAuthenticated => exact absurd .markAuthenticated harmless
  case deliver target msg =>
    rw [← answered.2]
    exact sameLogins_deliver server target msg
  all_goals
    rw [← answered.2]
    exact fun _ => ⟨rfl, rfl⟩

theorem settle_sameLogins (server : ChatServer) (addr : Addr) (readMsg : MsgNode) (told : Ledger)
    (rest : Awaitable ChannelMessage) : SameLogins server (ChatServer.settle addr readMsg (rest, server, told)) := by
  cases rest with
  | ret reply =>
    have sent := sameLogins_deliver (server.record (.replied addr readMsg told reply)) addr reply
    exact sent.trans (sameLogins_setReader _ addr .readingHeader)
  | throw error => exact (sameLogins_stop server addr).trans (sameLogins_setReader _ addr .finished)
  | call op next =>
    cases op
    case notify request => exact sameLogins_setReader server addr (.calling readMsg told request next)
    all_goals exact sameLogins_setReader server addr (.waiting readMsg told _ next)

/-- A handler leaves the login of every other session as it is. -/
theorem runHandler_login (server : ChatServer) {own : Addr} (readMsg : MsgNode) (told : Ledger)
    (rest : Awaitable ChannelMessage) (different : addr ≠ own) :
    ((server.runHandler own readMsg told rest).session addr).uid = (server.session addr).uid ∧
      ((server.runHandler own readMsg told rest).session addr).isAuthenticated =
        (server.session addr).isAuthenticated := by
  have calm := advance_calm own server told rest
  unfold ChatServer.runHandler
  generalize rest.advance (ChatServer.execRecorded own) (server, told) = stopped at calm ⊢
  obtain ⟨left, reached, ledger⟩ := stopped
  have settled := settle_sameLogins reached own readMsg ledger left addr
  exact ⟨settled.1.trans (calm.uid addr different), settled.2.trans (calm.isAuthenticated addr different)⟩

theorem runHandler_inert (lib : JsonLib) (server : ChatServer) (addr : Addr) (readMsg : MsgNode) (told : Ledger)
    (harmless : Harmless rest) : SameLogins server (server.runHandler addr readMsg told rest) ∧
      Inert lib ((server.runHandler addr readMsg told rest).session addr).reader := by
  have answers : ∀ op (state : ChatServer × Ledger) answer after, ¬ LogsIn op →
      ChatServer.execRecorded addr op state = some (answer, after) → SameLogins server state.1 →
      SameLogins server after.1 := by
    intro op state answer after harmless answered before
    obtain ⟨pair, done, same⟩ := Option.map_eq_some_iff.mp answered
    obtain ⟨found, reached⟩ := pair
    cases same
    exact before.trans (execLocal_sameLogins harmless done)
  have start : SameLogins server (server, told).1 := fun _ => ⟨rfl, rfl⟩
  have ran := Coroutine.advance_preserves (ChatServer.execRecorded addr) answers harmless start
  have left := Coroutine.advance_asksOnly (ChatServer.execRecorded addr) harmless (server, told)
  unfold ChatServer.runHandler
  generalize rest.advance (ChatServer.execRecorded addr) (server, told) = stopped at ran left ⊢
  obtain ⟨rest, reached, ledger⟩ := stopped
  refine ⟨ran.trans (settle_sameLogins reached addr readMsg ledger rest), ?_⟩
  have reading : ∀ (after : ChatServer) reader, Inert lib reader →
      Inert lib ((after.setReader addr reader).session addr).reader := by
    intro after reader inert
    rw [setReader_self]
    exact inert
  cases rest with
  | ret reply => exact reading ((reached.record (.replied addr readMsg ledger reply)).deliver addr reply) .readingHeader trivial
  | throw error => exact reading (reached.stop addr) .finished trivial
  | call op next =>
    cases op
    case notify request => exact reading reached (.calling readMsg ledger request next) left
    all_goals exact reading reached (.waiting readMsg ledger _ next) left

end Turn

/-! ## The invariant -/

/-- Behind a header that was read, and no body, there is nothing to parse. -/
theorem bodyText_of_header {front : Bytes} (long : front.length = prefixLen) {node : MsgNode}
    (data : node.data = (({} : MsgNode).write 0 front).data) : node.bodyText = [] := by
  have fits : front.length ≤ (List.replicate dataSize (0 : UInt8)).length := by
    rw [long, List.length_replicate]
    decide
  have blank : node.data = front ++ (List.replicate dataSize 0).drop front.length := data.trans (memcpy_start fits)
  have zeros : ∀ pad, cString (List.replicate pad 0) = [] := cString_pad (List.forall_mem_nil _)
  rw [MsgNode.bodyText, blank, List.drop_left' long, List.drop_replicate]
  exact zeros _

/-- The reader of a stopped session has nothing in hand that makes a login. -/
structure Ended (lib : JsonLib) (server : ChatServer) : Prop where
  kept : ∀ addr, HeaderKept (server.session addr).reader
  inert : ∀ addr, (server.session addr).stopped = true → Inert lib (server.session addr).reader

/-- The condition on a step: where it closes a connection, from the deadline or from the writer, the
    reader has nothing in hand that makes a login. -/
def ClosesInert (lib : JsonLib) (server : ChatServer) : Act → Prop
  | .resumeDeadline addr => (server.session addr).loginDeadline = .expired →
      (server.session addr).isAuthenticated = false → Inert lib (server.session addr).reader
  | .resumeWriter addr => ∀ out, (server.session addr).writer = .written out → out.closeAfterSend = true →
      Inert lib (server.session addr).reader
  | .writeFailed addr => Inert lib (server.session addr).reader
  | _ => True

namespace Ended

variable {lib : JsonLib} {server : ChatServer}

theorem modify (ended : Ended lib server) (addr : Addr) {change : Session → Session}
    (kept : HeaderKept (change (server.session addr)).reader)
    (inert : (change (server.session addr)).stopped = true → Inert lib (change (server.session addr)).reader) :
    Ended lib (server.modify addr change) := by
  constructor
  · intro other
    by_cases same : other = addr
    · subst same
      rw [ChatServer.modify_session_self]
      exact kept
    · rw [ChatServer.modify_session_other _ _ same]
      exact ended.kept other
  · intro other
    by_cases same : other = addr
    · subst same
      rw [ChatServer.modify_session_self]
      exact inert
    · rw [ChatServer.modify_session_other _ _ same]
      exact ended.inert other

theorem aside (ended : Ended lib server) (addr : Addr) {change : Session → Session}
    (aside : Aside (server.session addr) (change (server.session addr))) : Ended lib (server.modify addr change) := by
  apply ended.modify addr
  · rw [aside.reader]
    exact ended.kept addr
  · rw [aside.reader, aside.stopped]
    exact ended.inert addr

theorem setReader (ended : Ended lib server) (addr : Addr) {reader : Reader} (kept : HeaderKept reader)
    (inert : (server.session addr).stopped = true → Inert lib reader) : Ended lib (server.setReader addr reader) :=
  ended.modify addr kept inert

theorem setWriter (ended : Ended lib server) (addr : Addr) (writer : Writer) : Ended lib (server.setWriter addr writer) :=
  ended.aside addr ⟨rfl, rfl, rfl, rfl, rfl, rfl⟩

theorem setDeadline (ended : Ended lib server) (addr : Addr) (deadline : Deadline) :
    Ended lib (server.setDeadline addr deadline) := ended.aside addr ⟨rfl, rfl, rfl, rfl, rfl, rfl⟩

theorem deliver (ended : Ended lib server) (addr : Addr) (msg : ChannelMessage) : Ended lib (server.deliver addr msg) := by
  unfold ChatServer.deliver
  split
  · rename_i session sent
    have sentOff : Ended lib (server.modify addr fun _ => session) := ended.aside addr (trySend_aside sent)
    exact ⟨sentOff.kept, sentOff.inert⟩
  · exact ⟨ended.kept, ended.inert⟩

theorem stop (ended : Ended lib server) (addr : Addr) (inert : Inert lib (server.session addr).reader) :
    Ended lib (server.stop addr) := by
  have reader := (cancelDeadline_aside (server.session addr)).reader
  have left : Ended lib (server.leave addr) := ⟨ended.kept, ended.inert⟩
  apply left.modify addr
  · exact reader ▸ ended.kept addr
  · intro _
    exact reader ▸ inert

/-- The reader closes the connection itself only where it is about to end. -/
theorem quit (ended : Ended lib server) (addr : Addr) (reading : (server.session addr).reader.isReading) :
    Ended lib ((server.stop addr).setReader addr .finished) := by
  exact (ended.stop addr (inert_of_reading lib reading)).setReader addr trivial fun _ => trivial

theorem read (empty : lib.parse [] = none) (ended : Ended lib server) (addr : Addr) {session : Session}
    (done : ChatServer.readDone (server.session addr) = some session) :
    Ended lib (server.modify addr fun _ => session) := by
  have kept := ended.kept addr
  unfold ChatServer.readDone at done
  split at done
  · split at done <;> cases done
    rename_i ready
    apply ended.modify addr
    · refine ⟨(server.session addr).incoming.take prefixLen, ?_, rfl⟩
      rw [List.length_take]
      exact Nat.min_eq_left ready.2
    · exact fun _ => trivial
  · rename_i readMsg reading
    dsimp only at done
    split at done <;> cases done
    rename_i ready
    rw [reading] at kept
    obtain ⟨front, long, decoded⟩ := kept
    apply ended.modify addr
    · trivial
    intro stopped
    -- only a body of no bytes can still be read
    have nothing : readMsg.bodyLength.toInt.toNat = 0 := by
      rcases ready.1 with opened | nothing
      · rw [show (server.session addr).stopped = true from stopped] at opened
        cases opened
      · exact nothing
    have data : (readMsg.write prefixLen ((server.session addr).incoming.take readMsg.bodyLength.toInt.toNat)).data =
        (({} : MsgNode).write 0 front).data := by
      rw [MsgNode.write_data, nothing, List.take_zero, ← decodeHeader_data decoded]
      simp [memcpy]
    apply handleMessage_harmless
    intro _
    rw [bodyText_of_header long data]
    exact empty
  · cases done

theorem decoded (ended : Ended lib server) (addr : Addr) {readMsg header : MsgNode}
    (reading : (server.session addr).reader = .headerRead readMsg) (decoded : readMsg.decodeHeader = (true, header)) :
    Ended lib (server.setReader addr (.readingBody header)) := by
  have kept := ended.kept addr
  rw [reading] at kept
  obtain ⟨front, long, same⟩ := kept
  apply ended.setReader addr
  · refine ⟨front, long, ?_⟩
    rw [← same]
    exact decoded
  · exact fun _ => trivial

theorem harmless (ended : Ended lib server) {addr : Addr} {readMsg : MsgNode} {told : Ledger}
    {rest : Awaitable ChannelMessage} {ready : ChatServer} (stopped : (server.session addr).stopped = true)
    (resumes : Resumes lib server addr readMsg told rest ready) : Harmless rest := by
  have inert := ended.inert addr stopped
  cases resumes with
  | handed idle reading =>
    rw [reading] at inert
    exact inert
  | resumed idle reading =>
    rw [reading] at inert
    exact inert
  | returned answer blocked reading =>
    rw [reading] at inert
    exact inert.2 answer

theorem handler (ended : Ended lib server) {addr : Addr} {readMsg : MsgNode} {told : Ledger}
    {rest : Awaitable ChannelMessage} {ready : ChatServer} (resumes : Resumes lib server addr readMsg told rest ready) :
    Ended lib (ready.runHandler addr readMsg told rest) := by
  have same : ready.session = server.session := by
    cases resumes <;> rfl
  have harmless := fun stopped => ended.harmless stopped resumes
  obtain ⟨undisturbed, ending⟩ := runHandler_turn ready addr readMsg told rest
  have quiet : Harmless rest → Inert lib ((ready.runHandler addr readMsg told rest).session addr).reader :=
    fun harmless => (runHandler_inert lib ready addr readMsg told harmless).2
  generalize ready.runHandler addr readMsg told rest = after at undisturbed ending quiet
  have others : ∀ other, other ≠ addr → (after.session other).reader = (server.session other).reader ∧
      (after.session other).stopped = (server.session other).stopped := by
    intro other different
    rw [← same]
    exact ⟨undisturbed.reader other different, undisturbed.stopped other different⟩
  constructor
  · intro other
    by_cases here : other = addr
    · subst here
      cases ending with
      | replied _ _ _ reading => rw [reading]; trivial
      | quit reading => rw [reading]; trivial
      | waiting _ _ _ reading => rw [reading]; trivial
      | calling _ _ _ reading => rw [reading]; trivial
    · rw [(others other here).1]
      exact ended.kept other
  · intro other stopped
    by_cases here : other = addr
    · subst here
      have before : ((after.session other).stopped = (ready.session other).stopped) →
          Inert lib (after.session other).reader := by
        intro kept
        rw [kept, same] at stopped
        exact quiet (harmless stopped)
      cases ending with
      | replied _ _ _ _ kept => exact before kept
      | quit reading => rw [reading]; trivial
      | waiting _ _ _ _ kept => exact before kept
      | calling _ _ _ _ kept => exact before kept
    · rw [(others other here).1]
      rw [(others other here).2] at stopped
      exact ended.inert other stopped

theorem rule (empty : lib.parse [] = none) : ActRule lib (Ended lib) (fun _ => True) (ClosesInert lib) where
  deliver _ addr msg _ ended := ended.deliver addr msg
  start server addr uid _ _ _ _ ended := by
    have started : Ended lib (server.modify addr fun _ => { uid, started := true }) := by
      apply ended.modify addr
      · trivial
      · exact fun _ => trivial
    exact ⟨started.kept, started.inert⟩
  send _ addr _ _ _ _ ended := ended.modify addr (ended.kept addr) (ended.inert addr)
  begin _ addr _ _ _ _ ended := ended.setReader addr trivial fun _ => trivial
  read _ addr session _ _ done ended := ended.read empty addr done
  decoded _ addr _ _ _ _ reading decoded ended := ended.decoded addr reading decoded
  quit _ addr _ _ _ quits ended := ended.quit addr quits.reading
  answer server addr readMsg ledger op next oracle _ reading ended := by
    apply ended.setReader addr
    · trivial
    · intro stopped
      have inert := ended.inert addr stopped
      rw [reading] at inert
      exact inert.2 (oracle op)
  post _ _ ended := ⟨ended.kept, ended.inert⟩
  handler _ _ _ _ _ _ _ _ _ resumes ended := ended.handler resumes
  beginWriter _ addr _ _ _ _ ended := ended.aside addr (receive_aside _)
  write _ addr out _ _ _ ended := ended.setWriter addr (.writing out)
  written _ addr out _ _ _ _ ended :=
    have sent := ended.setWriter addr (.written out)
    ⟨sent.kept, sent.inert⟩
  writeFailed _ addr _ closes _ _ ended := (ended.stop addr closes).setWriter addr .finished
  close _ addr out closes _ written closing ended := (ended.stop addr (closes out written closing)).setWriter addr .finished
  receive _ addr _ _ _ _ _ ended := ended.aside addr (receive_aside _)
  beginDeadline _ addr _ _ _ _ ended := ended.setDeadline addr .armed
  expire _ addr _ _ _ ended := ended.setDeadline addr .expired
  aborted _ addr _ _ _ ended := ended.setDeadline addr .finished
  expired _ addr _ _ _ _ ended := ended.setDeadline addr .finished
  timeout _ addr closes _ expired stranger ended := (ended.stop addr (closes expired stranger)).setDeadline addr .finished

theorem fresh (lib : JsonLib) (name : String) : Ended lib (.fresh name) where
  kept _ := trivial
  inert _ stopped := by cases stopped

end Ended

/-! ## What a step gives a stopped session -/

/-- A step gives a session a login: its uid or its flag changes, or Redis executes the SET of its login server. -/
def Gains (before : ChatServer) (act : Act) (after : ChatServer) (addr : Addr) : Prop :=
  (after.session addr).uid ≠ (before.session addr).uid ∨
  (after.session addr).isAuthenticated ≠ (before.session addr).isAuthenticated ∨
  ∃ oracle readMsg told uid name next, act = .answer addr oracle ∧
    (before.session addr).reader = .waiting readMsg told (.redisSet (userLoginServerKey uid) name) next

/-- In a single step, a session that is in use only gets another login from its own handler. -/
theorem sameLogin_rule (lib : JsonLib) (start : ChatServer) (addr : Addr) (used : (start.session addr).started = true)
    (stopped : (start.session addr).stopped = true) (ended : Ended lib start) :
    StepRule lib (fun server => (server.session addr).uid = (start.session addr).uid ∧
      (server.session addr).isAuthenticated = (start.session addr).isAuthenticated) (fun _ => True)
      (fun server => server = start) := by
  have moved : ∀ {server after : ChatServer}, SameLogins server after →
      (server.session addr).uid = (start.session addr).uid ∧
        (server.session addr).isAuthenticated = (start.session addr).isAuthenticated →
      (after.session addr).uid = (start.session addr).uid ∧
        (after.session addr).isAuthenticated = (start.session addr).isAuthenticated :=
    fun same before => ⟨(same addr).1.trans before.1, (same addr).2.trans before.2⟩
  exact {
    aside := fun server other change aside before => moved (sameLogins_modify server other aside.uid aside.isAuthenticated) before
    plain := fun _ _ _ before => before
    start := by
      intro server other uid here _ _ fresh before
      subst here
      have different : addr ≠ other := by
        intro same
        rw [← same, used] at fresh
        cases fresh
      have kept : (server.start other uid).session addr = server.session addr := if_neg different
      rw [kept]
      exact before
    stop := fun server other _ _ before => moved (sameLogins_stop server other) before
    send := fun server other bytes _ _ _ before => moved (sameLogins_modify server other rfl rfl) before
    begin := fun server other _ _ _ _ before => moved (sameLogins_setReader server other _) before
    read := by
      intro server other session _ _ done before
      obtain ⟨_, _, uid, isAuthenticated⟩ := ChatServer.readDone_login done
      have same : SameLogins server (server.modify other fun _ => session) := sameLogins_modify server other uid isAuthenticated
      exact moved same before
    decoded := fun server other _ _ _ _ _ _ before => moved (sameLogins_setReader server other _) before
    quit := fun server other _ _ _ before =>
      moved ((sameLogins_stop server other).trans (sameLogins_setReader _ other _)) before
    answer := fun server other _ _ _ _ _ _ _ before => moved (sameLogins_setReader server other _) before
    post := fun _ _ before => before
    handler := by
      intro server other readMsg told rest ready here resumes before
      subst here
      have session : ready.session = server.session := by
        cases resumes <;> rfl
      by_cases own : addr = other
      · subst own
        have harmless : Harmless rest := ended.harmless stopped resumes
        have same := (runHandler_inert lib ready addr readMsg told harmless).1
        rw [← session] at before
        exact ⟨(same addr).1.trans (congrArg Session.uid (congrFun session addr)),
          (same addr).2.trans (congrArg Session.isAuthenticated (congrFun session addr))⟩
      · have calm := runHandler_login ready readMsg told rest own
        exact ⟨calm.1.trans (congrArg Session.uid (congrFun session addr)),
          calm.2.trans (congrArg Session.isAuthenticated (congrFun session addr))⟩ }

theorem ended_gains {lib : JsonLib} {server after : ChatServer} {act : Act} (ended : Ended lib server)
    (taken : server.step lib act = some after) {addr : Addr} (used : (server.session addr).started = true)
    (stopped : (server.session addr).stopped = true) : ¬ Gains server act after addr := by
  have same := (sameLogin_rule lib server addr used stopped ended).step rfl (fun _ _ _ => trivial) taken ⟨rfl, rfl⟩
  rintro (uid | isAuthenticated | ⟨oracle, readMsg, told, uid, name, next, _, reading⟩)
  · exact uid same.1
  · exact isAuthenticated same.2
  · have inert := ended.inert addr stopped
    rw [reading] at inert
    exact inert.1 (.route uid name)

theorem stopped_session_gains_nothing (lib : JsonLib) (empty : lib.parse [] = none) (name : String) (acts : List Act)
    (server : ChatServer) (run : Transition.Run (ChatServer.step lib) (.fresh name) acts server)
    (closes : Transition.Meets (ChatServer.step lib) (ClosesInert lib) (.fresh name) acts)
    (act : Act) (after : ChatServer) (taken : server.step lib act = some after) (addr : Addr)
    (used : (server.session addr).started = true) (stopped : (server.session addr).stopped = true) :
    ¬ Gains server act after addr := by
  have keeps : ∀ server act after, Ended lib server → ClosesInert lib server act → server.step lib act = some after →
      Ended lib after := fun server act after ended closes taken =>
    (Ended.rule empty).step closes (fun _ _ _ => trivial) taken ended
  have ended : Ended lib server := run.invariant_of_meets keeps closes (Ended.fresh lib name)
  exact ended_gains ended taken used stopped

/-- The reader has no login in hand. -/
def handlesNoLogin (reader : Reader) : Bool :=
  reader.isReading || reader.task.any fun task => MessageId.enumCast task.1.id ≠ some .loginRequest

/-- A step closes a connection only where its reader has no login in hand. -/
def closesNoLogin (server : ChatServer) : Act → Bool
  | .resumeDeadline addr | .resumeWriter addr | .writeFailed addr => handlesNoLogin (server.session addr).reader
  | _ => true

theorem inert_of_handlesNoLogin {lib : JsonLib} {server : ChatServer} (traced : Traced lib server) {addr : Addr}
    (handles : handlesNoLogin (server.session addr).reader = true) : Inert lib (server.session addr).reader := by
  rcases Bool.or_eq_true_iff.mp handles with reading | other
  · exact inert_of_reading lib reading
  · obtain ⟨⟨readMsg, told, rest⟩, task, different⟩ := (Option.any_eq_true _ _).mp other
    exact inert_of_other traced task (of_decide_eq_true different)

theorem closesInert_of_closesNoLogin (lib : JsonLib) (server : ChatServer) (act : Act) (traced : Traced lib server)
    (closes : closesNoLogin server act = true) : ClosesInert lib server act := by
  cases act with
  | resumeDeadline addr => exact fun _ _ => inert_of_handlesNoLogin traced closes
  | resumeWriter addr => exact fun _ _ _ => inert_of_handlesNoLogin traced closes
  | writeFailed addr => exact inert_of_handlesNoLogin traced closes
  | _ => trivial

/-- The user logs in and searches. While the handler of the search waits for Redis, the login reply cannot be written, which
    stops the session; then Redis answers. -/
def searchesLate : List Act :=
  [.accept 1 0, .startReader 1, .startWriter 1,
    .send 1 (loginFrame ++ (MsgNode.ofText MessageId.searchUserRequest.wire searchText).wire)] ++ readFrame ++
    (List.replicate 8 [.answer 1 willing, .resumeReader 1]).flatten ++ [.resumeWriter 1] ++ readFrame ++ [.writeFailed 1, .answer 1 willing]

theorem stopped_session_gains_nothing_search : ∃ server after,
    Transition.Run (ChatServer.step loginLib) (.fresh "chat_server1") searchesLate server ∧
    server.step loginLib (.resumeReader 1) = some after ∧ (server.session 1).stopped = true ∧
    ¬ Gains server (.resumeReader 1) after 1 := by
  have possible : ((Transition.runs (ChatServer.step loginLib) (.fresh "chat_server1") searchesLate).any fun server =>
      decide ((server.session 1).started = true ∧ (server.session 1).stopped = true ∧
        (server.step loginLib (.resumeReader 1)).isSome = true)) = true := by decide +kernel
  have closes : Transition.Meets (ChatServer.step loginLib) (fun server act => closesNoLogin server act = true)
      (.fresh "chat_server1") searchesLate := by decide +kernel
  obtain ⟨server, reached, found⟩ := (Option.any_eq_true _ _).mp possible
  obtain ⟨used, stopped, next⟩ := of_decide_eq_true found
  obtain ⟨after, taken⟩ := Option.isSome_iff_exists.mp next
  have run := Transition.run_iff_runs.mpr reached
  refine ⟨server, after, run, taken, stopped, ?_⟩
  exact stopped_session_gains_nothing loginLib (by decide +kernel) _ _ server run
    (closes.mono_of_invariant step_traced (closesInert_of_closesNoLogin loginLib) (Traced.fresh loginLib _)) _ after taken 1 used stopped

/-- The ten seconds are over while the token is looked up. -/
def late : List Act :=
  [.accept 1 0, .startReader 1, .startDeadline 1, .send 1 loginFrame] ++ readFrame ++ [.expire 1, .resumeDeadline 1] ++
    (List.replicate 4 [.answer 1 willing, .resumeReader 1]).flatten ++ [.answer 1 willing]

theorem stopped_session_logs_in :
    ¬ ∀ (lib : JsonLib), lib.parse [] = none → ∀ (name : String) (acts : List Act) (server : ChatServer),
      Transition.Run (ChatServer.step lib) (.fresh name) acts server → ∀ (act : Act) (after : ChatServer),
      server.step lib act = some after → ∀ addr, (server.session addr).started = true →
      (server.session addr).stopped = true → ¬ Gains server act after addr := by
  intro claim
  have possible : ((Transition.runs (ChatServer.step loginLib) (.fresh "chat_server1") late).any fun server =>
      decide ((server.session 1).started = true ∧ (server.session 1).stopped = true ∧ (server.session 1).uid = 0) &&
        (server.step loginLib (.resumeReader 1)).any fun after =>
          decide ((after.session 1).uid = 1)) = true := by decide +kernel
  obtain ⟨server, reached, found⟩ := (Option.any_eq_true _ _).mp possible
  obtain ⟨before, next⟩ := (Bool.and_eq_true _ _).mp found
  obtain ⟨used, stopped, unset⟩ := of_decide_eq_true before
  obtain ⟨after, taken, set⟩ := (Option.any_eq_true _ _).mp next
  have run := Transition.run_iff_runs.mpr reached
  apply claim loginLib (by decide +kernel) _ _ server run _ after taken 1 used stopped
  left
  rw [of_decide_eq_true set, unset]
  decide

end ChatProof
