import ChatProject.Chat.Footprint
import ChatProject.Server.Registry

/-! Whom `get_participant` finds. -/

namespace ChatProof

open ChatModel

/-! ## A login sets the uid and marks the session in one go -/

def isSetUid : Op → Bool
  | .setUid _ => true
  | _ => false

/-- A session whose uid was set is marked as logged in by the very next thing its handler does. -/
def Marks {α : Type} (pending : Bool) : Awaitable α → Prop
  | .ret _ | .throw _ => pending = false
  | .call op next => (pending = true → op = .markAuthenticated) ∧ ∀ answer, Marks (isSetUid op) (next answer)

theorem marks_call {α : Type} {op : Op} {next : op.Res → Awaitable α}
    (marks : ∀ answer, Marks (isSetUid op) (next answer)) : Marks false (.call op next) := by
  refine ⟨?_, marks⟩
  intro pending
  cases pending

theorem marks_bind {α β : Type} {first : Awaitable α} {rest : α → Awaitable β}
    (plain : first.AsksOnly fun op => isSetUid op = false) (marks : ∀ value, Marks false (rest value)) :
    Marks false (first.bind rest) := by
  induction first with
  | ret value => exact marks value
  | throw error => rfl
  | call op next ih =>
    apply marks_call
    intro answer
    rw [plain.1]
    exact ih answer (plain.2 answer)

theorem marks_of_plain {α : Type} {handler : Awaitable α}
    (plain : handler.AsksOnly fun op => isSetUid op = false) : Marks false handler := by
  induction handler with
  | ret value => rfl
  | throw error => rfl
  | call op next ih =>
    apply marks_call
    intro answer
    rw [plain.1]
    exact ih answer (plain.2 answer)

theorem marks_catchWith {α : Type} {handler : Awaitable α} {recover : Failure → α} {pending : Bool}
    (marks : Marks pending handler) : Marks pending (handler.catchWith fun error => .ret (recover error)) := by
  induction handler generalizing pending with
  | ret value => exact marks
  | throw error => exact marks
  | call op next ih => exact ⟨marks.1, fun answer => ih answer (marks.2 answer)⟩

theorem login_marks (lib : JsonLib) (msg : MsgNode) : Marks false (login lib msg) := by
  have count : updateLoginCount.AsksOnly fun op => isSetUid op = false :=
    updateLoginCount_asksOnly rfl rfl fun _ _ => rfl
  have listed : ∀ {α : Type} (op : Op) (same : op.Res = Except Failure α), isSetUid op = false →
      ∀ rest : α → Awaitable ChannelMessage, (∀ value, Marks false (rest value)) →
        Marks false ((Coroutine.call op fun answer => Coroutine.ofExcept (same ▸ answer)).bind rest) := by
    intro α op same plain rest marks
    exact marks_bind ⟨plain, fun _ => Coroutine.asksOnly_ofExcept _⟩ marks
  unfold login
  cases parseJson lib UserLoginRequest.fromJson msg.bodyText with
  | none => rfl
  | some request =>
    apply marks_call
    intro token
    cases token with
    | none => rfl
    | some token =>
      change Marks false (if token ≠ request.token then _ else _)
      split
      · rfl
      · apply marks_bind (searchUserByType_asksOnly lib _ rfl rfl fun _ => rfl)
        intro userInfo
        cases userInfo with
        | none => rfl
        | some userInfo =>
          apply marks_bind count
          intro _
          apply marks_call
          intro _
          refine ⟨fun _ => rfl, ?_⟩
          intro _
          apply marks_call
          intro name
          apply marks_call
          intro _
          exact listed (.getFriendApplies request.uid) rfl rfl _ fun applyList =>
            listed (.getFriends request.uid) rfl rfl _ fun friendList => rfl

theorem handleMessage_marks (lib : JsonLib) (msg : MsgNode) : Marks false (handleMessage lib msg) := by
  have notifying : AllowsNotifying fun op => isSetUid op = false :=
    ⟨rfl, fun _ => rfl, rfl, fun _ => rfl, fun _ _ => rfl, fun _ => rfl⟩
  apply marks_call
  intro isAuthenticated
  change Marks false (if isAuthenticated = false ∧ msg.id ≠ MessageId.loginRequest.wire then _ else _)
  split
  · rfl
  · cases MessageId.enumCast msg.id with
    | none => rfl
    | some messageId =>
      cases messageId
      case loginRequest => exact marks_catchWith (login_marks lib msg)
      case searchUserRequest =>
        exact marks_catchWith (marks_of_plain (searchUser_asksOnly lib msg (fun _ => rfl) (fun _ => rfl)
          fun _ _ => rfl))
      case addFriendRequest =>
        exact marks_catchWith (marks_of_plain (addFriend_asksOnly lib msg notifying (fun _ _ => rfl) fun _ => rfl))
      case authFriendRequest =>
        exact marks_catchWith (marks_of_plain (authFriend_asksOnly lib msg notifying fun _ _ => rfl))
      case textChatMsgReq => exact marks_catchWith (marks_of_plain (textChatMsg_asksOnly lib msg notifying))
      all_goals rfl

def pendingMark : Ledger → Bool
  | [] => false
  | ⟨op, _⟩ :: _ => isSetUid op

theorem Reaches.marks {lib : JsonLib} {readMsg : MsgNode} {ledger : Ledger} {rest : Awaitable ChannelMessage}
    (reaches : Reaches lib readMsg ledger rest) : Marks (pendingMark ledger) rest := by
  induction reaches with
  | start => exact handleMessage_marks lib readMsg
  | answer answer _ ih => exact ih.2 answer

/-! ## Sessions that are not logged in keep the uid they were born with -/

section Stray

variable {u : Int64} {server after : ChatServer}

/-- Not both: the session lives, is not logged in, and carries `u` all the same. -/
def CleanAt (u : Int64) (server : ChatServer) (addr : Addr) : Prop :=
  (server.session addr).started = true → (server.session addr).isAuthenticated = false →
    (server.session addr).uid ≠ u

def Clean (u : Int64) (server : ChatServer) : Prop := ∀ addr, CleanAt u server addr

theorem CleanAt.same {addr : Addr} (clean : CleanAt u server addr)
    (started : (after.session addr).started = (server.session addr).started)
    (isAuthenticated : (after.session addr).isAuthenticated = (server.session addr).isAuthenticated)
    (uid : (after.session addr).uid = (server.session addr).uid) : CleanAt u after addr := by
  unfold CleanAt
  rw [started, isAuthenticated, uid]
  exact clean

theorem execLocal_login {own : Addr} {op : Op} {answer : op.Res}
    (answered : ChatServer.execLocal own op server = some (answer, after)) (plain : isSetUid op = false)
    (unmarked : op ≠ .markAuthenticated) (addr : Addr) :
    (after.session addr).isAuthenticated = (server.session addr).isAuthenticated ∧
      (after.session addr).uid = (server.session addr).uid := by
  cases op <;> simp only [ChatServer.execLocal, Option.some.injEq, Prod.mk.injEq, reduceCtorEq] at answered
  case setUid uid => cases plain
  case markAuthenticated => exact absurd rfl unmarked
  case deliver target msg =>
    have calm : Calm (addr + 1) server (server.deliver target msg) := .deliver (addr + 1) target msg
    have different : addr ≠ addr + 1 := (Nat.succ_ne_self addr).symm
    rw [← answered.2]
    exact ⟨calm.isAuthenticated addr different, calm.uid addr different⟩
  all_goals
    rw [← answered.2]
    exact ⟨rfl, rfl⟩

/-- `pending` says that the handler of `own` has just set the uid. -/
theorem advance_clean (own : Addr) {pending : Bool} {ledger : Ledger} {rest : Awaitable ChannelMessage}
    (marks : Marks pending rest) (clean : ∀ addr, (pending = true → addr ≠ own) → CleanAt u server addr) :
    Clean u (rest.advance (ChatServer.execRecorded own) (server, ledger)).2.1 := by
  induction rest generalizing pending server ledger with
  | ret reply =>
    intro addr
    apply clean addr
    intro set
    rw [show pending = false from marks] at set
    cases set
  | throw error =>
    intro addr
    apply clean addr
    intro set
    rw [show pending = false from marks] at set
    cases set
  | call op next ih =>
    unfold Coroutine.advance ChatServer.execRecorded
    cases answered : ChatServer.execLocal own op server with
    | none =>
      intro addr
      apply clean addr
      intro set
      have marked := marks.1 set
      subst marked
      cases answered
    | some pair =>
      obtain ⟨answer, middle⟩ := pair
      have calm := Calm.execLocal answered
      apply ih answer (marks.2 answer)
      intro addr notSet
      by_cases here : addr = own
      · subst here
        have plain : isSetUid op = false := by
          cases set : isSetUid op with
          | false => rfl
          | true => exact absurd rfl (notSet set)
        by_cases marked : op = .markAuthenticated
        · subst marked
          cases answered
          intro _ unauthenticated
          have authenticated : ((server.markAuthenticated addr).session addr).isAuthenticated = true := by
            unfold ChatServer.markAuthenticated
            rw [ChatServer.modify_session_self]
          rw [authenticated] at unauthenticated
          cases unauthenticated
        · have same := execLocal_login answered plain marked addr
          have before : CleanAt u server addr := by
            apply clean addr
            intro set
            exact absurd (marks.1 set) marked
          exact before.same (calm.started addr) same.1 same.2
      · have before : CleanAt u server addr := clean addr fun _ => here
        exact before.same (calm.started addr) (calm.isAuthenticated addr here) (calm.uid addr here)

namespace Clean

theorem same (clean : Clean u server) (started : ∀ addr, (after.session addr).started = (server.session addr).started)
    (isAuthenticated : ∀ addr, (after.session addr).isAuthenticated = (server.session addr).isAuthenticated)
    (uid : ∀ addr, (after.session addr).uid = (server.session addr).uid) : Clean u after :=
  fun addr => (clean addr).same (started addr) (isAuthenticated addr) (uid addr)

theorem modify (clean : Clean u server) (addr : Addr) {change : Session → Session}
    (kept : (change (server.session addr)).started = (server.session addr).started ∧
      (change (server.session addr)).uid = (server.session addr).uid ∧
      (change (server.session addr)).isAuthenticated = (server.session addr).isAuthenticated) :
    Clean u (server.modify addr change) := by
  intro other
  by_cases here : other = addr
  · subst here
    apply (clean other).same
    all_goals rw [ChatServer.modify_session_self]
    · exact kept.1
    · exact kept.2.2
    · exact kept.2.1
  · apply (clean other).same
    all_goals rw [ChatServer.modify_session_other _ _ here]

theorem setReader (clean : Clean u server) (addr : Addr) (reader : Reader) :
    Clean u (server.setReader addr reader) := clean.modify addr ⟨rfl, rfl, rfl⟩

theorem stop (clean : Clean u server) (addr : Addr) : Clean u (server.stop addr) := by
  have left : Clean u (server.leave addr) := clean
  have aside := cancelDeadline_aside (server.session addr)
  exact left.modify addr ⟨aside.started, aside.uid, aside.isAuthenticated⟩

theorem deliver (clean : Clean u server) (addr : Addr) (msg : ChannelMessage) :
    Clean u (server.deliver addr msg) := by
  intro other
  have calm : Calm (other + 1) server (server.deliver addr msg) := .deliver (other + 1) addr msg
  have different : other ≠ other + 1 := (Nat.succ_ne_self other).symm
  exact (clean other).same (calm.started other) (calm.isAuthenticated other different) (calm.uid other different)

theorem runHandler (clean : Clean u server) (addr : Addr) {readMsg : MsgNode} {ledger : Ledger}
    {rest : Awaitable ChannelMessage} (marks : Marks false rest) :
    Clean u (server.runHandler addr readMsg ledger rest) := by
  have advanced : Clean u (rest.advance (ChatServer.execRecorded addr) (server, ledger)).2.1 :=
    advance_clean addr marks fun other _ => clean other
  unfold ChatServer.runHandler
  generalize rest.advance (ChatServer.execRecorded addr) (server, ledger) = stopped at advanced ⊢
  obtain ⟨left, reached, told⟩ := stopped
  cases left with
  | ret reply =>
    have recorded : Clean u (reached.record (.replied addr readMsg told reply)) := advanced
    exact (recorded.deliver addr reply).setReader addr .readingHeader
  | throw error => exact (advanced.stop addr).setReader addr .finished
  | call op next =>
    cases op
    case notify request => exact advanced.setReader addr (.calling readMsg told request next)
    all_goals exact advanced.setReader addr (.waiting readMsg told _ next)

end Clean

theorem marks_resumes {lib : JsonLib} {addr : Addr} {readMsg : MsgNode} {ledger : Ledger}
    {rest : Awaitable ChannelMessage} {ready : ChatServer} (traced : Traced lib server)
    (resumes : Resumes lib server addr readMsg ledger rest ready) : Marks false rest := by
  have marks := (traced.resumes resumes).marks
  cases resumes with
  | handed idle reading => exact marks
  | resumed idle reading =>
    have proper := traced.proper addr
    rw [reading] at proper
    obtain ⟨op, answer, told, same, external⟩ := proper
    subst same
    have plain : isSetUid op = false := by
      cases op <;> first | rfl | cases external
    rw [pendingMark, plain] at marks
    exact marks
  | returned answer blocked reading => exact marks

theorem clean_rule (lib : JsonLib) (u : Int64) : StepRule lib (Clean u) (· ≠ u) (Traced lib) where
  aside server addr change aside clean := clean.modify addr ⟨aside.started, aside.uid, aside.isAuthenticated⟩
  plain server event _ clean := clean
  start server addr uid _ _ stray _ clean := by
    intro other
    by_cases here : other = addr
    · subst here
      have session : (server.start other uid).session other = { uid, started := true } := if_pos rfl
      intro _ _
      rw [session]
      exact stray
    · have session : (server.start addr uid).session other = server.session other := if_neg here
      have before := clean other
      unfold CleanAt at before ⊢
      rw [session]
      exact before
  stop server addr _ _ clean := clean.stop addr
  send server addr bytes _ _ _ clean := clean.modify addr ⟨rfl, rfl, rfl⟩
  begin server addr _ _ _ _ clean := clean.setReader addr .readingHeader
  read server addr session _ _ done clean := by
    have kept := ChatServer.readDone_login done
    exact clean.modify addr ⟨kept.1, kept.2.2.1, kept.2.2.2⟩
  decoded server addr readMsg header _ _ _ _ clean := clean.setReader addr (.readingBody header)
  quit server addr _ _ _ clean := (clean.stop addr).setReader addr .finished
  answer server addr readMsg ledger op next answer _ _ clean := clean.setReader addr _
  post server tasks clean := clean
  handler server addr readMsg ledger rest ready traced resumes clean := by
    have ready : Clean u ready := by
      cases resumes <;> exact clean
    exact ready.runHandler addr (marks_resumes traced resumes)

end Stray

/-! ## The lookup -/

/-- A started, not stopped session that is logged in as `uid`. -/
def LoggedIn (server : ChatServer) (uid : Int64) (addr : Addr) : Prop :=
  Live server addr ∧ (server.session addr).isAuthenticated = true ∧ (server.session addr).uid = uid

/-- `get_participant` finds somebody exactly when somebody is logged in, and only such a session. -/
def FindsLoggedIn (server : ChatServer) (uid : Int64) : Prop :=
  ((server.getParticipant uid).isSome = true ↔ ∃ addr, LoggedIn server uid addr) ∧
    ∀ addr, server.getParticipant uid = some addr → LoggedIn server uid addr

/-- Whoever carries the uid without being logged in comes behind somebody who is. -/
def StraysFollow (server : ChatServer) (uid : Int64) : Prop :=
  ∀ addr ∈ server.participants, (server.session addr).uid = uid → (server.session addr).isAuthenticated = false →
    ∃ earlier < addr, LoggedIn server uid earlier

theorem findsLoggedIn_iff {server : ChatServer} (registered : Registered server) (uid : Int64) :
    FindsLoggedIn server uid ↔ StraysFollow server uid := by
  have carries : ∀ addr, server.getParticipant uid = some addr ↔ addr ∈ server.participants ∧
      (server.session addr).uid = uid ∧ ∀ other ∈ server.participants, (server.session other).uid = uid → addr ≤ other := by
    intro addr
    have least : server.getParticipant uid = some addr ↔ addr ∈ server.participants ∧
        decide ((server.session addr).uid = uid) = true ∧
        ∀ other ∈ server.participants, decide ((server.session other).uid = uid) = true → addr ≤ other :=
      OrderedSet.first_eq_some
    simpa only [decide_eq_true_eq] using least
  constructor
  · rintro ⟨_, only⟩ addr member same unauthenticated
    cases found : server.getParticipant uid with
    | none =>
      have present : (server.getParticipant uid).isSome = true :=
        OrderedSet.first_isSome.mpr ⟨addr, member, decide_eq_true same⟩
      rw [found] at present
      cases present
    | some earlier =>
      have loggedIn := only earlier found
      have below := ((carries earlier).mp found).2.2 addr member same
      refine ⟨earlier, lt_of_le_of_ne below ?_, loggedIn⟩
      intro here
      subst here
      rw [loggedIn.2.1] at unauthenticated
      cases unauthenticated
  · intro follow
    have only : ∀ addr, server.getParticipant uid = some addr → LoggedIn server uid addr := by
      intro addr found
      obtain ⟨member, same, least⟩ := (carries addr).mp found
      refine ⟨(registered addr).mp member, ?_, same⟩
      cases authenticated : (server.session addr).isAuthenticated with
      | true => rfl
      | false =>
        obtain ⟨earlier, before, loggedIn⟩ := follow addr member same authenticated
        have notBefore := least earlier ((registered earlier).mpr loggedIn.1) loggedIn.2.2
        exact absurd before (not_lt.mpr notBefore)
    refine ⟨?_, only⟩
    constructor
    · intro some
      obtain ⟨addr, found⟩ := Option.isSome_iff_exists.mp some
      exact ⟨addr, only addr found⟩
    · rintro ⟨addr, loggedIn⟩
      exact OrderedSet.first_isSome.mpr ⟨addr, (registered addr).mpr loggedIn.1, decide_eq_true loggedIn.2.2⟩

/-- A run in which no session is born with this uid leaves no stray session that carries it. -/
theorem run_clean {lib : JsonLib} {name : String} {server : ChatServer} {acts : List Act} {u : Int64}
    (run : Transition.Run (ChatServer.step lib) (.fresh name) acts server)
    (strays : ∀ addr, .accept addr u ∉ acts) : Clean u server := by
  apply (clean_rule lib u).run step_traced _ run (Traced.fresh lib name)
  · intro addr started
    cases started
  · intro addr uid member same
    subst same
    exact strays addr member

theorem getParticipant_loggedIn (lib : JsonLib) (name : String) (acts : List Act) (server : ChatServer)
    (run : Transition.Run (ChatServer.step lib) (.fresh name) acts server) (uid : Int64) :
    (FindsLoggedIn server uid ↔ StraysFollow server uid) ∧
      ((∀ addr, .accept addr uid ∉ acts) → FindsLoggedIn server uid) := by
  have registered := run_registered run
  refine ⟨findsLoggedIn_iff registered uid, ?_⟩
  intro strays
  apply (findsLoggedIn_iff registered uid).mpr
  intro addr member same unauthenticated
  have live := (registered addr).mp member
  exact absurd same (run_clean run strays addr live.1 unauthenticated)

def loginText : String := "\x7b\"uid\":1,\"token\":\"a-token\"\x7d"

def searchText : String := "\x7b\"name\":\"bob\"\x7d"

/-- It knows these two bodies. -/
def loginLib : JsonLib where
  parse text :=
    if text = bytesOf loginText then some (.obj [("token", .str "a-token"), ("uid", .num (.int 1))])
    else if text = bytesOf searchText then some (.obj [("name", .str "bob")])
    else none
  parseUserInfo _ := none

def loginFrame : Bytes := (MsgNode.ofText MessageId.loginRequest.wire loginText).wire

def readFrame : List Act := [.readDone 1, .resumeReader 1, .readDone 1, .resumeReader 1]

/-- The stores know the user and the token. -/
def willing : (op : Op) → op.Res
  | .redisGet key => if key = userTokenKey 1 then some "a-token" else none
  | .redisSet _ _ => true
  | .redisHset _ _ _ => 0
  | .getUserInfo _ => .ok (some ⟨1, "ann", "ann@example.com", "pwd1"⟩)
  | .addFriendApply _ _ => .ok ()
  | .authFriendApply _ _ => .ok ()
  | .getFriendApplies _ => .ok []
  | .getFriends _ => .ok []
  | .notify _ => none
  | .uid => 0
  | .setUid _ => ()
  | .isAuthenticated => false
  | .markAuthenticated => ()
  | .serverName => ""
  | .participantCount => 0
  | .getParticipant _ => none
  | .deliver _ _ => ()

/-- Somebody connects, and logs in as the user 1. -/
def logsInFirst : List Act :=
  [.accept 1 0, .startReader 1, .send 1 loginFrame] ++ readFrame ++ (List.replicate 8 [.answer 1 willing, .resumeReader 1]).flatten

theorem getParticipant_loggedIn_first : ∃ server, Transition.Run (ChatServer.step loginLib) (.fresh "chat_server1") logsInFirst server ∧
    LoggedIn server 1 1 ∧ FindsLoggedIn server 1 := by
  have possible : ((Transition.runs (ChatServer.step loginLib) (.fresh "chat_server1") logsInFirst).any
      fun server => server.getParticipant 1 = some 1) = true := by decide +kernel
  obtain ⟨server, reached, found⟩ := (Option.any_eq_true _ _).mp possible
  have run := Transition.run_iff_runs.mpr reached
  have finds : FindsLoggedIn server 1 := by
    apply (getParticipant_loggedIn loginLib "chat_server1" logsInFirst server run 1).2
    intro addr member
    simp [logsInFirst, readFrame] at member
  exact ⟨server, run, finds.2 1 (of_decide_eq_true found), finds⟩

/-- One connection, whose session is born with the uid 7. -/
def oneConnection : ChatServer := (ChatServer.fresh "chat_server1").start 1 7

theorem oneConnection_run :
    Transition.Run (ChatServer.step loginLib) (.fresh "chat_server1") [.accept 1 7] oneConnection :=
  .single rfl

theorem getParticipant_finds_stranger :
    ¬ ∀ (lib : JsonLib) (name : String) (acts : List Act) (server : ChatServer),
      Transition.Run (ChatServer.step lib) (.fresh name) acts server → ∀ uid, FindsLoggedIn server uid := by
  intro claim
  have finds := claim loginLib "chat_server1" [.accept 1 7] oneConnection oneConnection_run 7
  have found : oneConnection.getParticipant 7 = some 1 := by decide
  have loggedIn := finds.2 1 found
  exact absurd loggedIn.2.1 (by decide)

end ChatProof
