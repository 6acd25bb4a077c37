import ChatProject.Chat.Conduct
import ChatProject.Server.Handling

/-! Whom a session speaks for, and which login has said so. -/

namespace ChatProof

open ChatModel

/-! ## In the handler of one frame -/

/-- What every question keeps true of the answers is true wherever the handler of the frame is. -/
theorem Reaches.kept {lib : JsonLib} {readMsg : MsgNode} {told : Ledger} {rest : Awaitable ChannelMessage} {inv : Ledger → Prop}
    (reaches : Reaches lib readMsg told rest) (fresh : inv [])
    (keeps : ∀ told op (answer : op.Res), Asked lib readMsg told op → inv told → inv (⟨op, answer⟩ :: told)) : inv told := by
  induction reaches with
  | start => exact fresh
  | answer answer before ih =>
    have guided := before.guided (handleMessage_asked lib readMsg)
    exact keeps _ _ answer guided.1.1 ih

section Questions

variable {lib : JsonLib} {readMsg : MsgNode} {told : Ledger} {uid : Int64}

/-- What a login asks of its session, and no other request does. -/
def isLoginOnly : Op → Bool
  | .setUid _ | .markAuthenticated => true
  | _ => false

theorem Notifying.Questions.plain {α : Type} {spec : Notifying α} {op : Op} (questions : spec.Questions told op)
    (statements : ∀ request op, spec.statement request = some op → isLoginOnly op = false) : isLoginOnly op = false := by
  cases questions with
  | prepare asks =>
    cases asks with
    | statement _ same => exact statements _ _ same
    | _ => rfl
  | _ => rfl

theorem asked_loginOnly {op : Op} (asked : Asked lib readMsg told op) (only : isLoginOnly op = true) :
    MessageId.enumCast readMsg.id = some .loginRequest ∧ LoginAsks lib readMsg told op := by
  have absurdly : isLoginOnly op ≠ false := by
    rw [only]
    exact Bool.noConfusion
  cases asked with
  | gate _ => cases only
  | login kind asks => exact ⟨kind, asks⟩
  | search _ _ _ asks =>
    cases asks <;> cases only
  | addFriend _ _ questions =>
    apply absurd (questions.plain _) absurdly
    intro request op same
    cases same
    rfl
  | authFriend _ _ questions =>
    apply absurd (questions.plain _) absurdly
    intro request op same
    cases same
    rfl
  | textChat _ _ questions =>
    apply absurd (questions.plain _) absurdly
    intro request op same
    cases same

theorem asked_setUid (asked : Asked lib readMsg told (.setUid uid)) :
    MessageId.enumCast readMsg.id = some .loginRequest ∧ lastSet told = none ∧
      ∃ request, Passed lib readMsg told request ∧ request.uid = uid := by
  obtain ⟨kind, asks⟩ := asked_loginOnly asked rfl
  cases asks with
  | setUid passed unset => exact ⟨kind, unset, _, passed, rfl⟩

theorem asked_markAuthenticated (asked : Asked lib readMsg told .markAuthenticated) : ∃ uid, lastSet told = some uid := by
  obtain ⟨_, asks⟩ := asked_loginOnly asked rfl
  cases asks with
  | mark _ set => exact ⟨_, set⟩

theorem asked_uid (asked : Asked lib readMsg told .uid) : MessageId.enumCast readMsg.id ≠ some .loginRequest := by
  intro logs
  cases asked with
  | login _ asks => cases asks
  | search _ _ _ asks => cases asks
  | addFriend kind _ _ => cases logs.symm.trans kind
  | authFriend kind _ _ => cases logs.symm.trans kind
  | textChat kind _ _ => cases logs.symm.trans kind

end Questions

theorem lastSet_cons {op : Op} (plain : ∀ uid, op ≠ .setUid uid) (answer : op.Res) (told : Ledger) :
    lastSet (⟨op, answer⟩ :: told) = lastSet told := by
  cases op with
  | setUid uid => exact absurd rfl (plain uid)
  | _ => rfl

/-- Only a login gives the session a uid, after the comparison of the tokens; only other requests ask for it. -/
structure Separate (lib : JsonLib) (readMsg : MsgNode) (told : Ledger) : Prop where
  set : ∀ uid, lastSet told = some uid → MessageId.enumCast readMsg.id = some .loginRequest ∧
    ∃ request, Passed lib readMsg told request ∧ request.uid = uid
  asked : ∀ uid, Told told .uid uid → MessageId.enumCast readMsg.id ≠ some .loginRequest

namespace Separate

variable {lib : JsonLib} {readMsg : MsgNode} {told : Ledger}

theorem nil (lib : JsonLib) (readMsg : MsgNode) : Separate lib readMsg [] where
  set := by
    intro uid set
    cases set
  asked := by
    intro uid asked
    cases asked

theorem cons (separate : Separate lib readMsg told) {op : Op} (answer : op.Res) (asked : Asked lib readMsg told op) :
    Separate lib readMsg (⟨op, answer⟩ :: told) := by
  refine ⟨?_, ?_⟩
  · intro uid set
    by_cases plain : ∀ uid, op ≠ .setUid uid
    · rw [lastSet_cons plain] at set
      obtain ⟨kind, request, passed, same⟩ := separate.set uid set
      exact ⟨kind, request, passed.tail _, same⟩
    · simp only [not_forall, not_not] at plain
      obtain ⟨given, here⟩ := plain
      subst here
      obtain ⟨kind, _, request, passed, same⟩ := asked_setUid asked
      have last : given = uid := Option.some.inj set
      exact ⟨kind, request, passed.tail _, same.trans last⟩
  · intro uid known
    rcases List.mem_cons.mp known with here | before
    · cases here
      exact asked_uid asked
    · exact separate.asked uid before

theorem unset (separate : Separate lib readMsg told) {uid : Int64} (asked : Told told .uid uid) : lastSet told = none := by
  cases set : lastSet told with
  | none => rfl
  | some given => exact absurd (separate.set given set).1 (separate.asked uid asked)

end Separate

theorem Reaches.separate {lib : JsonLib} {readMsg : MsgNode} {told : Ledger} {rest : Awaitable ChannelMessage}
    (reaches : Reaches lib readMsg told rest) : Separate lib readMsg told :=
  reaches.kept (.nil lib readMsg) fun _ _ answer asked separate => separate.cons answer asked

/-! ## The log and the session -/

/-- The uid that the handler of this reply has given the session, if it has. -/
def installedBy (addr : Addr) : Event → Option Int64
  | .replied other _ told _ => if other = addr then lastSet told else none
  | _ => none

/-- The uid of the last login at this session that came so far. -/
def installed (log : List Event) (addr : Addr) : Option Int64 := log.findSome? (installedBy addr)

theorem installed_plain {event : Event} (plain : Event.isPlain event) (log : List Event) (addr : Addr) :
    installed (event :: log) addr = installed log addr := by
  cases event with
  | handed _ _ => exact plain.elim
  | replied _ _ _ _ => exact plain.elim
  | _ => rfl

theorem installed_append {events : List Event} (plain : ∀ event ∈ events, Event.isPlain event) (log : List Event) (addr : Addr) :
    installed (events ++ log) addr = installed log addr := by
  induction events with
  | nil => rfl
  | cons event events ih =>
    rw [List.cons_append, installed_plain (plain event List.mem_cons_self)]
    exact ih fun event member => plain event (List.mem_cons_of_mem _ member)

theorem installed_replied (log : List Event) (addr : Addr) (readMsg : MsgNode) (told : Ledger) (reply : ChannelMessage) :
    installed (.replied addr readMsg told reply :: log) addr = (lastSet told).or (installed log addr) := by
  have first : installedBy addr (.replied addr readMsg told reply) = lastSet told := if_pos rfl
  unfold installed
  rw [List.findSome?_cons, first]
  cases lastSet told <;> rfl

theorem installed_replied_other {addr other : Addr} (different : other ≠ addr) (log : List Event) (readMsg : MsgNode)
    (told : Ledger) (reply : ChannelMessage) : installed (.replied other readMsg told reply :: log) addr = installed log addr := by
  have first : installedBy addr (.replied other readMsg told reply) = none := if_neg different
  unfold installed
  rw [List.findSome?_cons, first]

/-- What the handler that runs has been told. -/
def ledgerOf (reader : Reader) : Ledger :=
  match reader.task with
  | some (_, told, _) => told
  | none => []

theorem ledgerOf_idle {reader : Reader} (idle : reader.task = none) : ledgerOf reader = [] := by
  unfold ledgerOf
  rw [idle]

/-- What the handler of a session knows of its session is so, and a session that counts as logged in is
    the user of its last login. -/
structure Vouch (log : List Event) (addr : Addr) (session : Session) (told : Ledger) : Prop where
  set : ∀ uid, lastSet told = some uid → session.uid = uid
  installed : session.isAuthenticated = true → (lastSet told).or (installed log addr) = some session.uid
  asked : ∀ uid, Told told .uid uid → session.uid = uid
  gated : Told told .isAuthenticated true → session.isAuthenticated = true

/-- A delivery is no login. -/
theorem deliver_login (server : ChatServer) (addr target : Addr) (msg : ChannelMessage) :
    ((server.deliver target msg).session addr).uid = (server.session addr).uid ∧
      ((server.deliver target msg).session addr).isAuthenticated = (server.session addr).isAuthenticated := by
  have calm : Calm (addr + 1) server (server.deliver target msg) := .deliver (addr + 1) target msg
  have other : addr ≠ addr + 1 := (Nat.succ_ne_self addr).symm
  exact ⟨calm.uid addr other, calm.isAuthenticated addr other⟩

namespace Vouch

variable {lib : JsonLib} {log later : List Event} {addr : Addr} {session after : Session} {readMsg : MsgNode} {told : Ledger}

theorem same (vouch : Vouch log addr session told) (logged : ChatProof.installed later addr = ChatProof.installed log addr)
    (uid : after.uid = session.uid) (isAuthenticated : after.isAuthenticated = session.isAuthenticated) :
    Vouch later addr after told := by
  refine ⟨?_, ?_, ?_, ?_⟩
  · rw [uid]
    exact vouch.set
  · rw [uid, isAuthenticated, logged]
    exact vouch.installed
  · rw [uid]
    exact vouch.asked
  · rw [isAuthenticated]
    exact vouch.gated

/-- Of a session that nobody has logged in yet, a handler that has just begun claims nothing. -/
theorem begun (unauthenticated : session.isAuthenticated = false) : Vouch log addr session [] := by
  refine ⟨?_, ?_, ?_, ?_⟩
  · intro uid set
    cases set
  · intro authenticated
    rw [unauthenticated] at authenticated
    cases authenticated
  · intro uid asked
    cases asked
  · intro gated
    cases gated

/-- An answer that has nothing to do with the session. -/
theorem other (vouch : Vouch log addr session told) (op : Op) (answer : op.Res) (sets : ∀ uid, op ≠ .setUid uid)
    (asks : op ≠ .uid) (gate : op ≠ .isAuthenticated) : Vouch log addr session (⟨op, answer⟩ :: told) := by
  refine ⟨?_, ?_, ?_, ?_⟩
  · rw [lastSet_cons sets]
    exact vouch.set
  · rw [lastSet_cons sets]
    exact vouch.installed
  · intro uid known
    rcases List.mem_cons.mp known with here | before
    · cases here
      exact absurd rfl asks
    · exact vouch.asked uid before
  · intro known
    rcases List.mem_cons.mp known with here | before
    · cases here
      exact absurd rfl gate
    · exact vouch.gated before

/-- The reply goes into the log, and takes over from the handler. -/
theorem replied (vouch : Vouch log addr session told) (reply : ChannelMessage) :
    Vouch (.replied addr readMsg told reply :: log) addr session [] where
  set := by
    intro uid set
    cases set
  installed := by
    intro authenticated
    rw [installed_replied]
    exact vouch.installed authenticated
  asked := by
    intro uid asked
    cases asked
  gated := by
    intro gated
    cases gated

theorem execLocal {server middle : ChatServer} {op : Op} {answer : op.Res} (separate : Separate lib readMsg told)
    (asked : Asked lib readMsg told op) (answered : ChatServer.execLocal addr op server = some (answer, middle))
    (vouch : Vouch server.log addr (server.session addr) told) :
    Vouch middle.log addr (middle.session addr) (⟨op, answer⟩ :: told) := by
  have calm := Calm.execLocal answered
  obtain ⟨events, grown, plain⟩ := calm.log
  have logged : ChatProof.installed middle.log addr = ChatProof.installed server.log addr := by
    rw [grown]
    exact installed_append plain server.log addr
  cases op <;> simp only [ChatServer.execLocal, Option.some.injEq, Prod.mk.injEq, reduceCtorEq] at answered
  case uid =>
    obtain ⟨same, here⟩ := answered
    subst same here
    refine ⟨vouch.set, vouch.installed, ?_, ?_⟩
    · intro uid known
      rcases List.mem_cons.mp known with given | before
      · cases given
        rfl
      · exact vouch.asked uid before
    · intro known
      rcases List.mem_cons.mp known with given | before
      · cases given
      · exact vouch.gated before
  case isAuthenticated =>
    obtain ⟨same, here⟩ := answered
    subst same here
    refine ⟨vouch.set, vouch.installed, ?_, ?_⟩
    · intro uid known
      rcases List.mem_cons.mp known with given | before
      · cases given
      · exact vouch.asked uid before
    · intro known
      rcases List.mem_cons.mp known with given | before
      · have flag : true = (server.session addr).isAuthenticated := eq_of_heq (Sigma.mk.inj given).2
        exact flag.symm
      · exact vouch.gated before
  case setUid uid =>
    obtain ⟨_, here⟩ := answered
    subst here
    have session : ((server.setUid addr uid).session addr) = { server.session addr with uid } := if_pos rfl
    rw [session]
    refine ⟨?_, ?_, ?_, ?_⟩
    · intro given set
      exact Option.some.inj set
    · intro _
      rfl
    · intro given known
      rcases List.mem_cons.mp known with here | before
      · cases here
      · exact absurd (asked_setUid asked).1 (separate.asked given before)
    · intro known
      rcases List.mem_cons.mp known with here | before
      · cases here
      · exact vouch.gated before
  case markAuthenticated =>
    obtain ⟨_, here⟩ := answered
    subst here
    have session : ((server.markAuthenticated addr).session addr) =
        { (server.session addr).cancelDeadline with isAuthenticated := true } := if_pos rfl
    have uid : (server.session addr).cancelDeadline.uid = (server.session addr).uid := (cancelDeadline_aside _).uid
    obtain ⟨given, set⟩ := asked_markAuthenticated asked
    rw [session]
    refine ⟨?_, ?_, ?_, ?_⟩
    · intro other last
      exact uid.trans (vouch.set other last)
    · intro _
      change (lastSet told).or _ = some (server.session addr).cancelDeadline.uid
      rw [set, uid, vouch.set given set]
      rfl
    · intro other known
      rcases List.mem_cons.mp known with here | before
      · cases here
      · exact uid.trans (vouch.asked other before)
    · intro _
      rfl
  case deliver target msg =>
    obtain ⟨_, here⟩ := answered
    subst here
    have kept := deliver_login server addr target msg
    have heard : Vouch server.log addr (server.session addr) (⟨.deliver target msg, answer⟩ :: told) :=
      vouch.other _ _ (fun _ => Op.noConfusion) Op.noConfusion Op.noConfusion
    exact heard.same logged kept.1 kept.2
  all_goals
    obtain ⟨_, here⟩ := answered
    subst here
    exact vouch.other _ _ (fun _ => Op.noConfusion) Op.noConfusion Op.noConfusion

/-- A turn of the handler. -/
theorem advance {server : ChatServer} {rest : Awaitable ChannelMessage} (reaches : Reaches lib readMsg told rest)
    (vouch : Vouch server.log addr (server.session addr) told) {left : Awaitable ChannelMessage} {middle : ChatServer}
    {heard : Ledger} (stopped : rest.advance (ChatServer.execRecorded addr) (server, told) = (left, middle, heard)) :
    Vouch middle.log addr (middle.session addr) heard ∧ left.Guided (fun told op => Asked lib readMsg told op ∧ NoPush told)
      (Finishes lib readMsg) heard := by
  have keeps : ∀ op server told answer after, (Asked lib readMsg told op ∧ NoPush told) →
      ChatServer.execLocal addr op server = some (answer, after) →
      (Separate lib readMsg told ∧ Vouch server.log addr (server.session addr) told) →
      Separate lib readMsg (⟨op, answer⟩ :: told) ∧ Vouch after.log addr (after.session addr) (⟨op, answer⟩ :: told) :=
    fun op server told answer after asked answered holds =>
      ⟨holds.1.cons answer asked.1, holds.2.execLocal holds.1 asked.1 answered⟩
  have turn := advance_guided keeps (reaches.guided (handleMessage_asked lib readMsg)) ⟨reaches.separate, vouch⟩
  rw [stopped] at turn
  exact ⟨turn.1.2, turn.2⟩

end Vouch

/-- So are all sessions of a server. -/
def Vouched (server : ChatServer) : Prop :=
  ∀ addr, Vouch server.log addr (server.session addr) (ledgerOf (server.session addr).reader)

namespace Vouched

variable {lib : JsonLib} {server : ChatServer}

theorem modify (vouched : Vouched server) (addr : Addr) {change : Session → Session}
    (here : Vouch server.log addr (change (server.session addr)) (ledgerOf (change (server.session addr)).reader)) :
    Vouched (server.modify addr change) := by
  intro other
  by_cases same : other = addr
  · rw [same, ChatServer.modify_session_self]
    exact here
  · rw [ChatServer.modify_session_other _ _ same]
    exact vouched other

/-- A change of a session that leaves its login alone, and gives its handler nothing to know. -/
theorem keep (vouched : Vouched server) (addr : Addr) {change : Session → Session}
    (uid : (change (server.session addr)).uid = (server.session addr).uid)
    (isAuthenticated : (change (server.session addr)).isAuthenticated = (server.session addr).isAuthenticated)
    (ledger : ledgerOf (change (server.session addr)).reader = ledgerOf (server.session addr).reader) :
    Vouched (server.modify addr change) := by
  apply vouched.modify addr
  rw [ledger]
  exact (vouched addr).same rfl uid isAuthenticated

theorem record (vouched : Vouched server) {event : Event}
    (logged : ∀ addr, installed (event :: server.log) addr = installed server.log addr) : Vouched (server.record event) :=
  fun addr => (vouched addr).same (logged addr) rfl rfl

theorem stop (vouched : Vouched server) (addr : Addr) : Vouched (server.stop addr) := by
  have aside := cancelDeadline_aside (server.session addr)
  have left : Vouched (server.leave addr) := vouched
  exact left.keep addr aside.uid aside.isAuthenticated (congrArg ledgerOf aside.reader)

theorem deliver (vouched : Vouched server) (addr : Addr) (msg : ChannelMessage) : Vouched (server.deliver addr msg) := by
  unfold ChatServer.deliver
  split
  · rename_i session sent
    have aside := trySend_aside sent
    have changed : Vouched (server.modify addr fun _ => session) :=
      vouched.keep addr aside.uid aside.isAuthenticated (congrArg ledgerOf aside.reader)
    have plain : Event.isPlain (.enqueued addr msg) := trivial
    exact changed.record fun other => installed_plain plain _ other
  · have plain : Event.isPlain (.dropped addr msg) := trivial
    exact vouched.record fun other => installed_plain plain _ other

theorem settle {addr : Addr} {readMsg : MsgNode} {told : Ledger} {left : Awaitable ChannelMessage}
    (others : ∀ other, other ≠ addr → Vouch server.log other (server.session other) (ledgerOf (server.session other).reader))
    (here : Vouch server.log addr (server.session addr) told) (replies : ∀ failure, left ≠ .throw failure) :
    Vouched (ChatServer.settle addr readMsg (left, server, told)) := by
  have waits : ∀ reader, ledgerOf reader = told → Vouched (server.setReader addr reader) := by
    intro reader heard other
    by_cases same : other = addr
    · rw [same, setReader_self]
      dsimp only
      rw [heard]
      exact here.same rfl rfl rfl
    · rw [setReader_other _ same]
      exact others other same
  cases left with
  | ret reply =>
    have kept := deliver_login (server.record (.replied addr readMsg told reply)) addr addr reply
    have calm : Calm addr (server.record (.replied addr readMsg told reply))
        ((server.record (.replied addr readMsg told reply)).deliver addr reply) := .deliver addr addr reply
    obtain ⟨events, grown, plain⟩ := calm.log
    have logged : ∀ other, installed ((server.record (.replied addr readMsg told reply)).deliver addr reply).log other =
        installed (.replied addr readMsg told reply :: server.log) other := by
      intro other
      rw [grown]
      exact installed_append plain _ other
    intro other
    by_cases same : other = addr
    · subst same
      unfold ChatServer.settle
      rw [setReader_self]
      exact (here.replied reply).same (logged other) kept.1 kept.2
    · unfold ChatServer.settle
      rw [setReader_other _ same]
      have apart := (others other same).same ((logged other).trans (installed_replied_other (Ne.symm same) _ _ _ _))
        (calm.uid other same) (calm.isAuthenticated other same)
      rw [calm.reader other]
      exact apart
  | throw failure => exact absurd rfl (replies failure)
  | call op next =>
    cases op
    case notify request => exact waits (.calling readMsg told request next) rfl
    all_goals exact waits (.waiting readMsg told _ next) rfl

theorem runHandler {addr : Addr} {readMsg : MsgNode} {told : Ledger} {rest : Awaitable ChannelMessage}
    (reaches : Reaches lib readMsg told rest)
    (others : ∀ other, other ≠ addr → Vouch server.log other (server.session other) (ledgerOf (server.session other).reader))
    (here : Vouch server.log addr (server.session addr) told) : Vouched (server.runHandler addr readMsg told rest) := by
  have calm := advance_calm addr server told rest
  unfold ChatServer.runHandler
  cases stopped : rest.advance (ChatServer.execRecorded addr) (server, told) with
  | mk left reached =>
    obtain ⟨middle, heard⟩ := reached
    rw [stopped] at calm
    obtain ⟨vouch, guided⟩ := here.advance reaches stopped
    obtain ⟨events, grown, plain⟩ := calm.log
    apply settle
    · intro other different
      have logged : installed middle.log other = installed server.log other := by
        rw [grown]
        exact installed_append plain _ other
      rw [calm.reader other]
      exact (others other different).same logged (calm.uid other different) (calm.isAuthenticated other different)
    · exact vouch
    · intro failure same
      subst same
      obtain ⟨_, replied, _⟩ := guided
      cases replied

theorem rule (lib : JsonLib) : StepRule lib Vouched (fun _ => True) (Traced lib) where
  aside server addr change aside vouched :=
    vouched.keep addr aside.uid aside.isAuthenticated (congrArg ledgerOf aside.reader)
  plain server event plain vouched := vouched.record fun addr => installed_plain plain server.log addr
  start server addr uid _ _ _ _ vouched := by
    have fresh : Vouched (server.modify addr fun _ => { uid, started := true }) := by
      apply vouched.modify addr
      exact .begun rfl
    exact fresh
  stop server addr _ _ vouched := vouched.stop addr
  send server addr bytes _ _ _ vouched := vouched.keep addr rfl rfl rfl
  begin server addr _ _ _ unstarted vouched := by
    apply vouched.keep addr rfl rfl
    rw [unstarted]
    rfl
  read server addr session _ _ done vouched := by
    obtain ⟨_, _, uid, isAuthenticated⟩ := ChatServer.readDone_login done
    apply vouched.keep addr uid isAuthenticated
    unfold ChatServer.readDone at done
    split at done
    · rename_i reading
      split at done <;> cases done
      rw [reading]
      rfl
    · rename_i readMsg reading
      dsimp only at done
      split at done <;> cases done
      rw [reading]
      rfl
    · cases done
  decoded server addr readMsg header _ _ reading _ vouched := by
    apply vouched.keep addr rfl rfl
    rw [reading]
    rfl
  quit server addr _ _ reading vouched := by
    have stopped := vouched.stop addr
    have reader : ((server.stop addr).session addr).reader = (server.session addr).reader := by
      rw [stop_self]
      exact (cancelDeadline_aside _).reader
    apply stopped.keep addr rfl rfl
    rw [reader]
    cases at_ : (server.session addr).reader <;> rw [at_] at reading <;> first | rfl | cases reading
  answer server addr readMsg ledger op next answer traced reading vouched := by
    have store : isStoreCall op = true := by
      have proper := traced.proper addr
      rw [reading] at proper
      exact proper
    have waits := vouched addr
    rw [reading] at waits
    have heard : Vouch server.log addr (server.session addr) (⟨op, answer⟩ :: ledger) := by
      cases op with
      | setUid uid => cases store
      | uid => cases store
      | isAuthenticated => cases store
      | _ => exact waits.other _ answer (fun _ => Op.noConfusion) Op.noConfusion Op.noConfusion
    apply vouched.modify addr
    exact heard.same rfl rfl rfl
  post server tasks vouched := vouched
  handler server addr readMsg ledger rest ready traced resumes vouched := by
    have reaches := traced.resumes resumes
    have here := vouched addr
    cases resumes with
    | handed idle reading =>
      rw [reading] at here
      exact runHandler reaches (fun other _ => (vouched other).same rfl rfl rfl) (here.same rfl rfl rfl)
    | resumed idle reading =>
      rw [reading] at here
      exact runHandler reaches (fun other _ => vouched other) here
    | @returned told request next answer blocked reading =>
      rw [reading] at here
      have heard : Vouch server.log addr (server.session addr) (⟨.notify request, answer⟩ :: told) :=
        here.other (.notify request) answer (fun _ => Op.noConfusion) Op.noConfusion Op.noConfusion
      exact runHandler reaches (fun other _ => vouched other) heard

theorem fresh (name : String) : Vouched (.fresh name) := by
  intro addr
  exact .begun rfl

end Vouched

/-- The user of this session is `uid`, because of a login there that has passed the comparison of the
    tokens for `uid`, and no other login has come after it. -/
structure Acts (lib : JsonLib) (server : ChatServer) (addr : Addr) (uid : Int64) : Prop where
  current : (server.session addr).uid = uid
  isAuthenticated : (server.session addr).isAuthenticated = true
  installed : installed server.log addr = some uid
  login : ∃ readMsg told reply request, .replied addr readMsg told reply ∈ server.log ∧
    MessageId.enumCast readMsg.id = some .loginRequest ∧ Passed lib readMsg told request ∧ request.uid = uid ∧
    lastSet told = some uid

theorem installed_login {lib : JsonLib} {server : ChatServer} (traced : Traced lib server) {addr : Addr} {uid : Int64}
    (found : installed server.log addr = some uid) : ∃ readMsg told reply request, .replied addr readMsg told reply ∈ server.log ∧
      MessageId.enumCast readMsg.id = some .loginRequest ∧ Passed lib readMsg told request ∧ request.uid = uid ∧
      lastSet told = some uid := by
  obtain ⟨event, member, sets⟩ := List.exists_of_findSome?_eq_some found
  cases event with
  | replied other readMsg told reply =>
    simp only [installedBy] at sets
    split at sets
    · rename_i here
      subst here
      obtain ⟨kind, request, passed, same⟩ := (traced.replied member).separate.set uid sets
      exact ⟨readMsg, told, reply, request, member, kind, passed, same, sets⟩
    · cases sets
  | _ => cases sets

theorem Vouch.acts {lib : JsonLib} {server : ChatServer} {addr : Addr} {uid : Int64} {readMsg : MsgNode} {told : Ledger}
    {rest : Awaitable ChannelMessage} (vouch : Vouch server.log addr (server.session addr) told) (traced : Traced lib server)
    (reaches : Reaches lib readMsg told rest) (asked : Told told .uid uid) (gated : Told told .isAuthenticated true) :
    Acts lib server addr uid := by
  have same := vouch.asked uid asked
  have authenticated := vouch.gated gated
  have found := vouch.installed authenticated
  rw [reaches.separate.unset asked, same, Option.none_or] at found
  exact ⟨same, authenticated, found, installed_login traced found⟩

end ChatProof
