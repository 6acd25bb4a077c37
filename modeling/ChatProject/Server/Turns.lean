import ChatProject.Chat.Notification
import ChatProject.Server.Identity
import ChatProject.Server.Outgoing

/-! What a turn of a handler adds to the log. -/

namespace ChatProof

open ChatModel

/-- A message goes into the queue, or is lost when that is full. -/
inductive Delivered (addr : Addr) (msg : ChannelMessage) (log : List Event) : List Event → Prop
  | enqueued : Delivered addr msg log (.enqueued addr msg :: log)
  | dropped : Delivered addr msg log (.dropped addr msg :: log)

theorem deliver_log (server : ChatServer) (addr : Addr) (msg : ChannelMessage) :
    Delivered addr msg server.log (server.deliver addr msg).log := by
  unfold ChatServer.deliver
  split
  · exact .enqueued
  · exact .dropped

theorem Delivered.accepted_other {addr other : Addr} {msg : ChannelMessage} {log later : List Event}
    (delivered : Delivered addr msg log later) (different : other ≠ addr) : accepted later other = accepted log other := by
  cases delivered with
  | enqueued =>
    apply ChatProof.accepted_other
    exact if_neg (Ne.symm different)
  | dropped => exact ChatProof.accepted_other rfl log

theorem Delivered.accepted_self {addr : Addr} {msg : ChannelMessage} {log later : List Event}
    (delivered : Delivered addr msg log later) :
    accepted later addr = accepted log addr ∨ accepted later addr = accepted log addr ++ [msg] := by
  cases delivered with
  | enqueued => exact .inr (accepted_enqueued addr msg log)
  | dropped => exact .inl (ChatProof.accepted_other rfl log)

theorem Delivered.subset {addr : Addr} {msg : ChannelMessage} {log later : List Event} (delivered : Delivered addr msg log later) :
    log ⊆ later := by
  cases delivered <;> exact List.subset_cons_self _ _

/-- What a handler has added to the log since its turn began, which is nothing before its message to somebody else. -/
inductive Since (lib : JsonLib) (addr : Addr) (readMsg : MsgNode) (told : Ledger) (before after : List Event) : Prop
  | quiet : after = before → Since lib addr readMsg told before after
  | pushed {early : Ledger} {target : Addr} {home : String} (accepted : AcceptedRequest) :
      told = ⟨.deliver target { msg := accepted.here.frame }, ()⟩ :: ⟨.getParticipant accepted.here.touid, some target⟩ ::
        ⟨.serverName, home⟩ :: early →
      accepted.From lib readMsg early → Told told .isAuthenticated true → target ≠ addr →
      Delivered target { msg := accepted.here.frame } before after → Since lib addr readMsg told before after

/-- The session that has just been found is one of the user who was looked for. -/
def Sought (server : ChatServer) (told : Ledger) : Prop := ∀ uid target before,
  told = ⟨.getParticipant uid, some target⟩ :: before → (server.session target).uid = uid

section Turn

variable {lib : JsonLib} {addr : Addr} {readMsg : MsgNode} {told : Ledger} {server after : ChatServer} {base : List Event}

theorem Sought.execLocal {op : Op} {answer : op.Res} (answered : ChatServer.execLocal addr op server = some (answer, after)) :
    Sought after (⟨op, answer⟩ :: told) := by
  intro uid target before same
  cases same
  have looked : server.getParticipant uid = some target ∧ server = after := by
    simpa only [ChatServer.execLocal, Option.some.injEq, Prod.mk.injEq] using answered
  rw [← looked.2]
  have passes := OrderedSet.first_test looked.1
  exact of_decide_eq_true passes

theorem asked_deliver_kind {target : Addr} {msg : ChannelMessage} (asked : Asked lib readMsg told (.deliver target msg)) :
    MessageId.enumCast readMsg.id ≠ some .loginRequest := by
  intro logs
  cases asked with
  | login _ asks => cases asks
  | search _ _ _ asks => cases asks
  | addFriend kind _ _ => cases logs.symm.trans kind
  | authFriend kind _ _ => cases logs.symm.trans kind
  | textChat kind _ _ => cases logs.symm.trans kind

theorem Since.execLocal {op : Op} {answer : op.Res} (asked : Asked lib readMsg told op) (quiet : NoPush told)
    (answered : ChatServer.execLocal addr op server = some (answer, after))
    (vouch : Vouch server.log addr (server.session addr) told) (sought : Sought server told)
    (since : Since lib addr readMsg told base server.log) : Since lib addr readMsg (⟨op, answer⟩ :: told) base after.log := by
  cases since with
  | pushed accepted same _ _ _ _ =>
    subst same
    exact absurd (quiet _ List.mem_cons_self) nofun
  | quiet same =>
    cases op <;> simp only [ChatServer.execLocal, Option.some.injEq, Prod.mk.injEq, reduceCtorEq] at answered
    case deliver target msg =>
      have kind := asked_deliver_kind asked
      obtain ⟨accepted, home, early, entry, known, built⟩ := asked_deliver asked
      subst built entry
      have gated := asked_gated asked (List.cons_ne_nil _ _) kind
      obtain ⟨own, other⟩ := known.own
      have apart : target ≠ addr := by
        intro here
        subst here
        have mine := vouch.asked _ ((own.tail _).tail _)
        exact other (mine.symm.trans (sought _ _ _ rfl))
      have delivered := deliver_log server target { msg := accepted.here.frame }
      rw [answered.2, same] at delivered
      exact .pushed accepted rfl known (gated.tail _) apart delivered
    all_goals
      rw [← answered.2]
      exact .quiet same

/-- How the log is after a turn: as it was, when the handler has stopped at a call, or with the reply. -/
inductive Added (lib : JsonLib) (addr : Addr) (readMsg : MsgNode) (before : List Event) (after : ChatServer) : Prop
  | suspended {told : Ledger} {rest : Awaitable ChannelMessage} : after.log = before →
      (after.session addr).reader.task = some (readMsg, told, rest) → Added lib addr readMsg before after
  | replied {told : Ledger} {reply : ChannelMessage} {log : List Event} : Since lib addr readMsg told before log →
      Reaches lib readMsg told (.ret reply) → Delivered addr reply (.replied addr readMsg told reply :: log) after.log →
      (after.session addr).reader = .readingHeader → (∀ uid, Told told .uid uid → (after.session addr).uid = uid) →
      (Told told .isAuthenticated true → (after.session addr).isAuthenticated = true) → Added lib addr readMsg before after

theorem runHandler_added {rest : Awaitable ChannelMessage} (reaches : Reaches lib readMsg told rest)
    (vouch : Vouch server.log addr (server.session addr) told)
    (unlooked : ∀ uid found before, told ≠ ⟨.getParticipant uid, found⟩ :: before) :
    Added lib addr readMsg server.log (server.runHandler addr readMsg told rest) := by
  have keeps : ∀ base op server told answer after, (Asked lib readMsg told op ∧ NoPush told) →
      ChatServer.execLocal addr op server = some (answer, after) →
      ((Separate lib readMsg told ∧ Vouch server.log addr (server.session addr) told) ∧ Sought server told ∧
        Since lib addr readMsg told base server.log) →
      (Separate lib readMsg (⟨op, answer⟩ :: told) ∧ Vouch after.log addr (after.session addr) (⟨op, answer⟩ :: told)) ∧
        Sought after (⟨op, answer⟩ :: told) ∧ Since lib addr readMsg (⟨op, answer⟩ :: told) base after.log := by
    rintro base op server told answer after ⟨asked, quiet⟩ answered ⟨⟨separate, vouch⟩, sought, since⟩
    exact ⟨⟨separate.cons answer asked, vouch.execLocal separate asked answered⟩, .execLocal answered,
      since.execLocal asked quiet answered vouch sought⟩
  have begins : Sought server told := fun uid target before same => absurd same (unlooked uid (some target) before)
  have turn := advance_guided (keeps server.log) (reaches.guided (handleMessage_asked lib readMsg))
    ⟨⟨reaches.separate, vouch⟩, begins, .quiet rfl⟩
  have reached : Reaches lib readMsg (rest.advance (ChatServer.execRecorded addr) (server, told)).2.2
      (rest.advance (ChatServer.execRecorded addr) (server, told)).1 :=
    Handlers.advance (Traced.follows lib) server reaches
  unfold ChatServer.runHandler
  generalize rest.advance (ChatServer.execRecorded addr) (server, told) = stopped at turn reached ⊢
  obtain ⟨left, middle, heard⟩ := stopped
  obtain ⟨⟨⟨-, vouch⟩, -, since⟩, guided⟩ := turn
  cases left with
  | ret reply =>
    let replied := (middle.record (.replied addr readMsg heard reply)).deliver addr reply
    have kept := deliver_login (middle.record (.replied addr readMsg heard reply)) addr addr reply
    have session := setReader_self replied addr .readingHeader
    have delivered : Delivered addr reply (.replied addr readMsg heard reply :: middle.log)
        (replied.setReader addr .readingHeader).log := deliver_log (middle.record (.replied addr readMsg heard reply)) addr reply
    refine .replied since reached delivered (congrArg Session.reader session) ?_ ?_
    · intro uid asked
      exact (congrArg Session.uid session).trans (kept.1.trans (vouch.asked uid asked))
    · intro gated
      exact (congrArg Session.isAuthenticated session).trans (kept.2.trans (vouch.gated gated))
  | throw failure =>
    obtain ⟨_, replied, _⟩ := guided
    cases replied
  | call op next =>
    have same : middle.log = server.log := by
      cases since with
      | quiet same => exact same
      | pushed accepted pushed _ _ _ _ =>
        have quiet := guided.1.2
        rw [pushed] at quiet
        exact absurd (quiet _ List.mem_cons_self) nofun
    have waits : ∀ reader, reader.task = some (readMsg, heard, .call op next) →
        ((middle.setReader addr reader).session addr).reader.task = some (readMsg, heard, .call op next) := by
      intro reader task
      rw [setReader_self]
      exact task
    cases op
    case notify request => exact .suspended same (waits (.calling readMsg heard request next) rfl)
    all_goals exact .suspended same (waits (.waiting readMsg heard _ next) rfl)

end Turn

/-- A user who is logged in has asked for this notification. -/
structure Notifies (lib : JsonLib) (readMsg : MsgNode) (session : Session) (accepted : AcceptedRequest) : Prop where
  known : ∃ told, accepted.From lib readMsg told
  sender : session.uid = accepted.sender
  isAuthenticated : session.isAuthenticated = true

/-- So a turn puts one message at most into a queue: the reply, or the notification. -/
theorem Added.accepted {before : List Event} (added : Added lib addr readMsg before after) (target : Addr) :
    accepted after.log target = ChatProof.accepted before target ∨
      ∃ message, ChatProof.accepted after.log target = ChatProof.accepted before target ++ [message] ∧
        (target = addr ∧ (∃ told, .replied addr readMsg told message ∈ after.log) ∨
          target ≠ addr ∧ (after.session addr).reader = .readingHeader ∧ ∃ request : AcceptedRequest,
            Notifies lib readMsg (after.session addr) request ∧ message = { msg := request.here.frame }) := by
  cases added with
  | suspended same _ =>
    rw [same]
    exact .inl rfl
  | @replied told reply log since _ delivered reading uid gated =>
    have silent : ChatProof.accepted (.replied addr readMsg told reply :: log) target = ChatProof.accepted log target :=
      accepted_other rfl log
    by_cases own : target = addr
    · subst own
      have same : ChatProof.accepted log target = ChatProof.accepted before target := by
        cases since with
        | quiet same => rw [same]
        | pushed _ _ _ _ apart pushed => exact pushed.accepted_other (Ne.symm apart)
      rw [← same, ← silent]
      rcases delivered.accepted_self with full | sent
      · exact .inl full
      · exact .inr ⟨reply, sent, .inl ⟨rfl, told, delivered.subset List.mem_cons_self⟩⟩
    · rw [delivered.accepted_other own, silent]
      cases since with
      | quiet same =>
        rw [same]
        exact .inl rfl
      | @pushed early other home request entry known logged apart pushed =>
        by_cases here : target = other
        · subst here
          rcases pushed.accepted_self with full | sent
          · exact .inl full
          · right
            refine ⟨_, sent, .inr ⟨own, reading, request, ⟨⟨early, known⟩, ?_, gated logged⟩, rfl⟩⟩
            apply uid
            rw [entry]
            exact ((known.own.1.tail _).tail _).tail _
        · exact .inl (pushed.accepted_other here)

/-! ## The frames that a session has handed to its handlers -/

def handedBy (addr : Addr) : Event → Option MsgNode
  | .handed other readMsg => if other = addr then some readMsg else none
  | _ => none

def handed (log : List Event) (addr : Addr) : List MsgNode := (log.filterMap (handedBy addr)).reverse

section Handed

variable {log later : List Event} {addr other : Addr}

theorem handed_none {event : Event} (silent : handedBy addr event = none) (log : List Event) :
    handed (event :: log) addr = handed log addr := by
  simp only [handed, List.filterMap_cons, silent]

theorem handed_handed (addr : Addr) (readMsg : MsgNode) (log : List Event) :
    handed (.handed addr readMsg :: log) addr = handed log addr ++ [readMsg] := by
  simp [handed, handedBy]

theorem handedBy_plain {event : Event} (plain : Event.isPlain event) (addr : Addr) : handedBy addr event = none := by
  cases event with
  | handed _ _ => exact plain.elim
  | replied _ _ _ _ => exact plain.elim
  | _ => rfl

theorem Adds.handed (adds : Adds log later) (addr : Addr) : handed later addr = ChatProof.handed log addr := by
  obtain ⟨events, same, plain⟩ := adds
  subst same
  induction events with
  | nil => rfl
  | cons event events ih =>
    rw [List.cons_append, handed_none (handedBy_plain (plain event List.mem_cons_self) addr)]
    exact ih fun event member => plain event (List.mem_cons_of_mem _ member)

theorem TurnEnd.handed {readMsg : MsgNode} {before after : ChatServer} (turn : TurnEnd other readMsg before after) (addr : Addr) :
    handed after.log addr = ChatProof.handed before.log addr := by
  cases turn with
  | replied told reply log _ _ _ early late =>
    rw [late.handed, handed_none rfl, early.handed]
  | quit _ _ _ adds => exact adds.handed addr
  | waiting _ _ _ _ _ _ adds => exact adds.handed addr
  | calling _ _ _ _ _ _ adds => exact adds.handed addr

end Handed

/-- The handler that runs is that of the last frame. -/
def Current (server : ChatServer) : Prop := ∀ addr readMsg told rest,
  (server.session addr).reader.task = some (readMsg, told, rest) → (handed server.log addr).getLast? = some readMsg

namespace Current

variable {lib : JsonLib} {server : ChatServer}

theorem modify (current : Current server) (addr : Addr) {change : Session → Session}
    (task : (change (server.session addr)).reader.task = none ∨
      (change (server.session addr)).reader.task = (server.session addr).reader.task) : Current (server.modify addr change) := by
  intro other readMsg told rest runs
  by_cases here : other = addr
  · subst here
    rw [ChatServer.modify_session_self] at runs
    rcases task with idle | same
    · rw [idle] at runs
      cases runs
    · rw [same] at runs
      exact current _ _ _ _ runs
  · rw [ChatServer.modify_session_other _ _ here] at runs
    exact current _ _ _ _ runs

theorem stop (current : Current server) (addr : Addr) : Current (server.stop addr) := by
  have left : Current (server.leave addr) := current
  exact left.modify addr (.inr (congrArg Reader.task (cancelDeadline_aside (server.session addr)).reader))

theorem resumes (current : Current server) {addr : Addr} {readMsg : MsgNode} {told : Ledger} {rest : Awaitable ChannelMessage}
    {ready : ChatServer} (resumes : Resumes lib server addr readMsg told rest ready) :
    (handed ready.log addr).getLast? = some readMsg := by
  cases resumes with
  | handed idle reading =>
    rw [ChatServer.record_log, handed_handed]
    exact List.getLast?_concat
  | resumed idle reading =>
    apply current addr
    rw [reading]
    rfl
  | returned answer blocked reading =>
    apply current addr
    rw [reading]
    rfl

theorem rule (lib : JsonLib) : StepRule lib Current where
  aside server addr change aside current := current.modify addr (.inr (congrArg Reader.task aside.reader))
  plain server event plain current := by
    intro addr readMsg told rest runs
    rw [ChatServer.record_log, handed_none (handedBy_plain plain addr)]
    exact current _ _ _ _ runs
  start server addr uid _ _ _ _ current := by
    have fresh : Current (server.modify addr fun _ => { uid, started := true }) := current.modify addr (.inl rfl)
    exact fresh
  stop server addr _ _ current := current.stop addr
  send server addr bytes _ _ _ current := current.modify addr (.inr rfl)
  begin server addr _ _ _ _ current := current.modify addr (.inl rfl)
  read server addr session _ _ done current := by
    apply current.modify addr
    left
    unfold ChatServer.readDone at done
    split at done
    · split at done <;> cases done
      rfl
    · dsimp only at done
      split at done <;> cases done
      rfl
    · cases done
  decoded server addr readMsg header _ _ _ _ current := current.modify addr (.inl rfl)
  quit server addr _ _ _ current := (current.stop addr).modify addr (.inl rfl)
  answer server addr readMsg ledger op next answer _ reading current := by
    have last : (handed server.log addr).getLast? = some readMsg := by
      apply current addr
      rw [reading]
      rfl
    intro other frame told rest runs
    by_cases here : other = addr
    · subst here
      rw [setReader_self] at runs
      cases runs
      exact last
    · rw [setReader_other _ here] at runs
      exact current _ _ _ _ runs
  post server tasks current := current
  handler server addr readMsg ledger rest ready _ resumes current := by
    have last := current.resumes resumes
    have others : ∀ other frame told left, other ≠ addr → (ready.session other).reader.task = some (frame, told, left) →
        (handed ready.log other).getLast? = some frame := by
      intro other frame told left different runs
      cases resumes with
      | handed idle reading =>
        have silent : handedBy other (.handed addr readMsg) = none := if_neg (Ne.symm different)
        rw [ChatServer.record_log, handed_none silent]
        exact current _ _ _ _ runs
      | resumed idle reading => exact current _ _ _ _ runs
      | returned answer blocked reading => exact current _ _ _ _ runs
    obtain ⟨undisturbed, turn⟩ := runHandler_turn ready addr readMsg ledger rest
    intro other frame told left runs
    rw [turn.handed]
    by_cases here : other = addr
    · subst here
      cases turn with
      | replied _ _ _ reading _ _ _ _ =>
        rw [reading] at runs
        cases runs
      | quit reading _ _ _ =>
        rw [reading] at runs
        cases runs
      | waiting _ _ _ reading _ _ _ =>
        rw [reading] at runs
        cases runs
        exact last
      | calling _ _ _ reading _ _ _ =>
        rw [reading] at runs
        cases runs
        exact last
    · rw [undisturbed.reader other here] at runs
      exact others _ _ _ _ here runs

theorem fresh (name : String) : Current (.fresh name) := by
  intro addr readMsg told rest runs
  cases runs

end Current

/-- All that is known of the handlers of a server. -/
structure Tracked (lib : JsonLib) (server : ChatServer) : Prop where
  traced : Traced lib server
  vouched : Vouched server
  current : Current server

theorem step_tracked {lib : JsonLib} (server : ChatServer) (act : Act) (after : ChatServer) (tracked : Tracked lib server)
    (taken : server.step lib act = some after) : Tracked lib after where
  traced := step_traced server act after tracked.traced taken
  vouched := (Vouched.rule lib).step tracked.traced (fun _ _ _ => trivial) taken tracked.vouched
  current := (Current.rule lib).step trivial (fun _ _ _ => trivial) taken tracked.current

theorem fresh_tracked (lib : JsonLib) (name : String) : Tracked lib (.fresh name) :=
  ⟨Traced.fresh lib name, Vouched.fresh name, Current.fresh name⟩

theorem Tracked.acts {lib : JsonLib} {server : ChatServer} (tracked : Tracked lib server) {addr : Addr}
    (reading : (server.session addr).reader = .readingHeader) (authenticated : (server.session addr).isAuthenticated = true) :
    Acts lib server addr (server.session addr).uid := by
  have vouch := tracked.vouched addr
  rw [reading] at vouch
  have found : installed server.log addr = some (server.session addr).uid := vouch.installed authenticated
  exact ⟨rfl, authenticated, found, installed_login tracked.traced found⟩

theorem Tracked.speaks {lib : JsonLib} {server : ChatServer} (tracked : Tracked lib server) {addr : Addr} {readMsg : MsgNode}
    {told : Ledger} {rest : Awaitable ChannelMessage} (runs : (server.session addr).reader.task = some (readMsg, told, rest))
    {uid : Int64} (own : Told told .uid uid) (gated : Told told .isAuthenticated true) : Acts lib server addr uid := by
  have vouch := tracked.vouched addr
  have ledger : ledgerOf (server.session addr).reader = told := by
    unfold ledgerOf
    rw [runs]
  rw [ledger] at vouch
  exact vouch.acts tracked.traced (tracked.traced.suspended runs) own gated

/-- The handler of `addr` that goes on in this turn adds no more than this to the log. -/
theorem Tracked.added {lib : JsonLib} {server ready : ChatServer} (tracked : Tracked lib server) {addr : Addr} {readMsg : MsgNode}
    {told : Ledger} {rest : Awaitable ChannelMessage} (resumes : Resumes lib server addr readMsg told rest ready) :
    Added lib addr readMsg ready.log (ready.runHandler addr readMsg told rest) := by
  have reaches := tracked.traced.resumes resumes
  apply runHandler_added reaches _ (tracked.traced.begins resumes)
  have here := tracked.vouched addr
  cases resumes with
  | handed idle reading =>
    rw [reading] at here
    exact here.same rfl rfl rfl
  | resumed idle reading =>
    rw [reading] at here
    exact here
  | @returned told request next answer blocked reading =>
    rw [reading] at here
    exact here.other (.notify request) answer (fun _ => nofun) nofun nofun

end ChatProof
