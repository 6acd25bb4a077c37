import ChatProject.Server.Harmless
import ChatProject.Server.Intake
import ChatProject.Server.Load

/-! The frames of a session are answered one after the other, in the order in which its client has sent them. -/

namespace ChatProof

open ChatModel

/-! ## Frames and their replies, the oldest first -/

def repliedBy (addr : Addr) : Event → Option (MsgNode × ChannelMessage)
  | .replied other readMsg _ reply => if other = addr then some (readMsg, reply) else none
  | _ => none

def replies (log : List Event) (addr : Addr) : List (MsgNode × ChannelMessage) := (log.filterMap (repliedBy addr)).reverse

/-- The reply that has been made and not been put into the queue yet. -/
def dueReply (addr : Addr) : List Event → List (MsgNode × ChannelMessage)
  | .replied other readMsg _ reply :: _ => if other = addr then [(readMsg, reply)] else []
  | _ => []

/-- What has been put into the queue of a session, each reply with its frame. -/
def queued (addr : Addr) : List Event → List (ChannelMessage × Option MsgNode)
  | .enqueued other msg :: older =>
    if other = addr then queued addr older ++ [(msg, (dueReply addr older).head?.map Prod.fst)] else queued addr older
  | _ :: older => queued addr older
  | [] => []

/-- The replies in a queue. -/
def answersIn (messages : List (ChannelMessage × Option MsgNode)) : List (MsgNode × ChannelMessage) :=
  messages.filterMap fun entry => entry.2.map fun readMsg => (readMsg, entry.1)

/-- A reply goes into its queue at once, if it is not refused. -/
def Adjacent (log : List Event) : Prop := ∀ newer event addr readMsg told reply older,
  log = newer ++ event :: .replied addr readMsg told reply :: older → event = .enqueued addr reply ∨ event = .dropped addr reply

section Log

variable {log later : List Event} {addr : Addr}

theorem replies_none {event : Event} (silent : repliedBy addr event = none) (log : List Event) :
    replies (event :: log) addr = replies log addr := by
  simp only [replies, List.filterMap_cons, silent]

theorem replies_replied (addr : Addr) (readMsg : MsgNode) (told : Ledger) (reply : ChannelMessage) (log : List Event) :
    replies (.replied addr readMsg told reply :: log) addr = replies log addr ++ [(readMsg, reply)] := by
  simp [replies, repliedBy]

theorem repliedBy_plain {event : Event} (plain : Event.isPlain event) (addr : Addr) : repliedBy addr event = none := by
  cases event with
  | handed other readMsg => exact plain.elim
  | replied other readMsg told reply => exact plain.elim
  | _ => rfl

theorem dueReply_plain {event : Event} (plain : Event.isPlain event) (addr : Addr) (log : List Event) :
    dueReply addr (event :: log) = [] := by
  cases event with
  | handed other readMsg => exact plain.elim
  | replied other readMsg told reply => exact plain.elim
  | _ => rfl

theorem Delivered.replies {target : Addr} {msg : ChannelMessage} (delivered : Delivered target msg log later) (addr : Addr) :
    replies later addr = ChatProof.replies log addr := by
  cases delivered <;> exact replies_none rfl log

theorem Delivered.handed {target : Addr} {msg : ChannelMessage} (delivered : Delivered target msg log later) (addr : Addr) :
    handed later addr = ChatProof.handed log addr := by
  cases delivered <;> exact handed_none rfl log

theorem Delivered.settled {target : Addr} {msg : ChannelMessage} (delivered : Delivered target msg log later) (addr : Addr) :
    dueReply addr later = [] := by
  cases delivered <;> rfl

theorem Adjacent.tail {event : Event} (adjacent : Adjacent (event :: log)) : Adjacent log := by
  intro newer next addr readMsg told reply older same
  exact adjacent (event :: newer) next addr readMsg told reply older (by rw [same, List.cons_append])

/-- Any event may come where no reply is due. -/
theorem Adjacent.cons (adjacent : Adjacent log) (settled : ∀ addr, dueReply addr log = []) (event : Event) : Adjacent (event :: log) := by
  intro newer next addr readMsg told reply older same
  cases newer with
  | nil =>
    cases (List.cons.inj same).2
    have due := settled addr
    simp only [dueReply, if_true] at due
    cases due
  | cons first newer => exact adjacent newer next addr readMsg told reply older (List.cons.inj same).2

/-- The reply comes next. -/
theorem Delivered.adjacent {readMsg : MsgNode} {told : Ledger} {reply : ChannelMessage}
    (delivered : Delivered addr reply (.replied addr readMsg told reply :: log) later) (adjacent : Adjacent log)
    (settled : ∀ addr, dueReply addr log = []) : Adjacent later := by
  have made := adjacent.cons settled (.replied addr readMsg told reply)
  intro newer next other frame heard answer older same
  cases delivered with
  | enqueued =>
    cases newer with
    | nil =>
      cases same
      exact .inl rfl
    | cons first newer => exact made newer next other frame heard answer older (List.cons.inj same).2
  | dropped =>
    cases newer with
    | nil =>
      cases same
      exact .inr rfl
    | cons first newer => exact made newer next other frame heard answer older (List.cons.inj same).2

theorem queued_messages (addr : Addr) (log : List Event) : (queued addr log).map Prod.fst = accepted log addr := by
  induction log with
  | nil => rfl
  | cons event log ih =>
    cases event with
    | enqueued other msg =>
      unfold queued
      split
      · rename_i here
        subst here
        rw [List.map_append, ih, accepted_enqueued]
        rfl
      · rename_i different
        have silent : acceptedBy addr (.enqueued other msg) = none := if_neg different
        rw [ih, accepted_other silent]
    | _ =>
      rw [accepted_other rfl, ← ih]
      rfl

/-- After a reply comes its delivery, and nothing else. -/
theorem Adjacent.due {event : Event} (adjacent : Adjacent (event :: log)) {pair : MsgNode × ChannelMessage}
    {rest : List (MsgNode × ChannelMessage)} (due : dueReply addr log = pair :: rest) :
    rest = [] ∧ (event = .enqueued addr pair.2 ∨ event = .dropped addr pair.2) := by
  unfold dueReply at due
  split at due
  · rename_i other readMsg told reply older
    split at due <;> cases due
    rename_i here
    subst here
    exact ⟨rfl, adjacent [] event other readMsg told reply older rfl⟩
  · cases due

theorem queued_enqueued (addr : Addr) (msg : ChannelMessage) (log : List Event) :
    queued addr (.enqueued addr msg :: log) = queued addr log ++ [(msg, (dueReply addr log).head?.map Prod.fst)] := by
  rw [queued, if_pos rfl]

theorem queued_other {event : Event} (silent : acceptedBy addr event = none) (log : List Event) :
    queued addr (event :: log) = queued addr log := by
  cases event with
  | enqueued other msg =>
    have different : other ≠ addr := by
      intro here
      simp only [acceptedBy, here, if_true] at silent
      cases silent
    rw [queued, if_neg different]
  | _ => rfl

theorem replies_some {event : Event} {pair : MsgNode × ChannelMessage} (made : repliedBy addr event = some pair) (log : List Event) :
    replies (event :: log) addr = replies log addr ++ [pair] := by
  simp only [replies, List.filterMap_cons, made, List.reverse_cons]

/-- What one more event does to the replies in the queue: it is a reply itself, or it brings the one that is due, unless
    that is refused. -/
theorem Adjacent.grown {event : Event} (adjacent : Adjacent (event :: log)) :
    (∃ pair, repliedBy addr event = some pair ∧ dueReply addr (event :: log) = [pair] ∧ dueReply addr log = [] ∧
      queued addr (event :: log) = queued addr log) ∨
    (repliedBy addr event = none ∧ dueReply addr (event :: log) = [] ∧ ∃ kept,
      answersIn (queued addr (event :: log)) = answersIn (queued addr log) ++ kept ∧
      (kept = dueReply addr log ∨ kept = [] ∧ ∃ msg, event = .dropped addr msg)) := by
  have idle : (∀ msg, event ≠ .enqueued addr msg) → (∀ msg, event ≠ .dropped addr msg) → dueReply addr log = [] := by
    intro unsent kept
    cases due : dueReply addr log with
    | nil => rfl
    | cons pair rest =>
      rcases (adjacent.due due).2 with here | here
      · exact absurd here (unsent _)
      · exact absurd here (kept _)
  have quiet : acceptedBy addr event = none → (∀ msg, event ≠ .enqueued addr msg) → ∃ kept,
      answersIn (queued addr (event :: log)) = answersIn (queued addr log) ++ kept ∧
      (kept = dueReply addr log ∨ kept = [] ∧ ∃ msg, event = .dropped addr msg) := by
    intro silent unsent
    refine ⟨[], by rw [queued_other silent, List.append_nil], ?_⟩
    by_cases refused : ∃ msg, event = .dropped addr msg
    · exact .inr ⟨rfl, refused⟩
    · exact .inl (idle unsent fun msg same => refused ⟨msg, same⟩).symm
  cases event with
  | replied other readMsg told reply =>
    by_cases here : other = addr
    · subst here
      exact .inl ⟨(readMsg, reply), if_pos rfl, if_pos rfl, idle (fun _ => Event.noConfusion) (fun _ => Event.noConfusion), rfl⟩
    · exact .inr ⟨if_neg here, if_neg here, quiet rfl fun _ => Event.noConfusion⟩
  | enqueued other msg =>
    by_cases here : other = addr
    · subst here
      refine .inr ⟨rfl, rfl, dueReply other log, ?_, .inl rfl⟩
      rw [queued_enqueued]
      unfold answersIn
      rw [List.filterMap_append]
      cases due : dueReply other log with
      | nil => rfl
      | cons pair rest =>
        obtain ⟨alone, delivered⟩ := adjacent.due due
        rcases delivered with same | same
        · cases same
          rw [alone]
          rfl
        · cases same
    · refine .inr ⟨rfl, rfl, quiet (if_neg here) fun sent same => here ?_⟩
      exact (Event.enqueued.inj same).1
  | _ => exact .inr ⟨rfl, rfl, quiet rfl fun _ => Event.noConfusion⟩

/-- The replies that are in the queue, and the one that comes next, are among all replies, in that order. -/
theorem Adjacent.answers (adjacent : Adjacent log) :
    (answersIn (queued addr log) ++ dueReply addr log).Sublist (replies log addr) := by
  induction log with
  | nil => exact .slnil
  | cons event log ih =>
    have before := ih adjacent.tail
    rcases adjacent.grown with ⟨pair, made, due, idle, same⟩ | ⟨silent, due, kept, same, delivered⟩
    · rw [idle, List.append_nil] at before
      rw [same, due, replies_some made]
      exact before.append (List.Sublist.refl _)
    · rw [same, due, List.append_nil, replies_none silent]
      rcases delivered with here | ⟨here, _⟩
      · rw [here]
        exact before
      · rw [here]
        exact ((List.Sublist.refl _).append (List.nil_sublist _)).trans before

/-- Nothing is missing where nothing has been refused. -/
theorem Adjacent.complete (adjacent : Adjacent log) (taken : ∀ msg, .dropped addr msg ∉ log) :
    answersIn (queued addr log) ++ dueReply addr log = replies log addr := by
  induction log with
  | nil => rfl
  | cons event log ih =>
    have before := ih adjacent.tail fun msg member => taken msg (List.mem_cons_of_mem _ member)
    rcases adjacent.grown with ⟨pair, made, due, idle, same⟩ | ⟨silent, due, kept, same, delivered⟩
    · rw [idle, List.append_nil] at before
      rw [same, due, replies_some made, before]
    · rw [same, due, List.append_nil, replies_none silent]
      rcases delivered with here | ⟨_, msg, refused⟩
      · rw [here]
        exact before
      · rw [refused] at taken
        exact absurd List.mem_cons_self (taken msg)

end Log

/-! ## The sessions of a server -/

theorem isReading_idle {reader : Reader} (reading : reader.isReading = true) : reader.task = none := by
  cases reader with
  | waiting _ _ _ _ => cases reading
  | resuming _ _ _ => cases reading
  | calling _ _ _ _ => cases reading
  | _ => rfl

/-- Every frame that has come to a handler has been answered, but for the last one while its handler runs. -/
structure InTurn (server : ChatServer) : Prop where
  frames : ∀ addr, handed server.log addr =
    (replies server.log addr).map Prod.fst ++ ((server.session addr).reader.task.map Prod.fst).toList
  adjacent : Adjacent server.log
  settled : ∀ addr, dueReply addr server.log = []

namespace InTurn

variable {lib : JsonLib} {server : ChatServer}

theorem modify (inTurn : InTurn server) (addr : Addr) {change : Session → Session}
    (task : (change (server.session addr)).reader.task.map Prod.fst = (server.session addr).reader.task.map Prod.fst) :
    InTurn (server.modify addr change) := by
  refine ⟨?_, inTurn.adjacent, inTurn.settled⟩
  intro other
  by_cases here : other = addr
  · subst here
    rw [ChatServer.modify_session_self, task]
    exact inTurn.frames other
  · rw [ChatServer.modify_session_other _ _ here]
    exact inTurn.frames other

theorem idle (inTurn : InTurn server) (addr : Addr) {change : Session → Session} (before : (server.session addr).reader.task = none)
    (after : (change (server.session addr)).reader.task = none) : InTurn (server.modify addr change) := by
  apply inTurn.modify addr
  rw [before, after]

theorem record (inTurn : InTurn server) {event : Event} (plain : Event.isPlain event) : InTurn (server.record event) := by
  refine ⟨?_, inTurn.adjacent.cons inTurn.settled event, ?_⟩
  · intro addr
    rw [ChatServer.record_log, handed_none (handedBy_plain plain addr), replies_none (repliedBy_plain plain addr)]
    exact inTurn.frames addr
  · exact fun addr => dueReply_plain plain addr server.log

theorem stop (inTurn : InTurn server) (addr : Addr) : InTurn (server.stop addr) := by
  have left : InTurn (server.leave addr) := ⟨inTurn.frames, inTurn.adjacent, inTurn.settled⟩
  apply left.modify addr
  exact congrArg (fun reader => reader.task.map Prod.fst) (cancelDeadline_aside (server.session addr)).reader

/-- The log of a server whose handler has its turn, with the frame of that handler and what is answered before it. -/
theorem resumes (inTurn : InTurn server) {addr : Addr} {readMsg : MsgNode} {told : Ledger} {rest : Awaitable ChannelMessage}
    {ready : ChatServer} (resumes : Resumes lib server addr readMsg told rest ready) :
    handed ready.log addr = (replies ready.log addr).map Prod.fst ++ [readMsg] ∧
      (∀ other, other ≠ addr → handed ready.log other =
        (replies ready.log other).map Prod.fst ++ ((ready.session other).reader.task.map Prod.fst).toList) ∧
      Adjacent ready.log ∧ ∀ other, dueReply other ready.log = [] := by
  have here := inTurn.frames addr
  cases resumes with
  | handed idle reading =>
    rw [reading] at here
    refine ⟨?_, ?_, inTurn.adjacent.cons inTurn.settled _, fun other => rfl⟩
    · rw [ChatServer.record_log, handed_handed, here, replies_none rfl]
      exact congrArg (· ++ [readMsg]) (List.append_nil _)
    · intro other different
      have silent : handedBy other (.handed addr readMsg) = none := if_neg (Ne.symm different)
      rw [ChatServer.record_log, handed_none silent, replies_none rfl]
      exact inTurn.frames other
  | resumed idle reading =>
    rw [reading] at here
    exact ⟨here, fun other _ => inTurn.frames other, inTurn.adjacent, inTurn.settled⟩
  | returned answer blocked reading =>
    rw [reading] at here
    exact ⟨here, fun other _ => inTurn.frames other, inTurn.adjacent, inTurn.settled⟩

theorem handler (inTurn : InTurn server) (tracked : Tracked lib server) {addr : Addr} {readMsg : MsgNode} {told : Ledger}
    {rest : Awaitable ChannelMessage} {ready : ChatServer} (resumes : Resumes lib server addr readMsg told rest ready) :
    InTurn (ready.runHandler addr readMsg told rest) := by
  obtain ⟨here, others, adjacent, settled⟩ := inTurn.resumes resumes
  have undisturbed := (runHandler_turn ready addr readMsg told rest).1
  cases tracked.added resumes with
  | suspended same runs =>
    refine ⟨?_, same ▸ adjacent, same ▸ settled⟩
    intro other
    rw [same]
    by_cases own : other = addr
    · subst own
      rw [here, runs]
      rfl
    · rw [others other own, undisturbed.reader other own]
  | @replied told reply log since reaches delivered reading _ _ =>
    -- what the handler has put into another queue comes before the reply
    have before : Adjacent log ∧ (∀ other, dueReply other log = []) ∧
        ∀ other, handed log other = handed ready.log other ∧ replies log other = replies ready.log other := by
      cases since with
      | quiet same =>
        subst same
        exact ⟨adjacent, settled, fun other => ⟨rfl, rfl⟩⟩
      | pushed accepted _ _ _ _ pushed =>
        refine ⟨?_, pushed.settled, fun other => ⟨pushed.handed other, pushed.replies other⟩⟩
        cases pushed <;> exact adjacent.cons settled _
    obtain ⟨adjacent, settled, same⟩ := before
    refine ⟨?_, delivered.adjacent adjacent settled, delivered.settled⟩
    intro other
    rw [delivered.handed, delivered.replies, handed_none rfl, (same other).1]
    by_cases own : other = addr
    · subst own
      rw [here, replies_replied, (same other).2, reading, List.map_append]
      exact (List.append_nil _).symm
    · have silent : repliedBy other (.replied addr readMsg told reply) = none := if_neg (Ne.symm own)
      rw [replies_none silent, (same other).2, undisturbed.reader other own]
      exact others other own

theorem rule (lib : JsonLib) : StepRule lib InTurn (fun _ => True) (fun server => Tracked lib server ∧ Unused server) where
  aside server addr change aside inTurn := by
    apply inTurn.modify addr
    rw [aside.reader]
  plain server event plain inTurn := inTurn.record plain
  start server addr uid known _ _ fresh inTurn := by
    have unstarted := known.2 addr fresh
    have born : InTurn (server.modify addr fun _ => { uid, started := true }) := inTurn.idle addr (by rw [unstarted]; rfl) rfl
    exact ⟨born.frames, born.adjacent, born.settled⟩
  stop server addr _ _ inTurn := inTurn.stop addr
  send server addr bytes _ _ _ inTurn := inTurn.modify addr rfl
  begin server addr _ _ _ unstarted inTurn := inTurn.idle addr (by rw [unstarted]; rfl) rfl
  read server addr session _ _ done inTurn := by
    obtain ⟨before, after⟩ := readDone_reading done
    exact inTurn.idle addr (isReading_idle before) after
  decoded server addr readMsg header _ _ reading _ inTurn := inTurn.idle addr (by rw [reading]; rfl) rfl
  quit server addr _ _ reading inTurn := by
    apply (inTurn.stop addr).idle addr _ rfl
    rw [stop_self]
    have same : ((server.session addr).cancelDeadline).reader = (server.session addr).reader := (cancelDeadline_aside _).reader
    exact (congrArg Reader.task same).trans (isReading_idle reading)
  answer server addr readMsg ledger op next answer _ reading inTurn := by
    apply inTurn.modify addr
    rw [reading]
    rfl
  post server tasks inTurn := ⟨inTurn.frames, inTurn.adjacent, inTurn.settled⟩
  handler server addr readMsg ledger rest ready known resumes inTurn := inTurn.handler known.1 resumes

end InTurn

section Run

variable {lib : JsonLib} {name : String} {server : ChatServer} {acts : List Act}

/-- What the client of each session has sent, and how far it has been read and answered. -/
theorem run_inTurn (run : Transition.Run (ChatServer.step lib) (.fresh name) acts server) :
    InTurn server ∧ Fed (fun addr => acts.flatMap (sentBy addr)) server := by
  have fresh : InTurn (.fresh name) :=
    ⟨fun _ => rfl, fun newer _ _ _ _ _ _ same => absurd same.symm (List.append_ne_nil_of_right_ne_nil newer (List.cons_ne_nil _ _)), fun _ => rfl⟩
  suffices ∀ (server : ChatServer) (acts : List Act) (after : ChatServer) (sent : Addr → Bytes),
      Transition.Run (ChatServer.step lib) server acts after →
      (Tracked lib server ∧ Unused server) ∧ InTurn server ∧ Fed sent server →
      InTurn after ∧ Fed (fun addr => sent addr ++ acts.flatMap (sentBy addr)) after from
    this _ acts server (fun _ => []) run ⟨⟨fresh_tracked lib name, fresh_unused name⟩, fresh, .fresh name⟩
  intro server acts after sent run
  induction run generalizing sent with
  | nil server =>
    intro holds
    simp only [List.flatMap_nil, List.append_nil]
    exact holds.2
  | @cons server middle after act acts taken _ ih =>
    intro holds
    obtain ⟨⟨tracked, unused⟩, inTurn, fed⟩ := holds
    have next := ih (fun addr => sent addr ++ sentBy addr act)
      ⟨⟨step_tracked server act middle tracked taken, step_unused server act middle unused taken⟩,
        (InTurn.rule lib).step ⟨tracked, unused⟩ (fun _ _ _ => trivial) taken inTurn, step_fed unused fed taken⟩
    simp only [List.append_assoc] at next
    exact next

theorem replies_in_order (lib : JsonLib) (name : String) (acts : List Act) (server : ChatServer)
    (run : Transition.Run (ChatServer.step lib) (.fresh name) acts server) (addr : Addr) :
    (queued addr server.log).map Prod.fst = accepted server.log addr ∧
      (answersIn (queued addr server.log)).Sublist (replies server.log addr) ∧
      ((∀ msg, .dropped addr msg ∉ server.log) → answersIn (queued addr server.log) = replies server.log addr) ∧
      (∀ readMsg reply, (readMsg, reply) ∈ replies server.log addr → ∃ told, Replied lib readMsg told reply) ∧
      (replies server.log addr).map Prod.fst ++ ((server.session addr).reader.task.map Prod.fst).toList <+:
        (receiveAll (acts.flatMap (sentBy addr))).1 := by
  obtain ⟨inTurn, fed⟩ := run_inTurn run
  have traced := (run_outgoing run).1.1
  have answers : (answersIn (queued addr server.log) ++ dueReply addr server.log).Sublist (replies server.log addr) :=
    inTurn.adjacent.answers
  have complete : (∀ msg, .dropped addr msg ∉ server.log) →
      answersIn (queued addr server.log) ++ dueReply addr server.log = replies server.log addr := inTurn.adjacent.complete
  rw [inTurn.settled, List.append_nil] at answers complete
  refine ⟨queued_messages addr server.log, answers, complete, ?_, ?_⟩
  · intro readMsg reply member
    obtain ⟨event, logged, made⟩ := List.mem_filterMap.mp (List.mem_reverse.mp member)
    cases event with
    | replied other frame told answer =>
      simp only [repliedBy] at made
      split at made <;> cases made
      have reaches := traced.replied logged
      obtain ⟨_, same, replied⟩ := reaches.guided (handleMessage_asked lib readMsg)
      cases same
      exact ⟨told, replied⟩
    | _ => cases made
  · rw [← inTurn.frames addr]
    exact fed.frames addr

end Run

/-- Two frames are sent at once, and read one after the other. -/
def twoFrames : List Act :=
  let read : List Act := [.readDone 1, .resumeReader 1, .readDone 1, .resumeReader 1]
  [.accept 1 0, .startReader 1, .send 1 ((MsgNode.ofText 1 "{}").wire ++ (MsgNode.ofText 1007 "{}").wire)] ++ read ++ read

/-- Both are answered, the first one first. -/
theorem replies_in_order_two : ∃ server,
    Transition.Run (ChatServer.step ⟨fun _ => none, fun _ => none⟩) (.fresh "chat_server1") twoFrames server ∧
      (replies server.log 1).map (fun pair => pair.1.id) = [1, 1007] ∧
      answersIn (queued 1 server.log) = replies server.log 1 := by
  have possible : ((Transition.runs (ChatServer.step ⟨fun _ => none, fun _ => none⟩) (.fresh "chat_server1") twoFrames).any
      fun server => (replies server.log 1).map (fun pair => pair.1.id) = [1, 1007] ∧
        ∀ event ∈ server.log, isDropped event = false) = true := by decide +kernel
  obtain ⟨server, reached, found⟩ := (Option.any_eq_true _ _).mp possible
  obtain ⟨answered, kept⟩ := of_decide_eq_true found
  have run := Transition.run_iff_runs.mpr reached
  refine ⟨server, run, answered, (replies_in_order _ _ _ server run 1).2.2.1 ?_⟩
  intro msg member
  cases kept _ member

end ChatProof
