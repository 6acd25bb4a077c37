import ChatProject.Cluster.Deliveries

/-! The chat frames that the two servers put into their queues, and the frames that these stem from. -/

namespace ChatProof

open ChatModel

/-- A NotifyTextChatMsg frame. -/
def isChat (message : ChannelMessage) : Bool := message.msg.id = MessageId.notifyTextChatMsg.wire

def chats (log : List Event) (addr : Addr) : List ChannelMessage := (accepted log addr).filter isChat

/-- One of the queues gets this message, and the others stay as they are. -/
def Gets {ι α : Type} [DecidableEq ι] (before after : ι → List α) (receiver : ι) (message : α) : Prop :=
  ∀ queue, after queue = if queue = receiver then before queue ++ [message] else before queue

/-! ## Which messages are chat frames -/

section Kinds

variable {lib : JsonLib} {msg : MsgNode} {told : Ledger}

theorem arriving_chat {notice : AcceptedRequest} {origin side : Side}
    (chat : isChat { msg := (notice.arriving origin side).frame } = true) : ∃ request, notice = .textChat request := by
  have kept : (notice.arriving origin side).frame.id = (notice.arriving origin side).kind.wire := ofCString_id _ _
  have kind := of_decide_eq_true chat
  rw [kept] at kind
  unfold AcceptedRequest.arriving at kind
  cases notice with
  | textChat request => exact ⟨request, rfl⟩
  | addFriend request userInfo =>
    split at kind
    · exact absurd kind (by decide : ¬ MessageId.notifyAddFriend.wire = MessageId.notifyTextChatMsg.wire)
    · exact absurd kind (by decide : ¬ MessageId.notifyAddFriend.wire = MessageId.notifyTextChatMsg.wire)
  | authFriend request =>
    split at kind
    · exact absurd kind (by decide : ¬ MessageId.notifyAuthFriend.wire = MessageId.notifyTextChatMsg.wire)
    · exact absurd kind (by decide : ¬ MessageId.notifyAuthFriend.wire = MessageId.notifyTextChatMsg.wire)

/-- Nobody asks for a notification with a frame that is one. -/
theorem AcceptedRequest.From.not_chat {notice : AcceptedRequest} (known : notice.From lib msg told) :
    msg.id ≠ MessageId.notifyTextChatMsg.wire := by
  intro same
  have cast : MessageId.enumCast msg.id = some .notifyTextChatMsg := by
    rw [same, MessageId.enumCast_wire]
  cases notice with
  | addFriend request userInfo => cases cast.symm.trans known.1
  | authFriend request => cases cast.symm.trans known.1
  | textChat request => cases cast.symm.trans known.1

/-- A reply has the id of the request or that of a response. -/
theorem replied_ids {reply : ChannelMessage} (replied : Replied lib msg told reply) :
    reply.msg.id = msg.id ∨ ∃ messageId, reply.msg.id = (MessageId.getResponseId messageId).wire := by
  have answered : ∀ {α : Type} {spec : Notifying α} messageId, spec.responseId = (MessageId.getResponseId messageId).wire →
      spec.Answers msg told reply → reply.msg.id = msg.id ∨ ∃ messageId, reply.msg.id = (MessageId.getResponseId messageId).wire := by
    intro α spec messageId own answers
    cases answers with
    | prepare replies => cases replies <;> exact .inr ⟨messageId, (ofCString_id _ _).trans own⟩
    | absent _ _ => exact .inr ⟨messageId, (ofCString_id _ _).trans own⟩
    | delivered _ _ => exact .inr ⟨messageId, (ofCString_id _ _).trans own⟩
    | called _ _ _ => exact .inr ⟨messageId, (ofCString_id _ _).trans own⟩
    | failed _ _ _ _ => exact .inl (ofCString_id _ _)
  cases replied with
  | rejected _ _ => exact .inl (ofCString_id _ _)
  | unknown _ _ => exact .inl rfl
  | @thrown messageId _ => exact .inr ⟨messageId, ofCString_id _ _⟩
  | login _ replies =>
    cases replies with
    | invalid _ => exact .inl (ofCString_id _ _)
    | refused _ _ _ => exact .inr ⟨.loginRequest, ofCString_id _ _⟩
    | unknown _ => exact .inr ⟨.loginRequest, ofCString_id _ _⟩
    | success _ _ _ _ _ => exact .inr ⟨.loginRequest, ofCString_id _ _⟩
  | search _ _ replies => cases replies <;> exact .inr ⟨.searchUserRequest, ofCString_id _ _⟩
  | addFriend _ _ answers => exact answered .addFriendRequest rfl answers
  | authFriend _ _ answers => exact answered .authFriendRequest rfl answers
  | textChat _ _ answers => exact answered .textChatMsgReq rfl answers

/-- A reply is a chat frame only where its request is, for which there is no handler. -/
theorem replied_chat {reply : ChannelMessage} (replied : Replied lib msg told reply) (chat : isChat reply = true) :
    msg.id = MessageId.notifyTextChatMsg.wire ∧
      (reply = emptyResponse msg.id ∨ reply = errorResponseAndClose msg.id .notAuthenticated) := by
  have kind := of_decide_eq_true chat
  have echoed : msg.id = MessageId.notifyTextChatMsg.wire := by
    rcases replied_ids replied with same | ⟨messageId, same⟩
    · exact same.symm.trans kind
    · have response := same.symm.trans kind
      cases messageId <;> exact absurd response (by decide)
  have cast : MessageId.enumCast msg.id = some .notifyTextChatMsg := by
    rw [echoed, MessageId.enumCast_wire]
  refine ⟨echoed, ?_⟩
  cases replied with
  | rejected _ _ => exact .inr rfl
  | unknown _ _ => exact .inl rfl
  | thrown known =>
    cases cast.symm.trans known
    exact absurd kind (by decide)
  | login known _ => cases cast.symm.trans known
  | search known _ _ => cases cast.symm.trans known
  | addFriend known _ _ => cases cast.symm.trans known
  | authFriend known _ _ => cases cast.symm.trans known
  | textChat known _ _ => cases cast.symm.trans known

end Kinds

/-! ## The queues of one server -/

section Queues

variable {lib : JsonLib} {addr : Addr} {readMsg : MsgNode}

theorem chats_same {log later : List Event} (same : ∀ target, accepted later target = accepted log target) :
    chats later = chats log := by
  funext target
  exact congrArg (List.filter isChat) (same target)

theorem Delivered.chats {msg : ChannelMessage} {log later : List Event} (delivered : Delivered addr msg log later) :
    chats later = ChatProof.chats log ∨ isChat msg = true ∧ Gets (ChatProof.chats log) (ChatProof.chats later) addr msg := by
  by_cases taken : isChat msg = true ∧ accepted later addr = accepted log addr ++ [msg]
  · right
    refine ⟨taken.1, ?_⟩
    intro target
    unfold ChatProof.chats
    split
    · rename_i here
      rw [here, taken.2, List.filter_append, List.filter_singleton, taken.1]
      rfl
    · rename_i different
      rw [delivered.accepted_other different]
  · left
    funext target
    unfold ChatProof.chats
    by_cases here : target = addr
    · rcases delivered.accepted_self with full | sent
      · rw [here, full]
      · have plain : isChat msg = false := by
          simpa [sent] using taken
        rw [here, sent, List.filter_append, List.filter_singleton, plain]
        exact List.append_nil _
    · rw [delivered.accepted_other here]

/-- A turn of a handler puts one chat frame into the queues at most: the notification of somebody else, or the
    reply to a frame that is a chat frame itself. -/
theorem Added.chats {before : List Event} {after : ChatServer} (added : Added lib addr readMsg before after) :
    chats after.log = ChatProof.chats before ∨ (after.session addr).reader = .readingHeader ∧ ∃ receiver message,
      isChat message = true ∧ Gets (ChatProof.chats before) (ChatProof.chats after.log) receiver message ∧
      (receiver = addr ∧ readMsg.id = MessageId.notifyTextChatMsg.wire ∧
          (message = emptyResponse readMsg.id ∨ message = errorResponseAndClose readMsg.id .notAuthenticated) ∨
        receiver ≠ addr ∧ ∃ (notice : AcceptedRequest) (told : Ledger),
        notice.From lib readMsg told ∧ message = { msg := notice.here.frame }) := by
  cases added with
  | suspended same _ =>
    rw [same]
    exact .inl rfl
  | @replied told reply log since reaches delivered reading _ _ =>
    have logged : ChatProof.chats (.replied addr readMsg told reply :: log) = ChatProof.chats log :=
      chats_same fun _ => accepted_other rfl log
    obtain ⟨_, same, replied⟩ := reaches.guided (handleMessage_asked lib readMsg)
    cases same
    have own := delivered.chats
    rw [logged] at own
    cases since with
    | quiet quiet =>
      rw [quiet] at own
      rcases own with same | ⟨chat, gets⟩
      · exact .inl same
      · exact .inr ⟨reading, addr, reply, chat, gets, .inl ⟨rfl, replied_chat replied chat⟩⟩
    | @pushed early target home notice entry known _ apart pushed =>
      have silent : ChatProof.chats after.log = ChatProof.chats log := by
        rcases own with same | ⟨chat, _⟩
        · exact same
        · exact absurd (replied_chat replied chat).1 known.not_chat
      rw [silent]
      rcases pushed.chats with same | ⟨chat, gets⟩
      · exact .inl same
      · exact .inr ⟨reading, target, _, chat, gets, .inr ⟨apart, notice, early, known, rfl⟩⟩

/-- When a call has returned, there is no chat frame any more. -/
theorem returned_chats {server : ChatServer} {told : Ledger} {request : NotifyRequest} {answer : Option Int32}
    {rest : Awaitable ChannelMessage} (reaches : Reaches lib readMsg (⟨.notify request, answer⟩ :: told) rest) :
    chats (server.runHandler addr readMsg (⟨.notify request, answer⟩ :: told) rest).log = chats server.log := by
  obtain ⟨asker, asked⟩ := reaches.asked
  obtain ⟨notice, _, early, _, known, _⟩ := asked_notify (asked.guided (handleMessage_asked lib readMsg)).1.1
  obtain ⟨reply, same⟩ := returned_replies reaches
  subst same
  obtain ⟨_, same, replied⟩ := reaches.guided (handleMessage_asked lib readMsg)
  cases same
  have delivered := deliver_log (server.record (.replied addr readMsg (⟨.notify request, answer⟩ :: told) reply)) addr reply
  have logged : chats (.replied addr readMsg (⟨.notify request, answer⟩ :: told) reply :: server.log) = chats server.log :=
    chats_same fun _ => accepted_other rfl server.log
  rw [← logged]
  rcases delivered.chats with same | ⟨chat, _⟩
  · exact same
  · exact absurd (replied_chat replied chat).1 known.not_chat

theorem serveNotify_calm (own : Addr) (server : ChatServer) (request : NotifyRequest) :
    Calm own server (server.serveNotify request) := by
  unfold ChatServer.serveNotify
  dsimp only
  split
  · exact .deliver own _ _
  · exact .refl own server

theorem serveNotify_chats (server : ChatServer) (request : NotifyRequest) :
    chats (server.serveNotify request).log = chats server.log ∨ ∃ receiver, isChat { msg := (notified request).frame } = true ∧
      Gets (chats server.log) (chats (server.serveNotify request).log) receiver { msg := (notified request).frame } := by
  unfold ChatServer.serveNotify
  rw [notifySession_eq]
  dsimp only
  split
  · rename_i found _
    rcases (deliver_log server found { msg := (notified request).frame }).chats with same | ⟨chat, gets⟩
    · exact .inl same
    · exact .inr ⟨found, chat, gets⟩
  · exact .inl rfl

end Queues

/-! ## Both servers -/

/-- A session of one of the two servers. -/
abbrev Peer := Side × Addr

def queues (cluster : Cluster) (peer : Peer) : List ChannelMessage := chats (cluster.server peer.1).log peer.2

/-- The frames of a session that have come to a handler. -/
def framesOf (cluster : Cluster) (peer : Peer) : List MsgNode := handed (cluster.server peer.1).log peer.2

/-- The request of a call has got to the peer. -/
def delivered : Call → Bool
  | .queued | .answered => true
  | _ => false

theorem served_delivered (call : Call) (tasks : List NotifyRequest) : delivered (call.served tasks) = delivered call := by
  cases call with
  | queued => cases tasks <;> rfl
  | _ => rfl

/-- The handler of the last frame has still its notification to send, if it is one that does. -/
def Due (cluster : Cluster) (peer : Peer) : Prop :=
  ((cluster.server peer.1).session peer.2).reader.task ≠ none ∧
    (delivered (cluster.call peer.1) = true → (cluster.server peer.1).blocked ≠ some peer.2)

/-- What may have come of the frame of this number has come of it. -/
def Spent (cluster : Cluster) (peer : Peer) (number : Nat) : Prop :=
  number < (framesOf cluster peer).length ∧ (Due cluster peer → number + 1 < (framesOf cluster peer).length)

/-- The chat frame that the session `receiver` may get for a frame of the session `sender`: the notification, or the
    reply to a frame that is a chat frame itself, for which there is no handler. -/
inductive ChatOf (lib : JsonLib) (frame : MsgNode) (sender receiver : Peer) (message : ChannelMessage) : Prop
  | notice {told : Ledger} (request : TextChatMsgRequest) : (AcceptedRequest.textChat request).From lib frame told →
      receiver ≠ sender → message = { msg := ((AcceptedRequest.textChat request).arriving sender.1 receiver.1).frame } →
      ChatOf lib frame sender receiver message
  | echo : frame.id = MessageId.notifyTextChatMsg.wire → receiver = sender →
      message = emptyResponse frame.id ∨ message = errorResponseAndClose frame.id .notAuthenticated →
      ChatOf lib frame sender receiver message

/-- The steps that change what tasks a server has. -/
def onTasks : ClusterAct → Bool
  | .arrive _ | .runTask _ => true
  | _ => false

/-- What a step of the two servers can do to the chat frames in their queues, and to the tasks that they come of. -/
inductive ChatStep (externals : Externals) (cluster : Cluster) (act : ClusterAct) (after : Cluster) : Prop
  | silent : onTasks act = false → queues after = queues cluster → ChatStep externals cluster act after
  | chat {sender receiver : Peer} {message : ChannelMessage} {frame : MsgNode} : onTasks act = false →
      actor cluster act = some sender → sender.1 = receiver.1 → isChat message = true →
      Gets (queues cluster) (queues after) receiver message →
      (framesOf after sender).getLast? = some frame → ChatOf externals.lib frame sender receiver message →
      (∀ number, Spent cluster sender number → number + 1 < (framesOf after sender).length) → ¬ Due after sender →
      ChatStep externals cluster act after
  | posts {side : Side} {addr : Addr} {frame : MsgNode} {told : Ledger} (notice : AcceptedRequest) : act = .arrive side →
      queues after = queues cluster → (cluster.server side).blocked = some addr →
      framesOf after (side, addr) = framesOf cluster (side, addr) → (framesOf cluster (side, addr)).getLast? = some frame →
      notice.From externals.lib frame told →
      (after.server side.other).tasks = (cluster.server side.other).tasks ++ [notice.remote] →
      Due cluster (side, addr) → ¬ Due after (side, addr) → ChatStep externals cluster act after
  | runs {side : Side} (request : NotifyRequest) : act = .runTask side →
      (cluster.server side).tasks = request :: (after.server side).tasks →
      (queues after = queues cluster ∨ ∃ receiver, isChat { msg := (notified request).frame } = true ∧
        Gets (queues cluster) (queues after) (side, receiver) { msg := (notified request).frame }) →
      ChatStep externals cluster act after

section Steps

variable {externals : Externals} {cluster after : Cluster} {act : ClusterAct}

theorem queues_setServer {side : Side} {server : ChatServer} (same : chats server.log = chats (cluster.server side).log) :
    queues (cluster.setServer side server) = queues cluster := by
  funext peer
  unfold queues
  by_cases here : peer.1 = side
  · rw [here, setServer_self, same]
  · rw [setServer_other _ _ here]

theorem gets_setServer {side : Side} {server : ChatServer} {receiver : Addr} {message : ChannelMessage}
    (gets : Gets (chats (cluster.server side).log) (chats server.log) receiver message) :
    Gets (queues cluster) (queues (cluster.setServer side server)) (side, receiver) message := by
  intro queue
  obtain ⟨which, target⟩ := queue
  unfold queues
  by_cases here : which = side
  · subst here
    have same := gets target
    rw [setServer_self, same]
    by_cases there : target = receiver
    · rw [if_pos there, if_pos (congrArg (Prod.mk which) there)]
    · rw [if_neg there, if_neg fun same => there (Prod.mk.inj same).2]
  · rw [setServer_other _ _ here, if_neg fun same => here (Prod.mk.inj same).1]

/-- The server of one side goes on, and nothing else changes. -/
theorem due_setServer {side : Side} {server : ChatServer} {peer : Peer}
    (task : peer.1 = side → (server.session peer.2).reader.task ≠ none →
      ((cluster.server side).session peer.2).reader.task ≠ none)
    (blocked : peer.1 = side → (cluster.server side).blocked = some peer.2 → server.blocked = some peer.2 ∧ cluster.call side ≠ .idle)
    (due : Due (cluster.setServer side server) peer) : Due cluster peer := by
  obtain ⟨runs, waits⟩ := due
  by_cases here : peer.1 = side
  · rw [here, setServer_self] at runs
    rw [here, setServer_self] at waits
    refine ⟨here ▸ task here runs, ?_⟩
    rw [here]
    intro answered calls
    obtain ⟨still, busy⟩ := blocked here calls
    rw [setServer_call_busy _ _ _ busy] at waits
    exact waits answered still
  · rw [setServer_other _ _ here] at runs
    rw [setServer_other _ _ here, setServer_call_other _ _ here] at waits
    exact ⟨runs, waits⟩

/-- A frame comes to its handler, or the handler of the last one goes on. -/
theorem resumes_spent {side : Side} {addr : Addr} {readMsg : MsgNode} {told : Ledger} {rest : Awaitable ChannelMessage}
    {ready : ChatServer} (idle : (cluster.server side).blocked = none)
    (resumes : Resumes externals.lib (cluster.server side) addr readMsg told rest ready) :
    handed ready.log addr = framesOf cluster (side, addr) ++ [readMsg] ∨
      handed ready.log addr = framesOf cluster (side, addr) ∧ Due cluster (side, addr) := by
  cases resumes with
  | handed _ reading => exact .inl (handed_handed addr readMsg _)
  | resumed _ reading =>
    refine .inr ⟨rfl, ?_, fun _ => ?_⟩
    · rw [reading]
      exact Option.some_ne_none _
    · rw [idle]
      exact (Option.some_ne_none addr).symm
  | returned answer blocked reading => cases idle.symm.trans blocked

theorem own_idle {lib : JsonLib} {server after : ChatServer} {addr : Addr}
    (taken : server.step lib (.resumeReader addr) = some after) : server.blocked = none := by
  by_contra busy
  simp only [ChatServer.step, if_neg busy] at taken
  cases taken

theorem framesOf_setServer {side : Side} {server : ChatServer} {peer : Peer}
    (same : peer.1 = side → handed server.log peer.2 = handed (cluster.server side).log peer.2) :
    framesOf (cluster.setServer side server) peer = framesOf cluster peer := by
  unfold framesOf
  by_cases here : peer.1 = side
  · rw [here, setServer_self, same here]
  · rw [setServer_other _ _ here]

/-- A handler runs: its session may have a new frame, and no other session notices it. -/
theorem handler_frames {side : Side} {caller : Addr} {readMsg : MsgNode} {told : Ledger} {rest : Awaitable ChannelMessage}
    {ready : ChatServer} (idle : (cluster.server side).blocked = none)
    (resumes : Resumes externals.lib (cluster.server side) caller readMsg told rest ready) (peer : Peer) :
    let after := cluster.setServer side (ready.runHandler caller readMsg told rest)
    framesOf after peer = framesOf cluster peer ∧ (Due after peer → Due cluster peer) ∨
      ∃ frame, framesOf after peer = framesOf cluster peer ++ [frame] := by
  intro after
  obtain ⟨undisturbed, turn⟩ := runHandler_turn ready caller readMsg told rest
  have session : ready.session = (cluster.server side).session := by
    cases resumes <;> rfl
  by_cases here : peer = (side, caller)
  · subst here
    have frames : framesOf after (side, caller) = handed ready.log caller := by
      unfold framesOf
      rw [setServer_self, turn.handed]
    rw [frames]
    rcases resumes_spent idle resumes with next | ⟨same, due⟩
    · exact .inr ⟨readMsg, next⟩
    · exact .inl ⟨same, fun _ => due⟩
  · left
    have apart : peer.1 = side → peer.2 ≠ caller := by
      intro same other
      exact here (Prod.ext same other)
    constructor
    · apply framesOf_setServer
      intro same
      rw [turn.handed]
      cases resumes with
      | handed _ reading =>
        have silent : handedBy peer.2 (.handed caller readMsg) = none := if_neg (Ne.symm (apart same))
        exact handed_none silent _
      | resumed _ _ => rfl
      | returned _ _ _ => rfl
    · apply due_setServer
      · intro same runs
        rw [undisturbed.reader peer.2 (apart same), session] at runs
        exact runs
      · intro _ blocked
        cases idle.symm.trans blocked

/-- The frames of a session come one after the other, and what a handler has sent it does not take back. -/
theorem step_frames (traced : ∀ side, Traced externals.lib (cluster.server side)) (linked : Linked cluster)
    (taken : cluster.step externals act = some after) (peer : Peer) :
    framesOf after peer = framesOf cluster peer ∧ (Due after peer → Due cluster peer) ∨
      ∃ frame, framesOf after peer = framesOf cluster peer ++ [frame] := by
  obtain ⟨home, addr⟩ := peer
  cases step_cases taken with
  | @own side act server own first =>
    cases own_step own first with
    | @handler caller readMsg told rest ready kind resumes ran =>
      subst kind ran
      exact handler_frames (own_idle first) resumes (home, addr)
    | other logged quiet =>
      left
      constructor
      · apply framesOf_setServer
        intro _
        rcases logged with same | ⟨_, _, wrote⟩
        · rw [same]
        · rw [wrote, handed_none rfl]
      · apply due_setServer
        · intro _ runs idle
          exact runs (quiet addr idle)
        · intro _ blocked
          have busy : (cluster.server side).blocked ≠ none := by
            rw [blocked]
            exact Option.some_ne_none addr
          exact ⟨(own_blocked own first busy).trans blocked, fun idle => busy ((linked.idle side).mp idle)⟩
  | @exec side caller outcome readMsg told op next answer stores reading done =>
    left
    constructor
    · exact framesOf_setServer fun _ => rfl
    · have kept : Due (cluster.setServer side ((cluster.server side).setReader caller
          (.resuming readMsg (⟨op, answer⟩ :: told) (next answer)))) (home, addr) → Due cluster (home, addr) := by
        apply due_setServer
        · intro _ runs
          by_cases here : addr = caller
          · rw [here, reading]
            exact Option.some_ne_none _
          · rw [setReader_other _ here] at runs
            exact runs
        · intro _ blocked
          refine ⟨blocked, ?_⟩
          intro idle
          cases ((linked.idle side).mp idle).symm.trans blocked
      exact kept
  | @arrive side request sent =>
    left
    constructor
    · unfold framesOf
      by_cases here : home = side.other
      · rw [here, setServer_self]
      · rw [setServer_other _ _ here, setCall_server]
    · intro due
      have waits : Due (cluster.setCall side .queued) (home, addr) := by
        apply due_setServer _ _ due
        · intro _ runs
          exact runs
        · intro _ blocked
          refine ⟨blocked, ?_⟩
          rw [setCall_other _ _ (other_ne side)]
          intro idle
          cases ((linked.idle side.other).mp idle).symm.trans blocked
      refine ⟨waits.1, ?_⟩
      intro there
      have different : home ≠ side := by
        intro here
        subst here
        rw [sent] at there
        cases there
      apply waits.2
      rw [setCall_other _ _ different]
      exact there
  | @runTask side request rest free tasks =>
    left
    have calm := serveNotify_calm addr { cluster.server side with tasks := rest } request
    have reader := calm.reader addr
    have frames := Adds.handed calm.log addr
    constructor
    · exact framesOf_setServer fun _ => frames
    · intro due
      obtain ⟨runs, waits⟩ := due
      rw [setCall_server] at runs waits
      by_cases here : home = side
      · subst here
        rw [setServer_self, reader] at runs
        refine ⟨runs, fun _ => ?_⟩
        rw [free]
        exact (Option.some_ne_none addr).symm
      · have peer : home = side.other := (eq_or_other side home).resolve_left here
        rw [setServer_other _ _ here] at runs waits
        rw [peer, setCall_self, served_delivered, ← peer] at waits
        exact ⟨runs, waits⟩
  | @returned _ side caller answer readMsg told request next kind blocked reading =>
    left
    obtain ⟨undisturbed, turn⟩ := runHandler_turn { cluster.server side with blocked := none } caller readMsg
      (⟨.notify request, answer⟩ :: told) (next answer)
    constructor
    · exact framesOf_setServer fun _ => turn.handed addr
    · intro due
      obtain ⟨runs, waits⟩ := due
      by_cases here : home = side
      · subst here
        rw [setServer_self] at runs
        by_cases own : addr = caller
        · subst own
          have reaches := (traced home).resumes (.returned answer blocked reading)
          obtain ⟨reply, same⟩ := returned_replies reaches
          rw [same] at runs
          exact absurd (congrArg (fun session => session.reader.task) (setReader_self _ addr .readingHeader)) runs
        · rw [undisturbed.reader addr own] at runs
          refine ⟨runs, fun _ same => own ?_⟩
          exact (Option.some.inj (blocked.symm.trans same)).symm
      · rw [setServer_other _ _ here] at runs waits
        rw [setServer_call_other _ _ here, setCall_other _ _ here] at waits
        exact ⟨runs, waits⟩
  | tick seconds => exact .inl ⟨rfl, id⟩

theorem step_spent (traced : ∀ side, Traced externals.lib (cluster.server side)) (linked : Linked cluster)
    (taken : cluster.step externals act = some after) {peer : Peer} {number : Nat} (spent : Spent cluster peer number) :
    Spent after peer number := by
  rcases step_frames traced linked taken peer with ⟨frames, due⟩ | ⟨frame, frames⟩
  · constructor
    · rw [frames]
      exact spent.1
    · rw [frames]
      exact fun waits => spent.2 (due waits)
  · have before := spent.1
    constructor
    · rw [frames, List.length_append]
      exact Nat.lt_add_right 1 before
    · intro _
      rw [frames, List.length_append]
      exact Nat.add_lt_add_right before 1

/-- A step puts one chat frame at most into a queue, or makes a task of it at the peer, and then nothing else ever comes of
    its frame. -/
theorem step_chats {stores : Stores} {name : Side → String}
    (reached : Transition.Reachable (Cluster.step externals) (.start stores name) cluster)
    (taken : cluster.step externals act = some after) : ChatStep externals cluster act after := by
  have tracked := reachable_tracked reached
  have linked := reachable_linked reached
  have matched := reachable_matched reached
  cases step_cases taken with
  | @own side act server own first =>
    cases own_step own first with
    | @handler addr readMsg told rest ready kind resumes ran =>
      subst kind
      have added := (tracked side).added resumes
      have last := (tracked side).current.resumes resumes
      have turn := (runHandler_turn ready addr readMsg told rest).2
      rw [← ran] at added turn
      have before : chats ready.log = chats (cluster.server side).log := chats_same (resumes_accepted resumes)
      have frames : framesOf (cluster.setServer side server) (side, addr) = handed ready.log addr := by
        unfold framesOf
        rw [setServer_self, turn.handed]
      have chat := added.chats
      rw [before] at chat
      rcases chat with same | ⟨reading, receiver, message, chat, gets, source⟩
      · exact .silent rfl (queues_setServer same)
      · have through : ¬ Due (cluster.setServer side server) (side, addr) := by
          intro due
          obtain ⟨runs, _⟩ := due
          rw [setServer_self, reading] at runs
          exact runs rfl
        have origin : ChatOf externals.lib readMsg (side, addr) (side, receiver) message := by
          rcases source with ⟨here, echo, reply⟩ | ⟨apart, notice, early, known, built⟩
          · exact .echo echo (congrArg (Prod.mk side) here) reply
          · have arrives : notice.arriving side side = notice.here := if_pos rfl
            rw [built, ← arrives] at chat
            obtain ⟨request, same⟩ := arriving_chat chat
            subst same
            refine .notice request known (fun same => apart (Prod.mk.inj same).2) ?_
            rw [built, ← arrives]
        rw [← frames] at last
        have home : (side, addr).1 = (side, receiver).1 := rfl
        refine .chat rfl rfl home chat (gets_setServer gets) last origin ?_ through
        intro number spent
        rw [frames]
        rcases resumes_spent (own_idle first) resumes with next | ⟨same, due⟩
        · rw [next, List.length_append]
          exact Nat.add_lt_add_right spent.1 1
        · rw [same]
          exact spent.2 due
    | other logged _ =>
      refine .silent rfl (queues_setServer ?_)
      rcases logged with same | ⟨_, _, wrote⟩
      · rw [same]
      · rw [wrote]
        exact chats_same fun _ => accepted_other rfl _
  | @exec side addr outcome readMsg told op next answer stores reading done =>
    have same : queues (cluster.setServer side ((cluster.server side).setReader addr
        (.resuming readMsg (⟨op, answer⟩ :: told) (next answer)))) = queues cluster := queues_setServer rfl
    exact .silent rfl same
  | @arrive side request sent =>
    have same : queues ((cluster.setCall side .queued).setServer side.other { cluster.server side.other with
        tasks := (cluster.server side.other).tasks ++ [request] }) = queues (cluster.setCall side .queued) := queues_setServer rfl
    have calls := matched side
    rw [sent] at calls
    obtain ⟨addr, readMsg, told, next, blocked, reading⟩ := outgoing_calling calls
    obtain ⟨notice, early, known, rfl, _, last⟩ := calling_notice (tracked side) reading
    refine .posts notice rfl same blocked ?_ last known ?_ ⟨?_, ?_⟩ ?_
    · unfold framesOf
      rw [setServer_other _ _ (ne_other side), setCall_server]
    · rw [setServer_self]
    · rw [reading]
      exact Option.some_ne_none _
    · rw [sent]
      exact fun there => Bool.noConfusion there
    · rintro ⟨_, waits⟩
      rw [setServer_call_other _ _ (ne_other side), setCall_self, setServer_other _ _ (ne_other side)] at waits
      exact waits rfl blocked
  | @runTask side request rest free tasks =>
    have run : (cluster.server side).tasks = request :: (((cluster.setServer side
        ({ cluster.server side with tasks := rest }.serveNotify request)).setCall side.other
          ((cluster.call side.other).served rest)).server side).tasks := by
      rw [setCall_server, setServer_self, serveNotify_tasks]
      exact tasks
    refine .runs request rfl run ?_
    rcases serveNotify_chats { cluster.server side with tasks := rest } request with same | ⟨receiver, chat, gets⟩
    · have quiet : queues (cluster.setServer side
          (({ cluster.server side with tasks := rest } : ChatServer).serveNotify request)) = queues cluster := queues_setServer same
      exact .inl quiet
    · exact .inr ⟨receiver, chat, gets_setServer gets⟩
  | @returned _ side addr answer readMsg told request next kind blocked reading =>
    have reaches := (tracked side).traced.resumes (.returned answer blocked reading)
    have same : queues ((cluster.setCall side .idle).setServer side ({ cluster.server side with blocked := none }.runHandler addr
        readMsg (⟨.notify request, answer⟩ :: told) (next answer))) = queues (cluster.setCall side .idle) :=
      queues_setServer (returned_chats reaches)
    rcases kind with ⟨rfl, _⟩ | ⟨rfl, _⟩
    · exact .silent rfl same
    · exact .silent rfl same
  | tick seconds => exact .silent rfl rfl

end Steps

end ChatProof
