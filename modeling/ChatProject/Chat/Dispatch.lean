import ChatProject.Chat.Notification
import ChatProject.Cluster.Stores
import ChatProject.Server.Handling

/-! Which handler runs for a frame, and with which id it replies. -/

namespace ChatProof

open ChatModel

/-! ## Behind the gate -/

/-- What has been told determines what is left of a handler. -/
theorem Reaches.unique {lib : JsonLib} {readMsg : MsgNode} {told : Ledger} {first second : Awaitable ChannelMessage}
    (one : Reaches lib readMsg told first) (other : Reaches lib readMsg told second) : first = second := by
  induction one generalizing second with
  | start =>
    cases other
    rfl
  | answer answer _ ih =>
    cases other with
    | answer _ before =>
      cases ih before
      rfl

section Gate

variable (lib : JsonLib) (msg : MsgNode)

/-- The handler as `handle_message` calls it, inside its `try`. -/
def guarded (messageId : MessageId) (handler : JsonLib → MsgNode → Awaitable ChannelMessage) : Awaitable ChannelMessage :=
  (handler lib msg).catchWith fun _ => .ret (errorResponse (MessageId.getResponseId messageId).wire .internalError)

variable {lib msg}

theorem reaches_gate : Reaches lib msg [⟨.isAuthenticated, true⟩] (match MessageId.enumCast msg.id with
    | none => .ret (emptyResponse msg.id)
    | some messageId =>
      match handlers messageId with
      | none => .ret (emptyResponse msg.id)
      | some handler => guarded lib msg messageId handler) := by
  have gate : Reaches lib msg [] (handleMessage lib msg) := .start
  exact gate.answer true

theorem reaches_handler {messageId : MessageId} {handler : JsonLib → MsgNode → Awaitable ChannelMessage}
    (kind : MessageId.enumCast msg.id = some messageId) (found : handlers messageId = some handler) :
    Reaches lib msg [⟨.isAuthenticated, true⟩] (guarded lib msg messageId handler) := by
  have passed : Reaches lib msg [⟨.isAuthenticated, true⟩] _ := reaches_gate
  rw [kind] at passed
  dsimp only at passed
  rw [found] at passed
  exact passed

theorem reaches_nobody (nobody : ∀ messageId, MessageId.enumCast msg.id = some messageId → handlers messageId = none) :
    Reaches lib msg [⟨.isAuthenticated, true⟩] (.ret (emptyResponse msg.id)) := by
  have passed : Reaches lib msg [⟨.isAuthenticated, true⟩] _ := reaches_gate
  cases kind : MessageId.enumCast msg.id with
  | none =>
    rw [kind] at passed
    exact passed
  | some messageId =>
    rw [kind] at passed
    dsimp only at passed
    rw [nobody messageId kind] at passed
    exact passed

end Gate

/-- The thread that takes the frame over from an authenticated session is through the gate at once. -/
theorem runHandler_gate {lib : JsonLib} {msg : MsgNode} {rest : Awaitable ChannelMessage}
    (reaches : Reaches lib msg [⟨.isAuthenticated, true⟩] rest) (server : ChatServer) (addr : Addr)
    (authenticated : (server.session addr).isAuthenticated = true) :
    server.runHandler addr msg [] (handleMessage lib msg) = server.runHandler addr msg [⟨.isAuthenticated, true⟩] rest := by
  have passed : Reaches lib msg [⟨.isAuthenticated, true⟩] _ := reaches_gate
  have same := reaches.unique passed
  subst same
  have asked : ChatServer.execRecorded addr .isAuthenticated (server, []) = some (true, server, [⟨.isAuthenticated, true⟩]) := by
    have answered : ChatServer.execLocal addr .isAuthenticated server = some (true, server) := by
      rw [ChatServer.execLocal, authenticated]
    rw [ChatServer.execRecorded, answered]
    rfl
  unfold ChatServer.runHandler
  congr 1
  change Coroutine.advance _ (.call Op.isAuthenticated _) _ = _
  rw [Coroutine.advance, asked]
  rfl

/-! ## The id as 32 bits, and as 16 -/

theorem wire_small (messageId : MessageId) : messageId.wire.toNat < 65536 := by
  rw [MessageId.wire, UInt16.toNat_toUInt32]
  exact messageId.code.toNat_lt

theorem enumCast_small {id : UInt32} (small : id.toNat < 65536) {messageId : MessageId} :
    MessageId.enumCast id = some messageId ↔ id = messageId.wire := by
  rw [MessageId.enumCast_eq_some, MessageId.wire]
  have whole : id.toUInt16.toUInt32 = id := by
    apply UInt32.toNat_inj.mp
    rw [UInt16.toNat_toUInt32, UInt32.toNat_toUInt16]
    exact Nat.mod_eq_of_lt small
  constructor
  · intro same
    rw [same, whole]
  · intro same
    rw [same]
    simp

/-! ## Dispatch -/

/-- The handler that is registered under the id runs, and where there is none the reply is empty. -/
structure DispatchesById (lib : JsonLib) (msg : MsgNode) : Prop where
  registered : ∀ messageId handler, handlers messageId = some handler → msg.id = messageId.wire →
    Reaches lib msg [⟨.isAuthenticated, true⟩] (guarded lib msg messageId handler)
  unregistered : (∀ messageId, handlers messageId ≠ none → msg.id ≠ messageId.wire) →
    Reaches lib msg [⟨.isAuthenticated, true⟩] (.ret (emptyResponse msg.id))

/-- The low half of the id is the number of no registered request. -/
def Unlisted (id : UInt32) : Prop := ∀ messageId, handlers messageId ≠ none → messageId.code ≠ id.toUInt16

/-- A handler that replies before it has asked anything replies with an error. -/
theorem replied_at_once {lib : JsonLib} {msg : MsgNode} {reply : ChannelMessage} {messageId : MessageId}
    (replied : Replied lib msg [⟨.isAuthenticated, true⟩] reply) (kind : MessageId.enumCast msg.id = some messageId)
    (handled : handlers messageId ≠ none) : reply.msg.bodyText[2]? = some 101 := by
  have only : ∀ {op : Op} {answer : op.Res}, Told [⟨.isAuthenticated, true⟩] op answer → op = .isAuthenticated := by
    intro op answer known
    cases List.mem_singleton.mp known
    rfl
  have answered : ∀ {α : Type} {spec : Notifying α}, spec.Answers msg [⟨.isAuthenticated, true⟩] reply →
      reply.msg.bodyText[2]? = some 101 := by
    intro α spec answers
    cases answers with
    | prepare replies => cases replies <;> exact errorResponse_third _ _
    | absent _ same => cases same
    | delivered _ same => cases same
    | called _ _ same => cases same
    | failed _ _ _ same => cases same
  cases replied with
  | rejected _ same => cases same
  | unknown nobody _ => exact (unhandled_absurd nobody kind handled).elim
  | thrown _ => exact errorResponse_third _ _
  | login _ replies =>
    cases replies with
    | invalid _ => exact errorResponse_third _ _
    | refused _ _ _ => exact errorResponse_third _ _
    | unknown _ => exact errorResponse_third _ _
    | success passed _ _ _ _ => exact Op.noConfusion (only passed.token)
  | search _ _ replies =>
    cases replies with
    | invalid _ => exact errorResponse_third _ _
    | found _ found =>
      cases found with
      | cached known _ => exact Op.noConfusion (only known)
      | stored known => exact Op.noConfusion (only known)
    | notFound => exact errorResponse_third _ _
  | addFriend _ _ answers => exact answered answers
  | authFriend _ _ answers => exact answered answers
  | textChat _ _ answers => exact answered answers

theorem dispatchesById_iff (lib : JsonLib) (msg : MsgNode) :
    DispatchesById lib msg ↔ msg.id.toNat < 65536 ∨ Unlisted msg.id := by
  constructor
  · intro dispatches
    by_contra wide
    rw [not_or, Unlisted] at wide
    obtain ⟨large, listed⟩ := wide
    push Not at listed
    obtain ⟨messageId, handled, code⟩ := listed
    have kind := MessageId.enumCast_eq_some.mpr code
    have nobody : ∀ other, handlers other ≠ none → msg.id ≠ other.wire := by
      intro other _ same
      rw [same] at large
      exact large (wire_small other)
    obtain ⟨reply, same, replied⟩ := (dispatches.unregistered nobody).guided (handleMessage_asked lib msg)
    cases same
    have third := replied_at_once replied kind handled
    rw [emptyResponse, ofNull_bodyText] at third
    cases third
  · intro fits
    refine ⟨?_, ?_⟩
    · intro messageId handler found same
      apply reaches_handler _ found
      rw [same, MessageId.enumCast_wire]
    · intro nobody
      apply reaches_nobody
      intro messageId kind
      by_contra handled
      rcases fits with small | unlisted
      · exact nobody messageId handled ((enumCast_small small).mp kind)
      · exact unlisted messageId handled (MessageId.enumCast_eq_some.mp kind)

/-- On every authenticated session, a frame is dispatched by its whole id exactly when the id has 16 bits or
    the low half of it is no registered number. -/
theorem dispatch_by_id (lib : JsonLib) (msg : MsgNode) :
    (∀ (server : ChatServer) addr rest, (server.session addr).isAuthenticated = true →
      Reaches lib msg [⟨.isAuthenticated, true⟩] rest → server.runHandler addr msg [] (handleMessage lib msg) =
        server.runHandler addr msg [⟨.isAuthenticated, true⟩] rest) ∧
    (DispatchesById lib msg ↔ msg.id.toNat < 65536 ∨ Unlisted msg.id) :=
  ⟨fun server addr _ authenticated reaches => runHandler_gate reaches server addr authenticated, dispatchesById_iff lib msg⟩

/-- The id 66541 is no number of a request, and its low half is that of a login. -/
theorem dispatch_of_wide_id : ¬ ∀ (lib : JsonLib) (msg : MsgNode), DispatchesById lib msg := by
  intro all
  rcases (dispatchesById_iff ⟨fun _ => none, fun _ => none⟩ { id := 66541 }).mp (all _ _) with small | unlisted
  · exact absurd small (by decide)
  · exact unlisted .loginRequest nofun (by decide)

/-! ## The id of the reply -/

/-- An environment that also keeps what it has answered. -/
def recorded {σ : Type} (exec : (op : Op) → σ → op.Res × σ) (op : Op) (state : σ × Ledger) : op.Res × σ × Ledger :=
  let (answer, after) := exec op state.1
  (answer, after, ⟨op, answer⟩ :: state.2)

theorem Reaches.recorded {σ : Type} (exec : (op : Op) → σ → op.Res × σ) {lib : JsonLib} {msg : MsgNode} {told : Ledger}
    {rest : Awaitable ChannelMessage} (reaches : Reaches lib msg told rest) (state : σ) :
    Reaches lib msg (rest.run (recorded exec) (state, told)).2.2 (.ofExcept (rest.run (recorded exec) (state, told)).1) := by
  induction rest generalizing told state with
  | ret reply => exact reaches
  | throw failure => exact reaches
  | call op next ih => exact ih _ (reaches.answer _) _

/-- Whatever a handler is told, it ends with one reply. -/
theorem handleMessage_replies {σ : Type} (exec : (op : Op) → σ → op.Res × σ) (lib : JsonLib) (msg : MsgNode) (state : σ) :
    ∃ reply after told, (handleMessage lib msg).run (recorded exec) (state, []) = (.ok reply, after, told) ∧
      Reaches lib msg told (.ret reply) := by
  have begun : Reaches lib msg [] (handleMessage lib msg) := .start
  have reaches := begun.recorded exec state
  generalize (handleMessage lib msg).run (recorded exec) (state, []) = ending at reaches
  obtain ⟨result, after, told⟩ := ending
  have finishes : Finishes lib msg told result := by
    have guided := reaches.guided (handleMessage_asked lib msg)
    cases result <;> exact guided
  obtain ⟨reply, same, _⟩ := finishes
  subst same
  exact ⟨reply, after, told, rfl, reaches⟩

/-- The peer was asked to notify somebody, and has not answered with success. -/
def RpcFailed (told : Ledger) : Prop := ∃ request response, Told told (.notify request) response ∧ response ≠ some 0

/-- The body of a login names no request. -/
def UnreadableLogin (lib : JsonLib) (msg : MsgNode) (messageId : MessageId) : Prop :=
  messageId = .loginRequest ∧ parseJson lib UserLoginRequest.fromJson msg.bodyText = none

theorem getResponseId_ne {id : UInt32} {messageId : MessageId} (kind : MessageId.enumCast id = some messageId)
    (handled : handlers messageId ≠ none) : id ≠ (MessageId.getResponseId messageId).wire := by
  intro same
  rw [same, MessageId.enumCast_wire] at kind
  cases messageId
  all_goals first | (cases kind; done) | exact handled rfl

/-- What the handler does with the answer of the peer, if it has asked for one. -/
def AfterCall (msg : MsgNode) (told : Ledger) (result : Except Failure ChannelMessage) : Prop :=
  ∀ request response, Told told (.notify request) response → response ≠ some 0 →
    result = .ok (errorResponse msg.id .rpcFailed)

theorem NoPush.afterCall {told : Ledger} (quiet : NoPush told) (msg : MsgNode) (result : Except Failure ChannelMessage) :
    AfterCall msg told result := fun _ _ known => absurd (quiet _ known) nofun

theorem notifying_afterCall {α : Type} {spec : Notifying α} {msg : MsgNode} {messageId : MessageId} {told : Ledger}
    {handler : Awaitable ChannelMessage} (prepares : spec.Prepares msg told handler)
    (plain : ∀ request op, spec.statement request = some op → isPush op = false) (quiet : NoPush told) :
    handler.Guided (fun _ _ => True) (Recovered messageId (AfterCall msg)) told := by
  have named : ∀ told name, NoPush told → NoPush (⟨.serverName, name⟩ :: told) := fun _ name => noPush_cons rfl name
  apply prepares.guided (fun _ _ _ _ => trivial)
    (fun told op answer asks quiet => noPush_cons (asks.plain plain) answer quiet) quiet
  · intro told reply _ quiet
    exact quiet.afterCall msg _
  · intro told failure quiet
    exact quiet.afterCall msg _
  · intro told request forwarding sends quiet
    apply forward_guided
    · trivial
    · trivial
    · exact (noPush_cons rfl _ (named _ _ quiet)).afterCall msg _
    · intro session
      trivial
    · intro session other response known
      rcases List.mem_cons.mp known with same | before
      · cases same
      · exact (noPush_cons rfl _ (named _ _ quiet)).afterCall msg _ other response before
    · intro name _
      trivial
    · intro name response _ fails other answer known _
      rfl
    · intro name _ other response known fails
      rcases List.mem_cons.mp known with same | before
      · cases same
        exact absurd rfl fails
      · exact absurd (named _ name quiet _ before) nofun

theorem LoginAsks.plain {lib : JsonLib} {msg : MsgNode} {told : Ledger} {op : Op} (asks : LoginAsks lib msg told op) :
    isPush op = false := by
  cases asks <;> rfl

theorem SearchAsks.plain {key : UserKey} {op : Op} (asks : SearchAsks key op) : isPush op = false := by
  cases asks <;> rfl

/-- A call of the peer that fails decides the reply. -/
theorem handleMessage_afterCall (lib : JsonLib) (msg : MsgNode) :
    (handleMessage lib msg).Guided (fun _ _ => True) (AfterCall msg) [] := by
  have gated : ∀ flag, NoPush [⟨.isAuthenticated, flag⟩] := fun flag => noPush_cons rfl flag noPush_nil
  have ends : ∀ messageId told result, NoPush told → Recovered messageId (AfterCall msg) told result := by
    intro messageId told result quiet
    cases result <;> exact quiet.afterCall msg _
  apply handleMessage_rule lib msg trivial
  · intro _
    exact (gated false).afterCall msg _
  · intro flag _
    exact (gated flag).afterCall msg _
  · intro _ flag
    apply (login_guided lib msg (gated flag) rfl).imp (fun _ _ _ _ => trivial) _ _ (gated flag)
    · intro told op answer asks quiet
      exact noPush_cons asks.1.plain answer quiet
    · intro told result _ quiet
      exact ends _ told result quiet
  · intro _
    apply (searchUser_guided lib msg (gated true)).imp (fun _ _ _ _ => trivial) _ _ (gated true)
    · intro told op answer asks quiet
      obtain ⟨⟨key, _, asks⟩, _⟩ := asks
      exact noPush_cons asks.plain answer quiet
    · intro told result _ quiet
      exact ends _ told result quiet
  · intro _
    apply notifying_afterCall (addFriend_prepares lib msg _) _ (gated true)
    intro request op same
    cases same
    rfl
  · intro _
    apply notifying_afterCall (authFriend_prepares lib msg _) _ (gated true)
    intro request op same
    cases same
    rfl
  · intro _
    apply notifying_afterCall (textChatMsg_prepares lib msg _) _ (gated true)
    intro request op same
    cases same

/-- Past the gate: the session is logged in, or the frame is a login by its whole id. -/
def PastGate (msg : MsgNode) (told : Ledger) : Prop :=
  Told told .isAuthenticated true ∨ msg.id = MessageId.loginRequest.wire

theorem unreadable_replies {lib : JsonLib} {msg : MsgNode} (kind : MessageId.enumCast msg.id = some .loginRequest)
    (unreadable : parseJson lib UserLoginRequest.fromJson msg.bodyText = none) :
    (handleMessage lib msg).Guided (fun _ _ => True)
      (fun told result => PastGate msg told → result = .ok (errorResponseAndClose msg.id .invalidJson)) [] := by
  apply handleMessage_rule lib msg trivial
  · intro other past
    rcases past with gated | same
    · cases List.mem_singleton.mp gated
    · exact absurd same other
  · intro flag nobody
    exact (unhandled_absurd nobody kind nofun).elim
  · intro _ flag
    unfold login
    rw [unreadable]
    exact fun _ => rfl
  all_goals
    intro other
    cases kind.symm.trans other

/-- The id of a reply is that of the response, but for two exits that repeat the id of the request. -/
theorem replied_id {lib : JsonLib} {msg : MsgNode} {told : Ledger} {reply : ChannelMessage} {messageId : MessageId}
    (reaches : Reaches lib msg told (.ret reply)) (past : PastGate msg told) (kind : MessageId.enumCast msg.id = some messageId)
    (handled : handlers messageId ≠ none) : reply.msg.id = (MessageId.getResponseId messageId).wire ↔
      ¬ UnreadableLogin lib msg messageId ∧ ¬ RpcFailed told := by
  have apart := getResponseId_ne kind handled
  have called : AfterCall msg told (.ok reply) := reaches.guided (handleMessage_afterCall lib msg)
  obtain ⟨_, same, replied⟩ := reaches.guided (handleMessage_asked lib msg)
  cases same
  by_cases failed : RpcFailed told
  · obtain ⟨request, response, known, fails⟩ := failed
    have same := Except.ok.inj (called request response known fails)
    subst same
    have id : (errorResponse msg.id .rpcFailed).msg.id = msg.id := ofCString_id _ _
    rw [id]
    exact ⟨fun same => absurd same apart, fun well => absurd ⟨request, response, known, fails⟩ well.2⟩
  by_cases unreadable : UnreadableLogin lib msg messageId
  · obtain ⟨logs, unreadable⟩ := unreadable
    subst logs
    have same := Except.ok.inj (reaches.guided (unreadable_replies kind unreadable) past)
    subst same
    have id : (errorResponseAndClose msg.id .invalidJson).msg.id = msg.id := ofCString_id _ _
    rw [id]
    exact ⟨fun same => absurd same apart, fun well => absurd ⟨rfl, unreadable⟩ well.1⟩
  · refine ⟨fun _ => ⟨unreadable, failed⟩, fun _ => ?_⟩
    have answered : ∀ {α : Type} {spec : Notifying α}, spec.responseId = (MessageId.getResponseId messageId).wire →
        spec.Answers msg told reply → reply.msg.id = (MessageId.getResponseId messageId).wire := by
      intro α spec own answers
      rw [← own]
      cases answers with
      | prepare replies => cases replies <;> exact ofCString_id _ _
      | absent _ _ => exact ofCString_id _ _
      | delivered _ _ => exact ofCString_id _ _
      | called _ _ _ => exact ofCString_id _ _
      | failed _ _ fails same =>
        subst same
        exact absurd ⟨_, _, told_head _ _ _, fails⟩ failed
    cases replied with
    | rejected other same =>
      rcases past with gated | login
      · rw [same] at gated
        cases List.mem_singleton.mp gated
      · exact absurd login other
    | unknown nobody _ => exact (unhandled_absurd nobody kind handled).elim
    | thrown other =>
      cases kind.symm.trans other
      exact ofCString_id _ _
    | login other replies =>
      cases kind.symm.trans other
      cases replies with
      | invalid named => exact absurd ⟨rfl, named⟩ unreadable
      | refused _ _ _ => exact ofCString_id _ _
      | unknown _ => exact ofCString_id _ _
      | success _ _ _ _ _ => exact ofCString_id _ _
    | search other _ replies =>
      cases kind.symm.trans other
      cases replies <;> exact ofCString_id _ _
    | addFriend other _ answers =>
      cases kind.symm.trans other
      exact answered rfl answers
    | authFriend other _ answers =>
      cases kind.symm.trans other
      exact answered rfl answers
    | textChat other _ answers =>
      cases kind.symm.trans other
      exact answered rfl answers

/-- Every frame that comes to a handler gets one reply, whatever the handler is answered, and it has the id of the
    response exactly when it is no login that names no request and no call of the peer has failed. -/
theorem replies_paired (lib : JsonLib) (msg : MsgNode) {messageId : MessageId}
    (kind : MessageId.enumCast msg.id = some messageId) (registered : handlers messageId ≠ none) {σ : Type}
    (exec : (op : Op) → σ → op.Res × σ) (state : σ) : ∃ reply after told,
      (handleMessage lib msg).run (recorded exec) (state, []) = (.ok reply, after, told) ∧
      (PastGate msg told → (reply.msg.id = (MessageId.getResponseId messageId).wire ↔
        ¬ UnreadableLogin lib msg messageId ∧ ¬ RpcFailed told)) := by
  obtain ⟨reply, after, told, ended, reaches⟩ := handleMessage_replies exec lib msg state
  exact ⟨reply, after, told, ended, fun past => replied_id reaches past kind registered⟩

/-- A login whose body is no document. -/
def blankLogin : MsgNode := { id := 1005 }

def blind : JsonLib := ⟨fun _ => none, fun _ => none⟩

theorem replies_paired_blank : ∃ reply after told,
    (handleMessage blind blankLogin).run (recorded fun op stores => stores.exec ⟨blind, fun _ _ => false⟩ .ok op)
      (({} : Stores), []) = (.ok reply, after, told) ∧
    (PastGate blankLogin told → (reply.msg.id = (MessageId.getResponseId .loginRequest).wire ↔
      ¬ UnreadableLogin blind blankLogin .loginRequest ∧ ¬ RpcFailed told)) := by
  have kind : MessageId.enumCast blankLogin.id = some .loginRequest := by decide
  exact replies_paired blind blankLogin kind (Option.some_ne_none login) _ _

theorem reply_has_request_id : ¬ ∀ (lib : JsonLib) (msg : MsgNode) (messageId : MessageId) (told : Ledger) (reply : ChannelMessage),
    MessageId.enumCast msg.id = some messageId → handlers messageId ≠ none → Reaches lib msg told (.ret reply) →
    PastGate msg told → reply.msg.id = (MessageId.getResponseId messageId).wire := by
  intro claim
  have gate : Reaches blind blankLogin [] (handleMessage blind blankLogin) := .start
  have rejects : Reaches blind blankLogin [⟨.isAuthenticated, false⟩] (.ret (errorResponseAndClose 1005 .invalidJson)) :=
    gate.answer false
  have same := claim blind blankLogin .loginRequest _ _ (by decide) (Option.some_ne_none login) rejects (.inr (by decide))
  have id : (errorResponseAndClose 1005 .invalidJson).msg.id = 1005 := ofCString_id _ _
  rw [id] at same
  exact absurd same (by decide)

end ChatProof
