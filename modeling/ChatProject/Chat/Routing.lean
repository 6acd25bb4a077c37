import ChatProject.Chat.Dispatch

/-! What Redis tells a handler about the server of another user, and what the handler makes of it. -/

namespace ChatProof

open ChatModel

/-! ## Redis is asked once -/

def isGet : Op → Bool
  | .redisGet _ => true
  | _ => false

def NoGet (told : Ledger) : Prop := ∀ entry ∈ told, isGet entry.1 = false

theorem NoGet.tail {told : Ledger} (noGet : NoGet told) (op : Op) (answer : op.Res) (plain : isGet op = false) :
    NoGet (⟨op, answer⟩ :: told) := by
  intro entry member
  rcases List.mem_cons.mp member with same | before
  · rw [same]
    exact plain
  · exact noGet entry before

/-- Redis has not been asked for anything before. -/
def AsksFirst (told : Ledger) (op : Op) : Prop := isGet op = true → NoGet told

theorem AsksFirst.plain {told : Ledger} {op : Op} (other : isGet op = false) : AsksFirst told op := by
  intro get
  rw [other] at get
  cases get

theorem forward_asksFirst (msg : MsgNode) (responseId : UInt32) (touid : Int64) (target : String) (notify : MsgNode)
    (request : NotifyRequest) (told : Ledger) :
    (forward msg responseId touid target notify request).Guided AsksFirst (fun _ _ => True) told := by
  apply forward_guided
  · exact .plain rfl
  · exact .plain rfl
  · trivial
  · intro session
    exact .plain rfl
  · intro session
    trivial
  · intro name _
    exact .plain rfl
  · intro name response _ _
    trivial
  · intro name _
    trivial

theorem addFriend_asksFirst (lib : JsonLib) (msg : MsgNode) {told : Ledger} (noGet : NoGet told) :
    (addFriend lib msg).Guided AsksFirst (fun _ _ => True) told := by
  unfold addFriend
  cases parseJson lib AddFriendRequest.fromJson msg.bodyText with
  | none => trivial
  | some request =>
    refine ⟨.plain rfl, ?_⟩
    intro uid
    have asked : NoGet (⟨.uid, uid⟩ :: told) := noGet.tail .uid uid rfl
    change Coroutine.Guided _ _ (if request.uid ≠ uid ∨ request.uid = request.touid then _ else _) _
    split
    · trivial
    · refine ⟨.plain rfl, ?_⟩
      intro applied
      have applies := asked.tail (.addFriendApply request.uid request.touid) applied rfl
      cases applied with
      | error failure => trivial
      | ok done =>
        refine ⟨fun _ => applies, ?_⟩
        intro target
        cases target with
        | none => trivial
        | some target =>
          refine ⟨.plain rfl, ?_⟩
          intro row
          cases row with
          | error failure => trivial
          | ok userInfo =>
            cases userInfo with
            | none => trivial
            | some userInfo => exact forward_asksFirst _ _ _ _ _ _ _

theorem authFriend_asksFirst (lib : JsonLib) (msg : MsgNode) {told : Ledger} (noGet : NoGet told) :
    (authFriend lib msg).Guided AsksFirst (fun _ _ => True) told := by
  unfold authFriend
  cases parseJson lib AuthFriendRequest.fromJson msg.bodyText with
  | none => trivial
  | some request =>
    refine ⟨.plain rfl, ?_⟩
    intro uid
    have asked : NoGet (⟨.uid, uid⟩ :: told) := noGet.tail .uid uid rfl
    change Coroutine.Guided _ _ (if request.fromuid ≠ uid ∨ request.fromuid = request.touid then _ else _) _
    split
    · trivial
    · refine ⟨.plain rfl, ?_⟩
      intro applied
      have applies := asked.tail (.authFriendApply request.fromuid request.touid) applied rfl
      cases applied with
      | error failure => trivial
      | ok done =>
        refine ⟨fun _ => applies, ?_⟩
        intro target
        cases target with
        | none => trivial
        | some target => exact forward_asksFirst _ _ _ _ _ _ _

theorem textChatMsg_asksFirst (lib : JsonLib) (msg : MsgNode) {told : Ledger} (noGet : NoGet told) :
    (textChatMsg lib msg).Guided AsksFirst (fun _ _ => True) told := by
  unfold textChatMsg
  cases parseJson lib TextChatMsgRequest.fromJson msg.bodyText with
  | none => trivial
  | some request =>
    refine ⟨.plain rfl, ?_⟩
    intro uid
    have asked : NoGet (⟨.uid, uid⟩ :: told) := noGet.tail .uid uid rfl
    change Coroutine.Guided _ _ (if request.fromuid ≠ uid ∨ request.fromuid = request.touid then _ else _) _
    split
    · trivial
    · refine ⟨fun _ => asked, ?_⟩
      intro target
      cases target with
      | none => trivial
      | some target => exact forward_asksFirst _ _ _ _ _ _ _

/-- A request that makes the server notify another user. -/
def IsNotifying (msg : MsgNode) : Prop := MessageId.enumCast msg.id = some .addFriendRequest ∨
  MessageId.enumCast msg.id = some .authFriendRequest ∨ MessageId.enumCast msg.id = some .textChatMsgReq

theorem IsNotifying.kind {msg : MsgNode} (notifies : IsNotifying msg) {messageId : MessageId}
    (known : MessageId.enumCast msg.id = some messageId) :
    messageId = .addFriendRequest ∨ messageId = .authFriendRequest ∨ messageId = .textChatMsgReq := by
  have same : ∀ {other}, MessageId.enumCast msg.id = some other → messageId = other :=
    fun kind => Option.some.inj (known.symm.trans kind)
  exact notifies.imp same (Or.imp same same)

theorem handleMessage_asksFirst (lib : JsonLib) {msg : MsgNode} (notifies : IsNotifying msg) :
    (handleMessage lib msg).Guided AsksFirst (fun _ _ => True) [] := by
  have gated : ∀ flag, NoGet [⟨.isAuthenticated, flag⟩] := by
    intro flag entry member
    rw [List.mem_singleton.mp member]
    rfl
  have whatever : ∀ messageId (told : Ledger) result, True → Recovered messageId (fun _ _ => True) told result := by
    intro messageId told result _
    cases result <;> trivial
  apply handleMessage_rule lib msg (.plain rfl)
  · intro _
    trivial
  · intro flag _
    trivial
  · intro kind flag
    rcases notifies.kind kind with same | same | same <;> cases same
  · intro kind
    rcases notifies.kind kind with same | same | same <;> cases same
  · intro _
    exact (addFriend_asksFirst lib msg (gated true)).mono (whatever _)
  · intro _
    exact (authFriend_asksFirst lib msg (gated true)).mono (whatever _)
  · intro _
    exact (textChatMsg_asksFirst lib msg (gated true)).mono (whatever _)

/-- Redis has told such a handler one thing at most. -/
theorem Reaches.told_once {lib : JsonLib} {msg : MsgNode} {told : Ledger} {rest : Awaitable ChannelMessage}
    (reaches : Reaches lib msg told rest) (notifies : IsNotifying msg) {key other : String} {first second : Option String}
    (one : Told told (.redisGet key) first) (two : Told told (.redisGet other) second) : first = second := by
  induction reaches with
  | start => cases one
  | answer answer before ih =>
    have asks := (before.guided (handleMessage_asksFirst lib notifies)).1
    rcases List.mem_cons.mp one with here | early
    · cases here
      rcases List.mem_cons.mp two with same | early
      · cases same
        rfl
      · exact absurd (asks rfl _ early) nofun
    · rcases List.mem_cons.mp two with here | late
      · cases here
        exact absurd (asks rfl _ early) nofun
      · exact ih early late

/-! ## The request that a handler has accepted -/

theorem AcceptedRequest.From.tail {lib : JsonLib} {msg : MsgNode} {told : Ledger} {accepted : AcceptedRequest}
    (known : accepted.From lib msg told) (entry : (op : Op) × op.Res) : accepted.From lib msg (entry :: told) := by
  cases accepted with
  | addFriend request userInfo =>
    obtain ⟨kind, ready, row⟩ := known
    exact ⟨kind, ⟨ready.toAccepted.tail entry, ready.executed.tail entry⟩, row.tail entry⟩
  | authFriend request =>
    obtain ⟨kind, ready⟩ := known
    exact ⟨kind, ready.toAccepted.tail entry, ready.executed.tail entry⟩
  | textChat request =>
    obtain ⟨kind, ready⟩ := known
    exact ⟨kind, ready.toAccepted.tail entry, trivial⟩

/-- Redis has told the handler that the receiver is on this server. -/
def RoutedTo (told : Ledger) (accepted : AcceptedRequest) (target : String) : Prop :=
  Told told (.redisGet (userLoginServerKey accepted.here.touid)) (some target)

theorem RoutedTo.tail {told : Ledger} {accepted : AcceptedRequest} {target : String} (routed : RoutedTo told accepted target)
    (entry : (op : Op) × op.Res) : RoutedTo (entry :: told) accepted target := Told.tail routed entry

/-- A handler that has come to `forward` has accepted a request and knows its route. -/
def Sending (lib : JsonLib) (msg : MsgNode) (told : Ledger) (forwarding : Forwarding) : Prop :=
  ∃ accepted : AcceptedRequest, accepted.From lib msg told ∧ forwarding.request = accepted.remote ∧
    RoutedTo told accepted forwarding.target

section Sends

variable {lib : JsonLib} {msg : MsgNode} {told : Ledger} {forwarding : Forwarding}

theorem addFriend_sends (kind : MessageId.enumCast msg.id = some .addFriendRequest) {request : AddFriendRequest}
    (sends : (addFriendNotifies lib msg).Sends told request forwarding) : Sending lib msg told forwarding := by
  obtain ⟨userInfo, rest, last, _, built⟩ := sends.pushes
  refine ⟨.addFriend request userInfo, ⟨kind, sends.toReady, ?_⟩, built, sends.routed⟩
  rw [last]
  exact told_head _ _ _

theorem authFriend_sends (kind : MessageId.enumCast msg.id = some .authFriendRequest) {request : AuthFriendRequest}
    (sends : (authFriendNotifies lib msg).Sends told request forwarding) : Sending lib msg told forwarding :=
  ⟨.authFriend request, ⟨kind, sends.toReady⟩, sends.pushes.2, sends.routed⟩

theorem textChat_sends (kind : MessageId.enumCast msg.id = some .textChatMsgReq) {request : TextChatMsgRequest}
    (sends : (textChatNotifies lib msg).Sends told request forwarding) : Sending lib msg told forwarding :=
  ⟨.textChat request, ⟨kind, sends.toReady⟩, sends.pushes.2, sends.routed⟩

end Sends

/-! ## When the peer is called, and when the sender is answered with success -/

/-- The handler calls the peer because Redis has told it another server than its own. -/
inductive Calls (lib : JsonLib) (msg : MsgNode) (told : Ledger) (request : NotifyRequest) : Prop
  | elsewhere {accepted : AcceptedRequest} {target name : String} : accepted.From lib msg told → request = accepted.remote →
      RoutedTo told accepted target → Told told .serverName name → target ≠ name → Calls lib msg told request

/-- Why a handler that notifies somebody replies without an error. -/
inductive Succeeds (lib : JsonLib) (msg : MsgNode) (told : Ledger) : Prop
  | nowhere {key : String} : Told told (.redisGet key) none → Succeeds lib msg told
  | here {key target : String} : Told told (.redisGet key) (some target) → Told told .serverName target → Succeeds lib msg told
  | there {accepted : AcceptedRequest} {target name : String} : accepted.From lib msg told → RoutedTo told accepted target →
      Told told .serverName name → target ≠ name → Told told (.notify accepted.remote) (some 0) → Succeeds lib msg told

theorem calls_of_sends {α : Type} {spec : Notifying α} {lib : JsonLib} {msg : MsgNode} {told : Ledger} {request : NotifyRequest}
    (questions : spec.Questions told (.notify request)) (plain : ∀ request op, spec.statement request = some op → isPush op = false)
    (sends : ∀ {told request forwarding}, spec.Sends told request forwarding → Sending lib msg told forwarding) :
    Calls lib msg told request := by
  cases questions with
  | prepare asks => exact absurd (asks.plain plain) nofun
  | call sending elsewhere same =>
    obtain ⟨accepted, known, built, routed⟩ := sends sending
    rw [same]
    exact .elsewhere (known.tail _) built (routed.tail _) (told_head _ _ _) elsewhere

theorem asked_calls {lib : JsonLib} {msg : MsgNode} {told : Ledger} {request : NotifyRequest}
    (asked : Asked lib msg told (.notify request)) : Calls lib msg told request := by
  cases asked with
  | login _ asks => cases asks
  | search _ _ _ asks => cases asks
  | addFriend kind _ questions =>
    apply calls_of_sends questions _ (addFriend_sends kind)
    intro request op same
    cases same
    rfl
  | authFriend kind _ questions =>
    apply calls_of_sends questions _ (authFriend_sends kind)
    intro request op same
    cases same
    rfl
  | textChat kind _ questions =>
    apply calls_of_sends questions _ (textChat_sends kind)
    intro request op same
    cases same

theorem succeeds_of_sends {α : Type} {spec : Notifying α} {lib : JsonLib} {msg : MsgNode} {told : Ledger} {reply : ChannelMessage}
    (answers : spec.Answers msg told reply) (success : ¬ CarriesError reply)
    (sends : ∀ {told request forwarding}, spec.Sends told request forwarding → Sending lib msg told forwarding) :
    Succeeds lib msg told := by
  cases answers with
  | prepare replies =>
    cases replies with
    | invalid _ => exact absurd (errorResponse_carriesError _ (by decide)) success
    | refused _ _ _ => exact absurd (errorResponse_carriesError _ (by decide)) success
    | unrouted _ routed => exact .nowhere routed
    | unknown _ => exact absurd (errorResponse_carriesError _ (by decide)) success
  | absent sending same =>
    rw [same]
    exact .here ((sending.routed.tail _).tail _) ((told_head _ _ _).tail _)
  | delivered sending same =>
    rw [same]
    exact .here (((sending.routed.tail _).tail _).tail _) (((told_head _ _ _).tail _).tail _)
  | called sending elsewhere same =>
    obtain ⟨accepted, known, built, routed⟩ := sends sending
    rw [same, built]
    exact .there ((known.tail _).tail _) ((routed.tail _).tail _) ((told_head _ _ _).tail _) elsewhere (told_head _ _ _)
  | failed _ _ _ _ => exact absurd (errorResponse_carriesError _ (by decide)) success

theorem notifying_success {lib : JsonLib} {msg : MsgNode} {told : Ledger} {reply : ChannelMessage}
    (replied : Replied lib msg told reply) (notifies : IsNotifying msg) (success : ¬ CarriesError reply) : Succeeds lib msg told := by
  cases replied with
  | rejected _ _ => exact absurd (errorResponseAndClose_carriesError _ (by decide)) success
  | unknown nobody _ =>
    rcases notifies with same | same | same
    · exact (unhandled_absurd nobody same (Option.some_ne_none addFriend)).elim
    · exact (unhandled_absurd nobody same (Option.some_ne_none authFriend)).elim
    · exact (unhandled_absurd nobody same (Option.some_ne_none textChatMsg)).elim
  | thrown _ => exact absurd (errorResponse_carriesError _ (by decide)) success
  | login kind _ => rcases notifies.kind kind with same | same | same <;> cases same
  | search kind _ _ => rcases notifies.kind kind with same | same | same <;> cases same
  | addFriend kind _ answers => exact succeeds_of_sends answers success (addFriend_sends kind)
  | authFriend kind _ answers => exact succeeds_of_sends answers success (authFriend_sends kind)
  | textChat kind _ answers => exact succeeds_of_sends answers success (textChat_sends kind)

end ChatProof
