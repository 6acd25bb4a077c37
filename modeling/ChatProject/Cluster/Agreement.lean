import ChatProject.Chat.Notification
import ChatProject.Cluster.Run

/-! A notification that is delivered here, and the same one when it goes through the peer. -/

namespace ChatProof

open ChatModel

/-- Of two runs of one request, one on the server of its addressee and one not, with the same name
    of the sender in the database: the first puts `here` into the queue, the second `notified` into
    that of the peer's session. -/
theorem notification_same_through_peer (lib : JsonLib) (msg : MsgNode) {near far : Ledger} {target : Addr}
    {message : ChannelMessage} {request : NotifyRequest} (here : AsksFor lib msg near (.deliver target message))
    (there : AsksFor lib msg far (.notify request))
    (sameName : ∀ uid info changed, Told near (.getUserInfo (.uid uid)) (.ok (some info)) →
      Told far (.getUserInfo (.uid uid)) (.ok (some changed)) → info.name = changed.name) :
    ∃ (accepted : AcceptedRequest) (home : String) (early : Ledger),
      near = ⟨.getParticipant accepted.here.touid, some target⟩ :: ⟨.serverName, home⟩ :: early ∧
      accepted.From lib msg early ∧ message = { msg := accepted.here.frame } ∧
      notifySession request = ((notified request).touid, (notified request).frame) ∧
      (accepted.here = notified request ↔ accepted.AllNarrow) := by
  obtain ⟨_, reachesNear⟩ := here
  obtain ⟨_, reachesFar⟩ := there
  obtain ⟨accepted, home, early, same, known, built⟩ := asked_deliver (reachesNear.guided (handleMessage_asked lib msg)).1.1
  obtain ⟨again, name, before, last, other, called⟩ := asked_notify (reachesFar.guided (handleMessage_asked lib msg)).1.1
  refine ⟨accepted, home, early, same, known, built, notifySession_eq request, ?_⟩
  have equal : again.remote = accepted.remote := by
    apply known.same other
    intro uid info changed left right
    apply sameName uid info changed
    · rw [same]
      exact (left.tail _).tail _
    · rw [last]
      exact right.tail _
  rw [called, equal]
  exact here_eq_notified accepted

/-! ## One message of the first user to the second -/

namespace Sample

/-- A text chat with one text of this number. -/
def numbered (msgid : Int) : Body :=
  ("\x7b\"fromuid\":1,\"touid\":2,\"text_array\":[\x7b\"msgid\":" ++ msgid.repr ++ ",\"content\":\"hi\"\x7d]\x7d",
    .obj [("fromuid", .num (.int 1)), ("text_array", .arr [.obj [("content", .str "hi"), ("msgid", .num (.int msgid))]]),
      ("touid", .num (.int 2))])

def numberedFrame (msgid : Int) : MsgNode := MsgNode.ofText MessageId.textChatMsgReq.wire (numbered msgid).1

def numberedLib (msgid : Int) : JsonLib := (externals [numbered msgid]).lib

/-- What the handler has been told in the end. -/
def heard (msgid : Int) (name : String) : Ledger :=
  ((handleMessage (numberedLib msgid) (numberedFrame msgid)).run (replay (answers name none)) []).2

theorem asked_of_heard {msgid : Int} {name : String} {op : Op} {answer : op.Res} {told : Ledger}
    (same : heard msgid name = ⟨op, answer⟩ :: told) : AsksFor (numberedLib msgid) (numberedFrame msgid) told op := by
  have begins : Reaches (numberedLib msgid) (numberedFrame msgid) [] (handleMessage (numberedLib msgid) (numberedFrame msgid)) :=
    .start
  have reaches := begins.replayed (answers name none)
  change Reaches _ _ (heard msgid name) _ at reaches
  rw [same] at reaches
  exact reaches.asked

/-- Nobody is found in the database, so there is no name that could have changed. -/
theorem nameless {msgid : Int} {name : String} {entry : (op : Op) × op.Res} {told : Ledger}
    (same : heard msgid name = entry :: told) (uid : Int64) (info : UserInfo) :
    ¬ Told told (.getUserInfo (.uid uid)) (.ok (some info)) := by
  intro known
  have heard : ⟨.getUserInfo (.uid uid), .ok (some info)⟩ ∈ heard msgid name := by
    rw [same]
    exact List.mem_cons_of_mem entry known
  rcases replay_answer (answers name none) heard with found | before
  · cases found
  · cases before

/-- The last thing that the handler asks for is to deliver, or to call. -/
def pushesLast : Ledger → Bool × Bool
  | ⟨.deliver _ _, _⟩ :: _ => (true, false)
  | ⟨.notify _, _⟩ :: _ => (false, true)
  | _ => (false, false)

theorem comes_to_deliver (msgid : Int) (name : String) (last : (pushesLast (heard msgid name)).1 = true) :
    ∃ near target message, heard msgid name = ⟨.deliver target message, ()⟩ :: near := by
  unfold pushesLast at last
  split at last
  · rename_i target message _ near same
    exact ⟨near, target, message, same⟩
  · cases last
  · cases last

theorem comes_to_notify (msgid : Int) (name : String) (last : (pushesLast (heard msgid name)).2 = true) :
    ∃ far request answer, heard msgid name = ⟨.notify request, answer⟩ :: far := by
  unfold pushesLast at last
  split at last
  · cases last
  · rename_i request answer far same
    exact ⟨far, request, answer, same⟩
  · cases last

def request (msgid : Int) : TextChatMsgRequest :=
  { fromuid := 1, touid := 2, textArray := [{ msgid := Int64.ofInt msgid, content := "hi" }] }

theorem accepted_eq {msgid : Int} {told : Ledger} {accepted : AcceptedRequest}
    (kind : MessageId.enumCast (numberedFrame msgid).id = some .textChatMsgReq)
    (parsed : parseJson (numberedLib msgid) TextChatMsgRequest.fromJson (numberedFrame msgid).bodyText = some (request msgid))
    (known : accepted.From (numberedLib msgid) (numberedFrame msgid) told) : accepted = .textChat (request msgid) := by
  cases accepted with
  | addFriend other userInfo => exact absurd (kind.symm.trans known.1) nofun
  | authFriend other => exact absurd (kind.symm.trans known.1) nofun
  | textChat other =>
    have same := Option.some.inj (parsed.symm.trans known.2.parsed)
    rw [same]

end Sample

theorem notification_same_through_peer_five : ∃ near far target message request,
    AsksFor (Sample.numberedLib 5) (Sample.numberedFrame 5) near (.deliver target message) ∧
    AsksFor (Sample.numberedLib 5) (Sample.numberedFrame 5) far (.notify request) ∧
    message.msg = (notifySession request).2 := by
  obtain ⟨near, target, message, left⟩ := Sample.comes_to_deliver 5 "chat_server1" (by decide +kernel)
  obtain ⟨far, request, _, right⟩ := Sample.comes_to_notify 5 "chat_server2" (by decide +kernel)
  obtain ⟨accepted, _, _, _, known, built, remote, agrees⟩ := notification_same_through_peer (Sample.numberedLib 5)
    (Sample.numberedFrame 5) (Sample.asked_of_heard left) (Sample.asked_of_heard right)
    (fun uid info _ told _ => absurd told (Sample.nameless left uid info))
  refine ⟨near, far, target, message, request, Sample.asked_of_heard left, Sample.asked_of_heard right, ?_⟩
  have same := Sample.accepted_eq (by decide +kernel) (by decide +kernel) known
  subst same
  have equal := agrees.mpr ⟨by decide, by decide, by decide⟩
  rw [built, remote, equal]

/-- The number of the text is one that 32 bits cannot hold. -/
theorem notification_differs_through_peer : ¬ ∀ (lib : JsonLib) (msg : MsgNode) (near far early : Ledger) (target : Addr)
    (message : ChannelMessage) (request : NotifyRequest) (accepted : AcceptedRequest) (home : String),
    AsksFor lib msg near (.deliver target message) → AsksFor lib msg far (.notify request) →
    (∀ uid info changed, Told near (.getUserInfo (.uid uid)) (.ok (some info)) →
      Told far (.getUserInfo (.uid uid)) (.ok (some changed)) → info.name = changed.name) →
    near = ⟨.getParticipant accepted.here.touid, some target⟩ :: ⟨.serverName, home⟩ :: early → accepted.From lib msg early →
    accepted.here.document = (notified request).document := by
  intro claim
  obtain ⟨near, target, message, left⟩ := Sample.comes_to_deliver 2147483648 "chat_server1" (by decide +kernel)
  obtain ⟨far, request, _, right⟩ := Sample.comes_to_notify 2147483648 "chat_server2" (by decide +kernel)
  obtain ⟨_, reachesNear⟩ := Sample.asked_of_heard left
  obtain ⟨_, reachesFar⟩ := Sample.asked_of_heard right
  obtain ⟨accepted, home, early, same, known, built⟩ := asked_deliver (reachesNear.guided (handleMessage_asked _ _)).1.1
  obtain ⟨again, name, before, last, other, called⟩ := asked_notify (reachesFar.guided (handleMessage_asked _ _)).1.1
  have equal := claim _ _ near far early target message request accepted home (Sample.asked_of_heard left)
    (Sample.asked_of_heard right) (fun uid info _ told _ => absurd told (Sample.nameless left uid info)) same known
  have kind : MessageId.enumCast (Sample.numberedFrame 2147483648).id = some .textChatMsgReq := by decide +kernel
  have parsed : parseJson (Sample.numberedLib 2147483648) TextChatMsgRequest.fromJson
    (Sample.numberedFrame 2147483648).bodyText = some (Sample.request 2147483648) := by decide +kernel
  obtain rfl := Sample.accepted_eq kind parsed known
  obtain rfl := Sample.accepted_eq kind parsed other
  rw [called] at equal
  have texts := NotifyTextChatMessage.toJson_inj.mp equal
  exact absurd texts (by decide)

end ChatProof
