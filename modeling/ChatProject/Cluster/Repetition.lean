import ChatProject.Cluster.Refusal
import ChatProject.Server.Outgoing

/-! What a user is answered who applies to somebody a second time. -/

namespace ChatProof

open ChatModel

/-! ## What a task of the peer enqueues -/

/-- The notifications of applications that a server has put into the queue of a session, the oldest first. -/
def applicationsTold (log : List Event) (addr : Addr) : List ChannelMessage :=
  (accepted log addr).filter fun message => message.msg.id = MessageId.notifyAddFriend.wire

/-- Nobody is told of an application between these two. -/
def NobodyTold (before after : ChatServer) : Prop := ∀ addr, applicationsTold after.log addr = applicationsTold before.log addr

theorem NobodyTold.refl (server : ChatServer) : NobodyTold server server := fun _ => rfl

/-- There is no session for what this request asks to be told, or no room in its queue. -/
def Undeliverable (server : ChatServer) (request : NotifyRequest) : Prop :=
  ∀ addr, server.getParticipant (notified request).touid = some addr →
    (server.session addr).trySend { msg := (notified request).frame } = none

theorem notified_frame_id (request : NotifyRequest) : (notified request).frame.id = (notified request).kind.wire :=
  ofCString_id _ _

theorem deliver_told {server : ChatServer} {target : Addr} {message : ChannelMessage}
    (kind : message.msg.id = MessageId.notifyAddFriend.wire) :
    NobodyTold server (server.deliver target message) ↔ (server.session target).trySend message = none := by
  unfold ChatServer.deliver
  cases sent : (server.session target).trySend message with
  | none =>
    refine ⟨fun _ => rfl, fun _ addr => ?_⟩
    have silent : acceptedBy addr (.dropped target message) = none := rfl
    change applicationsTold (.dropped target message :: server.log) addr = _
    rw [applicationsTold, accepted_other silent]
    rfl
  | some session =>
    refine ⟨fun nobody => ?_, nofun⟩
    have told := nobody target
    change applicationsTold (.enqueued target message :: server.log) target = _ at told
    rw [applicationsTold, accepted_enqueued, List.filter_append, applicationsTold] at told
    have longer := congrArg List.length told
    rw [List.length_append, List.filter_singleton, kind] at longer
    simp at longer

theorem serveNotify_told {server : ChatServer} {request : NotifyRequest} (kind : (notified request).kind = .notifyAddFriend) :
    NobodyTold server (server.serveNotify request) ↔ Undeliverable server request := by
  have frame : (notified request).frame.id = MessageId.notifyAddFriend.wire := by
    rw [notified_frame_id, kind]
  unfold ChatServer.serveNotify Undeliverable
  rw [notifySession_eq]
  generalize (notified request).frame = told at frame ⊢
  dsimp only
  cases server.getParticipant (notified request).touid with
  | none =>
    constructor
    · intro _ addr same
      cases same
    · exact fun _ => .refl server
  | some target =>
    dsimp only
    rw [deliver_told frame]
    constructor
    · intro full addr same
      cases same
      exact full
    · exact fun full => full target rfl

/-! ## A second application -/

section Again

variable {externals : Externals} {outcome : Op → Outcome} {addr : Addr} {scene last : Scene} {msg : MsgNode}

/-- The reply is an error, nobody is told on either server, and the table is as it was. -/
def RefusesApplication (externals : Externals) (outcome : Op → Outcome) (addr : Addr) (scene : Scene) (msg : MsgNode) : Prop :=
  ∃ reply after, servePeered externals outcome addr msg scene = (.ok reply, after) ∧ CarriesError reply ∧
    NobodyTold scene.server after.server ∧ NobodyTold scene.peer after.peer ∧
    after.stores.db.friendApply = scene.stores.db.friendApply

theorem Applied.columns {db : Tables} {fromUid toUid : Int64} (applied : Applied db fromUid toUid) : ∃ fromColumn toColumn,
    intColumn fromUid = some fromColumn ∧ intColumn toUid = some toColumn ∧ db.friendApply.holds (fromColumn, toColumn) := by
  obtain ⟨row, member, sender, receiver⟩ := applied
  exact ⟨row.fromUid, row.toUid, intColumn_eq_some.mpr sender, intColumn_eq_some.mpr receiver, row, member, rfl⟩

/-- The conflict is swallowed, so only an outcome that is no success is reported. -/
theorem addFriendApply_again (externals : Externals) {fromUid toUid : Int64} (applied : Applied scene.stores.db fromUid toUid) (outcome : Outcome) :
    (((scene.stores.exec externals outcome (.addFriendApply fromUid toUid)).1 : Except Failure Unit) ≠ .ok () ↔ outcome ≠ .ok) ∧
      SameFriends scene.stores.db (scene.stores.exec externals outcome (.addFriendApply fromUid toUid)).2.db := by
  obtain ⟨fromColumn, toColumn, first, second, present⟩ := applied.columns
  constructor
  · change (scene.stores.addFriendApply outcome fromUid toUid).1 ≠ .ok () ↔ _
    unfold Stores.addFriendApply Tables.addFriendApply
    rw [first, second]
    cases outcome with
    | ok => exact ⟨fun throws => absurd rfl throws, fun other => absurd rfl other⟩
    | error => exact ⟨fun _ => nofun, fun _ => nofun⟩
    | lost => exact ⟨fun _ => nofun, fun _ => nofun⟩
  · refine (exec_same externals scene.stores rfl).mpr ?_
    rintro ⟨_, otherFrom, otherTo, sender, receiver, absent⟩
    cases first.symm.trans sender
    cases second.symm.trans receiver
    exact absent present

theorem Plan.Reaches.unique {α : Type} {plan : Plan α} {first second : NotifyRequest} (left : plan.Reaches outcome scene first)
    (right : plan.Reaches outcome scene second) : first = second := by
  obtain ⟨_, info, _, known, _, _, same⟩ := left
  obtain ⟨_, other, _, named, _, _, again⟩ := right
  cases known.symm.trans named
  exact same.symm.trans again

theorem addPlan_reaches {request : AddFriendRequest} {told : NotifyRequest}
    (reaches : (addPlan outcome scene.stores request).Reaches outcome scene told) : (notified told).kind = .notifyAddFriend := by
  obtain ⟨_, info, _, _, _, _, same⟩ := reaches
  rw [← same]
  rfl

/-- A failed request has told nobody unless the answer of the peer was lost, and then those whom the peer told. -/
theorem Plan.Ends.told {request : AddFriendRequest} {answer : Except Failure Unit} {result : Except Failure ChannelMessage}
    {after : Scene}
    (ends : (addPlan outcome scene.stores request).Ends outcome scene msg after answer (result, last))
    (peer : after.peer = scene.peer) (failed : Failed result) : NobodyTold scene.peer last.peer ↔ (answer = .ok () → ∀ notify,
      (addPlan outcome scene.stores request).Reaches outcome scene notify → Undeliverable scene.peer notify) := by
  rcases (ends.delivered failed).2 with ⟨same, nowhere⟩ | ⟨answered, notify, reaches, same⟩
  · rw [same, peer]
    exact ⟨fun _ answered notify reaches => absurd reaches (nowhere answered notify), fun _ _ => rfl⟩
  · rw [same, peer, serveNotify_told (addPlan_reaches reaches)]
    constructor
    · intro full _ other known
      cases reaches.unique known
      exact full
    · exact fun full => full answered notify reaches

theorem refusesApplication_iff (kind : MessageId.enumCast msg.id = some .addFriendRequest)
    (authenticated : (scene.server.session addr).isAuthenticated = true) {result : Except Failure ChannelMessage}
    (ran : (addFriend externals.lib msg).run (execPeered externals outcome addr) scene = (result, last)) :
    RefusesApplication externals outcome addr scene msg ↔ Failed result ∧ NobodyTold scene.server last.server ∧
      NobodyTold scene.peer last.peer ∧ last.stores.db.friendApply = scene.stores.db.friendApply := by
  obtain ⟨reply, replied, carries⟩ := recovered_failed .addFriendRequest result last
  have served : servePeered externals outcome addr msg scene = (.ok reply, last) := by
    rw [servePeered_handled externals outcome addr scene kind rfl authenticated, ran, replied]
  rw [← carries]
  constructor
  · rintro ⟨other, after, same, rest⟩
    rw [served] at same
    cases same
    exact rest
  · exact fun rest => ⟨reply, last, served, rest⟩

theorem repeated_application_refused (externals : Externals) (outcome : Op → Outcome) (addr : Addr) (scene : Scene) (msg : MsgNode)
    (kind : MessageId.enumCast msg.id = some .addFriendRequest) (authenticated : (scene.server.session addr).isAuthenticated = true)
    (request : AddFriendRequest) (parsed : parseJson externals.lib AddFriendRequest.fromJson msg.bodyText = some request)
    (own : (scene.server.session addr).uid = request.uid) (held : Applied scene.stores.db request.uid request.touid) :
    RefusesApplication externals outcome addr scene msg ↔
      request.uid = request.touid ∨ outcome (.addFriendApply request.uid request.touid) ≠ .ok ∨
        (addPlan outcome scene.stores request).Fails outcome scene ∧
          ∀ notify, (addPlan outcome scene.stores request).Reaches outcome scene notify → Undeliverable scene.peer notify := by
  obtain ⟨result, last, ran⟩ : ∃ result last,
    (addFriend externals.lib msg).run (execPeered externals outcome addr) scene = (result, last) := ⟨_, _, rfl⟩
  rw [refusesApplication_iff kind authenticated ran]
  by_cases apart : request.uid = request.touid
  · have himself : ∀ other, parseJson externals.lib AddFriendRequest.fromJson msg.bodyText = some other →
        (scene.server.session addr).uid = other.uid → other.uid = other.touid := by
      intro other named _
      cases parsed.symm.trans named
      exact apart
    obtain ⟨error, fails, ended⟩ := addFriend_refused externals outcome addr scene himself
    rw [ran] at ended
    cases ended
    exact ⟨fun _ => .inl apart, fun _ => ⟨errorResponse_carriesError _ fails, fun _ => rfl, fun _ => rfl, rfl⟩⟩
  · have ends := addFriend_ends externals outcome addr scene parsed own apart
    rw [ran] at ends
    obtain ⟨throws, same⟩ := addFriendApply_again externals held (outcome (.addFriendApply request.uid request.touid))
    constructor
    · rintro ⟨failed, _, nobody, _⟩
      by_cases went : outcome (.addFriendApply request.uid request.touid) = .ok
      · have answered := not_not.mp (mt throws.mp (not_not.mpr went))
        have fails := (ends.failed.mp failed).resolve_left (not_not.mpr answered)
        exact .inr (.inr ⟨fails, (ends.told rfl failed).mp nobody answered⟩)
      · exact .inr (.inl went)
    · rintro (himself | trouble)
      · exact absurd himself apart
      · have failed : Failed result := ends.failed.mpr (trouble.imp throws.mpr And.left)
        have nobody : NobodyTold scene.peer last.peer := by
          apply (ends.told rfl failed).mpr
          intro answered notify reaches
          rcases trouble with refused | ⟨_, nowhere⟩
          · exact absurd answered (throws.mpr refused)
          · exact nowhere notify reaches
        refine ⟨failed, ?_, nobody, ?_⟩
        · rw [(ends.delivered failed).1]
          exact fun _ => rfl
        · rw [ends.stores]
          exact same.1

end Again

/-! ## The first user applies twice -/

namespace Sample

/-- The first application is passed on to the other server, and the second one has been read. -/
def appliesTwice : List ClusterAct :=
  let request := (MessageId.addFriendRequest, addBody 1 2)
  connect .two 2 [(.loginRequest, loginBody 2 "token2")] ++ frame .two 2 8 ++
    connect .one 1 [(.loginRequest, loginBody 1 "token1"), request, request] ++ frame .one 1 8 ++
    frame .one 1 3 ++ [.arrive .one, .runTask .two, .finish .one] ++
    [.own .one (.readDone 1), .own .one (.resumeReader 1), .own .one (.readDone 1)]

end Sample

theorem sample_again : ((Transition.runs (Cluster.step (Sample.externals Sample.friendBodies)) (.start Sample.stores Sample.name)
    Sample.appliesTwice).any fun cluster => Sample.asks cluster [{ fromUid := 1, toUid := 2 }]) = true := by decide +kernel

theorem sample_applied {cluster : Cluster} (held : cluster.stores.db.friendApply.rows = [{ fromUid := 1, toUid := 2 }]) :
    Applied cluster.stores.db 1 2 := by
  refine ⟨{ fromUid := 1, toUid := 2 }, ?_, rfl, rfl⟩
  rw [← UniqueTable.mem_rows, held]
  exact List.mem_singleton_self _

/-- MySQL refuses the second statement. -/
theorem repeated_application_refused_mysql : ∃ cluster msg,
    Transition.Run (Cluster.step (Sample.externals Sample.friendBodies)) (.start Sample.stores Sample.name) Sample.appliesTwice cluster ∧
    ((cluster.server .one).session 1).reader = .bodyRead msg ∧
    RefusesApplication (Sample.externals Sample.friendBodies) (fun _ => .error) 1 (sceneOf cluster .one) msg := by
  obtain ⟨cluster, reached, found⟩ := (Option.any_eq_true _ _).mp sample_again
  obtain ⟨msg, reading, asks, held⟩ := sample_asks found
  refine ⟨cluster, msg, Transition.run_iff_runs.mpr reached, reading, ?_⟩
  exact (repeated_application_refused (Sample.externals Sample.friendBodies) (fun _ => .error) 1 (sceneOf cluster .one) msg asks.kind
    asks.authenticated { uid := 1, touid := 2 } asks.parsed asks.own (sample_applied held)).mpr (.inr (.inl nofun))

theorem repeated_application_succeeds : ¬ ∀ (externals : Externals) (outcome : Op → Outcome) (stores : Stores) (name : Side → String)
    (acts : List ClusterAct) (cluster : Cluster) (side : Side) (addr : Addr) (msg : MsgNode) (request : AddFriendRequest),
    Transition.Run (Cluster.step externals) (.start stores name) acts cluster →
    ((cluster.server side).session addr).reader = .bodyRead msg → MessageId.enumCast msg.id = some .addFriendRequest →
    ((cluster.server side).session addr).isAuthenticated = true →
    parseJson externals.lib AddFriendRequest.fromJson msg.bodyText = some request →
    ((cluster.server side).session addr).uid = request.uid → Applied cluster.stores.db request.uid request.touid →
    RefusesApplication externals outcome addr (sceneOf cluster side) msg := by
  intro claim
  obtain ⟨cluster, reached, found⟩ := (Option.any_eq_true _ _).mp sample_again
  obtain ⟨msg, reading, asks, held⟩ := sample_asks found
  have run := Transition.run_iff_runs.mpr reached
  let externals := Sample.externals Sample.friendBodies
  let scene := sceneOf cluster .one
  have applied : Applied scene.stores.db 1 2 := sample_applied held
  have refuses := claim externals (fun _ => .ok) _ _ _ cluster .one 1 msg { uid := 1, touid := 2 } run reading asks.kind
    asks.authenticated asks.parsed asks.own applied
  obtain ⟨result, last, ran⟩ : ∃ result last,
    (addFriend externals.lib msg).run (execPeered externals (fun _ => .ok) 1) scene = (result, last) := ⟨_, _, rfl⟩
  have failed := ((refusesApplication_iff asks.kind asks.authenticated ran).mp refuses).1
  have ends := addFriend_ends externals (fun _ => .ok) 1 scene asks.parsed asks.own (by decide)
  rw [ran] at ends
  rcases ends.failed.mp failed with throws | ⟨target, route, fails⟩
  · exact (addFriendApply_again externals applied .ok).1.mp throws rfl
  · obtain ⟨userInfo, known⟩ := Option.isSome_iff_exists.mp asks.known
    have answered : (addPlan (fun _ => .ok) scene.stores { uid := 1, touid := 2 }).found = .ok (some userInfo) := congrArg Except.ok known
    exact (fails userInfo answered).2 rfl

end ChatProof
