import ChatProject.Cluster.History

/-! Friends and their applications, over whole runs. -/

namespace ChatProof

open ChatModel

/-! ## What an auth_friend request is -/

/-- The application of the one to the other is in the table. -/
def Applied (db : Tables) (fromUid toUid : Int64) : Prop :=
  ∃ row ∈ db.friendApply, row.fromUid.toInt64 = fromUid ∧ row.toUid.toInt64 = toUid

instance (db : Tables) (fromUid toUid : Int64) : Decidable (Applied db fromUid toUid) :=
  inferInstanceAs (Decidable (∃ row ∈ db.friendApply.rows, row.fromUid.toInt64 = fromUid ∧ row.toUid.toInt64 = toUid))

/-- The frame asks to accept the application of `applicant`, and its sender is logged in as `acceptor`. -/
structure SendsAuth (lib : JsonLib) (readMsg : MsgNode) (told : Ledger) (acceptor applicant : Int64) : Prop where
  kind : MessageId.enumCast readMsg.id = some .authFriendRequest
  parsed : parseJson lib AuthFriendRequest.fromJson readMsg.bodyText = some { fromuid := acceptor, touid := applicant }
  authenticated : Told told .isAuthenticated true
  own : Told told .uid acceptor

theorem asked_authFriendApply {lib : JsonLib} {readMsg : MsgNode} {told : Ledger} {fromUid toUid : Int64}
    (asked : Asked lib readMsg told (.authFriendApply fromUid toUid)) : SendsAuth lib readMsg told fromUid toUid := by
  cases asked with
  | login _ asks => cases asks
  | search _ _ _ asks => cases asks
  | addFriend _ _ questions =>
    cases questions with
    | prepare asks =>
      cases asks with
      | statement _ same => cases same
  | authFriend kind authenticated questions =>
    cases questions with
    | prepare asks =>
      cases asks with
      | statement accepted same =>
        cases same
        exact ⟨kind, accepted.parsed, authenticated, accepted.own⟩
  | textChat _ _ questions =>
    cases questions with
    | prepare asks =>
      cases asks with
      | statement _ same => cases same

/-! ## Consent -/

/-- At some time `acceptor` has accepted the application of `applicant`, and it was there. -/
def Consented (lib : JsonLib) (history : List Record) (acceptor applicant : Int64) : Prop :=
  ∃ side addr readMsg told outcome before,
    .executed side addr readMsg told (.authFriendApply acceptor applicant) outcome before ∈ history ∧
      SendsAuth lib readMsg told acceptor applicant ∧ Applied before applicant acceptor

/-- No auth_friend is executed without the application that it accepts. -/
def AcceptsApplied (cluster : Cluster) : ClusterAct → Prop
  | .exec side addr outcome =>
    match ((cluster.server side).session addr).reader with
    | .waiting _ _ (.authFriendApply fromUid toUid) _ => outcome ≠ .error → Applied cluster.stores.db toUid fromUid
    | _ => True
  | _ => True

/-- What is asked of an acceptance can be decided of whatever a reader does. -/
def decideAcceptance (holds : Int64 → Int64 → Prop) [∀ fromUid toUid, Decidable (holds fromUid toUid)] (reader : Reader) :
    Decidable (match reader with
      | .waiting _ _ (.authFriendApply fromUid toUid) _ => holds fromUid toUid
      | _ => True) := by
  split <;> infer_instance

instance (cluster : Cluster) : (act : ClusterAct) → Decidable (AcceptsApplied cluster act)
  | .exec side addr outcome =>
    decideAcceptance (fun fromUid toUid => outcome ≠ .error → Applied cluster.stores.db toUid fromUid)
      ((cluster.server side).session addr).reader
  | .own _ _ | .arrive _ | .runTask _ | .finish _ | .fail _ | .tick _ => .isTrue trivial

section Consent

variable {externals : Externals} {stores : Stores} {cluster after : Cluster}

theorem acceptsApplied_waiting {side : Side} {addr : Addr} {outcome : Outcome} {readMsg : MsgNode} {told : Ledger}
    {fromUid toUid : Int64} {next : Except Failure Unit → Awaitable ChannelMessage}
    (meets : AcceptsApplied cluster (.exec side addr outcome))
    (reading : ((cluster.server side).session addr).reader = .waiting readMsg told (.authFriendApply fromUid toUid) next)
    (done : outcome ≠ .error) : Applied cluster.stores.db toUid fromUid := by
  simp only [AcceptsApplied, reading] at meets
  exact meets done

/-- In a run so far in which every acceptance had its application. -/
structure Agreed (externals : Externals) (stores : Stores) (cluster : Cluster) : Prop where
  applied : ∀ side addr readMsg told fromUid toUid outcome before,
    .executed side addr readMsg told (.authFriendApply fromUid toUid) outcome before ∈ cluster.history →
      outcome ≠ .error → Applied before toUid fromUid
  friends : ∀ row ∈ cluster.stores.db.friend, row ∈ stores.db.friend ∨
    ∃ acceptor applicant, Consented externals.lib cluster.history acceptor applicant ∧
      (row.selfId.toInt64 = acceptor ∧ row.friendId.toInt64 = applicant ∨
        row.selfId.toInt64 = applicant ∧ row.friendId.toInt64 = acceptor)

theorem Consented.mono {lib : JsonLib} {history later : List Record} {acceptor applicant : Int64}
    (consented : Consented lib history acceptor applicant) (grows : history ⊆ later) :
    Consented lib later acceptor applicant := by
  obtain ⟨side, addr, readMsg, told, outcome, before, member, rest⟩ := consented
  exact ⟨side, addr, readMsg, told, outcome, before, grows member, rest⟩

/-- The rows that the transaction adds, when both uids are those of an application. -/
theorem authFriendApply_friend {db : Tables} {fromUid toUid : Int64} (applied : Applied db toUid fromUid) {row : FriendRow}
    (member : row ∈ (db.authFriendApply fromUid toUid).friend) : row ∈ db.friend ∨
      row.selfId.toInt64 = fromUid ∧ row.friendId.toInt64 = toUid ∨ row.selfId.toInt64 = toUid ∧ row.friendId.toInt64 = fromUid := by
  obtain ⟨apply, _, sent, received⟩ := applied
  subst sent received
  change row ∈ Tables.insertFriend _ _ (Tables.insertFriend _ _ db.friend) at member
  unfold Tables.insertFriend at member
  simp only [clampedColumn_toInt64] at member
  rcases UniqueTable.mem_insertIgnore.mp member with first | ⟨same, _⟩
  · rcases UniqueTable.mem_insertIgnore.mp first with old | ⟨same, _⟩
    · exact .inl old
    · subst same
      exact .inr (.inl ⟨rfl, rfl⟩)
  · subst same
    exact .inr (.inr ⟨rfl, rfl⟩)

theorem Agreed.step (agreed : Agreed externals stores cluster) (traced : ∀ side, Traced externals.lib (cluster.server side))
    {act : ClusterAct} (meets : AcceptsApplied cluster act) (taken : cluster.step externals act = some after) :
    Agreed externals stores after := by
  have grows := step_history_subset taken
  have kept : ∀ row ∈ cluster.stores.db.friend, row ∈ stores.db.friend ∨
      ∃ acceptor applicant, Consented externals.lib after.history acceptor applicant ∧
        (row.selfId.toInt64 = acceptor ∧ row.friendId.toInt64 = applicant ∨
          row.selfId.toInt64 = applicant ∧ row.friendId.toInt64 = acceptor) := by
    intro row member
    rcases agreed.friends row member with old | ⟨acceptor, applicant, consented, pair⟩
    · exact .inl old
    · exact .inr ⟨acceptor, applicant, consented.mono grows, pair⟩
  refine ⟨?_, ?_⟩
  · intro side addr readMsg told fromUid toUid outcome before member done
    rcases (mem_step_history taken rfl).mp member with new | old
    · obtain ⟨_, _, _, _, _, _, _, same, reading, entry⟩ := mem_newCalls.mp new
      cases entry
      subst same
      exact acceptsApplied_waiting meets reading done
    · exact agreed.applied _ _ _ _ _ _ _ _ old done
  · intro row member
    rcases step_db taken with same | ⟨side, addr, outcome, readMsg, told, op, next, same, reading, statement, stored⟩
    · rw [same] at member
      exact kept row member
    · subst same
      rw [stored] at member
      cases op with
      | addFriendApply fromUid toUid =>
        rcases exec_addFriendApply externals outcome fromUid toUid cluster.stores with same | ⟨_, _, _, _, _, same⟩ <;>
          rw [same] at member <;> exact kept row member
      | authFriendApply fromUid toUid =>
        rw [exec_authFriendApply] at member
        by_cases refused : outcome = .error
        · rw [if_pos refused] at member
          exact kept row member
        · rw [if_neg refused] at member
          have applied := acceptsApplied_waiting meets reading refused
          have reaches : Reaches externals.lib readMsg told (.call (.authFriendApply fromUid toUid) next) := by
            apply (traced side).suspended
            rw [reading]
            rfl
          have sends := asked_authFriendApply (reaches.guided (handleMessage_asked externals.lib readMsg)).1.1
          have consented : Consented externals.lib after.history fromUid toUid := by
            refine ⟨side, addr, readMsg, told, outcome, cluster.stores.db, ?_, sends, applied⟩
            exact (mem_step_history taken rfl).mpr (.inl (mem_newCalls.mpr ⟨_, _, _, _, _, _, _, rfl, reading, rfl⟩))
          rcases authFriendApply_friend applied member with old | pair
          · exact kept row old
          · exact .inr ⟨fromUid, toUid, consented, pair⟩
      | _ => cases statement

theorem Agreed.start (externals : Externals) (stores : Stores) (name : Side → String) :
    Agreed externals stores (.start stores name) where
  applied := by
    intro _ _ _ _ _ _ _ _ member
    cases member
  friends := fun _ member => .inl member

end Consent

/-- A reply that is no error goes back to a statement that was executed and answered. -/
theorem authFriend_executed {externals : Externals} {stores : Stores} {name : Side → String} {cluster : Cluster}
    (reached : Transition.Reachable (Cluster.step externals) (.start stores name) cluster) {side : Side} {addr : Addr}
    {readMsg : MsgNode} {told : Ledger} {reply : ChannelMessage} {acceptor applicant : Int64}
    (logged : .replied addr readMsg told reply ∈ (cluster.server side).log)
    (kind : MessageId.enumCast readMsg.id = some .authFriendRequest)
    (parsed : parseJson externals.lib AuthFriendRequest.fromJson readMsg.bodyText =
      some { fromuid := acceptor, touid := applicant }) (success : ¬ CarriesError reply) :
    ∃ early before, (⟨.authFriendApply acceptor applicant, .ok ()⟩ :: early : Ledger) <:+ told ∧
      .executed side addr readMsg early (.authFriendApply acceptor applicant) .ok before ∈ cluster.history := by
  have reaches := (reachable_traced reached side).replied logged
  obtain ⟨_, same, replied⟩ := reaches.guided (handleMessage_asked externals.lib readMsg)
  cases same
  have known := authFriend_success replied kind parsed success
  have backed := ((reachable_recorded reached).handlers side).replied _ _ _ _ logged
  obtain ⟨early, suffix, outcome, stores, member, done⟩ := backed.executed known rfl
  rw [authFriendApply_ok done] at member
  exact ⟨early, stores.db, suffix, member⟩

/-- In every run whose acceptances all have their application, friendship needs the consent of the
    addressee, and whoever accepts nothing is told so and changes nothing. -/
theorem friends_by_consent (externals : Externals) (stores : Stores) (name : Side → String) (acts : List ClusterAct)
    (cluster : Cluster) (run : Transition.Run (Cluster.step externals) (.start stores name) acts cluster)
    (meets : Transition.Meets (Cluster.step externals) AcceptsApplied (.start stores name) acts) :
    (∀ row ∈ cluster.stores.db.friend, row ∈ stores.db.friend ∨
      ∃ acceptor applicant, Consented externals.lib cluster.history acceptor applicant ∧
        (row.selfId.toInt64 = acceptor ∧ row.friendId.toInt64 = applicant ∨
          row.selfId.toInt64 = applicant ∧ row.friendId.toInt64 = acceptor)) ∧
    (∀ side addr readMsg told reply acceptor applicant, .replied addr readMsg told reply ∈ (cluster.server side).log →
      MessageId.enumCast readMsg.id = some .authFriendRequest → parseJson externals.lib AuthFriendRequest.fromJson
        readMsg.bodyText = some { fromuid := acceptor, touid := applicant } → ¬ CarriesError reply →
      ∃ early before, (⟨.authFriendApply acceptor applicant, .ok ()⟩ :: early : Ledger) <:+ told ∧
        .executed side addr readMsg early (.authFriendApply acceptor applicant) .ok before ∈ cluster.history ∧
        Applied before applicant acceptor) ∧
    (∀ side addr readMsg told acceptor applicant outcome before,
      .executed side addr readMsg told (.authFriendApply acceptor applicant) outcome before ∈ cluster.history →
      ¬ Applied before applicant acceptor → ∀ stores : Stores, stores.db = before →
        (stores.exec externals outcome (.authFriendApply acceptor applicant)).2.db = before) := by
  have keeps : ∀ (cluster : Cluster) (act : ClusterAct) (after : Cluster),
      (Agreed externals stores cluster ∧ ∀ side, Traced externals.lib (cluster.server side)) → AcceptsApplied cluster act →
      cluster.step externals act = some after →
      Agreed externals stores after ∧ ∀ side, Traced externals.lib (after.server side) := by
    intro cluster act after known accepts taken
    exact ⟨known.1.step known.2 accepts taken, step_servers step_traced taken known.2⟩
  have starts : Agreed externals stores (.start stores name) ∧
      ∀ side, Traced externals.lib ((Cluster.start stores name).server side) :=
    ⟨Agreed.start externals stores name, fun side => Traced.fresh externals.lib (name side)⟩
  obtain ⟨agreed, _⟩ := run.invariant_of_meets keeps meets starts
  refine ⟨agreed.friends, ?_, ?_⟩
  · intro side addr readMsg told reply acceptor applicant logged kind parsed success
    obtain ⟨early, before, suffix, member⟩ := authFriend_executed ⟨acts, run⟩ logged kind parsed success
    exact ⟨early, before, suffix, member, agreed.applied _ _ _ _ _ _ _ _ member nofun⟩
  · intro side addr readMsg told acceptor applicant outcome before member absent stores same
    rw [exec_authFriendApply, same]
    by_cases refused : outcome = .error
    · rw [if_pos refused]
    · exact absurd (agreed.applied _ _ _ _ _ _ _ _ member refused) absent

/-! ## Accepted applications -/

/-- `acceptor` has accepted the application of `applicant` when it was there, and was answered without an error. -/
def AcceptedSince (lib : JsonLib) (history : List Record) (acceptor applicant : Int64) : Prop :=
  ∃ side addr readMsg told early reply before, .logged side (.replied addr readMsg told reply) ∈ history ∧
    ¬ CarriesError reply ∧ (⟨.authFriendApply acceptor applicant, .ok ()⟩ :: early : Ledger) <:+ told ∧
    .executed side addr readMsg early (.authFriendApply acceptor applicant) .ok before ∈ history ∧
    SendsAuth lib readMsg early acceptor applicant ∧ Applied before applicant acceptor

/-- No auth_friend is executed for two users of whom one has applied to the other. -/
def AcceptsNothing (cluster : Cluster) : ClusterAct → Prop
  | .exec side addr outcome =>
    match ((cluster.server side).session addr).reader with
    | .waiting _ _ (.authFriendApply fromUid toUid) _ =>
      (outcome ≠ .error → ¬ Applied cluster.stores.db fromUid toUid) ∧
        (outcome = .ok → ¬ Applied cluster.stores.db toUid fromUid)
    | _ => True
  | _ => True

instance (cluster : Cluster) : (act : ClusterAct) → Decidable (AcceptsNothing cluster act)
  | .exec side addr outcome =>
    decideAcceptance (fun fromUid toUid => (outcome ≠ .error → ¬ Applied cluster.stores.db fromUid toUid) ∧
      (outcome = .ok → ¬ Applied cluster.stores.db toUid fromUid)) ((cluster.server side).session addr).reader
  | .own _ _ | .arrive _ | .runTask _ | .finish _ | .fail _ | .tick _ => .isTrue trivial

section Pending

variable {externals : Externals} {cluster after : Cluster}

theorem acceptsNothing_waiting {side : Side} {addr : Addr} {outcome : Outcome} {readMsg : MsgNode} {told : Ledger}
    {fromUid toUid : Int64} {next : Except Failure Unit → Awaitable ChannelMessage}
    (meets : AcceptsNothing cluster (.exec side addr outcome))
    (reading : ((cluster.server side).session addr).reader = .waiting readMsg told (.authFriendApply fromUid toUid) next) :
    (outcome ≠ .error → ¬ Applied cluster.stores.db fromUid toUid) ∧
      (outcome = .ok → ¬ Applied cluster.stores.db toUid fromUid) := by
  simp only [AcceptsNothing, reading] at meets
  exact meets

/-- All applications are pending, and none has been accepted. -/
structure Pending (cluster : Cluster) : Prop where
  status : ∀ row ∈ cluster.stores.db.friendApply, row.status = 0
  listed : ∀ side addr readMsg told op outcome before, .executed side addr readMsg told op outcome before ∈ cluster.history →
    ∀ row ∈ before.friendApply, row.status = 0
  accepted : ∀ side addr readMsg told fromUid toUid before,
    .executed side addr readMsg told (.authFriendApply fromUid toUid) .ok before ∈ cluster.history → ¬ Applied before toUid fromUid

theorem acceptApply_none {db : Tables} {fromUid toUid : Int64} (absent : ¬ Applied db fromUid toUid) :
    db.acceptApply fromUid toUid = db.friendApply := by
  apply UniqueTable.updateWhere_none
  intro row member
  apply decide_eq_false
  rintro ⟨sent, received⟩
  exact absent ⟨row, member, sent, received⟩

theorem Pending.step (pending : Pending cluster) {act : ClusterAct} (meets : AcceptsNothing cluster act)
    (taken : cluster.step externals act = some after) : Pending after := by
  refine ⟨?_, ?_, ?_⟩
  · intro row member
    rcases step_db taken with same | ⟨side, addr, outcome, readMsg, told, op, next, same, reading, statement, stored⟩
    · rw [same] at member
      exact pending.status row member
    · subst same
      rw [stored] at member
      cases op with
      | addFriendApply fromUid toUid =>
        rcases exec_addFriendApply externals outcome fromUid toUid cluster.stores with same | ⟨_, _, _, _, _, same⟩
        · rw [same] at member
          exact pending.status row member
        · rw [same] at member
          rcases UniqueTable.mem_insertIgnore.mp member with old | ⟨new, _⟩
          · exact pending.status row old
          · rw [new]
      | authFriendApply fromUid toUid =>
        rw [exec_authFriendApply] at member
        by_cases refused : outcome = .error
        · rw [if_pos refused] at member
          exact pending.status row member
        · rw [if_neg refused] at member
          change row ∈ cluster.stores.db.acceptApply fromUid toUid at member
          rw [acceptApply_none ((acceptsNothing_waiting meets reading).1 refused)] at member
          exact pending.status row member
      | _ => cases statement
  · intro side addr readMsg told op outcome before member
    rcases (mem_step_history taken rfl).mp member with new | old
    · obtain ⟨_, _, _, _, _, _, _, _, _, entry⟩ := mem_newCalls.mp new
      cases entry
      exact pending.status
    · exact pending.listed _ _ _ _ _ _ _ old
  · intro side addr readMsg told fromUid toUid before member
    rcases (mem_step_history taken rfl).mp member with new | old
    · obtain ⟨_, _, _, _, _, _, _, same, reading, entry⟩ := mem_newCalls.mp new
      cases entry
      subst same
      exact (acceptsNothing_waiting meets reading).2 rfl
    · exact pending.accepted _ _ _ _ _ _ _ old

theorem Pending.not_acceptedSince (pending : Pending cluster) {lib : JsonLib} {history : List Record}
    (part : history ⊆ cluster.history) (acceptor applicant : Int64) : ¬ AcceptedSince lib history acceptor applicant := by
  rintro ⟨side, addr, readMsg, told, early, reply, before, _, _, _, member, _, applied⟩
  exact pending.accepted side addr readMsg early acceptor applicant before (part member) applied

end Pending

/-- The list of applications in the response to a login is what the database had at some time. -/
theorem login_applies {externals : Externals} {stores : Stores} {name : Side → String} {cluster : Cluster}
    (reached : Transition.Reachable (Cluster.step externals) (.start stores name) cluster) {side : Side} {addr : Addr}
    {readMsg : MsgNode} {told : Ledger} {reply : ChannelMessage} (logged : .replied addr readMsg told reply ∈ (cluster.server side).log)
    (kind : MessageId.enumCast readMsg.id = some .loginRequest) (success : ¬ CarriesError reply) :
    ∃ request info friendList early before later earlier,
      parseJson externals.lib UserLoginRequest.fromJson readMsg.bodyText = some request ∧
      reply = loginReply request info (before.getFriendApplies request.uid) friendList ∧
      cluster.history = later ++ .executed side addr readMsg early (.getFriendApplies request.uid) .ok before :: earlier := by
  have reaches := (reachable_traced reached side).replied logged
  obtain ⟨_, same, replied⟩ := reaches.guided (handleMessage_asked externals.lib readMsg)
  cases same
  obtain ⟨request, info, applyList, friendList, parsed, _, applies, _, built⟩ := login_success replied kind success
  have backed := ((reachable_recorded reached).handlers side).replied _ _ _ _ logged
  obtain ⟨early, _, outcome, stores, member, done⟩ := backed.executed applies rfl
  have answered : (stores.onTables outcome (stores.db.getFriendApplies request.uid, stores.db)).1 = .ok applyList := done
  obtain ⟨later, earlier, split⟩ := List.append_of_mem member
  cases outcome with
  | ok =>
    cases answered
    exact ⟨request, info, friendList, early, stores.db, later, earlier, parsed, built, split⟩
  | error => cases answered
  | lost => cases answered

theorem mem_getFriendApplies {db : Tables} {uid : Int64} {apply : FriendApplyInfo} : apply ∈ db.getFriendApplies uid ↔
    ∃ row ∈ db.friendApply, row.toUid.toInt64 = uid ∧ ∃ user ∈ db.user, user.id = row.fromUid ∧
      apply = ⟨row.status, ⟨row.fromUid.toInt64, user.name⟩⟩ := by
  unfold Tables.getFriendApplies
  constructor
  · intro member
    obtain ⟨row, found, joined⟩ := List.mem_flatMap.mp member
    obtain ⟨user, known, same⟩ := List.mem_map.mp joined
    obtain ⟨there, sent⟩ := List.mem_filter.mp found
    obtain ⟨present, named⟩ := List.mem_filter.mp known
    exact ⟨row, there, of_decide_eq_true sent, user, present, of_decide_eq_true named, same.symm⟩
  · rintro ⟨row, there, sent, user, present, named, same⟩
    refine List.mem_flatMap.mpr ⟨row, List.mem_filter.mpr ⟨there, decide_eq_true sent⟩, ?_⟩
    exact List.mem_map.mpr ⟨user, List.mem_filter.mpr ⟨present, decide_eq_true named⟩, same.symm⟩

/-- In every run that accepts nothing and begins with pending applications only, the status of a row
    says whether it was accepted, and so does every login response. -/
theorem accepted_is_recorded (externals : Externals) (stores : Stores) (name : Side → String) (acts : List ClusterAct)
    (cluster : Cluster) (run : Transition.Run (Cluster.step externals) (.start stores name) acts cluster)
    (meets : Transition.Meets (Cluster.step externals) AcceptsNothing (.start stores name) acts)
    (fresh : ∀ row ∈ stores.db.friendApply, row.status = 0) :
    (∀ row ∈ cluster.stores.db.friendApply, row.status = 1 ↔
      AcceptedSince externals.lib cluster.history row.toUid.toInt64 row.fromUid.toInt64) ∧
    (∀ side addr readMsg told reply, .replied addr readMsg told reply ∈ (cluster.server side).log →
      MessageId.enumCast readMsg.id = some .loginRequest → ¬ CarriesError reply →
      ∃ request info friendList early before later earlier,
        parseJson externals.lib UserLoginRequest.fromJson readMsg.bodyText = some request ∧
        reply = loginReply request info (before.getFriendApplies request.uid) friendList ∧
        cluster.history = later ++ .executed side addr readMsg early (.getFriendApplies request.uid) .ok before :: earlier ∧
        (∀ row ∈ before.friendApply, row.toUid.toInt64 = request.uid → ∀ user ∈ before.user, user.id = row.fromUid →
          ⟨row.status, ⟨row.fromUid.toInt64, user.name⟩⟩ ∈ before.getFriendApplies request.uid) ∧
        ∀ apply ∈ before.getFriendApplies request.uid,
          apply.status = 0 ↔ ¬ AcceptedSince externals.lib earlier request.uid apply.userDetail.id) := by
  have keeps : ∀ (cluster : Cluster) (act : ClusterAct) (after : Cluster), Pending cluster → AcceptsNothing cluster act →
      cluster.step externals act = some after → Pending after :=
    fun _ _ _ pending accepts taken => pending.step accepts taken
  have starts : Pending (.start stores name) := ⟨fresh, nofun, nofun⟩
  have pending := run.invariant_of_meets keeps meets starts
  refine ⟨?_, ?_⟩
  · intro row member
    have waits := pending.status row member
    constructor
    · intro accepted
      rw [waits] at accepted
      exact absurd accepted (by decide)
    · intro accepted
      exact absurd accepted (pending.not_acceptedSince (List.Subset.refl _) _ _)
  · intro side addr readMsg told reply logged kind success
    obtain ⟨request, info, friendList, early, before, later, earlier, parsed, built, split⟩ :=
      login_applies ⟨acts, run⟩ logged kind success
    refine ⟨request, info, friendList, early, before, later, earlier, parsed, built, split, ?_, ?_⟩
    · intro row there sent user known named
      exact mem_getFriendApplies.mpr ⟨row, there, sent, user, known, named, rfl⟩
    intro apply member
    obtain ⟨row, found, _, user, _, _, same⟩ := mem_getFriendApplies.mp member
    subst same
    have present : .executed side addr readMsg early (.getFriendApplies request.uid) .ok before ∈ cluster.history := by
      rw [split]
      exact List.mem_append_right _ List.mem_cons_self
    have waits := pending.listed _ _ _ _ _ _ _ present row found
    constructor
    · intro _
      apply pending.not_acceptedSince
      intro record old
      rw [split]
      exact List.mem_append_right _ (List.mem_cons_of_mem _ old)
    · intro _
      exact waits

/-! ## Two users become friends -/

namespace Sample

def addBody (uid touid : Int) : Body := pairBody "uid" "touid" uid touid

def authBody (fromuid touid : Int) : Body := pairBody "fromuid" "touid" fromuid touid

def friendBodies : List Body :=
  [loginBody 1 "token1", loginBody 2 "token2", addBody 1 2, authBody 2 1, authBody 1 2]

/-- The first user logs in and asks for this. -/
def firstAsks (request : MessageId × Body) (calls : Nat) : List ClusterAct :=
  connect .one 1 [(.loginRequest, loginBody 1 "token1"), request] ++ frame .one 1 8 ++ frame .one 1 calls

def secondAsks (request : MessageId × Body) (calls : Nat) : List ClusterAct :=
  connect .one 2 [(.loginRequest, loginBody 2 "token2"), request] ++ frame .one 2 8 ++ frame .one 2 calls

/-- There is a row of the table after these steps. -/
def befriends (acts : List ClusterAct) : Bool :=
  (Transition.runs (Cluster.step (externals friendBodies)) (.start stores name) acts).any fun cluster =>
    cluster.stores.db.friend.rows.length = 2

end Sample

/-- The first user applies, the second one accepts. -/
theorem friends_by_consent_after_application : ∃ cluster,
    Transition.Run (Cluster.step (Sample.externals Sample.friendBodies)) (.start Sample.stores Sample.name)
      (Sample.firstAsks (.addFriendRequest, Sample.addBody 1 2) 2 ++
        Sample.secondAsks (.authFriendRequest, Sample.authBody 2 1) 2) cluster ∧
      ∃ acceptor applicant, Consented (Sample.externals Sample.friendBodies).lib cluster.history acceptor applicant := by
  have possible : Sample.befriends (Sample.firstAsks (.addFriendRequest, Sample.addBody 1 2) 2 ++
      Sample.secondAsks (.authFriendRequest, Sample.authBody 2 1) 2) = true := by decide +kernel
  have applied : Transition.Meets (Cluster.step (Sample.externals Sample.friendBodies)) AcceptsApplied
      (.start Sample.stores Sample.name) (Sample.firstAsks (.addFriendRequest, Sample.addBody 1 2) 2 ++
        Sample.secondAsks (.authFriendRequest, Sample.authBody 2 1) 2) := by decide +kernel
  obtain ⟨cluster, reached, two⟩ := (Option.any_eq_true _ _).mp possible
  have run := Transition.run_iff_runs.mpr reached
  have filled : 0 < cluster.stores.db.friend.rows.length := by
    rw [of_decide_eq_true two]
    exact Nat.zero_lt_two
  obtain ⟨row, member⟩ := List.exists_mem_of_length_pos filled
  refine ⟨cluster, run, ?_⟩
  rcases (friends_by_consent _ _ _ _ cluster run applied).1 row member with old | ⟨acceptor, applicant, consented, _⟩
  · cases old
  · exact ⟨acceptor, applicant, consented⟩

/-- There were no applications when the record was made. -/
def foundNoApplications : Record → Bool
  | .executed _ _ _ _ _ _ before => before.friendApply.rows.isEmpty
  | .logged _ _ => true

/-- Nobody has applied for anything. -/
theorem friends_without_application : ¬ ∀ (externals : Externals) (stores : Stores) (name : Side → String)
    (acts : List ClusterAct) (cluster : Cluster),
    Transition.Run (Cluster.step externals) (.start stores name) acts cluster →
    ∀ row ∈ cluster.stores.db.friend, row ∈ stores.db.friend ∨
      ∃ acceptor applicant, Consented externals.lib cluster.history acceptor applicant ∧
        (row.selfId.toInt64 = acceptor ∧ row.friendId.toInt64 = applicant ∨
          row.selfId.toInt64 = applicant ∧ row.friendId.toInt64 = acceptor) := by
  intro claim
  have possible : ((Transition.runs (Cluster.step (Sample.externals Sample.friendBodies)) (.start Sample.stores Sample.name)
      (Sample.firstAsks (.authFriendRequest, Sample.authBody 1 2) 2)).any fun cluster =>
        decide (cluster.stores.db.friend.rows.length = 2) && cluster.history.all foundNoApplications) = true := by decide +kernel
  obtain ⟨cluster, reached, found⟩ := (Option.any_eq_true _ _).mp possible
  obtain ⟨two, unapplied⟩ := Bool.and_eq_true_iff.mp found
  have filled : 0 < cluster.stores.db.friend.rows.length := by
    rw [of_decide_eq_true two]
    exact Nat.zero_lt_two
  obtain ⟨row, member⟩ := List.exists_mem_of_length_pos filled
  rcases claim _ _ _ _ cluster (Transition.run_iff_runs.mpr reached) row member with
    old | ⟨acceptor, applicant, ⟨_, _, _, _, _, before, executed, _, apply, present, _⟩, _⟩
  · cases old
  · have empty := List.all_eq_true.mp unapplied _ executed
    rw [← UniqueTable.mem_rows, List.isEmpty_iff.mp empty] at present
    cases present

namespace Sample

/-- The first user applies to the second one, and then accepts himself. -/
def acceptsHimself : List ClusterAct :=
  connect .one 1 [(.loginRequest, loginBody 1 "token1"), (.addFriendRequest, addBody 1 2), (.authFriendRequest, authBody 1 2)] ++
    frame .one 1 8 ++ frame .one 1 2 ++ frame .one 1 2

end Sample

/-- The second user has logged in, with a response that is no error. -/
def greetsSecond : Event → Bool
  | .replied 2 readMsg _ reply => MessageId.enumCast readMsg.id = some .loginRequest &&
      parseJson (Sample.externals Sample.friendBodies).lib UserLoginRequest.fromJson readMsg.bodyText = some { uid := 2, token := "token2" } &&
      reply.msg.bodyText[2]? = some 100
  | _ => false

/-- Whenever the second user is told of applications, there is the one of the first user. -/
def findsApplication : Record → Bool
  | .executed _ _ _ _ (.getFriendApplies uid) _ before => uid ≠ 2 || before.friendApply.rows = [⟨1, 2, 0⟩] &&
      before.user.rows.contains ⟨1, "ann", "ann@example.com", "pwd1"⟩
  | _ => true

/-- The first user applies to the second one, who then logs in. -/
theorem accepted_is_recorded_pending : ∃ cluster,
    Transition.Run (Cluster.step (Sample.externals Sample.friendBodies)) (.start Sample.stores Sample.name)
      (Sample.firstAsks (.addFriendRequest, Sample.addBody 1 2) 2 ++ Sample.connect .one 2 [(.loginRequest, Sample.loginBody 2 "token2")] ++
        Sample.frame .one 2 8) cluster ∧
    (∃ row ∈ cluster.stores.db.friendApply, ¬ AcceptedSince (Sample.externals Sample.friendBodies).lib cluster.history
      row.toUid.toInt64 row.fromUid.toInt64) ∧
    ∃ request info applyList friendList, request.uid = 2 ∧ ⟨0, ⟨1, "ann"⟩⟩ ∈ applyList ∧ ∃ readMsg told,
      .replied 2 readMsg told (loginReply request info applyList friendList) ∈ (cluster.server .one).log := by
  have possible : ((Transition.runs (Cluster.step (Sample.externals Sample.friendBodies)) (.start Sample.stores Sample.name)
      (Sample.firstAsks (.addFriendRequest, Sample.addBody 1 2) 2 ++ Sample.connect .one 2 [(.loginRequest, Sample.loginBody 2 "token2")] ++
        Sample.frame .one 2 8)).any fun cluster =>
        (cluster.stores.db.friendApply.rows.any fun row => decide (row.status ≠ 1)) && (cluster.server .one).log.any greetsSecond &&
          cluster.history.all findsApplication) = true := by decide +kernel
  have nothing : Transition.Meets (Cluster.step (Sample.externals Sample.friendBodies)) AcceptsNothing
      (.start Sample.stores Sample.name) (Sample.firstAsks (.addFriendRequest, Sample.addBody 1 2) 2 ++
        Sample.connect .one 2 [(.loginRequest, Sample.loginBody 2 "token2")] ++ Sample.frame .one 2 8) := by decide +kernel
  obtain ⟨cluster, reached, found⟩ := (Option.any_eq_true _ _).mp possible
  simp only [Bool.and_eq_true] at found
  obtain ⟨⟨pending, greeted⟩, finds⟩ := found
  obtain ⟨row, member, waits⟩ := List.any_eq_true.mp pending
  have run := Transition.run_iff_runs.mpr reached
  obtain ⟨recorded, listed⟩ := accepted_is_recorded _ _ _ _ cluster run nothing nofun
  refine ⟨cluster, run, ⟨row, member, ?_⟩, ?_⟩
  · intro accepted
    exact of_decide_eq_true waits ((recorded row member).mpr accepted)
  · obtain ⟨event, logged, greets⟩ := List.any_eq_true.mp greeted
    unfold greetsSecond at greets
    split at greets
    · rename_i readMsg told reply
      simp only [Bool.and_eq_true, decide_eq_true_eq] at greets
      obtain ⟨⟨kind, sent⟩, third⟩ := greets
      have success : ¬ CarriesError reply := by
        rintro ⟨responseId, error, _, same⟩
        rw [same, errorResponse_third] at third
        exact absurd third (by decide)
      obtain ⟨request, info, friendList, early, before, later, earlier, parsed, built, split, lists, _⟩ :=
        listed .one 2 readMsg told reply logged kind success
      cases sent.symm.trans parsed
      have executed := List.all_eq_true.mp finds (.executed .one 2 readMsg early (.getFriendApplies 2) .ok before) (by simp [split])
      obtain ⟨applied, known⟩ := Bool.and_eq_true_iff.mp ((Bool.false_or _).symm.trans executed)
      refine ⟨_, info, _, friendList, rfl, lists ⟨1, 2, 0⟩ ?_ (by decide) _ (List.contains_iff_mem.mp known) rfl, readMsg, told, built ▸ logged⟩
      rw [← UniqueTable.mem_rows, of_decide_eq_true applied]
      exact List.mem_cons_self
    · cases greets

/-- The record is of no acceptance by this user. -/
def acceptedByOthers (uid : Int64) : Record → Bool
  | .executed _ _ _ _ (.authFriendApply fromUid _) _ _ => decide (fromUid ≠ uid)
  | _ => true

theorem accepted_by_applicant : ¬ ∀ (externals : Externals) (stores : Stores) (name : Side → String) (acts : List ClusterAct)
    (cluster : Cluster), Transition.Run (Cluster.step externals) (.start stores name) acts cluster →
    (∀ row ∈ stores.db.friendApply, row.status = 0) → ∀ row ∈ cluster.stores.db.friendApply, row.status = 1 ↔
      AcceptedSince externals.lib cluster.history row.toUid.toInt64 row.fromUid.toInt64 := by
  intro claim
  have possible : ((Transition.runs (Cluster.step (Sample.externals Sample.friendBodies)) (.start Sample.stores Sample.name)
      Sample.acceptsHimself).any fun cluster =>
        (cluster.stores.db.friendApply.rows.any fun row => decide (row.status = 1 ∧ row.toUid = 2)) &&
        cluster.history.all (acceptedByOthers 2)) = true := by decide +kernel
  obtain ⟨cluster, reached, found⟩ := (Option.any_eq_true _ _).mp possible
  obtain ⟨some, none⟩ := Bool.and_eq_true_iff.mp found
  obtain ⟨row, member, same⟩ := List.any_eq_true.mp some
  obtain ⟨status, addressee⟩ := of_decide_eq_true same
  obtain ⟨side, addr, readMsg, told, early, reply, before, _, _, _, executed, _⟩ :=
    (claim _ _ _ _ cluster (Transition.run_iff_runs.mpr reached) nofun row member).mp status
  rw [addressee] at executed
  have others : decide (Int32.toInt64 2 ≠ 2) = true := List.all_eq_true.mp none _ executed
  exact of_decide_eq_true others (by decide)

end ChatProof
