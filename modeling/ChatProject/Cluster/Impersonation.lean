import ChatProject.Cluster.Deliveries
import ChatProject.Cluster.Friends

/-! Nothing is done in the name of a user who is not logged in where it is asked for. -/

namespace ChatProof

open ChatModel

/-- The frame asks for a friend, and its sender is logged in as `applicant`. -/
structure SendsAdd (lib : JsonLib) (readMsg : MsgNode) (told : Ledger) (applicant receiver : Int64) : Prop where
  kind : MessageId.enumCast readMsg.id = some .addFriendRequest
  parsed : parseJson lib AddFriendRequest.fromJson readMsg.bodyText = some { uid := applicant, touid := receiver }
  authenticated : Told told .isAuthenticated true
  own : Told told .uid applicant

theorem asked_addFriendApply {lib : JsonLib} {readMsg : MsgNode} {told : Ledger} {fromUid toUid : Int64}
    (asked : Asked lib readMsg told (.addFriendApply fromUid toUid)) : SendsAdd lib readMsg told fromUid toUid := by
  cases asked with
  | login _ asks => cases asks
  | search _ _ _ asks => cases asks
  | addFriend kind authenticated questions =>
    cases questions with
    | prepare asks =>
      cases asks with
      | statement accepted same =>
        cases same
        exact ⟨kind, accepted.parsed, authenticated, accepted.own⟩
  | authFriend _ _ questions =>
    cases questions with
    | prepare asks =>
      cases asks with
      | statement _ same => cases same
  | textChat _ _ questions =>
    cases questions with
    | prepare asks =>
      cases asks with
      | statement _ same => cases same

section Tables

variable {db : Tables} {fromUid toUid : Int64}

theorem acceptApply_applied {row : FriendApplyRow} (member : row ∈ db.acceptApply fromUid toUid) :
    Applied db row.fromUid.toInt64 row.toUid.toInt64 := by
  obtain ⟨old, present, same⟩ := UniqueTable.mem_updateWhere.mp member
  refine ⟨old, present, ?_⟩
  subst same
  split <;> exact ⟨rfl, rfl⟩

theorem insertFriend_pair {selfId friendId : Int64} {friend : UniqueTable FriendRow.pair} {row : FriendRow}
    (member : row ∈ Tables.insertFriend selfId friendId friend) :
    row ∈ friend ∨ row.pair = (clampedColumn selfId, clampedColumn friendId) := by
  rcases UniqueTable.mem_insertIgnore.mp member with old | ⟨same, _⟩
  · exact .inl old
  · subst same
    exact .inr rfl

end Tables

section Steps

variable {externals : Externals} {stores : Stores} {name : Side → String} {cluster after : Cluster}

/-- The handler whose call is executed speaks for the user whose uid it was told. -/
theorem exec_speaks (reached : Transition.Reachable (Cluster.step externals) (.start stores name) cluster) {side : Side}
    {addr : Addr} {outcome : Outcome} (taken : cluster.step externals (.exec side addr outcome) = some after) {readMsg : MsgNode}
    {told : Ledger} {op : Op} {next : op.Res → Awaitable ChannelMessage}
    (reading : ((cluster.server side).session addr).reader = .waiting readMsg told op next) {uid : Int64}
    (own : Told told .uid uid) (gated : Told told .isAuthenticated true) :
    (handed (after.server side).log addr).getLast? = some readMsg ∧ Acts externals.lib (after.server side) addr uid := by
  have tracked := reachable_tracked (reached.next taken) side
  cases step_cases taken with
  | @exec _ _ _ frame ledger asked rest answer later found done =>
    rw [reading] at found
    cases found
    have runs : ((((cluster.setServer side ((cluster.server side).setReader addr
        (.resuming readMsg (⟨op, answer⟩ :: told) (next answer)))).server side).session addr).reader).task =
        some (readMsg, ⟨op, answer⟩ :: told, next answer) := by
      rw [setServer_self, setReader_self]
      rfl
    exact ⟨tracked.current addr _ _ _ runs, tracked.speaks runs (own.tail _) (gated.tail _)⟩
  | returned kind _ _ =>
    rcases kind with ⟨same, _⟩ | ⟨same, _⟩ <;> cases same

/-- A step that changes a table executes the statement of a user who is logged in. -/
theorem step_statement (reached : Transition.Reachable (Cluster.step externals) (.start stores name) cluster) {act : ClusterAct}
    (taken : cluster.step externals act = some after) : after.stores.db = cluster.stores.db ∨
      ∃ side addr outcome readMsg told fromUid toUid, actor cluster act = some (side, addr) ∧
        (handed (after.server side).log addr).getLast? = some readMsg ∧ Acts externals.lib (after.server side) addr fromUid ∧
        (SendsAdd externals.lib readMsg told fromUid toUid ∧
            after.stores.db = (cluster.stores.exec externals outcome (.addFriendApply fromUid toUid)).2.db ∨
          SendsAuth externals.lib readMsg told fromUid toUid ∧
            after.stores.db = (cluster.stores.exec externals outcome (.authFriendApply fromUid toUid)).2.db) := by
  rcases step_db taken with same | ⟨side, addr, outcome, readMsg, told, op, next, same, reading, statement, stored⟩
  · exact .inl same
  · subst same
    have runs : ((cluster.server side).session addr).reader.task = some (readMsg, told, .call op next) := by
      rw [reading]
      rfl
    have reaches := (reachable_traced reached side).suspended runs
    have asked := (reaches.guided (handleMessage_asked externals.lib readMsg)).1.1
    right
    cases op with
    | addFriendApply fromUid toUid =>
      have sends := asked_addFriendApply asked
      obtain ⟨last, acts⟩ := exec_speaks reached taken reading sends.own sends.authenticated
      exact ⟨side, addr, outcome, readMsg, told, fromUid, toUid, rfl, last, acts, .inl ⟨sends, stored⟩⟩
    | authFriendApply fromUid toUid =>
      have sends := asked_authFriendApply asked
      obtain ⟨last, acts⟩ := exec_speaks reached taken reading sends.own sends.authenticated
      exact ⟨side, addr, outcome, readMsg, told, fromUid, toUid, rfl, last, acts, .inr ⟨sends, stored⟩⟩
    | _ => cases statement

theorem step_friendApply (reached : Transition.Reachable (Cluster.step externals) (.start stores name) cluster) {act : ClusterAct}
    (taken : cluster.step externals act = some after) {row : FriendApplyRow} (member : row ∈ after.stores.db.friendApply)
    (new : ¬ Applied cluster.stores.db row.fromUid.toInt64 row.toUid.toInt64) : ∃ side addr readMsg told,
      actor cluster act = some (side, addr) ∧ (handed (after.server side).log addr).getLast? = some readMsg ∧
      SendsAdd externals.lib readMsg told row.fromUid.toInt64 row.toUid.toInt64 ∧
      Acts externals.lib (after.server side) addr row.fromUid.toInt64 := by
  have old : ∀ row ∈ cluster.stores.db.friendApply, Applied cluster.stores.db row.fromUid.toInt64 row.toUid.toInt64 :=
    fun row present => ⟨row, present, rfl, rfl⟩
  rcases step_statement reached taken with
    same | ⟨side, addr, outcome, readMsg, told, fromUid, toUid, acts, last, speaks, ⟨sends, stored⟩ | ⟨sends, stored⟩⟩
  · rw [same] at member
    exact absurd (old row member) new
  · rw [stored] at member
    rcases exec_addFriendApply externals outcome fromUid toUid cluster.stores with
      same | ⟨_, fromColumn, toColumn, first, second, inserted⟩
    · rw [same] at member
      exact absurd (old row member) new
    · rw [inserted] at member
      rcases UniqueTable.mem_insertIgnore.mp member with before | ⟨here, _⟩
      · exact absurd (old row before) new
      · subst here
        have sender := intColumn_eq_some.mp first
        have receiver := intColumn_eq_some.mp second
        subst sender receiver
        exact ⟨side, addr, readMsg, told, acts, last, sends, speaks⟩
  · rw [stored, exec_authFriendApply] at member
    by_cases refused : outcome = .error
    · rw [if_pos refused] at member
      exact absurd (old row member) new
    · rw [if_neg refused] at member
      exact absurd (acceptApply_applied member) new

theorem step_friend (reached : Transition.Reachable (Cluster.step externals) (.start stores name) cluster) {act : ClusterAct}
    (taken : cluster.step externals act = some after) {row : FriendRow} (member : row ∈ after.stores.db.friend)
    (new : row ∉ cluster.stores.db.friend) : ∃ side addr readMsg told fromuid touid,
      actor cluster act = some (side, addr) ∧ (handed (after.server side).log addr).getLast? = some readMsg ∧
      SendsAuth externals.lib readMsg told fromuid touid ∧ Acts externals.lib (after.server side) addr fromuid ∧
      (row.pair = (clampedColumn fromuid, clampedColumn touid) ∨ row.pair = (clampedColumn touid, clampedColumn fromuid)) := by
  rcases step_statement reached taken with
    same | ⟨side, addr, outcome, readMsg, told, fromUid, toUid, acts, last, speaks, ⟨sends, stored⟩ | ⟨sends, stored⟩⟩
  · rw [same] at member
    exact absurd member new
  · rw [stored] at member
    rcases exec_addFriendApply externals outcome fromUid toUid cluster.stores with same | ⟨_, _, _, _, _, inserted⟩
    · rw [same] at member
      exact absurd member new
    · rw [inserted] at member
      exact absurd member new
  · rw [stored, exec_authFriendApply] at member
    by_cases refused : outcome = .error
    · rw [if_pos refused] at member
      exact absurd member new
    · rw [if_neg refused] at member
      refine ⟨side, addr, readMsg, told, fromUid, toUid, acts, last, sends, speaks, ?_⟩
      rcases insertFriend_pair member with first | second
      · rcases insertFriend_pair first with before | pair
        · exact absurd before new
        · exact .inl pair
      · exact .inr second

end Steps

/-- Each application, each pair of friends and each notification is asked for on a session that is logged in as its sender. -/
theorem no_impersonation (externals : Externals) (stores : Stores) (name : Side → String) {cluster after : Cluster}
    (reached : Transition.Reachable (Cluster.step externals) (.start stores name) cluster) {act : ClusterAct}
    (taken : cluster.step externals act = some after) :
    (∀ row ∈ after.stores.db.friendApply, ¬ Applied cluster.stores.db row.fromUid.toInt64 row.toUid.toInt64 →
      ∃ side addr readMsg told, actor cluster act = some (side, addr) ∧
        (handed (after.server side).log addr).getLast? = some readMsg ∧
        SendsAdd externals.lib readMsg told row.fromUid.toInt64 row.toUid.toInt64 ∧
        Acts externals.lib (after.server side) addr row.fromUid.toInt64) ∧
    (∀ row ∈ after.stores.db.friend, row ∉ cluster.stores.db.friend →
      ∃ side addr readMsg told fromuid touid, actor cluster act = some (side, addr) ∧
        (handed (after.server side).log addr).getLast? = some readMsg ∧
        SendsAuth externals.lib readMsg told fromuid touid ∧ Acts externals.lib (after.server side) addr fromuid ∧
        (row.pair = (clampedColumn fromuid, clampedColumn touid) ∨ row.pair = (clampedColumn touid, clampedColumn fromuid))) ∧
    (∀ side target, accepted (after.server side).log target = accepted (cluster.server side).log target ∨
      ∃ message, accepted (after.server side).log target = accepted (cluster.server side).log target ++ [message] ∧
        (actor cluster act = some (side, target) ∧ (∀ uid notification, Notice uid notification → ¬ Shows message.msg notification) ∨
          (∃ origin addr readMsg told request uid, actor cluster act = some (origin, addr) ∧ (origin, addr) ≠ (side, target) ∧
            (handed (after.server origin).log addr).getLast? = some readMsg ∧
            AcceptedRequest.From externals.lib readMsg told request ∧ Acts externals.lib (after.server origin) addr request.sender ∧
            message = { msg := (request.arriving origin side).frame } ∧ Notice uid (request.arriving origin side) ∧
            (Narrow request.sender → uid = request.sender)) ∨
          ∃ addr request uid, act = .runTask side ∧ actor cluster act = none ∧
            HadAsked externals (.start stores name) cluster side.other addr request ∧
            message = { msg := (request.arriving side.other side).frame } ∧ Notice uid (request.arriving side.other side) ∧
            (Narrow request.sender → uid = request.sender))) ∧
    (∀ side addr, actor cluster act = some (side, addr) → installed (after.server side).log addr = none →
      after.stores.db = cluster.stores.db ∧ ∀ other target, (other, target) ≠ (side, addr) →
        accepted (after.server other).log target = accepted (cluster.server other).log target) := by
  refine ⟨fun row => step_friendApply reached taken, fun row => step_friend reached taken, ?_, ?_⟩
  · intro side target
    rcases step_accepted reached taken side target with full | ⟨message, sent, fresh⟩
    · exact .inl full
    · refine .inr ⟨message, sent, ?_⟩
      cases fresh with
      | reply acts logged =>
        have reaches := (reachable_traced (reached.next taken) side).replied logged
        obtain ⟨_, same, replied⟩ := reaches.guided (handleMessage_asked externals.lib _)
        cases same
        exact .inl ⟨acts, fun uid notification notice => replied_not_notice replied notice⟩
      | @push origin addr readMsg told request acts apart last known speaks built =>
        by_cases here : origin = side
        · have notice : Notice request.sender (request.arriving origin side) := by
            rw [AcceptedRequest.arriving, if_pos here]
            exact request.here_notice
          exact .inr (.inl ⟨origin, addr, readMsg, told, request, _, acts, apart, last, known, speaks, built, notice, fun _ => rfl⟩)
        · have notice : Notice request.sender.toInt32.toInt64 (request.arriving origin side) := by
            rw [AcceptedRequest.arriving, if_neg here]
            exact request.remote_notice
          exact .inr (.inl ⟨origin, addr, readMsg, told, request, _, acts, apart, last, known, speaks, built, notice, id⟩)
      | @late addr request acts nobody asked built =>
        have notice : Notice request.sender.toInt32.toInt64 (request.arriving side.other side) := by
          rw [AcceptedRequest.arriving, if_neg (other_ne side)]
          exact request.remote_notice
        exact .inr (.inr ⟨addr, request, _, acts, nobody, asked, built, notice, id⟩)
  · intro side addr acts stranger
    have unknown : ∀ uid, ¬ Acts externals.lib (after.server side) addr uid := by
      intro uid speaks
      cases stranger.symm.trans speaks.installed
    refine ⟨?_, ?_⟩
    · rcases step_statement reached taken with same | ⟨_, _, _, _, _, fromUid, _, someone, _, speaks, _⟩
      · exact same
      · cases Option.some.inj (acts.symm.trans someone)
        exact absurd speaks (unknown fromUid)
    · intro other target different
      rcases step_accepted reached taken other target with full | ⟨message, _, fresh⟩
      · exact full
      · cases fresh with
        | reply someone _ => exact absurd (Option.some.inj (someone.symm.trans acts)) different
        | push request someone _ _ _ speaks _ =>
          cases Option.some.inj (acts.symm.trans someone)
          exact absurd speaks (unknown request.sender)
        | late _ _ nobody _ _ => cases nobody.symm.trans acts

/-- The first user applies to the second one. -/
theorem no_impersonation_applicant : ∃ cluster after addr,
    Transition.Reachable (Cluster.step (Sample.externals Sample.friendBodies)) (.start Sample.stores Sample.name) cluster ∧
    cluster.step (Sample.externals Sample.friendBodies) (.exec .one 1 .ok) = some after ∧
    ∃ row ∈ after.stores.db.friendApply, Acts (Sample.externals Sample.friendBodies).lib (after.server .one) addr row.fromUid.toInt64 := by
  have possible : ((Transition.runs (Cluster.step (Sample.externals Sample.friendBodies)) (.start Sample.stores Sample.name)
      (Sample.firstAsks (.addFriendRequest, Sample.addBody 1 2) 0)).any fun cluster =>
        cluster.stores.db.friendApply.rows.isEmpty &&
          (cluster.step (Sample.externals Sample.friendBodies) (.exec .one 1 .ok)).any fun after =>
            decide (0 < after.stores.db.friendApply.rows.length)) = true := by decide +kernel
  obtain ⟨cluster, reached, found⟩ := (Option.any_eq_true _ _).mp possible
  obtain ⟨empty, stepped⟩ := Bool.and_eq_true_iff.mp found
  obtain ⟨after, taken, filled⟩ := (Option.any_eq_true _ _).mp stepped
  obtain ⟨row, member⟩ := List.exists_mem_of_length_pos (of_decide_eq_true filled)
  have reachable : Transition.Reachable (Cluster.step (Sample.externals Sample.friendBodies)) (.start Sample.stores Sample.name)
      cluster := ⟨_, Transition.run_iff_runs.mpr reached⟩
  have new : ¬ Applied cluster.stores.db row.fromUid.toInt64 row.toUid.toInt64 := by
    rintro ⟨old, present, _⟩
    rw [← UniqueTable.mem_rows, List.isEmpty_iff.mp empty] at present
    cases present
  obtain ⟨side, addr, _, _, acts, _, _, speaks⟩ := (no_impersonation _ _ _ reachable taken).1 row member new
  cases acts
  exact ⟨cluster, after, 1, reachable, taken, row, member, speaks⟩

end ChatProof
