import ChatProject.Cluster.Refusal

/-! The columns of the friend tables are narrower than the fields of a request. -/

namespace ChatProof

open ChatModel

/-! ## The values of a column -/

theorem narrow_of_column {n : Int64} {column : Int32} (same : column.toInt64 = n) : Narrow n := by
  subst same
  simp [Narrow]

theorem intColumn_wide {n : Int64} (wide : ¬ Narrow n) : intColumn n = none := if_neg wide

theorem clampedColumn_narrow {n : Int64} : (clampedColumn n).toInt64 = n ↔ Narrow n := by
  constructor
  · exact narrow_of_column
  · intro narrow
    have stored := clampedColumn_toInt64 n.toInt32
    rw [narrow] at stored
    rw [stored, narrow]

/-! ## The rows that a statement adds -/

section Rows

variable {before after db : Tables} {fromUid toUid : Int64}

/-- Every added row consists of these two users. -/
structure NamesRequested (before after : Tables) (fromUid toUid : Int64) : Prop where
  applies : ∀ row ∈ after.friendApply, before.friendApply.holds row.pair ∨ row.fromUid.toInt64 = fromUid ∧ row.toUid.toInt64 = toUid
  friends : ∀ row ∈ after.friend, before.friend.holds row.pair ∨ row.selfId.toInt64 = fromUid ∧ row.friendId.toInt64 = toUid ∨
    row.selfId.toInt64 = toUid ∧ row.friendId.toInt64 = fromUid

structure AddsNone (before after : Tables) : Prop where
  applies : ∀ row ∈ after.friendApply, before.friendApply.holds row.pair
  friends : ∀ row ∈ after.friend, before.friend.holds row.pair

theorem AddsNone.refl (db : Tables) : AddsNone db db :=
  ⟨fun row member => ⟨row, member, rfl⟩, fun row member => ⟨row, member, rfl⟩⟩

theorem AddsNone.names (none : AddsNone before after) : NamesRequested before after fromUid toUid :=
  ⟨fun row member => .inl (none.applies row member), fun row member => .inl (none.friends row member)⟩

/-- A plain `INSERT` stores the numbers themselves. -/
theorem insertApply_names {fromColumn toColumn : Int32} (sender : intColumn fromUid = some fromColumn)
    (receiver : intColumn toUid = some toColumn) : NamesRequested db
      { db with friendApply := db.friendApply.insertIgnore { fromUid := fromColumn, toUid := toColumn } } fromUid toUid := by
  refine ⟨?_, fun row member => .inl ⟨row, member, rfl⟩⟩
  intro row member
  rcases UniqueTable.mem_insertIgnore.mp member with old | ⟨new, _⟩
  · exact .inl ⟨row, old, rfl⟩
  · subst new
    exact .inr ⟨intColumn_eq_some.mp sender, intColumn_eq_some.mp receiver⟩

/-- Both rows that an acceptance would insert are in the table. -/
def BothHeld (db : Tables) (fromUid toUid : Int64) : Prop :=
  db.friend.holds (clampedColumn fromUid, clampedColumn toUid) ∧ db.friend.holds (clampedColumn toUid, clampedColumn fromUid)

theorem authFriendApply_applies (db : Tables) (fromUid toUid : Int64) :
    ∀ row ∈ (db.authFriendApply fromUid toUid).friendApply, db.friendApply.holds row.pair := by
  intro row member
  change row ∈ db.acceptApply fromUid toUid at member
  have present : (db.acceptApply fromUid toUid).holds row.pair := ⟨row, member, rfl⟩
  exact UniqueTable.holds_updateWhere.mp present

theorem authFriendApply_friends {row : FriendRow} (member : row ∈ (db.authFriendApply fromUid toUid).friend) : row ∈ db.friend ∨
    row = { selfId := clampedColumn fromUid, friendId := clampedColumn toUid } ∨
    row = { selfId := clampedColumn toUid, friendId := clampedColumn fromUid } := by
  rcases UniqueTable.mem_insertIgnore.mp member with first | ⟨new, _⟩
  · rcases UniqueTable.mem_insertIgnore.mp first with old | ⟨new, _⟩
    · exact .inl old
    · exact .inr (.inl new)
  · exact .inr (.inr new)

theorem authFriendApply_both (db : Tables) (fromUid toUid : Int64) : BothHeld (db.authFriendApply fromUid toUid) fromUid toUid := by
  have first : (Tables.insertFriend fromUid toUid db.friend).holds (clampedColumn fromUid, clampedColumn toUid) :=
    UniqueTable.holds_insertIgnore.mpr (.inr rfl)
  exact ⟨UniqueTable.holds_insertIgnore.mpr (.inl first), UniqueTable.holds_insertIgnore.mpr (.inr rfl)⟩

theorem authFriendApply_addsNone : AddsNone db (db.authFriendApply fromUid toUid) ↔ BothHeld db fromUid toUid := by
  constructor
  · intro none
    obtain ⟨⟨row, member, forth⟩, ⟨other, reversed, back⟩⟩ := authFriendApply_both db fromUid toUid
    have held := none.friends row member
    have swapped := none.friends other reversed
    rw [show row.pair = _ from forth] at held
    rw [show other.pair = _ from back] at swapped
    exact ⟨held, swapped⟩
  · intro held
    refine ⟨authFriendApply_applies db fromUid toUid, ?_⟩
    intro row member
    rcases authFriendApply_friends member with old | rfl | rfl
    · exact ⟨row, old, rfl⟩
    · exact held.1
    · exact held.2

/-- An `INSERT IGNORE` stores other numbers when the columns are too narrow. -/
theorem authFriendApply_names : NamesRequested db (db.authFriendApply fromUid toUid) fromUid toUid ↔
    Narrow fromUid ∧ Narrow toUid ∨ BothHeld db fromUid toUid := by
  constructor
  · intro names
    by_cases held : BothHeld db fromUid toUid
    · exact .inr held
    · refine .inl ?_
      by_contra wide
      apply held
      have old : ∀ row ∈ (db.authFriendApply fromUid toUid).friend, db.friend.holds row.pair := by
        intro row member
        rcases names.friends row member with old | ⟨forth, back⟩ | ⟨forth, back⟩
        · exact old
        · exact absurd ⟨narrow_of_column forth, narrow_of_column back⟩ wide
        · exact absurd ⟨narrow_of_column back, narrow_of_column forth⟩ wide
      exact authFriendApply_addsNone.mp ⟨authFriendApply_applies db fromUid toUid, old⟩
  · rintro (⟨sender, receiver⟩ | held)
    · refine ⟨fun row member => .inl (authFriendApply_applies db fromUid toUid row member), ?_⟩
      have first := clampedColumn_narrow.mpr sender
      have second := clampedColumn_narrow.mpr receiver
      intro row member
      rcases authFriendApply_friends member with old | rfl | rfl
      · exact .inl ⟨row, old, rfl⟩
      · exact .inr (.inl ⟨first, second⟩)
      · exact .inr (.inr ⟨second, first⟩)
    · exact (authFriendApply_addsNone.mpr held).names

end Rows

/-! ## The frame -/

section Frame

variable {externals : Externals} {outcome : Op → Outcome} {addr : Addr} {scene last : Scene} {msg : MsgNode}

/-- The two users of a request for a friend. -/
inductive RequestsFriend (lib : JsonLib) (msg : MsgNode) : Int64 → Int64 → Prop
  | addFriend (request : AddFriendRequest) : MessageId.enumCast msg.id = some .addFriendRequest →
      parseJson lib AddFriendRequest.fromJson msg.bodyText = some request → RequestsFriend lib msg request.uid request.touid
  | authFriend (request : AuthFriendRequest) : MessageId.enumCast msg.id = some .authFriendRequest →
      parseJson lib AuthFriendRequest.fromJson msg.bodyText = some request → RequestsFriend lib msg request.fromuid request.touid

/-- Every row that the frame adds consists of the two users of its request, and one whose receiver does not fit the column is
    answered with an error and adds none. -/
def AddsRequestedRows (externals : Externals) (outcome : Op → Outcome) (addr : Addr) (scene : Scene) (msg : MsgNode) : Prop :=
  ∀ fromUid toUid, RequestsFriend externals.lib msg fromUid toUid → ∃ reply after,
    servePeered externals outcome addr msg scene = (.ok reply, after) ∧
    NamesRequested scene.stores.db after.stores.db fromUid toUid ∧
    (¬ Narrow toUid → CarriesError reply ∧ AddsNone scene.stores.db after.stores.db)

/-- An acceptance that is carried out although a column is too narrow, and that either adds a row or, the receiver being out of
    range, succeeds. -/
structure Clamps (externals : Externals) (outcome : Op → Outcome) (addr : Addr) (scene : Scene) (msg : MsgNode)
    (request : AuthFriendRequest) : Prop where
  kind : MessageId.enumCast msg.id = some .authFriendRequest
  authenticated : (scene.server.session addr).isAuthenticated = true
  parsed : parseJson externals.lib AuthFriendRequest.fromJson msg.bodyText = some request
  own : (scene.server.session addr).uid = request.fromuid
  apart : request.fromuid ≠ request.touid
  executed : outcome (.authFriendApply request.fromuid request.touid) ≠ .error
  wide : ¬ (Narrow request.fromuid ∧ Narrow request.touid)
  stores : ¬ BothHeld scene.stores.db request.fromuid request.touid ∨ ¬ Narrow request.touid ∧
    outcome (.authFriendApply request.fromuid request.touid) = .ok ∧ ¬ (authPlan outcome scene.stores request).Fails outcome scene

/-- The property, of a handler that has run. -/
def RowsAsRequested (db : Tables) (fromUid toUid : Int64) (result : Except Failure ChannelMessage) (last : Scene) : Prop :=
  NamesRequested db last.stores.db fromUid toUid ∧ (¬ Narrow toUid → Failed result ∧ AddsNone db last.stores.db)

theorem rowsAsRequested_refused {db : Tables} {fromUid toUid : Int64} {result : Except Failure ChannelMessage}
    (failed : Failed result) (same : last.stores.db = db) : RowsAsRequested db fromUid toUid result last := by
  have none : AddsNone db last.stores.db := by
    rw [same]
    exact AddsNone.refl db
  exact ⟨none.names, fun _ => ⟨failed, none⟩⟩

theorem served_rows {messageId : MessageId} {handler : JsonLib → MsgNode → Awaitable ChannelMessage}
    (kind : MessageId.enumCast msg.id = some messageId) (found : handlers messageId = some handler)
    (authenticated : (scene.server.session addr).isAuthenticated = true) {result : Except Failure ChannelMessage}
    (ran : (handler externals.lib msg).run (execPeered externals outcome addr) scene = (result, last)) (fromUid toUid : Int64) :
    (∃ reply after, servePeered externals outcome addr msg scene = (.ok reply, after) ∧
      NamesRequested scene.stores.db after.stores.db fromUid toUid ∧
      (¬ Narrow toUid → CarriesError reply ∧ AddsNone scene.stores.db after.stores.db)) ↔
      RowsAsRequested scene.stores.db fromUid toUid result last := by
  obtain ⟨reply, replied, carries⟩ := recovered_failed messageId result last
  have served : servePeered externals outcome addr msg scene = (.ok reply, last) := by
    rw [servePeered_handled externals outcome addr scene kind found authenticated, ran, replied]
  rw [RowsAsRequested, ← carries]
  constructor
  · rintro ⟨other, after, same, rows⟩
    rw [served] at same
    cases same
    exact rows
  · intro rows
    exact ⟨reply, last, served, rows⟩

theorem addFriendApply_wide (externals : Externals) (outcome : Outcome) (stores : Stores) (fromUid : Int64) {toUid : Int64}
    (wide : ¬ Narrow toUid) : stores.exec externals outcome (.addFriendApply fromUid toUid) = (.error .mysql, stores) := by
  have none := intColumn_wide wide
  change stores.addFriendApply outcome fromUid toUid = _
  unfold Stores.addFriendApply Tables.addFriendApply
  rw [none]
  cases intColumn fromUid <;> rfl

/-- An application stores the two users or is refused by MySQL. -/
theorem addFriend_rows {request : AddFriendRequest}
    (parsed : parseJson externals.lib AddFriendRequest.fromJson msg.bodyText = some request) {result : Except Failure ChannelMessage}
    (ran : (addFriend externals.lib msg).run (execPeered externals outcome addr) scene = (result, last)) :
    RowsAsRequested scene.stores.db request.uid request.touid result last := by
  by_cases accepted : (scene.server.session addr).uid = request.uid ∧ request.uid ≠ request.touid
  · obtain ⟨own, apart⟩ := accepted
    have ends := addFriend_ends externals outcome addr scene parsed own apart
    rw [ran] at ends
    have stored : last.stores.db = (scene.stores.exec externals (outcome (.addFriendApply request.uid request.touid))
        (.addFriendApply request.uid request.touid)).2.db := congrArg Stores.db ends.stores
    constructor
    · rw [stored]
      rcases exec_addFriendApply externals (outcome (.addFriendApply request.uid request.touid)) request.uid request.touid scene.stores
        with same | ⟨_, fromColumn, toColumn, sender, receiver, same⟩
      · rw [same]
        exact (AddsNone.refl _).names
      · rw [same]
        exact insertApply_names sender receiver
    · intro wide
      have refused := addFriendApply_wide externals (outcome (.addFriendApply request.uid request.touid)) scene.stores request.uid wide
      rw [refused] at stored ends
      rw [stored]
      exact ⟨ends.failed.mpr (.inl nofun), AddsNone.refl _⟩
  · have refused : ∀ other, parseJson externals.lib AddFriendRequest.fromJson msg.bodyText = some other →
        (scene.server.session addr).uid = other.uid → other.uid = other.touid := by
      intro other named own
      cases parsed.symm.trans named
      by_contra apart
      exact accepted ⟨own, apart⟩
    obtain ⟨error, fails, ended⟩ := addFriend_refused externals outcome addr scene refused
    rw [ran] at ended
    cases ended
    exact rowsAsRequested_refused (errorResponse_carriesError _ fails) rfl

/-- When an acceptance stores the two users. -/
theorem authFriend_rows {request : AuthFriendRequest}
    (parsed : parseJson externals.lib AuthFriendRequest.fromJson msg.bodyText = some request)
    (own : (scene.server.session addr).uid = request.fromuid) (apart : request.fromuid ≠ request.touid)
    {result : Except Failure ChannelMessage}
    (ran : (authFriend externals.lib msg).run (execPeered externals outcome addr) scene = (result, last)) :
    RowsAsRequested scene.stores.db request.fromuid request.touid result last ↔
      (outcome (.authFriendApply request.fromuid request.touid) ≠ .error → ¬ (Narrow request.fromuid ∧ Narrow request.touid) →
        BothHeld scene.stores.db request.fromuid request.touid ∧ (¬ Narrow request.touid →
          outcome (.authFriendApply request.fromuid request.touid) = .ok → (authPlan outcome scene.stores request).Fails outcome scene)) := by
  have ends := authFriend_ends externals outcome addr scene parsed own apart
  rw [ran] at ends
  have stored : last.stores.db = (scene.stores.exec externals (outcome (.authFriendApply request.fromuid request.touid))
      (.authFriendApply request.fromuid request.touid)).2.db := congrArg Stores.db ends.stores
  rw [exec_authFriendApply] at stored
  have failed := ends.failed
  rw [RowsAsRequested, stored, failed]
  cases happened : outcome (.authFriendApply request.fromuid request.touid) with
  | error =>
    rw [if_pos rfl]
    exact ⟨fun _ done => absurd rfl done, fun _ => ⟨(AddsNone.refl _).names, fun _ => ⟨.inl nofun, AddsNone.refl _⟩⟩⟩
  | lost =>
    have throws : ((scene.stores.exec externals .lost (.authFriendApply request.fromuid request.touid)).1 : Except Failure Unit) ≠
        .ok () := nofun
    rw [if_neg nofun, authFriendApply_names, authFriendApply_addsNone]
    constructor
    · rintro ⟨names, _⟩ _ wide
      exact ⟨names.resolve_left wide, nofun⟩
    · intro rows
      by_cases narrow : Narrow request.fromuid ∧ Narrow request.touid
      · exact ⟨.inl narrow, fun wide => absurd narrow.2 wide⟩
      · have held := (rows nofun narrow).1
        exact ⟨.inr held, fun _ => ⟨.inl throws, held⟩⟩
  | ok =>
    have answered : ((scene.stores.exec externals .ok (.authFriendApply request.fromuid request.touid)).1 : Except Failure Unit) =
        .ok () := rfl
    rw [if_neg nofun, authFriendApply_names, authFriendApply_addsNone]
    constructor
    · rintro ⟨names, quiet⟩ _ wide
      refine ⟨names.resolve_left wide, ?_⟩
      intro receiver _
      exact (quiet receiver).1.resolve_left (fun throws => throws answered)
    · intro rows
      by_cases narrow : Narrow request.fromuid ∧ Narrow request.touid
      · exact ⟨.inl narrow, fun wide => absurd narrow.2 wide⟩
      · obtain ⟨held, fails⟩ := rows nofun narrow
        exact ⟨.inr held, fun wide => ⟨.inr (fails wide rfl), held⟩⟩

theorem authFriend_requested {request : AuthFriendRequest} (kind : MessageId.enumCast msg.id = some .authFriendRequest)
    (authenticated : (scene.server.session addr).isAuthenticated = true)
    (parsed : parseJson externals.lib AuthFriendRequest.fromJson msg.bodyText = some request) {result : Except Failure ChannelMessage}
    (ran : (authFriend externals.lib msg).run (execPeered externals outcome addr) scene = (result, last)) :
    RowsAsRequested scene.stores.db request.fromuid request.touid result last ↔ ¬ Clamps externals outcome addr scene msg request := by
  by_cases accepted : (scene.server.session addr).uid = request.fromuid ∧ request.fromuid ≠ request.touid
  · obtain ⟨own, apart⟩ := accepted
    rw [authFriend_rows parsed own apart ran]
    constructor
    · intro rows clamps
      obtain ⟨held, fails⟩ := rows clamps.executed clamps.wide
      rcases clamps.stores with missing | ⟨wide, done, succeeds⟩
      · exact missing held
      · exact succeeds (fails wide done)
    · intro clean executed wide
      have held : BothHeld scene.stores.db request.fromuid request.touid := by
        by_contra missing
        exact clean ⟨kind, authenticated, parsed, own, apart, executed, wide, .inl missing⟩
      refine ⟨held, ?_⟩
      intro receiver done
      by_contra succeeds
      exact clean ⟨kind, authenticated, parsed, own, apart, executed, wide, .inr ⟨receiver, done, succeeds⟩⟩
  · have refused : ∀ other, parseJson externals.lib AuthFriendRequest.fromJson msg.bodyText = some other →
        (scene.server.session addr).uid = other.fromuid → other.fromuid = other.touid := by
      intro other named own
      cases parsed.symm.trans named
      by_contra apart
      exact accepted ⟨own, apart⟩
    obtain ⟨error, fails, ended⟩ := authFriend_refused externals outcome addr scene refused
    rw [ran] at ended
    cases ended
    have rows : RowsAsRequested scene.stores.db request.fromuid request.touid
        (.ok (errorResponse MessageId.authFriendResponse.wire error)) scene :=
      rowsAsRequested_refused (errorResponse_carriesError _ fails) rfl
    exact ⟨fun _ clamps => accepted ⟨clamps.own, clamps.apart⟩, fun _ => rows⟩

theorem stranger_rows {fromUid toUid : Int64} (requests : RequestsFriend externals.lib msg fromUid toUid)
    (stranger : (scene.server.session addr).isAuthenticated = false) : ∃ reply after,
      servePeered externals outcome addr msg scene = (.ok reply, after) ∧
      NamesRequested scene.stores.db after.stores.db fromUid toUid ∧
      (¬ Narrow toUid → CarriesError reply ∧ AddsNone scene.stores.db after.stores.db) := by
  have served : servePeered externals outcome addr msg scene = (.ok (errorResponseAndClose msg.id .notAuthenticated), scene) := by
    cases requests with
    | addFriend request kind _ => exact servePeered_stranger externals outcome addr scene kind nofun stranger
    | authFriend request kind _ => exact servePeered_stranger externals outcome addr scene kind nofun stranger
  have unchanged := AddsNone.refl scene.stores.db
  exact ⟨_, scene, served, unchanged.names, fun _ => ⟨errorResponseAndClose_carriesError _ nofun, unchanged⟩⟩

theorem friend_rows_requested (externals : Externals) (outcome : Op → Outcome) (addr : Addr) (scene : Scene) (msg : MsgNode) :
    AddsRequestedRows externals outcome addr scene msg ↔ ∀ request, ¬ Clamps externals outcome addr scene msg request := by
  constructor
  · intro rows request clamps
    obtain ⟨result, last, ran⟩ : ∃ result last,
      (authFriend externals.lib msg).run (execPeered externals outcome addr) scene = (result, last) := ⟨_, _, rfl⟩
    have served := rows _ _ (.authFriend request clamps.kind clamps.parsed)
    rw [served_rows clamps.kind rfl clamps.authenticated ran] at served
    exact (authFriend_requested clamps.kind clamps.authenticated clamps.parsed ran).mp served clamps
  · intro clean fromUid toUid requests
    by_cases authenticated : (scene.server.session addr).isAuthenticated = true
    · cases requests with
      | addFriend request kind parsed =>
        obtain ⟨result, last, ran⟩ : ∃ result last,
          (addFriend externals.lib msg).run (execPeered externals outcome addr) scene = (result, last) := ⟨_, _, rfl⟩
        rw [served_rows kind rfl authenticated ran]
        exact addFriend_rows parsed ran
      | authFriend request kind parsed =>
        obtain ⟨result, last, ran⟩ : ∃ result last,
          (authFriend externals.lib msg).run (execPeered externals outcome addr) scene = (result, last) := ⟨_, _, rfl⟩
        rw [served_rows kind rfl authenticated ran]
        exact (authFriend_requested kind authenticated parsed ran).mpr (clean request)
    · exact stranger_rows requests (Bool.eq_false_iff.mpr authenticated)

end Frame

/-! ## An acceptance of somebody beyond the columns -/

namespace Sample

/-- The least uid that `INT` cannot hold. -/
def wideUid : Int := 2147483648

def wideBodies : List Body := [loginBody 1 "token1", authBody 1 wideUid]

/-- The first user has logged in, and this frame has been read. -/
def acceptsWide : List ClusterAct :=
  connect .one 1 [(.loginRequest, loginBody 1 "token1"), (.authFriendRequest, authBody 1 wideUid)] ++ frame .one 1 8 ++
    [.own .one (.readDone 1), .own .one (.resumeReader 1), .own .one (.readDone 1)]

/-- The acceptance is about to be handled, and nobody has a friend. -/
def acceptanceRead (cluster : Cluster) : Bool :=
  match ((cluster.server .one).session 1).reader with
  | .bodyRead msg => MessageId.enumCast msg.id = some .authFriendRequest ∧ ((cluster.server .one).session 1).isAuthenticated = true ∧
      parseJson (externals wideBodies).lib AuthFriendRequest.fromJson msg.bodyText = some ⟨1, 2147483648⟩ ∧
      ((cluster.server .one).session 1).uid = 1 ∧ cluster.stores.db.friend.rows = []
  | _ => false

end Sample

theorem sample_acceptanceRead : ((Transition.runs (Cluster.step (Sample.externals Sample.wideBodies))
    (.start Sample.stores Sample.name) Sample.acceptsWide).any Sample.acceptanceRead) = true := by decide +kernel

theorem acceptance_adds_other_rows : ¬ ∀ (externals : Externals) (outcome : Op → Outcome) (stores : Stores) (name : Side → String)
    (acts : List ClusterAct) (cluster : Cluster) (side : Side) (addr : Addr) (msg : MsgNode),
    Transition.Run (Cluster.step externals) (.start stores name) acts cluster →
    ((cluster.server side).session addr).reader = .bodyRead msg → AddsRequestedRows externals outcome addr (sceneOf cluster side) msg := by
  intro claim
  obtain ⟨cluster, reached, found⟩ := (Option.any_eq_true _ _).mp sample_acceptanceRead
  have run := Transition.run_iff_runs.mpr reached
  unfold Sample.acceptanceRead at found
  split at found
  · rename_i msg reading
    obtain ⟨kind, authenticated, parsed, own, empty⟩ := of_decide_eq_true found
    have rows := claim (Sample.externals Sample.wideBodies) (fun _ => .ok) _ _ _ cluster .one 1 msg run reading
    have missing : ¬ BothHeld cluster.stores.db 1 2147483648 := by
      rintro ⟨⟨row, member, _⟩, _⟩
      rw [← UniqueTable.mem_rows, empty] at member
      cases member
    have clamps : Clamps (Sample.externals Sample.wideBodies) (fun _ => .ok) 1 (sceneOf cluster .one) msg ⟨1, 2147483648⟩ :=
      ⟨kind, authenticated, parsed, own, by decide, nofun, by decide, .inl missing⟩
    obtain ⟨result, last, ran⟩ : ∃ result last, (authFriend (Sample.externals Sample.wideBodies).lib msg).run
      (execPeered (Sample.externals Sample.wideBodies) (fun _ => .ok) 1) (sceneOf cluster .one) = (result, last) := ⟨_, _, rfl⟩
    have served := rows _ _ (.authFriend ⟨1, 2147483648⟩ kind parsed)
    rw [served_rows kind rfl authenticated ran] at served
    exact (authFriend_requested kind authenticated parsed ran).mp served clamps
  · cases found

end ChatProof
