import ChatProject.Chat.Notification
import ChatProject.Cluster.Friends

/-! The tables of friends and of applications stay well formed, whoever asks for what. -/

namespace ChatProof

open ChatModel

/-- Friends in both directions, no row twice, and nobody in a row with himself. -/
structure WellFormed (db : Tables) : Prop where
  symmetric : db.friend.Mutual
  friendsOnce : (db.friend.rows.map FriendRow.pair).Nodup
  friendsApart : ∀ row ∈ db.friend, row.selfId ≠ row.friendId
  appliesOnce : (db.friendApply.rows.map FriendApplyRow.pair).Nodup
  appliesApart : ∀ row ∈ db.friendApply, row.fromUid ≠ row.toUid

/-- No row is lost, and an application changes at most by being accepted. -/
structure Grows (before after : Tables) : Prop where
  friend : ∀ row ∈ before.friend, row ∈ after.friend
  friendApply : ∀ row ∈ before.friendApply, ∃ new ∈ after.friendApply,
    new.pair = row.pair ∧ (new.status = row.status ∨ new.status = 1)

namespace Grows

variable {before middle after : Tables}

theorem refl (db : Tables) : Grows db db := ⟨fun _ member => member, fun row member => ⟨row, member, rfl, .inl rfl⟩⟩

theorem trans (first : Grows before middle) (second : Grows middle after) : Grows before after := by
  refine ⟨fun row member => second.friend row (first.friend row member), ?_⟩
  intro row member
  obtain ⟨new, present, pair, status⟩ := first.friendApply row member
  obtain ⟨newer, there, same, last⟩ := second.friendApply new present
  refine ⟨newer, there, same.trans pair, ?_⟩
  rcases last with kept | accepted
  · rw [kept]
    exact status
  · exact .inr accepted

end Grows

/-! ## The statements -/

section Statements

variable {db : Tables} {fromUid toUid : Int64}

theorem insertApply_wellFormed (wellFormed : WellFormed db) {row : FriendApplyRow} (apart : row.fromUid ≠ row.toUid) :
    WellFormed { db with friendApply := db.friendApply.insertIgnore row } := by
  refine ⟨wellFormed.symmetric, wellFormed.friendsOnce, wellFormed.friendsApart, UniqueTable.unique _, ?_⟩
  intro other member
  rcases UniqueTable.mem_insertIgnore.mp member with old | ⟨new, _⟩
  · exact wellFormed.appliesApart other old
  · rw [new]
    exact apart

theorem insertApply_grows (db : Tables) (row : FriendApplyRow) :
    Grows db { db with friendApply := db.friendApply.insertIgnore row } :=
  ⟨fun _ member => member, fun other member => ⟨other, UniqueTable.mem_insertIgnore.mpr (.inl member), rfl, .inl rfl⟩⟩

theorem authFriendApply_grows (db : Tables) (fromUid toUid : Int64) : Grows db (db.authFriendApply fromUid toUid) := by
  refine ⟨?_, ?_⟩
  · intro row member
    have first : row ∈ Tables.insertFriend fromUid toUid db.friend := UniqueTable.mem_insertIgnore.mpr (.inl member)
    exact UniqueTable.mem_insertIgnore.mpr (.inl first)
  · intro row member
    let accepted : FriendApplyRow :=
      if decide (row.fromUid.toInt64 = fromUid ∧ row.toUid.toInt64 = toUid) = true then { row with status := 1 } else row
    have present : accepted ∈ db.acceptApply fromUid toUid := UniqueTable.mem_updateWhere.mpr ⟨row, member, rfl⟩
    refine ⟨accepted, present, ?_⟩
    dsimp only [accepted]
    split
    · exact ⟨rfl, .inr rfl⟩
    · exact ⟨rfl, .inl rfl⟩

theorem clampedColumn_ne (apart : fromUid ≠ toUid) (from32 : Narrow fromUid) (to32 : Narrow toUid) :
    clampedColumn fromUid ≠ clampedColumn toUid := by
  intro same
  rw [← from32, ← to32, clampedColumn_toInt64, clampedColumn_toInt64] at same
  rw [← from32, ← to32, same] at apart
  exact apart rfl

theorem authFriendApply_wellFormed (wellFormed : WellFormed db) (apart : clampedColumn fromUid ≠ clampedColumn toUid) :
    WellFormed (db.authFriendApply fromUid toUid) := by
  refine ⟨wellFormed.symmetric.insertBoth rfl, UniqueTable.unique _, ?_, UniqueTable.unique _, ?_⟩
  · intro row member
    rcases UniqueTable.mem_insertIgnore.mp member with first | ⟨new, _⟩
    · rcases UniqueTable.mem_insertIgnore.mp first with old | ⟨new, _⟩
      · exact wellFormed.friendsApart row old
      · rw [new]
        exact apart
    · rw [new]
      exact apart.symm
  · intro row member
    change row ∈ db.acceptApply fromUid toUid at member
    obtain ⟨old, present, same⟩ := UniqueTable.mem_updateWhere.mp member
    have kept := wellFormed.appliesApart old present
    rw [same]
    split <;> exact kept

theorem authFriendApply_idem (db : Tables) (fromUid toUid : Int64) :
    (db.authFriendApply fromUid toUid).authFriendApply fromUid toUid = db.authFriendApply fromUid toUid := by
  have applies : (db.authFriendApply fromUid toUid).acceptApply fromUid toUid = db.acceptApply fromUid toUid := by
    apply UniqueTable.updateWhere_idem
    intro row
    rfl
  have friends : Tables.insertFriend toUid fromUid (Tables.insertFriend fromUid toUid
      (Tables.insertFriend toUid fromUid (Tables.insertFriend fromUid toUid db.friend))) =
      Tables.insertFriend toUid fromUid (Tables.insertFriend fromUid toUid db.friend) := UniqueTable.insertBoth_idem _ _ _
  change { db with friendApply := _, friend := _ } = ({ db with friendApply := _, friend := _ } : Tables)
  rw [applies]
  congr 1

end Statements

/-! ## Whole runs -/

/-- A statement is never about one user alone. -/
theorem asked_apart {lib : JsonLib} {readMsg : MsgNode} {told : Ledger} {op : Op} (asked : Asked lib readMsg told op)
    (statement : isStatement op = true) : ∃ fromUid toUid, fromUid ≠ toUid ∧
      (op = .addFriendApply fromUid toUid ∨ op = .authFriendApply fromUid toUid) := by
  cases asked with
  | gate _ => cases statement
  | login _ asks => cases asks <;> cases statement
  | search _ _ _ asks => cases asks <;> cases statement
  | addFriend _ _ questions =>
    cases questions with
    | prepare asks =>
      cases asks with
      | statement accepted same =>
        cases same
        exact ⟨_, _, accepted.other, .inl rfl⟩
      | _ => cases statement
    | _ => cases statement
  | authFriend _ _ questions =>
    cases questions with
    | prepare asks =>
      cases asks with
      | statement accepted same =>
        cases same
        exact ⟨_, _, accepted.other, .inr rfl⟩
      | _ => cases statement
    | _ => cases statement
  | textChat _ _ questions =>
    cases questions with
    | prepare asks =>
      cases asks with
      | statement _ same => cases same
      | _ => cases statement
    | _ => cases statement

/-- The uids of each acceptance that is executed fit into an `INT` column. -/
def InRange (cluster : Cluster) : ClusterAct → Prop
  | .exec side addr _ =>
    match ((cluster.server side).session addr).reader with
    | .waiting _ _ (.authFriendApply fromUid toUid) _ => Narrow fromUid ∧ Narrow toUid
    | _ => True
  | _ => True

instance (cluster : Cluster) : (act : ClusterAct) → Decidable (InRange cluster act)
  | .exec side addr _ =>
    decideAcceptance (fun fromUid toUid => Narrow fromUid ∧ Narrow toUid) ((cluster.server side).session addr).reader
  | .own _ _ | .arrive _ | .runTask _ | .finish _ | .fail _ | .tick _ => .isTrue trivial

section Steps

variable {externals : Externals} {stores : Stores} {name : Side → String} {cluster after : Cluster}

theorem exec_grows (externals : Externals) (outcome : Outcome) {op : Op} (statement : isStatement op = true) (stores : Stores) :
    Grows stores.db (stores.exec externals outcome op).2.db := by
  cases op with
  | addFriendApply fromUid toUid =>
    rcases exec_addFriendApply externals outcome fromUid toUid stores with same | ⟨_, _, _, _, _, same⟩
    · rw [same]
      exact .refl _
    · rw [same]
      exact insertApply_grows _ _
  | authFriendApply fromUid toUid =>
    rw [exec_authFriendApply]
    split
    · exact .refl _
    · exact authFriendApply_grows _ _ _
  | _ => cases statement

theorem step_grows {act : ClusterAct} (taken : cluster.step externals act = some after) :
    Grows cluster.stores.db after.stores.db := by
  rcases step_db taken with same | ⟨side, addr, outcome, readMsg, told, op, next, _, _, statement, stored⟩
  · rw [same]
    exact .refl _
  · rw [stored]
    exact exec_grows externals outcome statement cluster.stores

theorem step_wellFormed (traced : ∀ side, Traced externals.lib (cluster.server side)) (wellFormed : WellFormed cluster.stores.db)
    {act : ClusterAct} (inRange : InRange cluster act) (taken : cluster.step externals act = some after) :
    WellFormed after.stores.db := by
  rcases step_db taken with same | ⟨side, addr, outcome, readMsg, told, op, next, same, reading, statement, stored⟩
  · rw [same]
    exact wellFormed
  · subst same
    have reaches : Reaches externals.lib readMsg told (.call op next) := by
      apply (traced side).suspended
      rw [reading]
      rfl
    have asked := (reaches.guided (handleMessage_asked externals.lib readMsg)).1.1
    obtain ⟨fromUid, toUid, apart, same | same⟩ := asked_apart asked statement
    · subst same
      rw [stored]
      rcases exec_addFriendApply externals outcome fromUid toUid cluster.stores with
        same | ⟨_, fromColumn, toColumn, first, second, same⟩
      · rw [same]
        exact wellFormed
      · rw [same]
        apply insertApply_wellFormed wellFormed
        intro equal
        rw [← intColumn_eq_some.mp first, ← intColumn_eq_some.mp second] at apart
        exact apart (congrArg Int32.toInt64 equal)
    · subst same
      rw [stored, exec_authFriendApply]
      split
      · exact wellFormed
      · have narrow : Narrow fromUid ∧ Narrow toUid := by
          simpa only [InRange, reading] using inRange
        exact authFriendApply_wellFormed wellFormed (clampedColumn_ne apart narrow.1 narrow.2)

/-- The row of an application is there once its statement has been executed. -/
theorem exec_addFriendApply_holds {outcome : Outcome} (done : outcome ≠ .error) {fromUid toUid : Int64} {fromColumn toColumn : Int32}
    (sender : intColumn fromUid = some fromColumn) (receiver : intColumn toUid = some toColumn) (stores : Stores) :
    (stores.exec externals outcome (.addFriendApply fromUid toUid)).2.db.friendApply.holds (fromColumn, toColumn) := by
  have inserted : (stores.exec externals outcome (.addFriendApply fromUid toUid)).2.db =
      { stores.db with friendApply := stores.db.friendApply.insertIgnore { fromUid := fromColumn, toUid := toColumn } } := by
    change (stores.addFriendApply outcome fromUid toUid).2.db = _
    unfold Stores.addFriendApply Tables.addFriendApply
    rw [sender, receiver]
    dsimp only
    rw [onTables_db, if_neg done]
  rw [inserted]
  exact UniqueTable.holds_insertIgnore.mpr (.inr rfl)

/-- A statement that has just been executed changes nothing when it is executed again. -/
theorem exec_again (externals : Externals) {outcome : Outcome} (done : outcome ≠ .error) {op : Op}
    (statement : isStatement op = true) (stores after : Stores) (executed : after.db = (stores.exec externals outcome op).2.db)
    (again : Outcome) : (after.exec externals again op).2.db = after.db := by
  cases op with
  | addFriendApply fromUid toUid =>
    rcases exec_addFriendApply externals again fromUid toUid after with same | ⟨_, fromColumn, toColumn, first, second, same⟩
    · exact same
    · have present : (stores.exec externals outcome (.addFriendApply fromUid toUid)).2.db.friendApply.holds (fromColumn, toColumn) :=
        exec_addFriendApply_holds done first second stores
      rw [← executed] at present
      rw [same, UniqueTable.insertIgnore_of_holds present]
  | authFriendApply fromUid toUid =>
    rw [exec_authFriendApply, if_neg done] at executed
    rw [exec_authFriendApply, executed, authFriendApply_idem, ite_self]
  | _ => cases statement

end Steps

end ChatProof
