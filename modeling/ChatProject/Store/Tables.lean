import ChatProject.Library.Table
import ChatProject.Message.Ids

namespace ChatModel

structure UserInfo where
  id : Int64
  name : String
  email : String
  pwd : String
deriving DecidableEq, Repr

structure UserDetail where
  id : Int64 := 0
  name : String := ""
deriving DecidableEq, Repr

structure FriendApplyInfo where
  status : Int32 := 0
  userDetail : UserDetail
deriving DecidableEq, Repr

structure FriendInfo where
  back : String
  userDetail : UserDetail
deriving DecidableEq, Repr

structure UserRow where
  id : Int32
  name : String
  email : String
  pwd : String
deriving DecidableEq, Repr

structure FriendApplyRow where
  fromUid : Int32
  toUid : Int32
  status : Int32 := 0
deriving DecidableEq, Repr

structure FriendRow where
  selfId : Int32
  friendId : Int32
  back : Option String := some ""
deriving DecidableEq, Repr

namespace UserRow

def info (row : UserRow) : UserInfo := ⟨row.id.toInt64, row.name, row.email, row.pwd⟩

end UserRow

def FriendApplyRow.pair (row : FriendApplyRow) : Int32 × Int32 := (row.fromUid, row.toUid)

def FriendRow.pair (row : FriendRow) : Int32 × Int32 := (row.selfId, row.friendId)

/-- The schema `chat`: an `INT` column is compared with a 64-bit parameter as a number. -/
structure Tables where
  user : UniqueTable UserRow.id := .empty
  friendApply : UniqueTable FriendApplyRow.pair := .empty
  friend : UniqueTable FriendRow.pair := .empty

/-- An exception out of a MySQL call. -/
inductive Failure where
  | mysql
deriving DecidableEq, Repr

/-- The value that `INSERT` stores in an `INT` column; in strict mode there is none outside its range. -/
def intColumn (n : Int64) : Option Int32 :=
  if n.toInt32.toInt64 = n then some n.toInt32 else none

/-- The value that `INSERT IGNORE` stores there: the nearest one, with a warning. -/
def clampedColumn (n : Int64) : Int32 := Int32.ofIntClamp n.toInt

namespace Tables

def getUserInfoByUid (uid : Int64) (db : Tables) : Option UserInfo :=
  (db.user.rows.find? fun row => row.id.toInt64 = uid).map UserRow.info

/-- Names are compared by the collation of the column. -/
def getUserInfoByName (sameName : String → String → Bool) (name : String) (db : Tables) : Option UserInfo :=
  (db.user.rows.find? fun row => sameName row.name name).map UserRow.info

/-- `INSERT … ON DUPLICATE KEY UPDATE` of the columns to themselves. -/
def addFriendApply (fromUid toUid : Int64) (db : Tables) : Except Failure Tables :=
  match intColumn fromUid, intColumn toUid with
  | some fromUid, some toUid => .ok { db with friendApply := db.friendApply.insertIgnore { fromUid, toUid } }
  | _, _ => .error .mysql

def acceptApply (fromUid toUid : Int64) (db : Tables) : UniqueTable FriendApplyRow.pair :=
  db.friendApply.updateWhere (fun row => row.fromUid.toInt64 = fromUid ∧ row.toUid.toInt64 = toUid)
    (fun row => { row with status := 1 }) (fun _ => rfl)

def insertFriend (selfId friendId : Int64) (friend : UniqueTable FriendRow.pair) : UniqueTable FriendRow.pair :=
  friend.insertIgnore { selfId := clampedColumn selfId, friendId := clampedColumn friendId }

/-- The transaction: one `UPDATE`, then an `INSERT IGNORE` for each direction. -/
def authFriendApply (fromUid toUid : Int64) (db : Tables) : Tables :=
  { db with
    friendApply := db.acceptApply fromUid toUid
    friend := insertFriend toUid fromUid (insertFriend fromUid toUid db.friend) }

def getFriendApplies (toUid : Int64) (db : Tables) : List FriendApplyInfo :=
  (db.friendApply.rows.filter fun row => row.toUid.toInt64 = toUid).flatMap fun row =>
    (db.user.rows.filter fun user => user.id = row.fromUid).map fun user =>
      ⟨row.status, ⟨row.fromUid.toInt64, user.name⟩⟩

def getFriends (selfId : Int64) (db : Tables) : List FriendInfo :=
  (db.friend.rows.filter fun row => row.selfId.toInt64 = selfId).flatMap fun row =>
    (db.user.rows.filter fun user => user.id = row.friendId).map fun user =>
      ⟨row.back.getD "", ⟨row.friendId.toInt64, user.name⟩⟩

end Tables

theorem intColumn_eq_some {n : Int64} {column : Int32} : intColumn n = some column ↔ column.toInt64 = n := by
  unfold intColumn
  constructor
  · intro stored
    split at stored
    · rename_i fits
      cases stored
      exact fits
    · cases stored
  · intro same
    subst same
    simp

theorem clampedColumn_toInt64 (column : Int32) : clampedColumn column.toInt64 = column := by
  apply Int32.toInt_inj.mp
  have lower := column.le_toInt
  have upper := column.toInt_le
  rw [clampedColumn, Int32.toInt_toInt64, Int32.toInt_ofIntClamp lower upper]

theorem toInt64_injective {first second : Int32} (same : first.toInt64 = second.toInt64) : first = second := by
  have ints := congrArg Int64.toInt same
  rw [Int32.toInt_toInt64, Int32.toInt_toInt64] at ints
  exact Int32.toInt_inj.mp ints

end ChatModel
