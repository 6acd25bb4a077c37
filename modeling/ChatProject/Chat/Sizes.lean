import ChatProject.Chat.Notification
import ChatProject.Chat.Replies

/-! How long the texts are that go into a frame. -/

namespace ChatProof

open ChatModel Json

/-! ## From what the database holds -/

def searchSize (info : UserInfo) : Nat :=
  31 + numberSize info.id.toInt + textSize info.name + textSize info.email + textSize info.pwd

def notifySize (applyuid : Int64) (name : String) : Nat := 21 + numberSize applyuid.toInt + textSize name

def applySize (info : FriendApplyInfo) : Nat :=
  25 + numberSize info.userDetail.id.toInt + textSize info.userDetail.name + numberSize info.status.toInt

def friendSize (info : FriendInfo) : Nat :=
  23 + textSize info.back + numberSize info.userDetail.id.toInt + textSize info.userDetail.name

def loginSize (request : UserLoginRequest) (name : String) (applyList : List FriendApplyInfo) (friendList : List FriendInfo) :
    Nat :=
  87 + listSize (applyList.map applySize) + listSize (friendList.map friendSize) + textSize name + textSize request.token +
    numberSize request.uid.toInt

theorem searchSize_eq (info : UserInfo) : info.toJson.size = searchSize info := by
  have id : textSize "id" = 4 := by decide
  have name : textSize "name" = 6 := by decide
  have email : textSize "email" = 7 := by decide
  have pwd : textSize "pwd" = 5 := by decide
  simp only [UserInfo.toJson, size_obj, listSize, List.map_cons, List.map_nil, List.sum_cons, List.sum_nil, List.length_cons,
    List.length_nil, int64, size_num, size_str, id, name, email, pwd, searchSize]
  omega

theorem name_le_searchSize (info : UserInfo) : 31 + textSize info.name ≤ searchSize info := by
  unfold searchSize
  omega

theorem notifySize_eq (notify : NotifyAddFriendMsg) : notify.toJson.size = notifySize notify.applyuid notify.name := by
  have applyuid : textSize "applyuid" = 10 := by decide
  have name : textSize "name" = 6 := by decide
  have fields : notify.toJson = .obj [("applyuid", int64 notify.applyuid), ("name", .str notify.name)] := rfl
  simp only [fields, size_obj, listSize, List.map_cons, List.map_nil, List.sum_cons, List.sum_nil, List.length_cons,
    List.length_nil, int64, size_num, size_str, applyuid, name, notifySize]
  omega

theorem applySize_eq (info : FriendApplyInfo) : info.toJson.size = applySize info := by
  have id : textSize "id" = 4 := by decide
  have name : textSize "name" = 6 := by decide
  have status : textSize "status" = 8 := by decide
  have fields : info.toJson = .obj [("id", int64 info.userDetail.id), ("name", .str info.userDetail.name),
    ("status", .num info.status.toInt)] := rfl
  simp only [fields, size_obj, listSize, List.map_cons, List.map_nil, List.sum_cons, List.sum_nil, List.length_cons,
    List.length_nil, int64, size_num, size_str, id, name, status, applySize]
  omega

theorem friendSize_eq (info : FriendInfo) : info.toJson.size = friendSize info := by
  have back : textSize "back" = 6 := by decide
  have id : textSize "id" = 4 := by decide
  have name : textSize "name" = 6 := by decide
  have fields : info.toJson = .obj [("back", .str info.back), ("id", int64 info.userDetail.id),
    ("name", .str info.userDetail.name)] := rfl
  simp only [fields, size_obj, listSize, List.map_cons, List.map_nil, List.sum_cons, List.sum_nil, List.length_cons,
    List.length_nil, int64, size_num, size_str, back, id, name, friendSize]
  omega

theorem loginSize_eq (request : UserLoginRequest) (info : UserInfo) (applyList : List FriendApplyInfo)
    (friendList : List FriendInfo) :
    (loginDocument request info applyList friendList).size = loginSize request info.name applyList friendList := by
  have applies : textSize "apply_list" = 12 := by decide
  have friends : textSize "friend_list" = 13 := by decide
  have name : textSize "name" = 6 := by decide
  have token : textSize "token" = 7 := by decide
  have uid : textSize "uid" = 5 := by decide
  have data : textSize "data" = 6 := by decide
  have message : textSize "message" = 9 := by decide
  have status : textSize "status" = 8 := by decide
  have empty : textSize "" = 2 := by decide
  have zero : numberSize 0 = 1 := by decide
  have fields : loginDocument request info applyList friendList = .obj
      [("data", .obj [("apply_list", .arr (applyList.map FriendApplyInfo.toJson)),
        ("friend_list", .arr (friendList.map FriendInfo.toJson)), ("name", .str info.name), ("token", .str request.token),
        ("uid", int64 request.uid)]), ("message", .str ""), ("status", .num 0)] := rfl
  have applySizes : (applyList.map FriendApplyInfo.toJson).map Json.size = applyList.map applySize := by
    rw [List.map_map]
    exact List.map_congr_left fun apply _ => applySize_eq apply
  have friendSizes : (friendList.map FriendInfo.toJson).map Json.size = friendList.map friendSize := by
    rw [List.map_map]
    exact List.map_congr_left fun friend _ => friendSize_eq friend
  rw [fields, size_obj]
  generalize listA : listSize (applyList.map applySize) = a
  generalize listB : listSize (friendList.map friendSize) = b
  simp only [size_obj, size_arr, applySizes, friendSizes, listA, listB, List.map_cons, List.map_nil, int64, size_num, size_str,
    applies, friends, name, token, uid, data, message, status, empty, zero, loginSize]
  simp only [listSize, List.sum_cons, List.sum_nil, List.length_cons, List.length_nil]
  omega

end ChatProof
