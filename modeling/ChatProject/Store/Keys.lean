import ChatProject.Library.Text
import ChatProject.Chat.Handlers

/-! The records of the chat servers do not share their Redis keys. -/

namespace ChatProof

open ChatModel

theorem userLoginServerKey_ne_userUidInfoKey (uid other : Int64) : userLoginServerKey uid ≠ userUidInfoKey other :=
  append_ne_of_take 6 (by decide) (by decide) (by decide)

theorem userLoginServerKey_ne_userNameInfoKey (uid : Int64) (name : String) :
    userLoginServerKey uid ≠ userNameInfoKey name :=
  append_ne_of_take 6 (by decide) (by decide) (by decide)

theorem userLoginServerKey_ne_loginCountKey (uid : Int64) : userLoginServerKey uid ≠ loginCountKey := by
  have different : userLoginServerPrefix ++ toString64 uid ≠ loginCountKey ++ "" :=
    append_ne_of_take 1 (by decide) (by decide) (by decide)
  rwa [String.append_empty] at different

theorem userLoginServerKey_ne_redisKey (uid : Int64) (key : UserKey) : userLoginServerKey uid ≠ key.redisKey := by
  cases key with
  | uid other => exact userLoginServerKey_ne_userUidInfoKey uid other
  | name name => exact userLoginServerKey_ne_userNameInfoKey uid name

theorem userLoginServerKey_injective {first second : Int64} (same : userLoginServerKey first = userLoginServerKey second) :
    first = second := by
  have lists := congrArg String.toList same
  simp only [userLoginServerKey, String.toList_append, List.append_cancel_left_eq] at lists
  exact toString64_injective (String.toList_inj.mp lists)

theorem userUidInfoKey_injective {first second : Int64} (same : userUidInfoKey first = userUidInfoKey second) :
    first = second := by
  have lists := congrArg String.toList same
  simp only [userUidInfoKey, String.toList_append, List.append_cancel_left_eq] at lists
  exact toString64_injective (String.toList_inj.mp lists)

theorem userTokenKey_injective {first second : Int64} (same : userTokenKey first = userTokenKey second) : first = second := by
  have lists := congrArg String.toList same
  simp only [userTokenKey, String.toList_append, List.append_cancel_left_eq] at lists
  exact toString64_injective (String.toList_inj.mp lists)

theorem userNameInfoKey_ne_userUidInfoKey (name : String) (uid : Int64) : userNameInfoKey name ≠ userUidInfoKey uid :=
  append_ne_of_take 6 (by decide) (by decide) (by decide)

theorem redisKey_injective {first second : UserKey} (same : first.redisKey = second.redisKey) : first = second := by
  cases first with
  | uid first =>
    cases second with
    | uid second => rw [userUidInfoKey_injective same]
    | name second => exact absurd same.symm (userNameInfoKey_ne_userUidInfoKey second first)
  | name first =>
    cases second with
    | uid second => exact absurd same (userNameInfoKey_ne_userUidInfoKey first second)
    | name second =>
      have lists := congrArg String.toList same
      simp only [UserKey.redisKey, userNameInfoKey, String.toList_append, List.append_cancel_left_eq] at lists
      rw [String.toList_inj.mp lists]

theorem loginCountKey_ne_redisKey (key : UserKey) : loginCountKey ≠ key.redisKey := by
  have different : ∀ text : String, loginCountKey ++ "" ≠ text → loginCountKey ≠ text := by
    intro text
    rw [String.append_empty]
    exact id
  cases key with
  | uid uid => exact different _ (append_ne_of_take 1 (by decide) (by decide) (by decide))
  | name name => exact different _ (append_ne_of_take 1 (by decide) (by decide) (by decide))

end ChatProof
