import ChatProject.Chat.Sizes
import ChatProject.Cluster.Run

/-! Whether a frame carries the text that the handler has built. -/

namespace ChatProof

open ChatModel Json

/-- The frame is built of this document, and its receiver gets it exactly when so many bytes fit. -/
def CarriedWhenFits (frame : MsgNode) (document : Json Int) (size : Nat) : Prop :=
  (∃ id, frame = MsgNode.ofText id document.dump) ∧ (Carries frame document.dump ↔ size ≤ maxLength)

theorem carriedWhenFits_ofText (id : UInt32) {document : Json Int} {size : Nat} (sized : document.size = size) :
    CarriedWhenFits (MsgNode.ofText id document.dump) document size := by
  refine ⟨⟨id, rfl⟩, ?_⟩
  rw [carries_iff id (Json.dump_visible document), Json.length_bytesOf_dump, sized]

/-- What the applicant is called in the notification, here and at the peer. -/
theorem from_addFriend {lib : JsonLib} {msg : MsgNode} {told : Ledger} {accepted : AcceptedRequest}
    (kind : MessageId.enumCast msg.id = some .addFriendRequest) (known : accepted.From lib msg told) :
    ∃ request userInfo, accepted = .addFriend request userInfo ∧
      parseJson lib AddFriendRequest.fromJson msg.bodyText = some request ∧
      Told told (.getUserInfo (.uid request.uid)) (.ok (some userInfo)) := by
  cases accepted with
  | addFriend request userInfo => exact ⟨request, userInfo, rfl, known.2.1.parsed, known.2.2⟩
  | authFriend request => cases kind.symm.trans known.1
  | textChat request => cases kind.symm.trans known.1

/-- The three frames whose text depends on what the database holds: each carries its text exactly
    when that fits. The last one is sent by either server. -/
theorem frame_carries_text (lib : JsonLib) (msg : MsgNode) (told : Ledger) :
    (∀ reply, Reaches lib msg told (.ret reply) → MessageId.enumCast msg.id = some .loginRequest → ¬ CarriesError reply →
      ∃ request info applyList friendList, parseJson lib UserLoginRequest.fromJson msg.bodyText = some request ∧
        FoundUser lib (.uid request.uid) told info ∧ Told told (.getFriendApplies request.uid) (.ok applyList) ∧
        Told told (.getFriends request.uid) (.ok friendList) ∧
        CarriedWhenFits reply.msg (loginDocument request info applyList friendList)
          (loginSize request info.name applyList friendList)) ∧
    (∀ reply, Reaches lib msg told (.ret reply) → MessageId.enumCast msg.id = some .searchUserRequest → ¬ CarriesError reply →
      ∃ key info, searchKey lib msg = some key ∧ FoundUser lib key told info ∧
        CarriedWhenFits reply.msg info.toJson (searchSize info)) ∧
    (∀ target message, AsksFor lib msg told (.deliver target message) → MessageId.enumCast msg.id = some .addFriendRequest →
      ∃ request info, parseJson lib AddFriendRequest.fromJson msg.bodyText = some request ∧
        Told told (.getUserInfo (.uid request.uid)) (.ok (some info)) ∧
        CarriedWhenFits message.msg ({ applyuid := request.uid, name := info.name } : NotifyAddFriendMsg).toJson
          (notifySize request.uid info.name)) ∧
    (∀ remote, AsksFor lib msg told (.notify remote) → MessageId.enumCast msg.id = some .addFriendRequest →
      ∃ request info, parseJson lib AddFriendRequest.fromJson msg.bodyText = some request ∧
        Told told (.getUserInfo (.uid request.uid)) (.ok (some info)) ∧
        CarriedWhenFits (notifySession remote).2
          ({ applyuid := request.uid.toInt32.toInt64, name := info.name } : NotifyAddFriendMsg).toJson
          (notifySize request.uid.toInt32.toInt64 info.name)) := by
  have asked := handleMessage_asked lib msg
  refine ⟨?_, ?_, ?_, ?_⟩
  · intro reply reaches kind success
    obtain ⟨_, same, replied⟩ := reaches.guided asked
    cases same
    obtain ⟨request, info, applyList, friendList, parsed, found, applies, friends, built⟩ := login_success replied kind success
    subst built
    exact ⟨request, info, applyList, friendList, parsed, found, applies, friends,
      carriedWhenFits_ofText _ (loginSize_eq request info applyList friendList)⟩
  · intro reply reaches kind success
    obtain ⟨_, same, replied⟩ := reaches.guided asked
    cases same
    obtain ⟨key, info, asked, found, built⟩ := search_success replied kind success
    subst built
    exact ⟨key, info, asked, found, carriedWhenFits_ofText _ (searchSize_eq info)⟩
  · intro target message asks kind
    obtain ⟨_, reaches⟩ := asks
    obtain ⟨accepted, home, early, same, known, built⟩ := asked_deliver (reaches.guided asked).1.1
    obtain ⟨request, info, add, parsed, found⟩ := from_addFriend kind known
    subst add
    rw [same, built]
    exact ⟨request, info, parsed, (found.tail _).tail _, carriedWhenFits_ofText _ (notifySize_eq _)⟩
  · intro remote asks kind
    obtain ⟨_, reaches⟩ := asks
    obtain ⟨accepted, name, early, same, known, built⟩ := asked_notify (reaches.guided asked).1.1
    obtain ⟨request, info, add, parsed, found⟩ := from_addFriend kind known
    subst add
    rw [same, built]
    exact ⟨request, info, parsed, found.tail _, carriedWhenFits_ofText _ (notifySize_eq _)⟩

/-! ## A search for the second user -/

namespace Sample

def searchBody : Body := ("\x7b\"uid\":2\x7d", .obj [("uid", .num (.int 2))])

def searchFrame : MsgNode := MsgNode.ofText MessageId.searchUserRequest.wire searchBody.1

def searchLib : JsonLib := (externals [searchBody]).lib

def bob : UserInfo := ⟨2, "bob", "bob@example.com", "pwd2"⟩

/-- As many characters as the column holds, each of four bytes. -/
def longName : UserInfo := { bob with name := String.ofList (List.replicate 255 (Char.ofNat 0x1F600)) }

/-- How the search for this user ends. -/
def searched (info : UserInfo) : Except Failure ChannelMessage × Ledger :=
  (handleMessage searchLib searchFrame).run (replay (answers "chat_server1" (some info))) []

theorem searched_eq (info : UserInfo) : (searched info).1 =
    .ok { msg := MsgNode.ofText MessageId.searchUserResponse.wire info.toJson.dump } := by
  have kind : MessageId.enumCast searchFrame.id = some .searchUserRequest := by decide +kernel
  have parsed : (searchLib.parse searchFrame.bodyText).isSome = true := by decide +kernel
  have asked : searchKey searchLib searchFrame = some (.uid 2) := by decide +kernel
  obtain ⟨request, known⟩ := Option.isSome_iff_exists.mp parsed
  have handled : handlers .searchUserRequest = some searchUser := rfl
  unfold searched handleMessage
  simp only [Awaitable.perform, Coroutine.bind_def, Coroutine.perform_bind, Coroutine.run_call, replay, answers,
    Bool.true_eq_false, false_and, if_false, kind, handled, Coroutine.run_catchWith, searchUser_eq, known, asked]
  rfl

/-- The search ends with a reply that is no error. -/
theorem search_ends (info : UserInfo) : ∃ reply, Reaches searchLib searchFrame (searched info).2 (.ret reply) ∧
    ¬ CarriesError reply := by
  have begins : Reaches searchLib searchFrame [] (handleMessage searchLib searchFrame) := .start
  have reaches := begins.replayed (answers "chat_server1" (some info))
  change Reaches _ _ (searched info).2 (.ofExcept (searched info).1) at reaches
  rw [searched_eq] at reaches
  exact ⟨_, reaches, not_carriesError_of_third rfl (userInfo_third info) (by decide)⟩

/-- Nobody but this user can have been found. -/
theorem found_only {info found : UserInfo} (known : FoundUser searchLib (.uid 2) (searched info).2 found) : found = info := by
  cases known with
  | cached _ parsed => cases parsed
  | stored told =>
    rcases replay_answer (answers "chat_server1" (some info)) told with same | before
    · exact Option.some.inj (Except.ok.inj same)
    · cases before

theorem longName_chars : longName.name.toList = List.replicate 255 (Char.ofNat 0x1F600) := String.toList_ofList

end Sample

theorem frame_carries_text_bob : ∃ told reply, Reaches Sample.searchLib Sample.searchFrame told (.ret reply) ∧
    Carries reply.msg Sample.bob.toJson.dump := by
  obtain ⟨reply, reaches, success⟩ := Sample.search_ends Sample.bob
  obtain ⟨key, info, asked, found, _, carries⟩ := (frame_carries_text _ _ _).2.1 reply reaches (by decide +kernel) success
  have same : searchKey Sample.searchLib Sample.searchFrame = some (.uid 2) := by decide +kernel
  obtain rfl := Option.some.inj (asked.symm.trans same)
  obtain rfl := Sample.found_only found
  exact ⟨_, reply, reaches, carries.mpr (by decide +kernel)⟩

theorem frame_is_emptied : ¬ ∀ (lib : JsonLib) (msg : MsgNode) (told : Ledger) (reply : ChannelMessage) (key : UserKey)
    (info : UserInfo), Reaches lib msg told (.ret reply) → MessageId.enumCast msg.id = some .searchUserRequest →
    ¬ CarriesError reply → searchKey lib msg = some key → FoundUser lib key told info →
    Narrow info.id → info.name.length ≤ 255 → info.email.length ≤ 255 → info.pwd.length ≤ 255 →
    Carries reply.msg info.toJson.dump := by
  intro claim
  obtain ⟨reply, reaches, success⟩ := Sample.search_ends Sample.longName
  obtain ⟨_, same, replied⟩ := reaches.guided (handleMessage_asked _ _)
  cases same
  have kind : MessageId.enumCast Sample.searchFrame.id = some .searchUserRequest := by decide +kernel
  obtain ⟨key, info, asked, found, built⟩ := search_success replied kind success
  have known : searchKey Sample.searchLib Sample.searchFrame = some (.uid 2) := by decide +kernel
  obtain rfl := Option.some.inj (asked.symm.trans known)
  obtain rfl := Sample.found_only found
  have column : Sample.longName.name.length ≤ 255 := by
    rw [← String.length_toList, Sample.longName_chars, List.length_replicate]
  have carried := claim _ _ _ reply _ _ reaches kind success asked found (by decide) column (by decide) (by decide)
  rw [built] at carried
  have small := (carriedWhenFits_ofText MessageId.searchUserResponse.wire (searchSize_eq Sample.longName)).2.mp carried
  have long : textSize Sample.longName.name = 1022 := by
    have four : charSize (Char.ofNat 0x1F600) = 4 := by decide
    rw [textSize, Sample.longName_chars, List.map_replicate, List.sum_replicate, four]
    rfl
  have above : maxLength < searchSize Sample.longName := by
    have name := name_le_searchSize Sample.longName
    rw [long] at name
    exact Nat.lt_of_lt_of_le (by decide) name
  exact absurd small (Nat.not_le.mpr above)

end ChatProof
