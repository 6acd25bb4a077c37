import ChatProject.Chat.Conduct

/-! When a login counts the connections of its server, and when it says so to Redis. -/

namespace ChatProof

open ChatModel

def isCount : Op → Bool
  | .participantCount => true
  | _ => false

def isFigure : Op → Bool
  | .redisHset _ _ _ => true
  | _ => false

def isMark : Op → Bool
  | .markAuthenticated => true
  | _ => false

/-- Only a login asks for any of the three. -/
def isLoad (op : Op) : Bool := isCount op || isFigure op || isMark op

/-! ## How far a login has come -/

/-- The connections have been counted. -/
def Counted (told : Ledger) : Prop := ∃ entry ∈ told, isCount entry.1 = true

/-- Redis has answered to the figure. -/
def Written (told : Ledger) : Prop := ∃ entry ∈ told, isFigure entry.1 = true

def Marked (told : Ledger) : Prop := ∃ entry ∈ told, isMark entry.1 = true

instance (told : Ledger) : Decidable (Counted told) := inferInstanceAs (Decidable (∃ entry ∈ told, isCount entry.1 = true))

instance (told : Ledger) : Decidable (Marked told) := inferInstanceAs (Decidable (∃ entry ∈ told, isMark entry.1 = true))

/-- The figure of this login is on its way, or its session is not marked yet. -/
def Entering (told : Ledger) : Prop := Counted told ∧ ¬ Marked told

instance (told : Ledger) : Decidable (Entering told) := inferInstanceAs (Decidable (_ ∧ _))

section Ledgers

variable {told : Ledger} {op : Op} {answer : op.Res}

theorem counted_cons : Counted (⟨op, answer⟩ :: told) ↔ isCount op = true ∨ Counted told := by
  simp [Counted]

theorem written_cons : Written (⟨op, answer⟩ :: told) ↔ isFigure op = true ∨ Written told := by
  simp [Written]

theorem marked_cons : Marked (⟨op, answer⟩ :: told) ↔ isMark op = true ∨ Marked told := by
  simp [Marked]

end Ledgers

/-- What comes before the count. -/
structure Uncounted (told : Ledger) : Prop where
  counted : ¬ Counted told
  written : ¬ Written told
  marked : ¬ Marked told

theorem Uncounted.nil : Uncounted [] := by
  refine ⟨?_, ?_, ?_⟩ <;> rintro ⟨entry, member, _⟩ <;> cases member

theorem Uncounted.tail {told : Ledger} (uncounted : Uncounted told) (op : Op) (answer : op.Res) (plain : isLoad op = false) :
    Uncounted (⟨op, answer⟩ :: told) := by
  simp only [isLoad, Bool.or_eq_false_iff] at plain
  obtain ⟨⟨count, figure⟩, mark⟩ := plain
  refine ⟨?_, ?_, ?_⟩
  · rw [counted_cons, count]
    simp [uncounted.counted]
  · rw [written_cons, figure]
    simp [uncounted.written]
  · rw [marked_cons, mark]
    simp [uncounted.marked]

/-! ## The order of the three -/

/-- What may be asked after this: the figure directly after the count, and nothing of a store between it and the mark. -/
inductive CountAsks (told : Ledger) : Op → Prop
  | aside {op : Op} : isLoad op = false → (Counted told → Marked told ∨ Written told ∧ op.isExternal = false) → CountAsks told op
  | count : Uncounted told → CountAsks told .participantCount
  | write {name : String} {count : Nat} {early : Ledger} : told = ⟨.participantCount, count⟩ :: ⟨.serverName, name⟩ :: early →
      Uncounted early → CountAsks told (.redisHset loginCountKey name (Int64.ofNat count))
  | mark : Written told → ¬ Marked told → CountAsks told .markAuthenticated

/-- Whoever has counted is marked, and a login that succeeds has counted. -/
structure CountEnds (msg : MsgNode) (told : Ledger) (result : Except Failure ChannelMessage) : Prop where
  marked : Counted told → Marked told
  written : ∀ reply, result = .ok reply → MessageId.enumCast msg.id = some .loginRequest → ¬ CarriesError reply → Written told

theorem CountAsks.early {told : Ledger} (uncounted : Uncounted told) {op : Op} (plain : isLoad op = false) : CountAsks told op :=
  .aside plain fun counted => absurd counted uncounted.counted

theorem CountEnds.early {msg : MsgNode} {told : Ledger} (uncounted : Uncounted told) {result : Except Failure ChannelMessage}
    (fails : ∀ reply, result = .ok reply → MessageId.enumCast msg.id = some .loginRequest → CarriesError reply) :
    CountEnds msg told result :=
  ⟨fun counted => absurd counted uncounted.counted, fun reply same kind success => absurd (fails reply same kind) success⟩

theorem loginRest_counts (msg : MsgNode) (request : UserLoginRequest) (userInfo : UserInfo) {told : Ledger}
    (uncounted : Uncounted told) : (loginRest request userInfo).Guided CountAsks (CountEnds msg) told := by
  refine ⟨.early uncounted rfl, ?_⟩
  intro name
  have named : Uncounted (⟨.serverName, name⟩ :: told) := uncounted.tail .serverName name rfl
  refine ⟨.count named, ?_⟩
  intro count
  refine ⟨.write rfl uncounted, ?_⟩
  intro answer
  let figure : Op := .redisHset loginCountKey name (Int64.ofNat count)
  have written : ∀ later : Ledger, Written (later ++ ⟨figure, answer⟩ :: ⟨.participantCount, count⟩ :: ⟨.serverName, name⟩ :: told) :=
    fun later => ⟨_, List.mem_append_right _ List.mem_cons_self, rfl⟩
  have unmarked : ¬ Marked (⟨.setUid request.uid, ()⟩ :: ⟨figure, answer⟩ :: ⟨.participantCount, count⟩ :: ⟨.serverName, name⟩ :: told) := by
    rw [marked_cons, marked_cons, marked_cons, marked_cons]
    rintro (same | same | same | same | early)
    · cases same
    · cases same
    · cases same
    · cases same
    · exact uncounted.marked early
  refine ⟨.aside rfl fun _ => .inr ⟨written [], rfl⟩, fun _ => ?_⟩
  refine ⟨.mark (written [⟨.setUid request.uid, ()⟩]) unmarked, fun _ => ?_⟩
  let entered : Ledger := ⟨.markAuthenticated, ()⟩ :: ⟨.setUid request.uid, ()⟩ :: ⟨figure, answer⟩ :: ⟨.participantCount, count⟩ ::
    ⟨.serverName, name⟩ :: told
  have marked : ∀ later : Ledger, Marked (later ++ entered) := fun later => ⟨_, List.mem_append_right _ List.mem_cons_self, rfl⟩
  have through : ∀ (later : Ledger) result, CountEnds msg (later ++ entered) result := by
    intro later result
    refine ⟨fun _ => marked later, fun _ _ _ _ => ?_⟩
    have same : later ++ entered = (later ++ [⟨.markAuthenticated, ()⟩, ⟨.setUid request.uid, ()⟩]) ++ ⟨figure, answer⟩ ::
        ⟨.participantCount, count⟩ :: ⟨.serverName, name⟩ :: told := by
      simp [entered]
    rw [same]
    exact written _
  refine ⟨.aside rfl fun _ => .inl (marked []), fun server => ?_⟩
  refine ⟨.aside rfl fun _ => .inl (marked [⟨.serverName, server⟩]), fun routed => ?_⟩
  let linked : Ledger := [⟨.redisSet (userLoginServerKey request.uid) server, routed⟩, ⟨.serverName, server⟩]
  refine ⟨.aside rfl fun _ => .inl (marked linked), fun applies => ?_⟩
  cases applies with
  | error failure => exact through (⟨.getFriendApplies request.uid, .error failure⟩ :: linked) _
  | ok applyList =>
    let listed : Ledger := ⟨.getFriendApplies request.uid, .ok applyList⟩ :: linked
    refine ⟨.aside rfl fun _ => .inl (marked listed), fun friends => ?_⟩
    cases friends with
    | error failure => exact through (⟨.getFriends request.uid, .error failure⟩ :: listed) _
    | ok friendList => exact through (⟨.getFriends request.uid, .ok friendList⟩ :: listed) _

theorem login_counts (lib : JsonLib) (msg : MsgNode) {told : Ledger} (uncounted : Uncounted told) :
    (login lib msg).Guided CountAsks (CountEnds msg) told := by
  have refuses : ∀ (id : UInt32) (error : ServerError) (later : Ledger), error ≠ .success → Uncounted later →
      CountEnds msg later (.ok (errorResponseAndClose id error)) := by
    intro id error later fails before
    apply CountEnds.early before
    intro reply same _
    rw [← Except.ok.inj same]
    exact errorResponseAndClose_carriesError _ fails
  unfold login
  cases parsed : parseJson lib UserLoginRequest.fromJson msg.bodyText with
  | none => exact refuses msg.id .invalidJson told nofun uncounted
  | some request =>
    refine ⟨.early uncounted rfl, ?_⟩
    intro token
    have asked : Uncounted (⟨.redisGet (userTokenKey request.uid), token⟩ :: told) := uncounted.tail (.redisGet (userTokenKey request.uid)) token rfl
    cases token with
    | none => exact refuses MessageId.loginResponse.wire .tokenInvalid _ nofun asked
    | some token =>
      change Coroutine.Guided _ _ (if token ≠ request.token then _ else _) _
      split
      · exact refuses MessageId.loginResponse.wire .tokenInvalid _ nofun asked
      · rename_i same
        simp only [ne_eq, not_not] at same
        subst same
        have looked := fun cached => asked.tail (.redisGet (UserKey.uid request.uid).redisKey) cached rfl
        have stored := fun cached row => (looked cached).tail (.getUserInfo (.uid request.uid)) row rfl
        apply Coroutine.Guided.bind
        apply searchUserByType_guided
        · exact .early asked rfl
        · intro text info known
          exact loginRest_counts msg request info (looked (some text))
        · intro cached
          exact .early (looked cached) rfl
        · intro cached failure
          apply CountEnds.early (stored cached (.error failure))
          intro reply same
          cases same
        · intro cached
          exact refuses MessageId.loginResponse.wire .internalError _ nofun (stored cached (.ok none))
        · intro cached info
          exact .early (stored cached (.ok (some info))) rfl
        · intro cached info done
          have kept := (stored cached (.ok (some info))).tail (.redisSet (UserKey.uid request.uid).redisKey info.toJson.dump) done rfl
          exact loginRest_counts msg request info kept

/-- The other handlers ask for none of the three. -/
theorem plain_counts {msg : MsgNode} {messageId : MessageId} {handler : Awaitable ChannelMessage} {told : Ledger}
    (kind : MessageId.enumCast msg.id = some messageId) (other : messageId ≠ .loginRequest)
    (asks : handler.AsksOnly fun op => isLoad op = false) (uncounted : Uncounted told) :
    handler.Guided CountAsks (Recovered messageId (CountEnds msg)) told := by
  have quiet : ∀ (later : Ledger) result, Uncounted later → CountEnds msg later result := by
    intro later result before
    apply CountEnds.early before
    intro reply _ login
    rw [kind] at login
    exact absurd (Option.some.inj login) other
  have guided : handler.Guided CountAsks (fun later _ => Uncounted later) told :=
    asks.guided (fun told op plain before => .early before plain) (fun told op answer plain before => before.tail op answer plain) uncounted
  apply guided.mono
  intro later result before
  cases result with
  | ok reply => exact quiet later _ before
  | error failure => exact quiet later _ before

theorem allowsNotifying_load : AllowsNotifying fun op => isLoad op = false :=
  ⟨rfl, fun _ => rfl, rfl, fun _ => rfl, fun _ _ => rfl, fun _ => rfl⟩

theorem handleMessage_counts (lib : JsonLib) (msg : MsgNode) : (handleMessage lib msg).Guided CountAsks (CountEnds msg) [] := by
  have gated : ∀ flag, Uncounted [⟨.isAuthenticated, flag⟩] := fun flag => Uncounted.nil.tail .isAuthenticated flag rfl
  apply handleMessage_rule lib msg (.early .nil rfl)
  · intro other
    apply CountEnds.early (gated false)
    intro reply same _
    rw [← Except.ok.inj same]
    have fails : ServerError.notAuthenticated ≠ .success := nofun
    exact errorResponseAndClose_carriesError _ fails
  · intro flag nobody
    apply CountEnds.early (gated flag)
    intro reply _ kind
    exact (unhandled_absurd nobody kind fun same => by cases same).elim
  · intro kind flag
    apply (login_counts lib msg (gated flag)).mono
    intro told result ends
    cases result with
    | ok reply => exact ends
    | error failure =>
      refine ⟨ends.marked, ?_⟩
      intro reply same _ success
      rw [← Except.ok.inj same] at success
      have fails : ServerError.internalError ≠ .success := nofun
      exact absurd (errorResponse_carriesError _ fails) success
  · intro kind
    exact plain_counts kind nofun (searchUser_asksOnly lib msg (fun _ => rfl) (fun _ => rfl) fun _ _ => rfl) (gated true)
  · intro kind
    exact plain_counts kind nofun (addFriend_asksOnly lib msg allowsNotifying_load (fun _ _ => rfl) fun _ => rfl) (gated true)
  · intro kind
    exact plain_counts kind nofun (authFriend_asksOnly lib msg allowsNotifying_load fun _ _ => rfl) (gated true)
  · intro kind
    exact plain_counts kind nofun (textChatMsg_asksOnly lib msg allowsNotifying_load) (gated true)

end ChatProof
