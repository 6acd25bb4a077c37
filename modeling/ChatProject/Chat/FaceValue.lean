import ChatProject.Store.Keys
import ChatProject.Chat.Replies
import ChatProject.Chat.Conduct

/-! The numbers of users in a request, and the users that the handlers make of them. -/

namespace ChatProof

open ChatModel

/-! ## Numbers -/

/-- The number is exactly this integer. -/
def Denotes (value : Int) : Number → Prop
  | .int given => given = value
  | .float mantissa exponent =>
    if 0 ≤ exponent then mantissa * 2 ^ exponent.toNat = value else mantissa = value * 2 ^ (-exponent).toNat

instance (value : Int) : (number : Number) → Decidable (Denotes value number)
  | .int given => inferInstanceAs (Decidable (given = value))
  | .float mantissa exponent => inferInstanceAs (Decidable
      (if 0 ≤ exponent then mantissa * 2 ^ exponent.toNat = value else mantissa = value * 2 ^ (-exponent).toNat))

theorem truncate_of_denotes {value mantissa exponent : Int} (exact : Denotes value (.float mantissa exponent)) :
    Number.truncate mantissa exponent = value := by
  simp only [Denotes] at exact
  unfold Number.truncate
  by_cases integral : 0 ≤ exponent
  · rw [if_pos integral] at exact ⊢
    exact exact
  · have positive : (2 : Int) ^ (-exponent).toNat ≠ 0 := pow_ne_zero _ (by decide)
    rw [if_neg integral] at exact ⊢
    rw [exact, Int.mul_tdiv_cancel _ positive]

/-- An exact number is narrowed to itself. -/
theorem toInt64_of_denotes {uid : Int64} {number : Number} (exact : Denotes uid.toInt number) : number.toInt64 = uid := by
  cases number with
  | int value =>
    have same : value = uid.toInt := exact
    rw [Number.toInt64, same, Int64.ofInt_toInt]
  | float mantissa exponent =>
    have low : Int64.minValue.toInt ≤ uid.toInt := uid.minValue_le_toInt
    have high : uid.toInt ≤ Int64.maxValue.toInt := uid.toInt_le
    unfold Number.toInt64
    dsimp only
    rw [truncate_of_denotes exact, if_pos ⟨low, high⟩, Int64.ofInt_toInt]

def IsInt64 (number : Number) : Prop := ∃ uid : Int64, Denotes uid.toInt number

def IsInt32 (number : Number) : Prop := ∃ uid : Int32, Denotes uid.toInt number

theorem IsInt32.isInt64 {number : Number} (small : IsInt32 number) : IsInt64 number := by
  obtain ⟨uid, exact⟩ := small
  exact ⟨uid.toInt64, by rw [Int32.toInt_toInt64]; exact exact⟩

/-! ## Who is meant -/

/-- The user who asks, or is asked for, and the other one. -/
inductive Role where
  | sender
  | receiver
deriving DecidableEq

/-- The fields with the numbers of the two. -/
def idField : MessageId → Role → Option String
  | .searchUserRequest, .sender => some "uid"
  | .addFriendRequest, .sender => some "uid"
  | .addFriendRequest, .receiver => some "touid"
  | .authFriendRequest, .sender | .textChatMsgReq, .sender => some "fromuid"
  | .authFriendRequest, .receiver | .textChatMsgReq, .receiver => some "touid"
  | _, _ => none

def numberField (name : String) (document : Json Number) : Option Number :=
  match document.field? name with
  | some (.num number) => some number
  | _ => none

/-- The number that the request gives for one of the two. -/
def givenId (lib : JsonLib) (msg : MsgNode) (id : MessageId) (role : Role) : Option Number :=
  (lib.parse msg.bodyText).bind fun document => (idField id role).bind fun name => numberField name document

def notifySender : NotifyRequest → Int32
  | .addFriend request => request.applyuid
  | .authFriend request => request.fromuid
  | .textChat request => request.fromuid

def notifyReceiver : NotifyRequest → Int32
  | .addFriend request => request.touid
  | .authFriend request => request.touid
  | .textChat request => request.touid

/-- Which users an operation is about, here or, for a notification, at the peer. -/
inductive ActsOn : Role → Op → Int64 → Prop
  | cached (uid : Int64) : ActsOn .sender (.redisGet (userUidInfoKey uid)) uid
  | caches (uid : Int64) (text : String) : ActsOn .sender (.redisSet (userUidInfoKey uid) text) uid
  | profile (uid : Int64) : ActsOn .sender (.getUserInfo (.uid uid)) uid
  | applies (uid touid : Int64) : ActsOn .sender (.addFriendApply uid touid) uid
  | appliesTo (uid touid : Int64) : ActsOn .receiver (.addFriendApply uid touid) touid
  | accepts (uid touid : Int64) : ActsOn .sender (.authFriendApply uid touid) uid
  | acceptsFrom (uid touid : Int64) : ActsOn .receiver (.authFriendApply uid touid) touid
  | route (uid : Int64) : ActsOn .receiver (.redisGet (userLoginServerKey uid)) uid
  | looks (uid : Int64) : ActsOn .receiver (.getParticipant uid) uid
  | notifies (request : NotifyRequest) : ActsOn .sender (.notify request) (notifySender request).toInt64
  | notifiesTo (request : NotifyRequest) : ActsOn .receiver (.notify request) (notifyReceiver request).toInt64

/-- The session belongs to this user, as far as the handler has asked. -/
def InSession (own : Int64) (told : Ledger) : Prop := ∀ uid, Told told .uid uid → uid = own

/-- The handler asks for nothing but the user of its session, and has only errors to reply. -/
def Refused (own : Int64) (handler : Awaitable ChannelMessage) : Prop :=
  handler.Guided (fun told op => InSession own told → op = .uid)
    (fun told result => InSession own told → ∀ reply, result = .ok reply → CarriesError reply) []

/-- The handler acts on a user only where the request gives exactly this number, and a number that is no 64-bit
    integer is refused. -/
structure TakesAtFaceValue (lib : JsonLib) (msg : MsgNode) (id : MessageId) (own : Int64)
    (handler : Awaitable ChannelMessage) : Prop where
  acts : handler.Guided (fun told op => InSession own told → ∀ role uid, ActsOn role op uid →
    ∃ number, givenId lib msg id role = some number ∧ Denotes uid.toInt number) (fun _ _ => True) []
  refuses : ∀ role number, givenId lib msg id role = some number → ¬ IsInt64 number → Refused own handler

/-! ## What the handlers get -/

section Given

variable {lib : JsonLib} {msg : MsgNode}

theorem int64Field_eq (name : String) (document : Json Number) :
    int64Field name document = (numberField name document).map Number.toInt64 := by
  unfold int64Field numberField
  cases document.field? name with
  | none => rfl
  | some value => cases value <;> rfl

/-- The two users of a request are the numbers that it gives, narrowed. -/
def GivesIds (lib : JsonLib) (msg : MsgNode) (id : MessageId) (sender receiver : Int64) : Prop :=
  (givenId lib msg id .sender).map Number.toInt64 = some sender ∧
    (givenId lib msg id .receiver).map Number.toInt64 = some receiver

theorem addFriend_gives {request : AddFriendRequest}
    (parsed : parseJson lib AddFriendRequest.fromJson msg.bodyText = some request) :
    GivesIds lib msg .addFriendRequest request.uid request.touid := by
  obtain ⟨document, read, bound⟩ := Option.bind_eq_some_iff.mp parsed
  unfold AddFriendRequest.fromJson at bound
  rw [int64Field_eq, int64Field_eq] at bound
  unfold GivesIds givenId
  rw [read]
  simp only [Option.bind_some, idField]
  split at bound
  · rename_i uid touid sender receiver
    cases bound
    exact ⟨sender, receiver⟩
  · cases bound

theorem authFriend_gives {request : AuthFriendRequest}
    (parsed : parseJson lib AuthFriendRequest.fromJson msg.bodyText = some request) :
    GivesIds lib msg .authFriendRequest request.fromuid request.touid := by
  obtain ⟨document, read, bound⟩ := Option.bind_eq_some_iff.mp parsed
  unfold AuthFriendRequest.fromJson at bound
  rw [int64Field_eq, int64Field_eq] at bound
  unfold GivesIds givenId
  rw [read]
  simp only [Option.bind_some, idField]
  split at bound
  · rename_i fromuid touid sender receiver
    cases bound
    exact ⟨sender, receiver⟩
  · cases bound

theorem textChatMsg_gives {request : TextChatMsgRequest}
    (parsed : parseJson lib TextChatMsgRequest.fromJson msg.bodyText = some request) :
    GivesIds lib msg .textChatMsgReq request.fromuid request.touid := by
  obtain ⟨document, read, bound⟩ := Option.bind_eq_some_iff.mp parsed
  unfold TextChatMsgRequest.fromJson at bound
  rw [int64Field_eq, int64Field_eq] at bound
  unfold GivesIds givenId
  rw [read]
  simp only [Option.bind_some, idField]
  split at bound
  · rename_i fromuid touid texts sender receiver _
    cases bound
    exact ⟨sender, receiver⟩
  · cases bound

end Given

/-! ## What the handlers ask for -/

/-- What a request of one user about another may ask for. -/
structure AllowsRequest (allowed : Op → Prop) (sender receiver : Int64) : Prop where
  uid : allowed .uid
  add : allowed (.addFriendApply sender receiver)
  accept : allowed (.authFriendApply sender receiver)
  route : allowed (.redisGet (userLoginServerKey receiver))
  profile : allowed (.getUserInfo (.uid sender))
  name : allowed .serverName
  look : allowed (.getParticipant receiver)
  push : ∀ addr msg, allowed (.deliver addr msg)
  call : ∀ request, notifySender request = sender.toInt32 → notifyReceiver request = receiver.toInt32 →
    allowed (.notify request)

section Asks

variable {lib : JsonLib} {msg : MsgNode} {allowed : Op → Prop}

theorem forward_requests {sender receiver : Int64} (allows : AllowsRequest allowed sender receiver) (responseId : UInt32)
    (target : String) (notify : MsgNode) {request : NotifyRequest} (from_sender : notifySender request = sender.toInt32)
    (to_receiver : notifyReceiver request = receiver.toInt32) :
    (forward msg responseId receiver target notify request).AsksOnly allowed := by
  unfold forward
  simp only [Awaitable.perform, Coroutine.bind_def, Coroutine.perform_bind, Coroutine.asksOnly_call]
  refine ⟨allows.name, ?_⟩
  intro serverName
  by_cases here : target = serverName
  · rw [if_pos here]
    refine ⟨allows.look, ?_⟩
    intro targetSession
    cases targetSession with
    | none => trivial
    | some addr => exact ⟨allows.push addr _, fun _ => trivial⟩
  · rw [if_neg here]
    refine ⟨allows.call request from_sender to_receiver, ?_⟩
    intro response
    dsimp only
    split <;> trivial

theorem addFriend_requests {request : AddFriendRequest}
    (parsed : parseJson lib AddFriendRequest.fromJson msg.bodyText = some request)
    (allows : AllowsRequest allowed request.uid request.touid) : (addFriend lib msg).AsksOnly allowed := by
  unfold addFriend
  rw [parsed]
  simp only [Awaitable.perform, Coroutine.bind_def, Coroutine.perform_bind, Coroutine.asksOnly_call]
  refine ⟨allows.uid, ?_⟩
  intro uid
  split
  · trivial
  · apply (attempt_asksOnly ((Coroutine.asksOnly_perform _).mpr allows.add)).bind
    intro _
    refine ⟨allows.route, ?_⟩
    intro targetLoginServer
    cases targetLoginServer with
    | none => trivial
    | some target =>
      apply (attempt_asksOnly ((Coroutine.asksOnly_perform _).mpr allows.profile)).bind
      intro userInfo
      cases userInfo with
      | none => trivial
      | some userInfo => exact forward_requests allows _ _ _ rfl rfl

theorem authFriend_requests {request : AuthFriendRequest}
    (parsed : parseJson lib AuthFriendRequest.fromJson msg.bodyText = some request)
    (allows : AllowsRequest allowed request.fromuid request.touid) : (authFriend lib msg).AsksOnly allowed := by
  unfold authFriend
  rw [parsed]
  simp only [Awaitable.perform, Coroutine.bind_def, Coroutine.perform_bind, Coroutine.asksOnly_call]
  refine ⟨allows.uid, ?_⟩
  intro uid
  split
  · trivial
  · apply (attempt_asksOnly ((Coroutine.asksOnly_perform _).mpr allows.accept)).bind
    intro _
    refine ⟨allows.route, ?_⟩
    intro targetLoginServer
    cases targetLoginServer with
    | none => trivial
    | some target => exact forward_requests allows _ _ _ rfl rfl

theorem textChatMsg_requests {request : TextChatMsgRequest}
    (parsed : parseJson lib TextChatMsgRequest.fromJson msg.bodyText = some request)
    (allows : AllowsRequest allowed request.fromuid request.touid) : (textChatMsg lib msg).AsksOnly allowed := by
  unfold textChatMsg
  rw [parsed]
  simp only [Awaitable.perform, Coroutine.bind_def, Coroutine.perform_bind, Coroutine.asksOnly_call]
  refine ⟨allows.uid, ?_⟩
  intro uid
  split
  · trivial
  · refine ⟨allows.route, ?_⟩
    intro targetLoginServer
    cases targetLoginServer with
    | none => trivial
    | some target => exact forward_requests allows _ _ _ rfl rfl

end Asks

/-! ## A request that is accepted gets as far as the peer -/

section Reaches

variable {lib : JsonLib} {msg : MsgNode} {own : Int64} {ask : Ledger → Op → Prop}
  {post : Ledger → Except Failure ChannelMessage → Prop}

/-- Some run of the handler in a session of the user calls the peer, for these two. -/
def CallsPeer (own sender receiver : Int64) (ask : Ledger → Op → Prop) : Prop :=
  ∃ told request, InSession own told ∧ ask told (.notify request) ∧ notifySender request = sender.toInt32 ∧
    notifyReceiver request = receiver.toInt32

theorem forward_calls {responseId : UInt32} {sender touid : Int64} {target : String} {notify : MsgNode} {request : NotifyRequest}
    {told : Ledger} (guided : (forward msg responseId touid target notify request).Guided ask post told)
    (session : InSession own told) (from_sender : notifySender request = sender.toInt32)
    (to_receiver : notifyReceiver request = touid.toInt32) : CallsPeer own sender touid ask := by
  have elsewhere : ∃ name, target ≠ name := ⟨target ++ "'", fun same => by
    have sizes := congrArg String.length same
    simp at sizes⟩
  obtain ⟨name, different⟩ := elsewhere
  have named := guided.2 name
  change Coroutine.Guided ask post (if target = name then _ else _) _ at named
  rw [if_neg different] at named
  refine ⟨_, request, ?_, named.1, from_sender, to_receiver⟩
  intro uid known
  rcases List.mem_cons.mp known with same | before
  · cases same
  · exact session uid before

theorem inSession_own (own : Int64) : InSession own [⟨.uid, own⟩] := by
  intro uid known
  cases List.mem_singleton.mp known
  rfl

theorem InSession.tail {told : Ledger} (session : InSession own told) (op : Op) (answer : op.Res) (other : op ≠ .uid) :
    InSession own (⟨op, answer⟩ :: told) := by
  intro uid known
  rcases List.mem_cons.mp known with same | before
  · cases same
    exact absurd rfl other
  · exact session uid before

theorem addFriend_calls {request : AddFriendRequest}
    (parsed : parseJson lib AddFriendRequest.fromJson msg.bodyText = some request) (mine : request.uid = own)
    (other : request.uid ≠ request.touid) (guided : (addFriend lib msg).Guided ask post []) :
    CallsPeer own request.uid request.touid ask := by
  unfold addFriend at guided
  rw [parsed] at guided
  have asked := guided.2 own
  have accepted : ¬ (request.uid ≠ own ∨ request.uid = request.touid) :=
    fun refused => refused.elim (fun differs => differs mine) other
  change Coroutine.Guided ask post (if request.uid ≠ own ∨ request.uid = request.touid then _ else _) _ at asked
  rw [if_neg accepted] at asked
  have routed := (asked.2 (.ok ())).2 (some "")
  have known := routed.2 (.ok (some { id := own, name := "", email := "", pwd := "" }))
  have session := (((inSession_own own).tail (.addFriendApply request.uid request.touid) (.ok ()) nofun).tail
    (.redisGet (userLoginServerKey request.touid)) (some "") nofun).tail (.getUserInfo (.uid request.uid))
      (.ok (some { id := own, name := "", email := "", pwd := "" })) nofun
  exact forward_calls known session rfl rfl

theorem authFriend_calls {request : AuthFriendRequest}
    (parsed : parseJson lib AuthFriendRequest.fromJson msg.bodyText = some request) (mine : request.fromuid = own)
    (other : request.fromuid ≠ request.touid) (guided : (authFriend lib msg).Guided ask post []) :
    CallsPeer own request.fromuid request.touid ask := by
  unfold authFriend at guided
  rw [parsed] at guided
  have asked := guided.2 own
  have accepted : ¬ (request.fromuid ≠ own ∨ request.fromuid = request.touid) :=
    fun refused => refused.elim (fun differs => differs mine) other
  change Coroutine.Guided ask post (if request.fromuid ≠ own ∨ request.fromuid = request.touid then _ else _) _ at asked
  rw [if_neg accepted] at asked
  have routed := (asked.2 (.ok ())).2 (some "")
  have session := ((inSession_own own).tail (.authFriendApply request.fromuid request.touid) (.ok ()) nofun).tail
    (.redisGet (userLoginServerKey request.touid)) (some "") nofun
  exact forward_calls routed session rfl rfl

theorem textChatMsg_calls {request : TextChatMsgRequest}
    (parsed : parseJson lib TextChatMsgRequest.fromJson msg.bodyText = some request) (mine : request.fromuid = own)
    (other : request.fromuid ≠ request.touid) (guided : (textChatMsg lib msg).Guided ask post []) :
    CallsPeer own request.fromuid request.touid ask := by
  unfold textChatMsg at guided
  rw [parsed] at guided
  have asked := guided.2 own
  have accepted : ¬ (request.fromuid ≠ own ∨ request.fromuid = request.touid) :=
    fun refused => refused.elim (fun differs => differs mine) other
  change Coroutine.Guided ask post (if request.fromuid ≠ own ∨ request.fromuid = request.touid then _ else _) _ at asked
  rw [if_neg accepted] at asked
  have routed := asked.2 (some "")
  have session := (inSession_own own).tail (.redisGet (userLoginServerKey request.touid)) (some "") nofun
  exact forward_calls routed session rfl rfl

end Reaches

/-! ## Requests about another user -/

section Notify

variable {α : Type} {spec : Notifying α} {lib : JsonLib} {msg : MsgNode} {id : MessageId} {own : Int64}
  {handler : Awaitable ChannelMessage}

/-- The request is from the user of the session about somebody else, after both numbers have been narrowed. -/
def Passes (spec : Notifying α) (own : Int64) : Prop :=
  ∃ request, spec.parsed = some request ∧ spec.sender request = own ∧ spec.sender request ≠ spec.receiver request

theorem not_ready_of_refused {told : Ledger} {request : α} (refused : ¬ Passes spec own) (session : InSession own told)
    (accepted : spec.Accepted told request) : False :=
  refused ⟨request, accepted.parsed, session _ accepted.own, accepted.other⟩

theorem refused_of_not_passes (prepares : spec.Prepares msg [] handler) (refused : ¬ Passes spec own) : Refused own handler := by
  have keeps : ∀ (told : Ledger) (op : Op) (answer : op.Res), spec.Asks told op → True → True := fun _ _ _ _ holds => holds
  apply prepares.guided _ keeps trivial
  · intro told reply replies _ session other same
    cases same
    cases replies with
    | invalid _ => exact errorResponse_carriesError _ (by decide)
    | refused _ _ _ => exact errorResponse_carriesError _ (by decide)
    | unrouted ready _ => exact (not_ready_of_refused refused session ready.toAccepted).elim
    | unknown ready => exact (not_ready_of_refused refused session ready.toAccepted).elim
  · intro told failure _ session reply same
    cases same
  · intro told request forwarding sends _
    -- every run of the session has ended before
    have never : ∀ told', (∀ uid, Told told .uid uid → Told told' .uid uid) → ¬ InSession own told' := by
      intro told' keeps session
      exact not_ready_of_refused refused (fun uid known => session uid (keeps uid known)) sends.toAccepted
    apply forward_guided
    · exact fun session => (never told (fun _ => id) session).elim
    · exact fun session => (never _ (fun _ known => known.tail _) session).elim
    · exact fun session => (never _ (fun _ known => (known.tail _).tail _) session).elim
    · exact fun _ session => (never _ (fun _ known => (known.tail _).tail _) session).elim
    · exact fun _ session => (never _ (fun _ known => ((known.tail _).tail _).tail _) session).elim
    · exact fun _ _ session => (never _ (fun _ known => known.tail _) session).elim
    · exact fun _ _ _ _ session => (never _ (fun _ known => (known.tail _).tail _) session).elim
    · exact fun _ _ session => (never _ (fun _ known => (known.tail _).tail _) session).elim
  · intro told op asks _ session
    cases asks with
    | uid => rfl
    | statement accepted _ => exact (not_ready_of_refused refused session accepted).elim
    | route ready => exact (not_ready_of_refused refused session ready.toAccepted).elim
    | query _ ready => exact (not_ready_of_refused refused session ready.toAccepted).elim

theorem not_actsOn_uid (role : Role) (uid : Int64) : ¬ ActsOn role .uid uid := nofun

theorem atFaceValue_of_refused (refused : Refused own handler) : TakesAtFaceValue lib msg id own handler := by
  refine ⟨?_, fun _ _ _ _ => refused⟩
  apply (refused.mono fun _ _ _ => trivial).weaken
  intro told op asks session role uid acts
  rw [asks session] at acts
  exact (not_actsOn_uid role uid acts).elim

/-- A number that is a 32-bit integer is what both servers make of it. -/
theorem exact_small {number : Number} {uid : Int64} (small : IsInt32 number) (narrowed : number.toInt64 = uid) :
    Denotes uid.toInt number ∧ Denotes uid.toInt32.toInt64.toInt number := by
  obtain ⟨n, exact⟩ := small
  rw [← Int32.toInt_toInt64] at exact
  have same := (toInt64_of_denotes exact).symm.trans narrowed
  subst same
  refine ⟨exact, ?_⟩
  rwa [Int32.toInt32_toInt64]

theorem actsOn_get {role : Role} {key : String} {uid : Int64} (acts : ActsOn role (.redisGet key) uid) :
    role = .sender ∧ key = userUidInfoKey uid ∨ role = .receiver ∧ key = userLoginServerKey uid := by
  generalize same : Op.redisGet key = op at acts
  cases acts <;> cases same
  · exact .inl ⟨rfl, rfl⟩
  · exact .inr ⟨rfl, rfl⟩

theorem actsOn_notify {role : Role} {request : NotifyRequest} {uid : Int64} (acts : ActsOn role (.notify request) uid) :
    role = .sender ∧ uid = (notifySender request).toInt64 ∨ role = .receiver ∧ uid = (notifyReceiver request).toInt64 := by
  cases acts with
  | notifies => exact .inl ⟨rfl, rfl⟩
  | notifiesTo => exact .inr ⟨rfl, rfl⟩

/-- What two exact numbers allow. -/
theorem allowsRequest_exact {sender receiver : Int64} {first second : Number}
    (given : givenId lib msg id .sender = some first) (givenTo : givenId lib msg id .receiver = some second)
    (exact : Denotes sender.toInt first ∧ Denotes sender.toInt32.toInt64.toInt first)
    (exactTo : Denotes receiver.toInt second ∧ Denotes receiver.toInt32.toInt64.toInt second) :
    AllowsRequest (fun op => ∀ role uid, ActsOn role op uid →
      ∃ number, givenId lib msg id role = some number ∧ Denotes uid.toInt number) sender receiver where
  uid := fun role uid acts => (not_actsOn_uid role uid acts).elim
  add := by
    intro role uid acts
    cases acts with
    | applies => exact ⟨first, given, exact.1⟩
    | appliesTo => exact ⟨second, givenTo, exactTo.1⟩
  accept := by
    intro role uid acts
    cases acts with
    | accepts => exact ⟨first, given, exact.1⟩
    | acceptsFrom => exact ⟨second, givenTo, exactTo.1⟩
  route := by
    intro role uid acts
    rcases actsOn_get acts with ⟨_, key⟩ | ⟨rfl, key⟩
    · exact absurd key (userLoginServerKey_ne_userUidInfoKey receiver uid)
    · obtain rfl := userLoginServerKey_injective key
      exact ⟨second, givenTo, exactTo.1⟩
  profile := by
    intro role uid acts
    cases acts with
    | profile => exact ⟨first, given, exact.1⟩
  name := nofun
  look := by
    intro role uid acts
    cases acts with
    | looks => exact ⟨second, givenTo, exactTo.1⟩
  push := nofun
  call := by
    intro request from_sender to_receiver role uid acts
    rcases actsOn_notify acts with ⟨rfl, same⟩ | ⟨rfl, same⟩
    · rw [same, from_sender]
      exact ⟨first, given, exact.2⟩
    · rw [same, to_receiver]
      exact ⟨second, givenTo, exactTo.2⟩

theorem atFaceValue_iff (prepares : spec.Prepares msg [] handler)
    (gives : ∀ request, spec.parsed = some request → GivesIds lib msg id (spec.sender request) (spec.receiver request))
    (requests : ∀ request allowed, spec.parsed = some request → AllowsRequest allowed (spec.sender request) (spec.receiver request) →
      handler.AsksOnly allowed)
    (calls : ∀ request ask, spec.parsed = some request → spec.sender request = own →
      spec.sender request ≠ spec.receiver request → handler.Guided ask (fun _ _ => True) [] →
        CallsPeer own (spec.sender request) (spec.receiver request) ask) :
    TakesAtFaceValue lib msg id own handler ↔
      (Passes spec own → ∀ role number, givenId lib msg id role = some number → IsInt32 number) := by
  constructor
  · rintro exactly ⟨request, parsed, mine, other⟩ role number given
    obtain ⟨told, remote, session, acts, from_sender, to_receiver⟩ := calls request _ parsed mine other exactly.acts
    cases role with
    | sender =>
      obtain ⟨found, same, exact⟩ := acts session .sender _ (.notifies remote)
      rw [given] at same
      cases same
      exact ⟨notifySender remote, by rwa [Int32.toInt_toInt64] at exact⟩
    | receiver =>
      obtain ⟨found, same, exact⟩ := acts session .receiver _ (.notifiesTo remote)
      rw [given] at same
      cases same
      exact ⟨notifyReceiver remote, by rwa [Int32.toInt_toInt64] at exact⟩
  · intro small
    by_cases passes : Passes spec own
    · have fits := small passes
      obtain ⟨request, parsed, _, _⟩ := passes
      obtain ⟨sends, receives⟩ := gives request parsed
      obtain ⟨sender, given, narrowed⟩ := Option.map_eq_some_iff.mp sends
      obtain ⟨receiver, givenTo, narrowedTo⟩ := Option.map_eq_some_iff.mp receives
      have first := exact_small (fits .sender sender given) narrowed
      have second := exact_small (fits .receiver receiver givenTo) narrowedTo
      refine ⟨?_, ?_⟩
      · have asks := requests request _ parsed (allowsRequest_exact given givenTo first second)
        exact asks.guides (fun _ _ allowed _ => allowed) (fun _ _ => trivial)
      · intro role number known fails
        exact absurd (fits role number known).isInt64 fails
    · exact atFaceValue_of_refused (refused_of_not_passes prepares passes)

end Notify

/-! ## Searches -/

section Search

variable {lib : JsonLib} {msg : MsgNode} {own : Int64}

theorem actsOn_set {role : Role} {key text : String} {uid : Int64} (acts : ActsOn role (.redisSet key text) uid) :
    role = .sender ∧ key = userUidInfoKey uid := by
  generalize same : Op.redisSet key text = op at acts
  cases acts <;> cases same
  exact ⟨rfl, rfl⟩

/-- Who is meant by the key of a search is in the request. -/
theorem searchKey_uid {document : Json Number} (parsed : lib.parse msg.bodyText = some document) :
    (∀ number, givenId lib msg .searchUserRequest .sender = some number → searchKey lib msg = some (.uid number.toInt64)) ∧
      ∀ uid, searchKey lib msg = some (.uid uid) →
        ∃ number, givenId lib msg .searchUserRequest .sender = some number ∧ number.toInt64 = uid := by
  unfold givenId searchKey numberField
  rw [parsed]
  simp only [Option.bind_some, idField]
  cases document.field? "uid" with
  | none =>
    refine ⟨by simp, ?_⟩
    intro uid
    cases document.field? "name" with
    | none => simp
    | some name => cases name <;> simp
  | some value =>
    cases value with
    | num number => simp
    | _ =>
      refine ⟨by simp, ?_⟩
      intro uid
      cases document.field? "name" with
      | none => simp
      | some name => cases name <;> simp

theorem searchUserByType_acts {key : UserKey} (given : ∀ uid, key = .uid uid →
      ∃ number, givenId lib msg .searchUserRequest .sender = some number ∧ Denotes uid.toInt number) :
    (searchUserByType lib key).AsksOnly fun op => ∀ role uid, ActsOn role op uid →
      ∃ number, givenId lib msg .searchUserRequest role = some number ∧ Denotes uid.toInt number := by
  have named : ∀ uid, key.redisKey = userUidInfoKey uid → key = .uid uid := by
    intro uid same
    cases key with
    | uid other => rw [userUidInfoKey_injective same]
    | name name => exact absurd same (userNameInfoKey_ne_userUidInfoKey name uid)
  apply searchUserByType_asksOnly
  · intro role uid acts
    rcases actsOn_get acts with ⟨rfl, same⟩ | ⟨_, same⟩
    · exact given uid (named uid same)
    · exact absurd same.symm (userLoginServerKey_ne_redisKey uid key)
  · intro role uid acts
    cases acts with
    | profile => exact given uid rfl
  · intro text role uid acts
    obtain ⟨rfl, same⟩ := actsOn_set acts
    exact given uid (named uid same)

theorem searchUser_acts (exact : ∀ number, givenId lib msg .searchUserRequest .sender = some number → IsInt64 number) :
    (searchUser lib msg).AsksOnly fun op => ∀ role uid, ActsOn role op uid →
      ∃ number, givenId lib msg .searchUserRequest role = some number ∧ Denotes uid.toInt number := by
  rw [searchUser_eq]
  cases parsed : lib.parse msg.bodyText with
  | none => trivial
  | some document =>
    cases asked : searchKey lib msg with
    | none => trivial
    | some key =>
      have given : ∀ uid, key = .uid uid →
          ∃ number, givenId lib msg .searchUserRequest .sender = some number ∧ Denotes uid.toInt number := by
        rintro uid rfl
        obtain ⟨number, given, narrowed⟩ := (searchKey_uid parsed).2 uid asked
        obtain ⟨value, same⟩ := exact number given
        obtain rfl := (toInt64_of_denotes same).symm.trans narrowed
        exact ⟨number, given, same⟩
      apply (searchUserByType_acts given).bind
      intro response
      cases response <;> trivial

theorem searchUser_atFaceValue : TakesAtFaceValue lib msg .searchUserRequest own (searchUser lib msg) ↔
    ∀ number, givenId lib msg .searchUserRequest .sender = some number → IsInt64 number := by
  constructor
  · intro exactly number given
    obtain ⟨document, parsed, _⟩ := Option.bind_eq_some_iff.mp given
    have acts := exactly.acts
    rw [searchUser_eq, parsed, (searchKey_uid parsed).1 number given] at acts
    have session : InSession own [] := nofun
    obtain ⟨found, same, denotes⟩ := acts.1 session .sender number.toInt64 (.cached number.toInt64)
    rw [given] at same
    cases same
    exact ⟨number.toInt64, denotes⟩
  · intro exact
    refine ⟨?_, ?_⟩
    · exact (searchUser_acts exact).guides (fun _ _ allowed _ => allowed) (fun _ _ => trivial)
    · intro role number given fails
      cases role with
      | sender => exact absurd (exact number given) fails
      | receiver =>
        obtain ⟨document, _, bound⟩ := Option.bind_eq_some_iff.mp given
        cases bound

end Search

/-! ## All requests -/

/-- A search gives a 64-bit integer, if it gives a number; a request about another user that passes the check of its
    users gives two 32-bit integers, as the calls between the servers have no more. -/
def ExactIds (lib : JsonLib) (msg : MsgNode) (own : Int64) : MessageId → Prop
  | .searchUserRequest => ∀ number, givenId lib msg .searchUserRequest .sender = some number → IsInt64 number
  | .addFriendRequest => Passes (addFriendNotifies lib msg) own →
      ∀ role number, givenId lib msg .addFriendRequest role = some number → IsInt32 number
  | .authFriendRequest => Passes (authFriendNotifies lib msg) own →
      ∀ role number, givenId lib msg .authFriendRequest role = some number → IsInt32 number
  | .textChatMsgReq => Passes (textChatNotifies lib msg) own →
      ∀ role number, givenId lib msg .textChatMsgReq role = some number → IsInt32 number
  | _ => True

theorem ids_at_face_value (lib : JsonLib) (msg : MsgNode) (own : Int64) {id : MessageId}
    {handler : JsonLib → MsgNode → Awaitable ChannelMessage} (registered : handlers id = some handler)
    (request : id ≠ .loginRequest) : TakesAtFaceValue lib msg id own (handler lib msg) ↔ ExactIds lib msg own id := by
  cases id with
  | loginRequest => exact absurd rfl request
  | searchUserRequest =>
    cases registered
    exact searchUser_atFaceValue
  | addFriendRequest =>
    cases registered
    exact atFaceValue_iff (addFriend_prepares lib msg []) (fun _ => addFriend_gives) (fun _ _ => addFriend_requests)
      fun _ _ => addFriend_calls
  | authFriendRequest =>
    cases registered
    exact atFaceValue_iff (authFriend_prepares lib msg []) (fun _ => authFriend_gives) (fun _ _ => authFriend_requests)
      fun _ _ => authFriend_calls
  | textChatMsgReq =>
    cases registered
    exact atFaceValue_iff (textChatMsg_prepares lib msg []) (fun _ => textChatMsg_gives) (fun _ _ => textChatMsg_requests)
      fun _ _ => textChatMsg_calls
  | _ => cases registered

/-- A search for the user 7.5. -/
def halfLib : JsonLib := { parse := fun _ => some (.obj [("uid", .num (.float 15 (-1)))]), parseUserInfo := fun _ => none }

def halfMsg : MsgNode := MsgNode.ofText MessageId.searchUserRequest.wire "\x7b\"uid\":7.5\x7d"

/-- Also when it is asked for as 7.0. -/
def wholeLib : JsonLib := { parse := fun _ => some (.obj [("uid", .num (.float 7 0))]), parseUserInfo := fun _ => none }

theorem ids_at_face_value_whole : TakesAtFaceValue wholeLib
    (MsgNode.ofText MessageId.searchUserRequest.wire "\x7b\"uid\":7.0\x7d") .searchUserRequest 1
    (searchUser wholeLib (MsgNode.ofText MessageId.searchUserRequest.wire "\x7b\"uid\":7.0\x7d")) := by
  have registered : handlers .searchUserRequest = some searchUser := rfl
  apply (ids_at_face_value wholeLib (MsgNode.ofText MessageId.searchUserRequest.wire "\x7b\"uid\":7.0\x7d") 1 registered
    (by decide)).mpr
  intro number given
  cases given
  exact ⟨7, by decide⟩

theorem half_user_found : ¬ TakesAtFaceValue halfLib halfMsg .searchUserRequest 1 (searchUser halfLib halfMsg) := by
  intro exactly
  obtain ⟨uid, denotes⟩ := searchUser_atFaceValue.mp exactly (.float 15 (-1)) rfl
  have half : (15 : Int) = uid.toInt * 2 := by simpa [Denotes] using denotes
  omega

end ChatProof
