import ChatProject.Chat.Footprint
import ChatProject.Cluster.OwnCodes
import ChatProject.Library.Latest
import ChatProject.Status.TokenChecks

/-! Which tokens let a user in. -/

namespace ChatProof

open ChatModel

/-! ## The check of a token in the handler of a login -/

/-- The login whose handler waits for the token of its user. -/
def tokenCheck (lib : JsonLib) (session : Session) : Option UserLoginRequest :=
  match session.reader with
  | .waiting readMsg _ (.redisGet key) _ =>
    match MessageId.enumCast readMsg.id with
    | some .loginRequest =>
      (parseJson lib UserLoginRequest.fromJson readMsg.bodyText).filter fun request => key = userTokenKey request.uid
    | _ => none
  | _ => none

/-- Told of a token, the handler has something else to ask for: it does not refuse the login. -/
def goesOn (session : Session) : Bool :=
  match session.reader with
  | .resuming _ _ (.call _ _) => true
  | _ => false

theorem tokenCheck_eq_some {lib : JsonLib} {session : Session} {request : UserLoginRequest}
    (checks : tokenCheck lib session = some request) : ∃ readMsg told next,
      session.reader = .waiting readMsg told (.redisGet (userTokenKey request.uid)) next ∧
      MessageId.enumCast readMsg.id = some .loginRequest ∧
      parseJson lib UserLoginRequest.fromJson readMsg.bodyText = some request := by
  unfold tokenCheck at checks
  split at checks
  · rename_i readMsg told key next reading
    split at checks
    · rename_i kind
      obtain ⟨parsed, same⟩ := Option.filter_eq_some_iff.mp checks
      rw [decide_eq_true_eq] at same
      subst same
      exact ⟨readMsg, told, next, reading, kind, parsed⟩
    · cases checks
  · cases checks

theorem goesOn_resuming {session : Session} {readMsg : MsgNode} {told : Ledger} {rest : Awaitable ChannelMessage}
    (reading : session.reader = .resuming readMsg told rest) : goesOn session = true ↔ ∃ op next, rest = .call op next := by
  unfold goesOn
  rw [reading]
  cases rest <;> simp

theorem userTokenKey_ne_userUidInfoKey (uid other : Int64) : userTokenKey uid ≠ userUidInfoKey other :=
  append_ne_of_take 6 (by decide) (by decide) (by decide)

section Login

variable {lib : JsonLib} {msg : MsgNode} {request : UserLoginRequest}

/-- Once it has been told of a token, a login does not ask for one again. -/
theorem login_afterToken (parsed : parseJson lib UserLoginRequest.fromJson msg.bodyText = some request) :
    ∃ next, login lib msg = .call (.redisGet (userTokenKey request.uid)) next ∧
      ∀ token, (next token).AsksOnly fun op => op ≠ .redisGet (userTokenKey request.uid) := by
  have info : Op.redisGet (userUidInfoKey request.uid) ≠ .redisGet (userTokenKey request.uid) := by
    intro same
    exact userTokenKey_ne_userUidInfoKey _ _ (Op.redisGet.inj same).symm
  unfold login
  rw [parsed]
  refine ⟨_, rfl, ?_⟩
  intro token
  cases token with
  | none => trivial
  | some stored =>
    simp only [Awaitable.perform, Coroutine.bind_def, Coroutine.ret_bind]
    split
    · trivial
    · apply (searchUserByType_asksOnly lib (.uid request.uid) info (by simp) (by simp)).bind
      intro userInfo
      cases userInfo with
      | none => trivial
      | some userInfo =>
        apply (updateLoginCount_asksOnly (by simp) (by simp) (by simp)).bind
        intro _
        refine ⟨by simp, fun _ => ⟨by simp, fun _ => ⟨by simp, fun _ => ⟨by simp, fun _ => ?_⟩⟩⟩⟩
        apply (attempt_asksOnly (perform_asksOnly (by simp))).bind
        intro applyList
        apply (attempt_asksOnly (perform_asksOnly (by simp))).bind
        intro friendList
        trivial

/-- Before it asks for the token, the handler of a login has passed the gate at most. -/
theorem reaches_login {told : Ledger} {rest : Awaitable ChannelMessage} (kind : MessageId.enumCast msg.id = some .loginRequest)
    (parsed : parseJson lib UserLoginRequest.fromJson msg.bodyText = some request) (reaches : Reaches lib msg told rest) :
    rest = handleMessage lib msg ∨ rest = guarded lib msg .loginRequest login ∨
      rest.AsksOnly fun op => op ≠ .redisGet (userTokenKey request.uid) := by
  induction reaches with
  | start => exact .inl rfl
  | @answer told op next answer before ih =>
    rcases ih with first | second | later
    · cases first
      right
      dsimp only [Coroutine.ret_bind]
      split
      · right
        trivial
      · left
        rw [kind]
        rfl
    · obtain ⟨known, asks, others⟩ := login_afterToken parsed
      unfold guarded at second
      rw [asks] at second
      cases second
      right
      right
      apply (others answer).catchWith
      intro failure
      trivial
    · exact .inr (.inr (later.2 answer))

/-- The handler that waits for the token goes on exactly when it is told the token that the client has shown. -/
theorem check_goesOn {told : Ledger} {next : Option String → Awaitable ChannelMessage}
    (kind : MessageId.enumCast msg.id = some .loginRequest)
    (parsed : parseJson lib UserLoginRequest.fromJson msg.bodyText = some request)
    (reaches : Reaches lib msg told (.call (.redisGet (userTokenKey request.uid)) next)) (answer : Option String) :
    (∃ op rest, next answer = .call op rest) ↔ answer = some request.token := by
  obtain ⟨known, asks, passes⟩ := login_goes_on parsed
  rw [← passes answer]
  rcases reaches_login kind parsed reaches with first | second | later
  · cases first
  · unfold guarded at second
    rw [asks] at second
    cases second
    exact Coroutine.catchWith_calls fun _ => ⟨_, rfl⟩
  · exact absurd rfl later.1

end Login

/-! ## The tokens on their way -/

/-- The status server has made this token for this user. -/
def GivesToken (uid : Int64) (event : StatusEvent) (token : String) : Prop :=
  ∃ user, event = .generated user token ∧ user.toInt64 = uid

/-- The token that was made last for this user. -/
def LatestToken (uid : Int64) (token : String) (history : List StatusEvent) : Prop := Latest (GivesToken uid) token history

/-- The command of this call is to store this token for this user. -/
def StoresToken (server : StatusServer) (uid : Int64) (id : Nat) (token : String) : Prop :=
  ∃ request index, server.call id = some (.storing request index token) ∧ request.uid.toInt64 = uid

/-- The last of the tokens for this user that Redis has not stored yet. -/
def LastOnItsWay (server : StatusServer) (uid : Int64) (token : String) : Prop :=
  Latest (StoresToken server uid) token server.commands.reverse

section World

variable {deployment : Deployment} {weight : Collation}

/-- In this run every check of a token passes exactly with the token that was made last for its user when Redis executes the
    `GET`, and a token is made only after the check of a password. -/
structure Authentic (externals : Externals) (network : Network) (start : World deployment weight)
    (actions : List (WorldAct deployment.Member)) (after : World deployment weight) : Prop where
  passes : ∀ earlier member addr outcome later before next request, actions = earlier ++ .chat (.exec member addr outcome) :: later →
    Transition.Run (World.step externals network) start earlier before →
    before.step externals network (.chat (.exec member addr outcome)) = some next →
    tokenCheck externals.lib ((before.fleet.server member).session addr) = some request →
    (goesOn ((next.fleet.server member).session addr) = true ↔
      LatestToken request.uid request.token before.status.history)
  checked : ∀ uid token, .generated uid token ∈ after.status.history → uid ∈ after.passed

/-- No code is stored in the place of a token, and Redis stores every token that is made. A token is checked with the answer
    of Redis, and as long as another one for the same user is on its way, the client shows neither that one nor the stored one. -/
def KeepsTokens (externals : Externals) (world : World deployment weight) : WorldAct deployment.Member → Prop
  | .verify act => ∀ uid code, ¬ StoresCode world.verify act (userTokenKey uid) code
  | .status (.setToken outcome) => outcome ≠ .error
  | .chat (.exec member addr outcome) => ∀ request,
      tokenCheck externals.lib ((world.fleet.server member).session addr) = some request →
      outcome = .ok ∧ ∀ token, LastOnItsWay world.status request.uid token →
        request.token ≠ token ∧ world.redis.get (userTokenKey request.uid) ≠ some request.token
  | _ => True

/-- Whom a pending call of `GetChatServer` is for. -/
def statusUid : StatusCall → Int32
  | .counting request | .chosen request _ | .storing request _ _ => request.uid

/-- Every command is that of another call that waits for it. -/
structure SetsInOrder (server : StatusServer) : Prop where
  distinct : server.commands.Nodup
  waits : ∀ id ∈ server.commands, ∃ request index token, server.call id = some (.storing request index token)

structure TokensHeld (externals : Externals) (world : World deployment weight) : Prop where
  orderly : WellServed externals world
  inOrder : SetsInOrder world.status
  held : ∀ uid token, LatestToken uid token world.status.history ↔ LastOnItsWay world.status uid token ∨
    (∀ other, ¬ LastOnItsWay world.status uid other) ∧ world.redis.entries (userTokenKey uid) = some ⟨.string token, none⟩
  lasting : ∀ uid entry, world.redis.entries (userTokenKey uid) = some entry → ∃ token, entry = ⟨.string token, none⟩
  pending : ∀ id call, world.status.call id = some call → statusUid call ∈ world.passed
  checked : ∀ uid token, .generated uid token ∈ world.status.history → uid ∈ world.passed

end World

section Status

variable {server : StatusServer} {uid : Int64} {token : String} {id : Nat}

theorem givesToken_generated {user : Int32} {other : String} :
    GivesToken uid (.generated user token) other ↔ user.toInt64 = uid ∧ token = other := by
  unfold GivesToken
  constructor
  · rintro ⟨_, same, named⟩
    cases same
    exact ⟨named, rfl⟩
  · rintro ⟨named, rfl⟩
    exact ⟨user, rfl, named⟩

theorem latestToken_answered {response : Option GetChatServerResponse} {history : List StatusEvent} :
    LatestToken uid token (.answered id response :: history) ↔ LatestToken uid token history :=
  Latest.cons_of_none nofun

/-- The latest token, after one more has been made. -/
theorem latestToken_generated {user : Int32} {made : String} {history : List StatusEvent} :
    LatestToken uid token (.generated user made :: history) ↔
      if user.toInt64 = uid then made = token else LatestToken uid token history := by
  by_cases here : user.toInt64 = uid
  · rw [if_pos here]
    apply Latest.cons_of_one
    intro other
    simp [givesToken_generated, here]
  · rw [if_neg here]
    apply Latest.cons_of_none
    intro other
    simp [givesToken_generated, here]

theorem call_setCall {other : Nat} {call : Option StatusCall} {known : StatusCall}
    (there : (server.setCall id call).call other = some known) :
    call = some known ∨ server.call other = some known := by
  have updated : Function.update server.call id call other = some known := there
  by_cases same : other = id
  · subst same
    rw [Function.update_self] at updated
    exact .inl updated
  · rw [Function.update_of_ne same] at updated
    exact .inr updated

theorem setCall_call_other {other : Nat} (different : other ≠ id) (call : Option StatusCall) :
    (server.setCall id call).call other = server.call other := Function.update_of_ne different _ _

/-- A call that does not wait for its command has none. -/
theorem SetsInOrder.not_mem (inOrder : SetsInOrder server) (free : ∀ request index token, server.call id ≠ some (.storing request index token)) :
    id ∉ server.commands := by
  intro member
  obtain ⟨request, index, token, waits⟩ := inOrder.waits id member
  exact free request index token waits

theorem SetsInOrder.setCall (inOrder : SetsInOrder server) (outside : id ∉ server.commands) (call : Option StatusCall) :
    SetsInOrder (server.setCall id call) := by
  refine ⟨inOrder.distinct, ?_⟩
  intro other member
  have different : other ≠ id := fun same => outside (same ▸ member)
  rw [setCall_call_other different]
  exact inOrder.waits other member

/-- What other calls wait for. -/
theorem storesToken_setCall {other : Nat} (different : other ≠ id) (call : Option StatusCall) :
    StoresToken (server.setCall id call) uid other token ↔ StoresToken server uid other token := by
  unfold StoresToken
  rw [setCall_call_other different]

theorem latest_setCall {commands : List Nat} (outside : id ∉ commands) (call : Option StatusCall) :
    Latest (StoresToken (server.setCall id call) uid) token commands.reverse ↔
      Latest (StoresToken server uid) token commands.reverse := by
  apply Latest.congr
  intro other member value
  have different : other ≠ id := fun same => outside (same ▸ List.mem_reverse.mp member)
  exact storesToken_setCall different call

theorem storesToken_self {request : GetChatServerRequest} {index : Int32} {made : String}
    (waits : server.call id = some (.storing request index made)) :
    StoresToken server uid id token ↔ request.uid.toInt64 = uid ∧ made = token := by
  unfold StoresToken
  rw [waits]
  constructor
  · rintro ⟨_, _, same, named⟩
    cases same
    exact ⟨named, rfl⟩
  · rintro ⟨named, rfl⟩
    exact ⟨request, index, rfl, named⟩

/-- The token that has just been made is the last on its way. -/
theorem lastOnItsWay_uuid {request : GetChatServerRequest} {index : Int32} {made : String} {history : List StatusEvent}
    (outside : id ∉ server.commands) :
    LastOnItsWay { server.setCall id (some (.storing request index made)) with commands := server.commands ++ [id], history } uid token ↔
      if request.uid.toInt64 = uid then made = token else LastOnItsWay server uid token := by
  have waits : (server.setCall id (some (.storing request index made))).call id = some (.storing request index made) :=
    Function.update_self _ _ _
  show Latest (StoresToken (server.setCall id _) uid) token (server.commands ++ [id]).reverse ↔ _
  rw [List.reverse_append, List.reverse_singleton, List.singleton_append]
  by_cases here : request.uid.toInt64 = uid
  · rw [if_pos here]
    apply Latest.cons_of_one
    intro other
    simp [storesToken_self waits, here]
  · rw [if_neg here]
    refine (Latest.cons_of_none ?_).trans (latest_setCall outside _)
    intro other
    simp [storesToken_self waits, here]

/-- The last token on its way, when the first of them has not been stored yet. -/
theorem lastOnItsWay_first {commands : List Nat} {request : GetChatServerRequest} {index : Int32} {made : String}
    (inOrder : SetsInOrder server) (first : server.commands = id :: commands)
    (waits : server.call id = some (.storing request index made)) (history : List StatusEvent) :
    LastOnItsWay server uid token ↔ LastOnItsWay { server.setCall id none with commands, history } uid token ∨
      (∀ other, ¬ LastOnItsWay { server.setCall id none with commands, history } uid other) ∧
        request.uid.toInt64 = uid ∧ made = token := by
  have outside : id ∉ commands := (List.nodup_cons.mp (first ▸ inOrder.distinct)).1
  have rest : ∀ other, LastOnItsWay { server.setCall id none with commands, history } uid other ↔
      Latest (StoresToken server uid) other commands.reverse := fun other => latest_setCall outside none
  have single : Latest (StoresToken server uid) token [id] ↔ request.uid.toInt64 = uid ∧ made = token := by
    rw [Latest.cons_iff, storesToken_self waits]
    simp [Latest.not_nil]
  simp only [rest]
  unfold LastOnItsWay
  rw [first, List.reverse_cons, Latest.append_iff, single]

end Status

section Steps

variable {deployment : Deployment} {weight : Collation} {externals : Externals} {network : Network}
  {world after : World deployment weight}

/-- The entry of a token is left alone by the verification service. -/
theorem served_tokenEntry {server : VerifyServer} {redis later : Redis} {act : VerifyAct} {history : List VerifyEvent}
    (served : Served server redis act (history, later))
    (keeps : ∀ uid code, ¬ StoresCode server act (userTokenKey uid) code) (uid : Int64) :
    later.entries (userTokenKey uid) = redis.entries (userTokenKey uid) := by
  cases served with
  | stored email code response made stores answer =>
    apply Redis.entries_setex_other
    intro same
    subst same
    exact keeps uid code stores
  | _ => rfl

theorem TokensHeld.start (externals : Externals) (users : UserTable weight) (db : Tables) :
    TokensHeld externals (.start deployment users db) := by
  have none : ∀ uid token, ¬ LastOnItsWay (World.start deployment users db).status uid token := fun _ _ => Latest.not_nil
  refine ⟨WellServed.start externals users db, ⟨List.nodup_nil, List.forall_mem_nil _⟩, ?_, ?_, ?_, ?_⟩
  · intro uid token
    refine iff_of_false Latest.not_nil ?_
    rintro (pending | ⟨_, stored⟩)
    · exact none uid token pending
    · cases stored
  · intro uid entry absent
    cases absent
  · intro id call absent
    cases absent
  · intro uid token absent
    cases absent

/-- A call that waits for nothing yet begins, or goes on. -/
theorem TokensHeld.setCall (tokens : TokensHeld externals world) {id : Nat} {call : StatusCall} {passed : List Int32}
    (outside : id ∉ world.status.commands) (begun : statusUid call ∈ passed) (more : world.passed ⊆ passed) :
    TokensHeld externals { world with status := world.status.setCall id (some call), passed } := by
  have pending : ∀ uid token, LastOnItsWay (world.status.setCall id (some call)) uid token ↔ LastOnItsWay world.status uid token :=
    fun uid token => latest_setCall outside _
  refine ⟨⟨tokens.orderly.traced, tokens.orderly.staged⟩, tokens.inOrder.setCall outside _, ?_, tokens.lasting, ?_, ?_⟩
  · intro uid token
    simp only [pending]
    exact tokens.held uid token
  · intro other known there
    rcases call_setCall there with same | before
    · cases same
      exact begun
    · exact more (tokens.pending other known before)
  · intro uid token made
    exact more (tokens.checked uid token made)

/-- Redis and the verification service have gone on, but not where tokens are. -/
theorem TokensHeld.elsewhere (tokens : TokensHeld externals world) (orderly : WellServed externals after)
    (status : after.status = world.status) (passed : after.passed = world.passed)
    (kept : ∀ uid, after.redis.entries (userTokenKey uid) = world.redis.entries (userTokenKey uid)) : TokensHeld externals after := by
  refine ⟨orderly, ?_, ?_, ?_, ?_, ?_⟩
  · rw [status]
    exact tokens.inOrder
  · intro uid token
    rw [kept, status]
    exact tokens.held uid token
  · intro uid entry
    rw [kept]
    exact tokens.lasting uid entry
  · rw [status, passed]
    exact tokens.pending
  · rw [status, passed]
    exact tokens.checked

theorem TokensHeld.uuid (tokens : TokensHeld externals world) {id : Nat} {request : GetChatServerRequest} {index : Int32}
    (token : String) (chosen : world.status.call id = some (.chosen request index)) :
    TokensHeld externals { world with status := { world.status.setCall id (some (.storing request index token)) with
      commands := world.status.commands ++ [id], history := .generated request.uid token :: world.status.history } } := by
  have outside : id ∉ world.status.commands := by
    apply tokens.inOrder.not_mem
    intro _ _ _ storing
    cases chosen.symm.trans storing
  have begun := tokens.pending id _ chosen
  refine ⟨⟨tokens.orderly.traced, tokens.orderly.staged⟩, ?_, ?_, tokens.lasting, ?_, ?_⟩
  · have inOrder := tokens.inOrder.setCall outside (some (.storing request index token))
    refine ⟨List.nodup_append.mpr ⟨inOrder.distinct, by simp, ?_⟩, ?_⟩
    · rintro first member second here rfl
      exact outside (List.mem_singleton.mp here ▸ member)
    · intro other member
      rcases List.mem_append.mp member with before | new
      · exact inOrder.waits other before
      · rw [List.mem_singleton.mp new]
        exact ⟨request, index, token, Function.update_self _ _ _⟩
  · intro uid other
    simp only [latestToken_generated, lastOnItsWay_uuid outside]
    by_cases here : request.uid.toInt64 = uid
    · simp only [if_pos here]
      constructor
      · exact .inl
      · rintro (same | ⟨none, _⟩)
        · exact same
        · exact absurd rfl (none token)
    · simp only [if_neg here]
      exact tokens.held uid other
  · intro other call there
    rcases call_setCall there with same | before
    · cases same
      exact begun
    · exact tokens.pending other call before
  · intro uid other made
    rcases List.mem_cons.mp made with same | before
    · cases same
      exact begun
    · exact tokens.checked uid other before

theorem TokensHeld.setToken (tokens : TokensHeld externals world) {id : Nat} {commands : List Nat} {token : String} {outcome : Outcome}
    {request : GetChatServerRequest} {index : Int32} (response : Option GetChatServerResponse) (stores : outcome ≠ .error)
    (first : world.status.commands = id :: commands) (waits : world.status.call id = some (.storing request index token)) :
    TokensHeld externals { world.setRedis (RedisClient.set (StatusService.tokenKey request.uid) token outcome world.redis).2 with
      status := { world.status.setCall id none with commands, history := .answered id response :: world.status.history } } := by
  have stored : (RedisClient.set (StatusService.tokenKey request.uid) token outcome world.redis).2 =
      world.redis.set (userTokenKey request.uid.toInt64) token := by
    rw [tokenKey_eq]
    cases outcome with
    | ok => rfl
    | lost => rfl
    | error => exact absurd rfl stores
  rw [stored]
  have here : (world.redis.set (userTokenKey request.uid.toInt64) token).entries (userTokenKey request.uid.toInt64) =
      some ⟨.string token, none⟩ := if_pos rfl
  have others : ∀ uid, request.uid.toInt64 ≠ uid → (world.redis.set (userTokenKey request.uid.toInt64) token).entries
      (userTokenKey uid) = world.redis.entries (userTokenKey uid) :=
    fun uid different => if_neg fun same => different (userTokenKey_injective same).symm
  obtain ⟨outside, distinct⟩ := List.nodup_cons.mp (first ▸ tokens.inOrder.distinct)
  refine ⟨⟨tokens.orderly.traced, tokens.orderly.staged⟩, ⟨distinct, ?_⟩, ?_, ?_, ?_, ?_⟩
  · intro other member
    have different : other ≠ id := fun same => outside (same ▸ member)
    have before : other ∈ world.status.commands := first ▸ List.mem_cons_of_mem _ member
    show ∃ request index token, (world.status.setCall id none).call other = some (.storing request index token)
    rw [setCall_call_other different]
    exact tokens.inOrder.waits other before
  · intro uid other
    have before : ∀ other, LastOnItsWay world.status uid other ↔ _ :=
      fun other => lastOnItsWay_first tokens.inOrder first waits (.answered id response :: world.status.history)
    rw [latestToken_answered, tokens.held uid other]
    by_cases same : request.uid.toInt64 = uid
    · subst same
      -- the command of this call was on its way for the user, so Redis had no say
      have entry : (world.redis.set (userTokenKey request.uid.toInt64) token).entries (userTokenKey request.uid.toInt64) =
          some ⟨.string other, none⟩ ↔ token = other := by simp [here]
      show _ ↔ _ ∨ _ ∧ (world.redis.set (userTokenKey request.uid.toInt64) token).entries _ = _
      rw [entry]
      simp only [before]
      constructor
      · rintro ((later | ⟨none, _, made⟩) | ⟨silent, _⟩)
        · exact .inl later
        · exact .inr ⟨none, made⟩
        · have none := fun other later => silent other (.inl later)
          exact absurd (.inr ⟨none, trivial, rfl⟩) (silent token)
      · rintro (later | ⟨none, made⟩)
        · exact .inl (.inl later)
        · exact .inl (.inr ⟨none, trivial, made⟩)
    · show _ ↔ _ ∨ _ ∧ (world.redis.set (userTokenKey request.uid.toInt64) token).entries _ = _
      rw [others uid same]
      simp only [before, same, false_and, and_false, or_false]
  · intro uid entry there
    by_cases same : request.uid.toInt64 = uid
    · subst same
      exact ⟨token, Option.some.inj (there.symm.trans here)⟩
    · exact tokens.lasting uid entry ((others uid same).symm.trans there)
  · intro other call there
    rcases call_setCall there with same | before
    · cases same
    · exact tokens.pending other call before
  · intro uid other made
    rcases List.mem_cons.mp made with same | before
    · cases same
    · exact tokens.checked uid other before

end Steps

section Steps

variable {deployment : Deployment} {weight : Collation} {externals : Externals} {network : Network}
  {world after : World deployment weight}

theorem TokensHeld.step (tokens : TokensHeld externals world) {act : WorldAct deployment.Member} (keeps : KeepsTokens externals world act)
    (taken : world.step externals network act = some after) : TokensHeld externals after := by
  have orderly := tokens.orderly.step taken
  cases world_steps tokens.orderly taken with
  | chat act after _ verify status passed _ entries =>
    exact tokens.elsewhere orderly status passed fun uid => entries _ (userTokenKey_not_chatKey uid)
  | gate act after _ verify status passed redis =>
    exact tokens.elsewhere orderly status passed fun uid => by rw [redis]
  | login id body checking request free =>
    refine tokens.setCall ?_ List.mem_cons_self (List.subset_cons_self _ _)
    apply tokens.inOrder.not_mem
    intro _ _ _ storing
    cases free.symm.trans storing
  | refused id body checking => exact tokens
  | verify act server redis stepped =>
    obtain ⟨_, served⟩ := step_served tokens.orderly.staged stepped
    exact tokens.elsewhere orderly rfl rfl (served_tokenEntry served keeps)
  | count id outcome request index waits =>
    refine tokens.setCall ?_ (tokens.pending id (.counting request) waits) (List.Subset.refl _)
    apply tokens.inOrder.not_mem
    intro _ _ _ storing
    cases waits.symm.trans storing
  | uuid id token request index chosen => exact tokens.uuid token chosen
  | setToken id commands token outcome request index response first waits => exact tokens.setToken response keeps first waits
  | tick seconds => exact tokens.elsewhere orderly rfl rfl fun _ => rfl

/-- The entry that a token has, and what a `GET` gives. -/
theorem TokensHeld.get_iff (tokens : TokensHeld externals world) (uid : Int64) (token : String) :
    world.redis.get (userTokenKey uid) = some token ↔ world.redis.entries (userTokenKey uid) = some ⟨.string token, none⟩ := by
  constructor
  · intro found
    obtain ⟨expireAt, entry⟩ := Redis.entry_of_get found
    obtain ⟨stored, same⟩ := tokens.lasting uid _ entry
    cases same
    exact entry
  · intro entry
    simp [Redis.get, Redis.lookup, entry]

/-- The handler that checks a token goes on as Redis answers. -/
theorem world_check (orderly : WellServed externals world) {member : deployment.Member} {addr : Addr} {outcome : Outcome}
    {request : UserLoginRequest} (checks : tokenCheck externals.lib ((world.fleet.server member).session addr) = some request)
    (taken : world.step externals network (.chat (.exec member addr outcome)) = some after) :
    goesOn ((after.fleet.server member).session addr) = true ↔
      (RedisClient.get (userTokenKey request.uid) outcome world.redis).1 = some request.token := by
  obtain ⟨readMsg, told, next, reading, kind, parsed⟩ := tokenCheck_eq_some checks
  have waits : ((world.fleet.server member).session addr).reader.task =
      some (readMsg, told, .call (.redisGet (userTokenKey request.uid)) next) := by
    rw [reading]
    rfl
  have passes := check_goesOn kind parsed ((orderly.traced member).suspended waits)
  rw [← passes]
  obtain ⟨fleet, stepped, same⟩ := Option.map_eq_some_iff.mp taken
  subst same
  simp only [Fleet.step, reading] at stepped
  obtain ⟨middle, first, same⟩ := Option.map_eq_some_iff.mp stepped
  obtain ⟨server, answered, there⟩ := fleet_serverStep first
  simp only [ChatServer.step, reading] at answered
  cases answered
  rw [← same, ← there]
  simp only [fleet_setServer_self, ChatServer.setReader, ChatServer.modify_session_self]
  exact goesOn_resuming rfl

theorem TokensHeld.passes (tokens : TokensHeld externals world) {member : deployment.Member} {addr : Addr} {outcome : Outcome}
    {request : UserLoginRequest} (keeps : KeepsTokens externals world (.chat (.exec member addr outcome)))
    (checks : tokenCheck externals.lib ((world.fleet.server member).session addr) = some request)
    (taken : world.step externals network (.chat (.exec member addr outcome)) = some after) :
    goesOn ((after.fleet.server member).session addr) = true ↔
      LatestToken request.uid request.token world.status.history := by
  obtain ⟨same, away⟩ := keeps request checks
  subst same
  have answered : (RedisClient.get (userTokenKey request.uid) .ok world.redis).1 = world.redis.get (userTokenKey request.uid) := rfl
  rw [world_check tokens.orderly checks taken, answered, tokens.held]
  by_cases pending : ∃ token, LastOnItsWay world.status request.uid token
  · obtain ⟨token, last⟩ := pending
    refine iff_of_false (away token last).2 ?_
    rintro (own | ⟨none, _⟩)
    · exact (away request.token own).1 rfl
    · exact none token last
  · have none : ∀ token, ¬ LastOnItsWay world.status request.uid token := fun token last => pending ⟨token, last⟩
    rw [tokens.get_iff]
    simp [none]

end Steps

theorem token_check_is_authentic (deployment : Deployment) {weight : Collation} (externals : Externals) (network : Network)
    (users : UserTable weight) (db : Tables) (actions : List (WorldAct deployment.Member)) (after : World deployment weight)
    (run : Transition.Run (World.step externals network) (.start deployment users db) actions after)
    (keeps : Transition.Meets (World.step externals network) (KeepsTokens externals) (.start deployment users db) actions) :
    Authentic externals network (.start deployment users db) actions after := by
  have step : ∀ (world : World deployment weight) act after, TokensHeld externals world → KeepsTokens externals world act →
      world.step externals network act = some after → TokensHeld externals after :=
    fun _ _ _ tokens keeps taken => tokens.step keeps taken
  have start : TokensHeld externals (.start deployment users db) := TokensHeld.start externals users db
  constructor
  · intro earlier member addr outcome later before next request same first taken checks
    subst same
    have tokens := first.invariant_of_meets step keeps.append_left start
    exact tokens.passes (keeps.at_step first) checks taken
  · exact (run.invariant_of_meets step keeps start).checked

namespace Sample

def userLoginText : String := "\x7b\"user\":\"nina\",\"passwd\":\"secret\"\x7d"

/-- User 9 has two bodies to send: one for the gate server, one with his token for a chat server. -/
def nineExternals : Externals :=
  externals [(userLoginText, .obj [("passwd", .str "secret"), ("user", .str "nina")]), loginBody 9 "7f3c"]

def nina : UserTable id :=
  { rows := [{ id := 9, name := "nina", email := "nina@example.com", pwd := "secret" }], nextId := 10,
    primary := by decide, uniqueName := by decide, uniqueEmail := by decide }

def startOfNina : World (deployed 2) id := .start (deployed 2) nina {}

def ninaLogsIn : List (WorldAct (deployed 2).Member) :=
  [.login 0 (bytesOf userLoginText) .answered, .status (.count 0 .ok), .status (.uuid 0 "7f3c"), .status (.setToken .ok)]

/-- A second login, whose token Redis has not stored yet. -/
def ninaAgain : List (WorldAct (deployed 2).Member) :=
  [.login 0 (bytesOf userLoginText) .answered, .status (.count 0 .ok), .status (.uuid 0 "9b1e")]

/-- User 9 shows this token to the first chat server, up to the call that asks Redis for his own. -/
def sendsToken : List (WorldAct (deployed 2).Member) :=
  (connectTo firstOfTwo 1 [(.loginRequest, loginBody 9 "7f3c")] ++ frameOf firstOfTwo 1 0).map .chat

def tokenIsRead : FleetAct (deployed 2).Member := .exec firstOfTwo 1 .ok

/-- The handler is about to be told of a token, and then goes on. -/
def letsIn (before : World (deployed 2) id) : Bool :=
  tokenCheck nineExternals.lib ((before.fleet.server firstOfTwo).session 1) = some { uid := 9, token := "7f3c" } &&
    (before.step nineExternals network (.chat tokenIsRead)).any fun next => goesOn ((next.fleet.server firstOfTwo).session 1)

/-- No code is stored at all, and while a token is checked none is on its way. -/
def quiet (world : World (deployed 2) id) : WorldAct (deployed 2).Member → Bool
  | .verify _ => false
  | .status (.setToken outcome) => outcome ≠ .error
  | .chat (.exec _ _ outcome) => outcome = .ok && world.status.commands.isEmpty
  | _ => true

end Sample

theorem keepsTokens_of_quiet (world : World (Sample.deployed 2) id) (act : WorldAct (Sample.deployed 2).Member)
    (quiet : Sample.quiet world act = true) : KeepsTokens Sample.nineExternals world act := by
  cases act with
  | verify act => cases quiet
  | status act =>
    cases act with
    | setToken outcome =>
      rintro rfl
      cases quiet
    | _ => trivial
  | chat act =>
    cases act with
    | exec member addr outcome =>
      obtain ⟨answered, none⟩ := Bool.and_eq_true_iff.mp quiet
      intro request checks
      refine ⟨of_decide_eq_true answered, ?_⟩
      intro token last
      unfold LastOnItsWay at last
      rw [List.isEmpty_iff.mp none] at last
      exact absurd last Latest.not_nil
    | _ => trivial
  | _ => trivial

/-- Where a token that is not the latest opens the session. -/
theorem letsIn_not_authentic {actions : List (WorldAct (Sample.deployed 2).Member)} {before : World (Sample.deployed 2) id}
    (run : Transition.Run (World.step Sample.nineExternals Sample.network) Sample.startOfNina actions before)
    (letsIn : Sample.letsIn before = true) (old : ¬ LatestToken 9 "7f3c" before.status.history) :
    ∃ after, Transition.Run (World.step Sample.nineExternals Sample.network) Sample.startOfNina
        (actions ++ [.chat Sample.tokenIsRead]) after ∧
      ¬ Authentic Sample.nineExternals Sample.network Sample.startOfNina (actions ++ [.chat Sample.tokenIsRead]) after := by
  obtain ⟨checks, passes⟩ := Bool.and_eq_true_iff.mp letsIn
  obtain ⟨next, taken, goes⟩ := (Option.any_eq_true _ _).mp passes
  refine ⟨next, run.append (.single taken), ?_⟩
  intro authentic
  exact old ((authentic.passes actions Sample.firstOfTwo 1 .ok [] before next _ rfl run taken (of_decide_eq_true checks)).mp goes)

theorem token_check_is_authentic_nina : ∃ before after,
    Transition.Run (World.step Sample.nineExternals Sample.network) Sample.startOfNina (Sample.ninaLogsIn ++ Sample.sendsToken) before ∧
      Sample.letsIn before = true ∧
      Transition.Run (World.step Sample.nineExternals Sample.network) Sample.startOfNina
        ((Sample.ninaLogsIn ++ Sample.sendsToken) ++ [.chat Sample.tokenIsRead]) after ∧
      Authentic Sample.nineExternals Sample.network Sample.startOfNina
        ((Sample.ninaLogsIn ++ Sample.sendsToken) ++ [.chat Sample.tokenIsRead]) after := by
  have possible : ((Transition.runs (World.step Sample.nineExternals Sample.network) Sample.startOfNina
      (Sample.ninaLogsIn ++ Sample.sendsToken)).any Sample.letsIn) = true := by decide +kernel
  obtain ⟨before, reached, letsIn⟩ := (Option.any_eq_true _ _).mp possible
  have run := Transition.run_iff_runs.mpr reached
  obtain ⟨after, taken, _⟩ := (Option.any_eq_true _ _).mp (Bool.and_eq_true_iff.mp letsIn).2
  have whole := run.append (.single taken)
  refine ⟨before, after, run, letsIn, whole, ?_⟩
  apply token_check_is_authentic (Sample.deployed 2) Sample.nineExternals Sample.network Sample.nina {} _ after whole
  have quiet : Transition.Meets (World.step Sample.nineExternals Sample.network) (fun world act => Sample.quiet world act = true)
      Sample.startOfNina ((Sample.ninaLogsIn ++ Sample.sendsToken) ++ [.chat Sample.tokenIsRead]) := by decide +kernel
  exact quiet.mono keepsTokens_of_quiet

/-- Whoever shows the token that Redis still has is let in, when the next one has been made already. -/
theorem stored_token_lets_in : ∃ after,
    Transition.Run (World.step Sample.nineExternals Sample.network) Sample.startOfNina
        ((Sample.ninaLogsIn ++ Sample.ninaAgain ++ Sample.sendsToken) ++ [.chat Sample.tokenIsRead]) after ∧
      ¬ Authentic Sample.nineExternals Sample.network Sample.startOfNina
        ((Sample.ninaLogsIn ++ Sample.ninaAgain ++ Sample.sendsToken) ++ [.chat Sample.tokenIsRead]) after := by
  have possible : ((Transition.runs (World.step Sample.nineExternals Sample.network) Sample.startOfNina
      (Sample.ninaLogsIn ++ Sample.ninaAgain ++ Sample.sendsToken)).any
        fun before => Sample.letsIn before && decide (before.status.history.head? = some (.generated 9 "9b1e"))) = true := by decide +kernel
  obtain ⟨before, reached, found⟩ := (Option.any_eq_true _ _).mp possible
  obtain ⟨letsIn, last⟩ := Bool.and_eq_true_iff.mp found
  apply letsIn_not_authentic (Transition.run_iff_runs.mpr reached) letsIn
  obtain ⟨older, same⟩ := List.head?_eq_some_iff.mp (of_decide_eq_true last)
  rw [same, latestToken_generated, if_pos (by decide)]
  decide

/-- Whoever asks for a code for `user_token_9` is let in as user 9 with it. -/
theorem verify_code_lets_in : (∃ after,
    Transition.Run (World.step Sample.nineExternals Sample.network) Sample.startOfNina
        ((Sample.codeFor "user_token_9" ++ Sample.sendsToken) ++ [.chat Sample.tokenIsRead]) after ∧
      ¬ Authentic Sample.nineExternals Sample.network Sample.startOfNina
        ((Sample.codeFor "user_token_9" ++ Sample.sendsToken) ++ [.chat Sample.tokenIsRead]) after) ∧
    ∃ after,
    Transition.Run (World.step Sample.nineExternals Sample.network) Sample.startOfNina
        ((Sample.ninaLogsIn ++ Sample.ninaAgain ++ Sample.sendsToken) ++ [.chat Sample.tokenIsRead]) after ∧
      ¬ Authentic Sample.nineExternals Sample.network Sample.startOfNina
        ((Sample.ninaLogsIn ++ Sample.ninaAgain ++ Sample.sendsToken) ++ [.chat Sample.tokenIsRead]) after := by
  refine ⟨?_, stored_token_lets_in⟩
  have possible : ((Transition.runs (World.step Sample.nineExternals Sample.network) Sample.startOfNina
      (Sample.codeFor "user_token_9" ++ Sample.sendsToken)).any
        fun before => Sample.letsIn before && before.status.history.isEmpty) = true := by decide +kernel
  obtain ⟨before, reached, found⟩ := (Option.any_eq_true _ _).mp possible
  obtain ⟨letsIn, none⟩ := Bool.and_eq_true_iff.mp found
  apply letsIn_not_authentic (Transition.run_iff_runs.mpr reached) letsIn
  rw [List.isEmpty_iff.mp none]
  exact Latest.not_nil

end ChatProof
