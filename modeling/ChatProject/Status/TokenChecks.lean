import ChatProject.Status.StatusService
import ChatProject.Chat.Handlers

/-! The same token, checked by the status server and by a chat server. -/

namespace ChatProof

open ChatModel

/-- The login handler of a chat server, told what Redis holds under the key it asks for first, goes on. -/
def PassesTokenCheck (lib : JsonLib) (msg : MsgNode) (outcome : Outcome) (redis : Redis) : Prop :=
  ∃ key next op rest, login lib msg = .call (.redisGet key) next ∧
    next (RedisClient.get key outcome redis).1 = .call op rest

/-- The status server lets a client in when the chat server would, and gives away the token only then. -/
structure TokenChecksAgree (lib : JsonLib) (msg : MsgNode) (request : LoginRequest) (outcome : Outcome)
    (redis : Redis) : Prop where
  success : (StatusService.login request outcome redis).1.error = GrpcErrorCode.success.code ↔
    PassesTokenCheck lib msg outcome redis
  returned : ∀ stored, (RedisClient.get (StatusService.tokenKey request.uid) outcome redis).1 = some stored →
    (StatusService.login request outcome redis).1.token = stored → PassesTokenCheck lib msg outcome redis

/-- Both services build the same key. -/
theorem tokenKey_eq (uid : Int32) : StatusService.tokenKey uid = userTokenKey uid.toInt64 := by
  unfold StatusService.tokenKey userTokenKey toString64
  rw [Int32.toInt_toInt64]

/-- The handler goes on past its first call exactly where that gives it the token of the request. -/
theorem login_goes_on {lib : JsonLib} {msg : MsgNode} {request : UserLoginRequest}
    (parsed : parseJson lib UserLoginRequest.fromJson msg.bodyText = some request) :
    ∃ next, login lib msg = .call (.redisGet (userTokenKey request.uid)) next ∧
      ∀ answer, (∃ op rest, next answer = .call op rest) ↔ answer = some request.token := by
  unfold login
  rw [parsed]
  refine ⟨_, rfl, ?_⟩
  intro answer
  cases answer with
  | none =>
    constructor
    · rintro ⟨op, rest, goesOn⟩
      cases goesOn
    · intro same
      cases same
  | some stored =>
    by_cases same : stored = request.token
    · subst same
      refine iff_of_true ⟨.redisGet (userUidInfoKey request.uid), ?_⟩ rfl
      simp only [Coroutine.ret_bind, ne_eq, not_true_eq_false, if_false]
      exact ⟨_, rfl⟩
    · simp [same]

theorem passesTokenCheck_iff {lib : JsonLib} {msg : MsgNode} {request : UserLoginRequest}
    (parsed : parseJson lib UserLoginRequest.fromJson msg.bodyText = some request) (outcome : Outcome) (redis : Redis) :
    PassesTokenCheck lib msg outcome redis ↔
      (RedisClient.get (userTokenKey request.uid) outcome redis).1 = some request.token := by
  obtain ⟨next, asks, goesOn⟩ := login_goes_on parsed
  unfold PassesTokenCheck
  rw [asks, ← goesOn]
  constructor
  · rintro ⟨key, _, op, rest, same, going⟩
    cases same
    exact ⟨op, rest, going⟩
  · rintro ⟨op, rest, going⟩
    exact ⟨_, next, op, rest, rfl, going⟩

theorem login_response (request : LoginRequest) (outcome : Outcome) (redis : Redis) :
    ((StatusService.login request outcome redis).1.error = GrpcErrorCode.success.code ↔
      ∃ stored, (RedisClient.get (StatusService.tokenKey request.uid) outcome redis).1 = some stored) := by
  unfold StatusService.login
  cases found : (RedisClient.get (StatusService.tokenKey request.uid) outcome redis).1 with
  | none => simp [found, GrpcErrorCode.code]
  | some stored => simp [found]

/-- Someone who knows that user 7 has logged in presents a token of his own. -/
def guessLib : JsonLib :=
  { parse := fun _ => some (.obj [("uid", .num (.int 7)), ("token", .str "guess")]), parseUserInfo := fun _ => none }

def guessMsg : MsgNode :=
  MsgNode.ofText MessageId.loginRequest.wire "\x7b\"uid\":7,\"token\":\"guess\"\x7d"

def guessRequest : LoginRequest := { uid := 7, token := "guess" }

theorem guess_parsed : parseJson guessLib UserLoginRequest.fromJson guessMsg.bodyText =
    some { uid := guessRequest.uid.toInt64, token := guessRequest.token } := rfl

theorem tokenChecksAgree_iff (lib : JsonLib) (msg : MsgNode) (request : LoginRequest) (outcome : Outcome) (redis : Redis)
    (parsed : parseJson lib UserLoginRequest.fromJson msg.bodyText =
      some { uid := request.uid.toInt64, token := request.token }) :
    TokenChecksAgree lib msg request outcome redis ↔
      ∀ stored, (RedisClient.get (StatusService.tokenKey request.uid) outcome redis).1 = some stored →
        stored = request.token := by
  have passes := passesTokenCheck_iff parsed outcome redis
  have answers := login_response request outcome redis
  have key := tokenKey_eq request.uid
  dsimp only at passes
  rw [← key] at passes
  constructor
  · intro agree stored found
    have let_in := agree.success.mp (answers.mpr ⟨stored, found⟩)
    have presented := found.symm.trans (passes.mp let_in)
    exact Option.some.inj presented
  · intro same
    have whole : (∃ stored, (RedisClient.get (StatusService.tokenKey request.uid) outcome redis).1 = some stored) ↔
        PassesTokenCheck lib msg outcome redis := by
      rw [passes]
      constructor
      · rintro ⟨stored, found⟩
        rw [found, same stored found]
      · intro found
        exact ⟨_, found⟩
    exact ⟨answers.trans whole, fun stored found _ => whole.mp ⟨stored, found⟩⟩

theorem tokenChecksAgree_guess : TokenChecksAgree guessLib guessMsg guessRequest .ok (({} : Redis).set "user_token_7" "guess") := by
  apply (tokenChecksAgree_iff guessLib guessMsg guessRequest .ok _ guess_parsed).mpr
  intro stored found
  have held : (({} : Redis).set "user_token_7" "guess").get "user_token_7" = some stored := found
  rw [Redis.get_set] at held
  exact (Option.some.inj held).symm

theorem guess_passes_status : ¬ TokenChecksAgree guessLib guessMsg guessRequest .ok
    (({} : Redis).set "user_token_7" "4fa8") := by
  intro agree
  have held : (RedisClient.get "user_token_7" .ok (({} : Redis).set "user_token_7" "4fa8")).1 = some "4fa8" :=
    Redis.get_set "user_token_7" "4fa8" {}
  have passes := agree.success.mp ((login_response guessRequest .ok _).mpr ⟨"4fa8", held⟩)
  have presented := (passesTokenCheck_iff guess_parsed .ok _).mp passes
  have same := Option.some.inj (held.symm.trans presented)
  exact absurd same (by decide)

end ChatProof
