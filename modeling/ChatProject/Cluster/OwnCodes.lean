import ChatProject.Cluster.Records
import ChatProject.Status.TokenChecks

/-! What the verification service returns, and which entries of Redis it changes. -/

namespace ChatProof

open ChatModel

/-- Every code that has been returned was made for this email before. -/
def ReturnsOwn (history : List VerifyEvent) : Prop :=
  ∀ newer older now response, history = newer ++ .answered now response :: older → response.error = 0 →
    .generated response.email response.code ∈ older

section World

variable {deployment : Deployment} {weight : Collation}

/-- In this run the verification service returns its own codes, and none of its steps changes an entry of the others. -/
structure TouchesOnlyCodes (externals : Externals) (network : Network) (start : World deployment weight)
    (actions : List (WorldAct deployment.Member)) : Prop where
  returned : ∀ after, Transition.Run (World.step externals network) start actions after → ReturnsOwn after.verify.history
  unchanged : ∀ earlier act later before after, actions = earlier ++ .verify act :: later →
    Transition.Run (World.step externals network) start earlier before →
    before.step externals network (.verify act) = some after →
    ∀ key, Reserved key → after.redis.entries key = before.redis.entries key

/-- Nobody asks for a code for the key of another record. -/
def AsksForEmail (_ : World deployment weight) : WorldAct deployment.Member → Prop
  | .verify (.receive _ request) => ¬ Reserved request.email
  | _ => True

/-- What is stored under an email, and what has been returned for it, was made for it. -/
structure Sourced (externals : Externals) (world : World deployment weight) : Prop where
  orderly : WellServed externals world
  calls : CallsFor (fun email => ¬ Reserved email) world.verify
  held : ∀ email code expireAt, ¬ Reserved email → world.redis.entries email = some ⟨.string code, expireAt⟩ →
    .generated email code ∈ world.verify.history
  returned : ReturnsOwn world.verify.history

end World

section Steps

variable {deployment : Deployment} {weight : Collation} {externals : Externals} {network : Network}
  {world after : World deployment weight}

theorem ReturnsOwn.cons {history : List VerifyEvent} (returned : ReturnsOwn history) {event : VerifyEvent}
    (own : ∀ now response, event = .answered now response → response.error = 0 →
      .generated response.email response.code ∈ history) : ReturnsOwn (event :: history) := by
  intro newer older now response same success
  cases newer with
  | nil =>
    cases same
    exact own now response rfl success
  | cons other newer =>
    cases same
    exact returned newer older now response rfl success

/-- The effect of the service on the codes, when none of its calls is for a reserved key. -/
theorem Served.sourced {server : VerifyServer} {redis : Redis} {act : VerifyAct} {history : List VerifyEvent} {later : Redis}
    (served : Served server redis act (history, later)) (calls : CallsFor (fun email => ¬ Reserved email) server)
    (held : ∀ email code expireAt, ¬ Reserved email → redis.entries email = some ⟨.string code, expireAt⟩ →
      .generated email code ∈ server.history) (returned : ReturnsOwn server.history) :
    (∀ email code expireAt, ¬ Reserved email → later.entries email = some ⟨.string code, expireAt⟩ →
        .generated email code ∈ history) ∧ ReturnsOwn history ∧
      ∀ key, Reserved key → later.entries key = redis.entries key := by
  cases served with
  | quiet => exact ⟨held, returned, fun _ _ => rfl⟩
  | generated email code =>
    refine ⟨?_, returned.cons nofun, fun _ _ => rfl⟩
    intro other stored expireAt free there
    exact List.mem_cons_of_mem _ (held other stored expireAt free there)
  | found email code asks there =>
    obtain ⟨id, call, known, rfl⟩ := asks
    obtain ⟨expireAt, entry⟩ := Redis.entry_of_get there
    refine ⟨?_, ?_, fun _ _ => rfl⟩
    · intro other stored expireAt free there
      exact List.mem_cons_of_mem _ (held other stored expireAt free there)
    · refine returned.cons ?_
      intro now response same _
      cases same
      exact held call.email code expireAt (calls id call known) entry
  | stored email code response made stores answer =>
    obtain ⟨id, outcome, rfl, known⟩ := stores
    have free : ¬ Reserved email := calls id _ known
    refine ⟨?_, ?_, ?_⟩
    · intro other stored expireAt unreserved there
      apply List.mem_cons_of_mem
      apply List.mem_cons_of_mem
      by_cases same : other = email
      · subst same
        have new : (redis.setex other 600 code).entries other = some ⟨.string code, some (redis.now + 600)⟩ := if_pos rfl
        cases new.symm.trans there
        exact made
      · rw [Redis.entries_setex_other same] at there
        exact held other stored expireAt unreserved there
    · have earlier : ReturnsOwn (.stored redis.now email code :: server.history) := returned.cons nofun
      refine earlier.cons ?_
      intro now other same success
      cases same
      rw [answer success]
      exact List.mem_cons_of_mem _ made
    · intro key reserved
      have different : key ≠ email := fun same => free (same ▸ reserved)
      exact Redis.entries_setex_other different 600 code redis
  | failed response fails =>
    refine ⟨?_, ?_, fun _ _ => rfl⟩
    · intro other stored expireAt free there
      exact List.mem_cons_of_mem _ (held other stored expireAt free there)
    · refine returned.cons ?_
      intro now other same success
      cases same
      exact absurd success fails

theorem Sourced.start (externals : Externals) (users : UserTable weight) (db : Tables) :
    Sourced externals (.start deployment users db) where
  orderly := WellServed.start externals users db
  calls := fun _ _ absent => nomatch absent
  held := fun _ _ _ _ absent => nomatch absent
  returned := by
    intro newer older now response same
    cases newer <;> cases same

theorem Sourced.step (sourced : Sourced externals world) {act : WorldAct deployment.Member} (asks : AsksForEmail world act)
    (taken : world.step externals network act = some after) : Sourced externals after := by
  have orderly := sourced.orderly.step taken
  cases world_steps sourced.orderly taken with
  | chat act after _ verify _ _ _ entries =>
    refine ⟨orderly, verify ▸ sourced.calls, ?_, verify ▸ sourced.returned⟩
    intro email code expireAt free there
    rw [entries email fun chat => free (.inl chat)] at there
    rw [verify]
    exact sourced.held email code expireAt free there
  | gate act after _ verify _ _ redis =>
    refine ⟨orderly, verify ▸ sourced.calls, ?_, verify ▸ sourced.returned⟩
    rw [verify, redis]
    exact sourced.held
  | login id body checking request => exact ⟨orderly, sourced.calls, sourced.held, sourced.returned⟩
  | refused id body checking => exact sourced
  | count id outcome request index waits => exact ⟨orderly, sourced.calls, sourced.held, sourced.returned⟩
  | verify act server redis stepped =>
    obtain ⟨_, served⟩ := step_served sourced.orderly.staged stepped
    obtain ⟨held, returned, _⟩ := served.sourced sourced.calls sourced.held sourced.returned
    refine ⟨orderly, sourced.calls.step stepped ?_, held, returned⟩
    intro id request same
    subst same
    exact asks
  | uuid id token request index waits => exact ⟨orderly, sourced.calls, sourced.held, sourced.returned⟩
  | setToken id commands token outcome request index response first waits =>
    refine ⟨orderly, sourced.calls, ?_, sourced.returned⟩
    intro email code expireAt free there
    obtain ⟨_, entries⟩ : SameBut (StatusService.tokenKey request.uid) world.redis
        (RedisClient.set (StatusService.tokenKey request.uid) token outcome world.redis).2 :=
      sameBut_settle outcome false (sameBut_put _ ⟨.string token, none⟩ world.redis)
    have different : email ≠ StatusService.tokenKey request.uid := by
      intro same
      rw [tokenKey_eq] at same
      exact free (.inr ⟨_, same⟩)
    exact sourced.held email code expireAt free ((entries email different).symm.trans there)
  | tick seconds => exact ⟨orderly, sourced.calls, sourced.held, sourced.returned⟩

end Steps

theorem verify_codes_are_own (deployment : Deployment) {weight : Collation} (externals : Externals) (network : Network)
    (users : UserTable weight) (db : Tables) (actions : List (WorldAct deployment.Member))
    (asks : Transition.Meets (World.step externals network) AsksForEmail (.start deployment users db) actions) :
    TouchesOnlyCodes externals network (.start deployment users db) actions := by
  have keeps : ∀ (world : World deployment weight) act after, Sourced externals world → AsksForEmail world act →
      World.step externals network world act = some after → Sourced externals after :=
    fun _ _ _ sourced asks taken => sourced.step asks taken
  have start : Sourced externals (.start deployment users db) := Sourced.start externals users db
  constructor
  · intro after run
    exact (run.invariant_of_meets keeps asks start).returned
  · intro earlier act later before after same run taken key reserved
    subst same
    have sourced := run.invariant_of_meets keeps asks.append_left start
    cases world_steps sourced.orderly taken with
    | verify _ server redis stepped =>
      obtain ⟨_, served⟩ := step_served sourced.orderly.staged stepped
      exact (served.sourced sourced.calls sourced.held sourced.returned).2.2 key reserved

/-- The keys of the other services start with one of two letters. -/
theorem reserved_start {key : String} (reserved : Reserved key) : key.toList.take 1 = ['u'] ∨ key.toList.take 1 = ['l'] := by
  have starts : ∀ (front rest : String) (first : Char), front.toList.take 1 = [first] →
      (front ++ rest).toList.take 1 = [first] := by
    intro front rest first start
    rw [String.toList_append, List.take_append_of_le_length, start]
    by_contra short
    have empty : front.toList = [] := List.eq_nil_of_length_eq_zero (by omega)
    rw [empty] at start
    cases start
  rcases reserved with chat | ⟨uid, rfl⟩
  · cases chat with
    | route uid => exact .inl (starts userLoginServerPrefix _ 'u' (by decide))
    | cached key =>
      cases key with
      | uid uid => exact .inl (starts userUidInfoPrefix _ 'u' (by decide))
      | name name => exact .inl (starts userNameInfoPrefix _ 'u' (by decide))
    | count => exact .inr (by decide)
  · exact .inl (starts userTokenPrefix _ 'u' (by decide))

namespace Sample

def noExternals : Externals := { lib := { parse := fun _ => none, parseUserInfo := fun _ => none }, sameName := fun _ _ => false }

/-- One request for a code for this email. -/
def codeFor (email : String) : List (WorldAct (deployed 2).Member) :=
  [.verify (.receive 0 ⟨email⟩), .verify (.get 0 .ok), .verify (.uuid 0 "7f3c"), .verify (.setex 0 .ok)]

def startOfTwo : World (deployed 2) id := .start (deployed 2) {} {}

end Sample

theorem verify_codes_are_own_alice : ∃ after,
    Transition.Run (World.step Sample.noExternals Sample.network) Sample.startOfTwo (Sample.codeFor "alice@example.com") after ∧
      .answered 0 { error := 0, email := "alice@example.com", code := "7f3c" } ∈ after.verify.history ∧
      TouchesOnlyCodes Sample.noExternals Sample.network Sample.startOfTwo (Sample.codeFor "alice@example.com") := by
  obtain ⟨after, reached⟩ : ∃ after, Transition.runs (World.step Sample.noExternals Sample.network) Sample.startOfTwo
      (Sample.codeFor "alice@example.com") = some after := ⟨_, rfl⟩
  have returned : .answered 0 { error := 0, email := "alice@example.com", code := "7f3c" } ∈ after.verify.history := by
    cases reached
    exact List.mem_cons_self
  refine ⟨after, Transition.run_iff_runs.mpr reached, returned, ?_⟩
  apply verify_codes_are_own (Sample.deployed 2) Sample.noExternals Sample.network {} {} (Sample.codeFor "alice@example.com")
  have free : ¬ Reserved "alice@example.com" := by
    intro reserved
    rcases reserved_start reserved with same | same <;> exact absurd same (by decide)
  refine ⟨free, ?_⟩
  intro _ _
  refine ⟨trivial, ?_⟩
  intro _ _
  refine ⟨trivial, ?_⟩
  intro _ _
  exact ⟨trivial, fun _ _ => trivial⟩

/-- A code is stored as the token of user 9. -/
theorem verify_code_becomes_token :
    ¬ TouchesOnlyCodes Sample.noExternals Sample.network Sample.startOfTwo (Sample.codeFor "user_token_9") := by
  intro touches
  obtain ⟨before, reached⟩ : ∃ before, Transition.runs (World.step Sample.noExternals Sample.network) Sample.startOfTwo
      [.verify (.receive 0 ⟨"user_token_9"⟩), .verify (.get 0 .ok), .verify (.uuid 0 "7f3c")] = some before := ⟨_, rfl⟩
  obtain ⟨after, taken⟩ : ∃ after, before.step Sample.noExternals Sample.network (.verify (.setex 0 .ok)) = some after := by
    cases reached
    exact ⟨_, rfl⟩
  have same := touches.unchanged _ _ [] before after rfl (Transition.run_iff_runs.mpr reached) taken "user_token_9"
    (.inr ⟨9, by decide +kernel⟩)
  cases reached
  cases taken
  cases same

end ChatProof
