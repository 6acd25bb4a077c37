import ChatProject.Cluster.Tokens
import ChatProject.Gate.Credentials

/-! Who is behind an account, where all services share one Redis. -/

namespace ChatProof

open ChatModel

/-- What Redis has under an e-mail is a code that was made for it. -/
def HasOwnCodes (history : List VerifyEvent) (redis : Redis) : Prop :=
  ∀ email code expireAt, ¬ Reserved email → redis.entries email = some ⟨.string code, expireAt⟩ → .generated email code ∈ history

section Codes

variable {history later : List VerifyEvent} {redis after : Redis}

theorem HasOwnCodes.mono (own : HasOwnCodes history redis) (grows : history ⊆ later) : HasOwnCodes later redis :=
  fun email code expireAt free there => grows (own email code expireAt free there)

/-- Entries under other keys do not matter. -/
theorem HasOwnCodes.same (own : HasOwnCodes history redis)
    (entries : ∀ key, ¬ Reserved key → after.entries key = redis.entries key) : HasOwnCodes history after := by
  intro email code expireAt free there
  rw [entries email free] at there
  exact own email code expireAt free there

theorem verified_entry {email code : String} {getting : Outcome} (verified : Verified email code getting redis) :
    ∃ expireAt, redis.entries email = some ⟨.string code, expireAt⟩ := by
  unfold Verified Gate.redisGet at verified
  have found : redis.lookup email = some (.string code) := by
    split at verified <;> cases verified
    assumption
  apply Redis.entry_of_get
  unfold Redis.get
  rw [found]

/-- A code that is shown was made for the e-mail. -/
theorem HasOwnCodes.made (own : HasOwnCodes history redis) {email code : String} {getting : Outcome}
    (verified : Verified email code getting redis) (free : ¬ Reserved email) : .generated email code ∈ history := by
  obtain ⟨expireAt, entry⟩ := verified_entry verified
  exact own _ _ expireAt free entry

end Codes

/-- The service stores nothing but codes that it has made, each under its e-mail. -/
theorem Served.ownCodes {server : VerifyServer} {redis later : Redis} {act : VerifyAct} {history : List VerifyEvent}
    (served : Served server redis act (history, later)) (own : HasOwnCodes server.history redis) :
    server.history ⊆ history ∧ HasOwnCodes history later := by
  cases served with
  | quiet => exact ⟨List.Subset.refl _, own⟩
  | stored email code response made =>
    have grows : server.history ⊆ .answered redis.now response :: .stored redis.now email code :: server.history :=
      List.subset_cons_of_subset _ (List.subset_cons_self _ _)
    refine ⟨grows, ?_⟩
    intro other held expireAt free there
    by_cases same : other = email
    · subst same
      have new : (redis.setex other 600 code).entries other = some ⟨.string code, some (redis.now + 600)⟩ := if_pos rfl
      cases new.symm.trans there
      exact grows made
    · rw [Redis.entries_setex_other same] at there
      exact grows (own other held expireAt free there)
  | _ => exact ⟨List.subset_cons_self _ _, own.mono (List.subset_cons_self _ _)⟩

/-! ## What the gate server makes of its table -/

section Gate

variable {weight : Collation} {lib : JsonLib} {body : Bytes} {getting : Outcome} {storing : MysqlOutcome} {redis : Redis}
  {users : UserTable weight} {made reset : UserRow → Prop}

theorem userRegister_table (makes : ∀ request row, parseJson lib UserRegisterRequest.fromJson body = some request →
      Verified request.email request.verifyCode getting redis → Inserts request storing users row → made row) :
    TableStep made reset users (Gate.respond (Gate.userRegister lib body getting storing redis users)).2 := by
  by_cases arrives : ∃ request, parseJson lib UserRegisterRequest.fromJson body = some request ∧
      Verified request.email request.verifyCode getting redis
  · obtain ⟨request, parsed, verified⟩ := arrives
    obtain ⟨response, same, _⟩ := userRegister_verified storing users parsed verified
    rw [same]
    exact (createUser_table request storing users).mono (fun row inserts => makes request row parsed verified inserts) fun _ sets => sets
  · obtain ⟨response, same, _⟩ := userRegister_refused storing users fun request parsed verified => arrives ⟨request, parsed, verified⟩
    rw [same]
    exact .same rfl

theorem resetPassword_table (resets : ∀ request row, parseJson lib UserResetPasswordRequest.fromJson body = some request →
      Verified request.email request.verifyCode getting redis → Updates request storing users row → reset row) :
    TableStep made reset users (Gate.respond (Gate.resetPassword lib body getting storing redis users)).2 := by
  cases parsed : parseJson lib UserResetPasswordRequest.fromJson body with
  | none =>
    apply TableStep.same
    unfold Gate.resetPassword
    rw [parsed]
    rfl
  | some request =>
    by_cases verified : Verified request.email request.verifyCode getting redis
    · obtain ⟨response, same, _⟩ := resetPassword_verified storing users parsed verified
      rw [same]
      exact (repo_resetPassword_table request storing users).mono (fun _ adds => adds) fun row updates =>
        resets request row parsed verified updates
    · obtain ⟨response, same, _⟩ : ∃ response, Gate.respond (Gate.resetPassword lib body getting storing redis users) =
          (response, users) ∧ ¬ Gate.ReportsSuccess response := resetPassword_unverified parsed verified
      rw [same]
      exact .same rfl

end Gate

section World

variable {deployment : Deployment} {weight : Collation} {externals : Externals} {network : Network}
  {world after : World deployment weight}

/-- The gate server and the chat servers change by their own steps only. -/
inductive WorldMoves (externals : Externals) (network : Network) (world : World deployment weight) :
    WorldAct deployment.Member → World deployment weight → Prop
  | chat {act : FleetAct deployment.Member} {after : World deployment weight} :
      world.fleet.step externals network act = some after.fleet → after.gate = world.gate → WorldMoves externals network world (.chat act) after
  | gate {request : GateAct} {after : World deployment weight} :
      ({ world.gate with redis := world.redis } : GateSystem weight).step externals.lib request = some after.gate →
      after.fleet.server = world.fleet.server → WorldMoves externals network world (.gate request) after
  | aside {act : WorldAct deployment.Member} {after : World deployment weight} : after.gate = world.gate →
      after.fleet.server = world.fleet.server → WorldMoves externals network world act after

theorem world_moves {act : WorldAct deployment.Member} (taken : world.step externals network act = some after) :
    WorldMoves externals network world act after := by
  cases act with
  | chat act =>
    cases act with
    | others stores => cases taken
    | _ =>
      obtain ⟨fleet, stepped, same⟩ := Option.map_eq_some_iff.mp taken
      subst same
      exact .chat stepped rfl
  | gate request =>
    have moved : (({ world.gate with redis := world.redis } : GateSystem weight).step externals.lib request).map world.setGate =
        some after := by
      cases request with
      | others redis => cases taken
      | userLogin body checking => cases taken
      | _ => exact taken
    obtain ⟨gate, stepped, same⟩ := Option.map_eq_some_iff.mp moved
    subst same
    exact .gate stepped rfl
  | login id body checking =>
    simp only [World.step] at taken
    split at taken <;> cases taken <;> exact .aside rfl rfl
  | verify act =>
    obtain ⟨pair, _, same⟩ := Option.map_eq_some_iff.mp taken
    subst same
    exact .aside rfl rfl
  | status act =>
    obtain ⟨pair, _, same⟩ := Option.map_eq_some_iff.mp taken
    subst same
    exact .aside rfl rfl
  | tick seconds =>
    cases taken
    exact .aside rfl rfl

/-- Nobody but the verification service writes an entry that is nobody's record. -/
theorem world_codes (orderly : WellServed externals world) {act : WorldAct deployment.Member}
    (taken : world.step externals network act = some after) (own : HasOwnCodes world.verify.history world.redis) :
    world.verify.history ⊆ after.verify.history ∧ HasOwnCodes after.verify.history after.redis := by
  cases world_steps orderly taken with
  | chat act after _ verify _ _ _ entries =>
    rw [verify]
    exact ⟨List.Subset.refl _, own.same fun key free => entries key fun chat => free (.inl chat)⟩
  | gate act after _ verify _ _ redis =>
    rw [verify, redis]
    exact ⟨List.Subset.refl _, own⟩
  | verify act server redis stepped =>
    obtain ⟨_, served⟩ := step_served orderly.staged stepped
    exact served.ownCodes own
  | setToken id commands token outcome request index response first waits =>
    obtain ⟨_, entries⟩ : SameBut (StatusService.tokenKey request.uid) world.redis
        (RedisClient.set (StatusService.tokenKey request.uid) token outcome world.redis).2 :=
      sameBut_settle outcome false (sameBut_put _ ⟨.string token, none⟩ world.redis)
    refine ⟨List.Subset.refl _, own.same fun key free => entries key ?_⟩
    intro same
    rw [tokenKey_eq] at same
    exact free (.inr ⟨_, same⟩)
  | _ => exact ⟨List.Subset.refl _, own⟩

/-- In this run a request has shown a code that was made for its e-mail, and its statement has been executed with this effect. An
    e-mail that is the key of another record is nobody's. -/
def OwnCodeShown {ρ : Type} (externals : Externals) (network : Network) (start : World deployment weight)
    (actions : List (WorldAct deployment.Member)) (kind : Bytes → Outcome → MysqlOutcome → GateAct)
    (fromJson : Json Number → Option ρ) (email verifyCode : ρ → String) (effect : ρ → MysqlOutcome → UserTable weight → Prop) : Prop :=
  ∃ earlier body getting storing later world request, actions = earlier ++ .gate (kind body getting storing) :: later ∧
    Transition.Run (World.step externals network) start earlier world ∧ parseJson externals.lib fromJson body = some request ∧
    Verified (email request) (verifyCode request) getting world.redis ∧
    (¬ Reserved (email request) → .generated (email request) (verifyCode request) ∈ world.verify.history) ∧
    effect request storing world.gate.users

/-- A registration has added this row. -/
def OwnRegistration (externals : Externals) (network : Network) (start : World deployment weight)
    (actions : List (WorldAct deployment.Member)) (row : UserRow) : Prop :=
  OwnCodeShown externals network start actions .userRegister UserRegisterRequest.fromJson UserRegisterRequest.email
    UserRegisterRequest.verifyCode fun request storing users => Inserts request storing users row

/-- A reset has made this row. -/
def OwnReset (externals : Externals) (network : Network) (start : World deployment weight)
    (actions : List (WorldAct deployment.Member)) (row : UserRow) : Prop :=
  OwnCodeShown externals network start actions .resetPassword UserResetPasswordRequest.fromJson UserResetPasswordRequest.email
    UserResetPasswordRequest.verifyCode fun request storing users => Updates request storing users row

section Shown

variable {initial : World deployment weight} {done : List (WorldAct deployment.Member)}

theorem OwnCodeShown.mono {ρ : Type} {kind : Bytes → Outcome → MysqlOutcome → GateAct} {fromJson : Json Number → Option ρ}
    {email verifyCode : ρ → String} {effect : ρ → MysqlOutcome → UserTable weight → Prop} (act : WorldAct deployment.Member)
    (shown : OwnCodeShown externals network initial done kind fromJson email verifyCode effect) :
    OwnCodeShown externals network initial (done ++ [act]) kind fromJson email verifyCode effect := by
  obtain ⟨earlier, body, getting, storing, later, world, request, same, rest⟩ := shown
  refine ⟨earlier, body, getting, storing, later ++ [act], world, request, ?_, rest⟩
  rw [same, List.append_assoc, List.cons_append]

/-- Every row of the table goes back to codes that were made for its e-mail. -/
structure Founded (externals : Externals) (network : Network) (initial : World deployment weight)
    (done : List (WorldAct deployment.Member)) (world : World deployment weight) : Prop where
  orderly : WellServed externals world
  codes : HasOwnCodes world.verify.history world.redis
  earned : ∀ row ∈ world.gate.users.rows, Earned initial.gate.users.rows (OwnRegistration externals network initial done)
    (OwnReset externals network initial done) row

/-- What a request makes of the table. -/
theorem Founded.table (founded : Founded externals network initial done world)
    (run : Transition.Run (World.step externals network) initial done world) {request : GateAct} {gate : GateSystem weight}
    (stepped : ({ world.gate with redis := world.redis } : GateSystem weight).step externals.lib request = some gate) :
    TableStep (OwnRegistration externals network initial (done ++ [.gate request]))
      (OwnReset externals network initial (done ++ [.gate request])) world.gate.users gate.users := by
  cases request with
  | userRegister body getting storing =>
    cases stepped
    apply userRegister_table
    intro request row parsed verified inserts
    exact ⟨done, body, getting, storing, [], world, request, rfl, run, parsed, verified, founded.codes.made verified, inserts⟩
  | resetPassword body getting storing =>
    cases stepped
    apply resetPassword_table
    intro request row parsed verified updates
    exact ⟨done, body, getting, storing, [], world, request, rfl, run, parsed, verified, founded.codes.made verified, updates⟩
  | userLogin body checking =>
    cases stepped
    exact .same rfl
  | others redis =>
    cases stepped
    exact .same rfl

theorem Founded.step (founded : Founded externals network initial done world)
    (run : Transition.Run (World.step externals network) initial done world) {act : WorldAct deployment.Member}
    (taken : world.step externals network act = some after) : Founded externals network initial (done ++ [act]) after := by
  have kept : ∀ row ∈ world.gate.users.rows, Earned initial.gate.users.rows (OwnRegistration externals network initial (done ++ [act]))
      (OwnReset externals network initial (done ++ [act])) row :=
    fun row member => (founded.earned row member).mono (fun _ made => OwnCodeShown.mono act made) fun _ reset => OwnCodeShown.mono act reset
  refine ⟨founded.orderly.step taken, (world_codes founded.orderly taken founded.codes).2, ?_⟩
  cases world_moves taken with
  | chat _ same =>
    rw [same]
    exact kept
  | aside same _ =>
    rw [same]
    exact kept
  | gate stepped _ => exact (founded.table run stepped).earned kept

theorem Founded.start (externals : Externals) (network : Network) (users : UserTable weight) (db : Tables) :
    Founded externals network (.start deployment users db) [] (.start deployment users db) where
  orderly := WellServed.start externals users db
  codes := by
    intro email code expireAt free there
    cases there
  earned := earned_initially

end Shown

end World

theorem system_accounts_have_codes (deployment : Deployment) {weight : Collation} (externals : Externals) (network : Network)
    (users : UserTable weight) (db : Tables) (actions : List (WorldAct deployment.Member)) (after : World deployment weight)
    (run : Transition.Run (World.step externals network) (.start deployment users db) actions after) :
    ∀ row ∈ after.gate.users.rows, Earned users.rows (OwnRegistration externals network (.start deployment users db) actions)
      (OwnReset externals network (.start deployment users db) actions) row :=
  (run.invariant_along (Founded.start externals network users db) fun _ _ _ _ reached founded taken => founded.step reached taken).earned

namespace Sample

def carolExternals : Externals := { lib := carolLib, sameName := fun first second => caseless first = caseless second }

def startOfCarol : World (deployed 2) caseless := .start (deployed 2) {} {}

/-- A code is asked for, and shown. -/
def carolJoins : List (WorldAct (deployed 2).Member) := codeFor "carol@example.com" ++ [.gate (.userRegister carolBody .ok .answered)]

end Sample

theorem system_accounts_have_codes_carol : ∃ after : World (Sample.deployed 2) caseless,
    Transition.Run (World.step Sample.carolExternals Sample.network) Sample.startOfCarol Sample.carolJoins after ∧
      after.gate.users.rows = [carolRow] ∧
      Earned [] (OwnRegistration Sample.carolExternals Sample.network Sample.startOfCarol Sample.carolJoins)
        (OwnReset Sample.carolExternals Sample.network Sample.startOfCarol Sample.carolJoins) carolRow := by
  have possible : ((Transition.runs (World.step Sample.carolExternals Sample.network) Sample.startOfCarol Sample.carolJoins).any
      fun after => after.gate.users.rows = [carolRow]) = true := by decide +kernel
  obtain ⟨after, reached, found⟩ := (Option.any_eq_true _ _).mp possible
  have run := Transition.run_iff_runs.mpr reached
  have rows := of_decide_eq_true found
  refine ⟨after, run, rows, ?_⟩
  apply system_accounts_have_codes (Sample.deployed 2) Sample.carolExternals Sample.network {} {} Sample.carolJoins after run
  rw [rows]
  exact List.mem_cons_self

end ChatProof
