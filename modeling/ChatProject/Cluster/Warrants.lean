import ChatProject.Cluster.Owners
import ChatProject.Server.InTurn

/-! On whose password a session speaks for a user. -/

namespace ChatProof

open ChatModel

/-- The name and the password in this body are those of the account with this id. -/
structure ShowsPassword {weight : Collation} (lib : JsonLib) (users : UserTable weight) (body : Bytes) (id : Int32) : Prop where
  shown : ∃ request, parseJson lib Gate.UserLoginRequest.fromJson body = some request ∧
    ∃ row ∈ users.rows, row.id = id ∧ weight row.name = weight request.user ∧ weight row.pwd = weight request.passwd

theorem userLogin_calls {weight : Collation} {lib : JsonLib} {body : Bytes} {checking : MysqlOutcome} {users : UserTable weight}
    {request : GetChatServerRequest} {next : Option GetChatServerResponse → Gate.Login}
    (calls : Gate.userLogin lib body checking users = .call request next) : ShowsPassword lib users body request.uid := by
  unfold Gate.userLogin at calls
  split at calls
  · cases calls
  · rename_i login parsed
    split at calls
    · cases calls
    · cases calls
    · rename_i id checked
      cases calls
      have found : ∃ id' rest, users.selectId login.user login.passwd = id' :: rest ∧ id'.toInt64 = id := by
        cases checking with
        | answered =>
          cases selected : users.selectId login.user login.passwd with
          | nil => simp [UserRepo.checkPassword, MysqlOutcome.settle, selected, Except.map] at checked
          | cons first rest =>
            refine ⟨first, rest, rfl, ?_⟩
            simpa [UserRepo.checkPassword, MysqlOutcome.settle, selected, Except.map] using checked
        | _ => cases checked
      obtain ⟨first, rest, selected, same⟩ := found
      have member : first ∈ users.selectId login.user login.passwd := by
        rw [selected]
        exact List.mem_cons_self
      obtain ⟨row, filtered, named⟩ := List.mem_map.mp member
      obtain ⟨there, matching⟩ := List.mem_filter.mp filtered
      obtain ⟨name, pwd⟩ := Bool.and_eq_true_iff.mp matching
      refine ⟨login, parsed, row, there, ?_, of_decide_eq_true name, of_decide_eq_true pwd⟩
      rw [named, ← same]
      exact (Int32.toInt32_toInt64 first).symm

section Members

variable {deployment : Deployment} {externals : Externals} {network : Network} {fleet after : Fleet deployment.Member}

/-- What the handlers of a server are told in this act is what the stores answer. -/
def HearsStores (externals : Externals) (stores : Stores) (act : Act) : Prop :=
  ∀ addr oracle, act = .answer addr oracle → ∃ outcome, oracle = fun op => (stores.exec externals outcome op).1

theorem hearsStores_silent {stores : Stores} {act : Act} (silent : ∀ addr oracle, act = .answer addr oracle → False) :
    HearsStores externals stores act := fun addr oracle same => (silent addr oracle same).elim

/-- One member of the fleet makes a step. -/
theorem serverStep_member {before middle : Fleet deployment.Member} {mover : deployment.Member} {act : Act}
    (same : before.server = fleet.server) (first : before.serverStep externals mover act = some middle)
    (hears : HearsStores externals fleet.stores act) (member : deployment.Member) :
    middle.server member = fleet.server member ∨ ∃ act, (fleet.server member).step externals.lib act = some (middle.server member) ∧
      HearsStores externals fleet.stores act := by
  obtain ⟨server, stepped, there⟩ := fleet_serverStep first
  rw [same] at stepped
  by_cases here : member = mover
  · subst here
    refine .inr ⟨act, ?_, hears⟩
    rw [← there, fleet_setServer_self]
    exact stepped
  · left
    rw [← there, fleet_setServer_other here, same]

theorem member_step {act : FleetAct deployment.Member} (taken : fleet.step externals network act = some after)
    (member : deployment.Member) : after.server member = fleet.server member ∨
      ∃ act, (fleet.server member).step externals.lib act = some (after.server member) ∧ HearsStores externals fleet.stores act := by
  cases act with
  | own mover act =>
    simp only [Fleet.step] at taken
    split at taken
    · rename_i isOwn
      apply serverStep_member rfl taken
      apply hearsStores_silent
      intro addr oracle same
      rw [same] at isOwn
      cases isOwn
    · cases taken
  | exec mover addr outcome =>
    simp only [Fleet.step] at taken
    split at taken
    · obtain ⟨middle, first, same⟩ := Option.map_eq_some_iff.mp taken
      subst same
      have hears : HearsStores externals fleet.stores (.answer addr fun op => (fleet.stores.exec externals outcome op).1) := by
        intro other oracle same
        cases same
        exact ⟨outcome, rfl⟩
      exact serverStep_member rfl first hears member
    · cases taken
  | arrive mover peer =>
    simp only [Fleet.step] at taken
    split at taken
    · split at taken
      · exact serverStep_member rfl taken (hearsStores_silent fun _ _ => Act.noConfusion) member
      · cases taken
    · cases taken
  | runTask peer caller =>
    simp only [Fleet.step] at taken
    split at taken
    · split at taken
      · obtain ⟨middle, first, same⟩ := Option.map_eq_some_iff.mp taken
        have moved := serverStep_member rfl first (hearsStores_silent fun _ _ => Act.noConfusion) member
        subst same
        cases caller <;> exact moved
      · cases taken
    · cases taken
  | finish mover =>
    simp only [Fleet.step] at taken
    split at taken
    · exact serverStep_member rfl taken (hearsStores_silent fun _ _ => Act.noConfusion) member
    · cases taken
  | fail mover =>
    simp only [Fleet.step] at taken
    split at taken
    · cases taken
    · exact serverStep_member rfl taken (hearsStores_silent fun _ _ => Act.noConfusion) member
  | others stores =>
    cases taken
    exact .inl rfl

/-- A token that a handler has been told of was made for that user. -/
def ToldMade (made : Int64 → String → Prop) (told : Ledger) : Prop :=
  ∀ uid token, Told told (.redisGet (userTokenKey uid)) (some token) → made uid token

theorem toldMade_cons {made : Int64 → String → Prop} {told : Ledger} (known : ToldMade made told) {op : Op} {answer : op.Res}
    (here : ∀ uid token, (⟨op, answer⟩ : (op : Op) × op.Res) = ⟨.redisGet (userTokenKey uid), some token⟩ → made uid token) :
    ToldMade made (⟨op, answer⟩ :: told) := by
  intro uid token heard
  rcases List.mem_cons.mp heard with first | before
  · exact here uid token first.symm
  · exact known uid token before

theorem toldMade_follows (lib : JsonLib) (made : Int64 → String → Prop) : Follows lib fun _ _ told _ => ToldMade made told where
  handed := by
    intro addr readMsg uid token heard
    cases heard
  quick := by
    intro addr readMsg told op next answer quick known
    apply toldMade_cons known
    intro uid token same
    cases same
    cases quick

/-- What the handlers are told stays true when a member makes a step, if Redis has no other tokens. -/
theorem toldMade_step {server later : ChatServer} {stores : Stores} {act : Act} {made : Int64 → String → Prop}
    (held : ∀ uid token, stores.redis.get (userTokenKey uid) = some token → made uid token)
    (hears : HearsStores externals stores act) (taken : server.step externals.lib act = some later)
    (handlers : Handlers (fun _ _ told _ => ToldMade made told) server) : Handlers (fun _ _ told _ => ToldMade made told) later := by
  by_cases answers : ∃ addr oracle, act = .answer addr oracle
  · obtain ⟨addr, oracle, same⟩ := answers
    obtain ⟨outcome, answered⟩ := hears addr oracle same
    subst same
    simp only [ChatServer.step] at taken
    split at taken <;> cases taken
    rename_i readMsg told op next reading
    apply handlers.answer reading
    intro known
    apply toldMade_cons known
    intro uid token here
    subst answered
    have asked : op = .redisGet (userTokenKey uid) := congrArg Sigma.fst here
    subst asked
    have told : (RedisClient.get (userTokenKey uid) outcome stores.redis).1 = some token := eq_of_heq (Sigma.mk.inj here).2
    apply held
    cases outcome with
    | ok => exact told
    | _ => cases told
  · have rule : OwnRule externals.lib (Handlers fun _ _ told _ => ToldMade made told) := Handlers.rule (toldMade_follows _ made)
    refine rule.step trivial ?_ (fun _ _ _ => trivial) taken handlers
    exact fun addr oracle same => answers ⟨addr, oracle, same⟩

end Members

/-- The status server has made this token for this user. -/
def MadeToken (history : List StatusEvent) (uid : Int64) (token : String) : Prop :=
  ∃ user, .generated user token ∈ history ∧ user.toInt64 = uid

/-- Nobody asks for a code for the key of a token. -/
def AsksNoToken {Member : Type} : WorldAct Member → Prop
  | .verify (.receive _ request) => ∀ uid, request.email ≠ userTokenKey uid
  | _ => True

section Shown

variable {deployment : Deployment} {weight : Collation}

/-- The last login with this number has shown the name and the password of the account with this id. -/
def CalledFor (externals : Externals) (network : Network) (start : World deployment weight)
    (actions : List (WorldAct deployment.Member)) (call : Nat) (id : Int32) : Prop :=
  ∃ earlier body checking later before, actions = earlier ++ .login call body checking :: later ∧
    (∀ body checking, .login call body checking ∉ later) ∧
    Transition.Run (World.step externals network) start earlier before ∧ ShowsPassword externals.lib before.gate.users body id

/-- In this run the call of such a login has generated this token for the user. -/
def GeneratedFor (externals : Externals) (network : Network) (start : World deployment weight)
    (actions : List (WorldAct deployment.Member)) (id : Int32) (token : String) : Prop :=
  ∃ earlier call later before request index, actions = earlier ++ .status (.uuid call token) :: later ∧
    Transition.Run (World.step externals network) start earlier before ∧
    before.status.call call = some (.chosen request index) ∧ request.uid = id ∧ CalledFor externals network start earlier call id

/-- Every token goes back to a password that has been shown, and every handler that was told of a token to one that was made. -/
structure Warranted (externals : Externals) (network : Network) (start : World deployment weight)
    (done : List (WorldAct deployment.Member)) (world : World deployment weight) : Prop where
  orderly : WellServed externals world
  calls : CallsFor (fun email => ∀ uid, email ≠ userTokenKey uid) world.verify
  held : ∀ uid token expireAt, world.redis.entries (userTokenKey uid) = some ⟨.string token, expireAt⟩ →
    MadeToken world.status.history uid token
  pending : ∀ id call, world.status.call id = some call → CalledFor externals network start done id (statusUid call)
  storing : ∀ id request index token, world.status.call id = some (.storing request index token) →
    .generated request.uid token ∈ world.status.history
  made : ∀ id token, .generated id token ∈ world.status.history → GeneratedFor externals network start done id token
  reached : ∀ member, Transition.Reachable (ChatServer.step externals.lib) (.fresh (deployment.name member))
    (world.fleet.server member)
  told : ∀ member, Handlers (fun _ _ told _ => ToldMade (MadeToken world.status.history) told) (world.fleet.server member)

variable {externals : Externals} {network : Network} {start world after : World deployment weight}
  {done : List (WorldAct deployment.Member)} {act : WorldAct deployment.Member}

theorem CalledFor.next {call : Nat} {id : Int32} (called : CalledFor externals network start done call id)
    (other : ∀ body checking, act ≠ .login call body checking) : CalledFor externals network start (done ++ [act]) call id := by
  obtain ⟨earlier, body, checking, later, before, same, last, rest⟩ := called
  refine ⟨earlier, body, checking, later ++ [act], before, ?_, ?_, rest⟩
  · rw [same, List.append_assoc, List.cons_append]
  · intro body checking member
    rcases List.mem_append.mp member with old | new
    · exact last body checking old
    · exact other body checking (List.mem_singleton.mp new).symm

theorem GeneratedFor.next {id : Int32} {token : String} (generated : GeneratedFor externals network start done id token)
    (act : WorldAct deployment.Member) : GeneratedFor externals network start (done ++ [act]) id token := by
  obtain ⟨earlier, call, later, before, request, index, same, rest⟩ := generated
  refine ⟨earlier, call, later ++ [act], before, request, index, ?_, rest⟩
  rw [same, List.append_assoc, List.cons_append]

end Shown

section Sessions

variable {deployment : Deployment} {weight : Collation} {externals : Externals} {network : Network}
  {start world after : World deployment weight} {done : List (WorldAct deployment.Member)}

/-- A server of the fleet makes a step of its own, or none. -/
theorem world_member {act : WorldAct deployment.Member} (taken : world.step externals network act = some after)
    (member : deployment.Member) : after.fleet.server member = world.fleet.server member ∨
      ∃ act, (world.fleet.server member).step externals.lib act = some (after.fleet.server member) ∧
        HearsStores externals world.fleet.stores act := by
  cases world_moves taken with
  | chat stepped _ => exact member_step stepped member
  | gate _ same => exact .inl (congrFun same member)
  | aside _ same => exact .inl (congrFun same member)

theorem world_tokens (orderly : WellServed externals world) {act : WorldAct deployment.Member}
    (taken : world.step externals network act = some after) : world.status.history ⊆ after.status.history := by
  cases world_steps orderly taken with
  | chat act after _ _ status => rw [status]; exact List.Subset.refl _
  | gate act after _ _ status => rw [status]; exact List.Subset.refl _
  | uuid => exact List.subset_cons_self _ _
  | setToken => exact List.subset_cons_self _ _
  | _ => exact List.Subset.refl _

/-- Where a call of the status server comes from that waits after a step. While it waits there is no other login with its number. -/
inductive CallFrom (externals : Externals) (world : World deployment weight) (id : Nat) :
    WorldAct deployment.Member → StatusCall → Prop
  | kept {act : WorldAct deployment.Member} {call : StatusCall} : world.status.call id = some call →
      (∀ body checking, act ≠ .login id body checking) → CallFrom externals world id act call
  | begun {body : Bytes} {checking : MysqlOutcome} {request : GetChatServerRequest} :
      ShowsPassword externals.lib world.gate.users body request.uid → CallFrom externals world id (.login id body checking) (.counting request)
  | counted {request : GetChatServerRequest} {outcome : Outcome} (index : Int32) : world.status.call id = some (.counting request) →
      CallFrom externals world id (.status (.count id outcome)) (.chosen request index)
  | made {request : GetChatServerRequest} {index : Int32} (token : String) : world.status.call id = some (.chosen request index) →
      CallFrom externals world id (.status (.uuid id token)) (.storing request index token)

theorem world_calls (orderly : WellServed externals world) {act : WorldAct deployment.Member}
    (taken : world.step externals network act = some after) {id : Nat} {call : StatusCall} (waits : after.status.call id = some call) :
    CallFrom externals world id act call := by
  have changed : ∀ {other : Nat} {now : Option StatusCall}, (world.status.setCall other now).call id = some call →
      id = other ∧ now = some call ∨ id ≠ other ∧ world.status.call id = some call := by
    intro other now there
    by_cases same : id = other
    · subst same
      have updated : (world.status.setCall id now).call id = now := Function.update_self _ _ _
      exact .inl ⟨rfl, updated.symm.trans there⟩
    · exact .inr ⟨same, (setCall_call_other same _).symm.trans there⟩
  by_cases logs : ∃ other body checking, act = .login other body checking
  · obtain ⟨other, body, checking, same⟩ := logs
    subst same
    simp only [World.step] at taken
    split at taken <;> cases taken
    · rename_i request next idle calls
      rcases changed waits with ⟨rfl, same⟩ | ⟨different, before⟩
      · cases same
        exact .begun (userLogin_calls calls)
      · refine .kept before ?_
        rintro body checking here
        cases here
        exact different rfl
    · rename_i idle _
      refine .kept waits ?_
      rintro body checking here
      cases here
      cases idle.symm.trans waits
  · have others : ∀ body checking, act ≠ .login id body checking := fun body checking same => logs ⟨id, body, checking, same⟩
    cases world_steps orderly taken with
    | chat _ _ _ _ status => exact .kept (status ▸ waits) others
    | gate _ _ _ _ status => exact .kept (status ▸ waits) others
    | login other body checking => exact absurd ⟨other, body, checking, rfl⟩ logs
    | refused other body checking => exact absurd ⟨other, body, checking, rfl⟩ logs
    | count other outcome request index counting =>
      rcases changed waits with ⟨rfl, same⟩ | ⟨_, before⟩
      · cases same
        exact .counted index counting
      · exact .kept before others
    | uuid other token request index chosen =>
      rcases changed waits with ⟨rfl, same⟩ | ⟨_, before⟩
      · cases same
        exact .made token chosen
      · exact .kept before others
    | setToken other commands token outcome request index response first storing =>
      rcases changed waits with ⟨_, same⟩ | ⟨_, before⟩
      · cases same
      · exact .kept before others
    | _ => exact .kept waits others

/-- A token is made for the user of a call. -/
theorem world_made (orderly : WellServed externals world) {act : WorldAct deployment.Member}
    (taken : world.step externals network act = some after) {id : Int32} {token : String}
    (made : .generated id token ∈ after.status.history) : .generated id token ∈ world.status.history ∨
      ∃ call request index, act = .status (.uuid call token) ∧ world.status.call call = some (.chosen request index) ∧
        request.uid = id := by
  cases world_steps orderly taken with
  | chat _ _ _ _ status => exact .inl (status ▸ made)
  | gate _ _ _ _ status => exact .inl (status ▸ made)
  | uuid call fresh request index chosen =>
    rcases List.mem_cons.mp made with new | before
    · cases new
      exact .inr ⟨call, request, index, rfl, chosen, rfl⟩
    · exact .inl before
  | setToken called commands stored outcome request index response first storing =>
    rcases List.mem_cons.mp made with answered | before
    · cases answered
    · exact .inl before
  | _ => exact .inl made

theorem set_entry {key other value : String} {outcome : Outcome} {redis : Redis} {entry : RedisEntry}
    (there : (RedisClient.set key value outcome redis).2.entries other = some entry) :
    other = key ∧ entry = ⟨.string value, none⟩ ∨ redis.entries other = some entry := by
  have stored : (redis.set key value).entries other = some entry →
      other = key ∧ entry = ⟨.string value, none⟩ ∨ redis.entries other = some entry := by
    intro found
    by_cases same : other = key
    · subst same
      have new : (redis.set other value).entries other = some ⟨.string value, none⟩ := if_pos rfl
      exact .inl ⟨rfl, Option.some.inj (found.symm.trans new)⟩
    · have kept : (redis.set key value).entries other = redis.entries other := if_neg same
      exact .inr (kept.symm.trans found)
  cases outcome with
  | error => exact .inr there
  | ok => exact stored there
  | lost => exact stored there

/-- The entries of tokens, when no code is asked for under one of their keys. -/
theorem Warranted.held_step (warranted : Warranted externals network start done world) {act : WorldAct deployment.Member}
    (taken : world.step externals network act = some after) (uid : Int64) (token : String) (expireAt : Option Nat)
    (there : after.redis.entries (userTokenKey uid) = some ⟨.string token, expireAt⟩) :
    MadeToken after.status.history uid token := by
  cases world_steps warranted.orderly taken with
  | chat act after _ _ status _ _ entries =>
    rw [entries _ (userTokenKey_not_chatKey uid)] at there
    rw [status]
    exact warranted.held uid token expireAt there
  | gate act after _ _ status _ redis =>
    rw [redis] at there
    rw [status]
    exact warranted.held uid token expireAt there
  | verify act server redis stepped =>
    obtain ⟨_, served⟩ := step_served warranted.orderly.staged stepped
    have keeps : ∀ uid code, ¬ StoresCode world.verify act (userTokenKey uid) code := by
      intro uid code stores
      obtain ⟨id, outcome, _, known⟩ := stores
      exact warranted.calls id _ known uid rfl
    exact warranted.held uid token expireAt ((served_tokenEntry served keeps uid).symm.trans there)
  | uuid call made request index chosen =>
    obtain ⟨user, known, named⟩ := warranted.held uid token expireAt there
    exact ⟨user, List.mem_cons_of_mem _ known, named⟩
  | setToken call commands made outcome request index response first storing =>
    rcases set_entry there with ⟨same, new⟩ | before
    · rw [tokenKey_eq] at same
      have named : uid = request.uid.toInt64 := userTokenKey_injective same
      cases new
      exact ⟨request.uid, List.mem_cons_of_mem _ (warranted.storing call request index token storing), named.symm⟩
    · obtain ⟨user, known, named⟩ := warranted.held uid token expireAt before
      exact ⟨user, List.mem_cons_of_mem _ known, named⟩
  | _ => exact warranted.held uid token expireAt there

theorem Warranted.pending_step (warranted : Warranted externals network start done world)
    (run : Transition.Run (World.step externals network) start done world) {act : WorldAct deployment.Member}
    (taken : world.step externals network act = some after) (id : Nat) (call : StatusCall) (waits : after.status.call id = some call) :
    CalledFor externals network start (done ++ [act]) id (statusUid call) := by
  cases world_calls warranted.orderly taken waits with
  | kept before other => exact (warranted.pending id call before).next other
  | @begun body checking request password => exact ⟨done, body, checking, [], world, rfl, fun _ _ => List.not_mem_nil, run, password⟩
  | counted index before => exact (warranted.pending id _ before).next nofun
  | made token before => exact (warranted.pending id _ before).next nofun

theorem Warranted.storing_step (warranted : Warranted externals network start done world) {act : WorldAct deployment.Member}
    (taken : world.step externals network act = some after) (id : Nat) (request : GetChatServerRequest) (index : Int32) (token : String)
    (waits : after.status.call id = some (.storing request index token)) : .generated request.uid token ∈ after.status.history := by
  cases world_calls warranted.orderly taken waits with
  | kept before _ => exact world_tokens warranted.orderly taken (warranted.storing id request index token before)
  | made _ chosen =>
    cases world_steps warranted.orderly taken with
    | uuid _ _ other _ there =>
      cases chosen.symm.trans there
      exact List.mem_cons_self

theorem Warranted.made_step (warranted : Warranted externals network start done world)
    (run : Transition.Run (World.step externals network) start done world) {act : WorldAct deployment.Member}
    (taken : world.step externals network act = some after) (id : Int32) (token : String)
    (made : .generated id token ∈ after.status.history) : GeneratedFor externals network start (done ++ [act]) id token := by
  rcases world_made warranted.orderly taken made with before | ⟨call, request, index, same, chosen, named⟩
  · exact (warranted.made id token before).next act
  · subst same
    refine ⟨done, call, [], world, request, index, rfl, run, chosen, named, ?_⟩
    rw [← named]
    exact warranted.pending call _ chosen

theorem Warranted.step (warranted : Warranted externals network start done world)
    (run : Transition.Run (World.step externals network) start done world) {act : WorldAct deployment.Member} (asks : AsksNoToken act)
    (taken : world.step externals network act = some after) : Warranted externals network start (done ++ [act]) after := by
  have orderly := warranted.orderly
  have grows := world_tokens orderly taken
  have later : ∀ uid token, MadeToken world.status.history uid token → MadeToken after.status.history uid token := by
    intro uid token made
    obtain ⟨user, generated, same⟩ := made
    exact ⟨user, grows generated, same⟩
  have told : ∀ member, Handlers (fun _ _ told _ => ToldMade (MadeToken after.status.history) told) (world.fleet.server member) :=
    fun member => (warranted.told member).mono fun _ _ _ _ known uid token heard => later uid token (known uid token heard)
  refine ⟨orderly.step taken, ?_, warranted.held_step taken, warranted.pending_step run taken, warranted.storing_step taken,
    warranted.made_step run taken, ?_, ?_⟩
  · cases world_steps orderly taken with
    | chat _ _ _ verify => exact verify ▸ warranted.calls
    | gate _ _ _ verify => exact verify ▸ warranted.calls
    | verify act server redis stepped =>
      apply warranted.calls.step stepped
      intro id request same
      subst same
      exact asks
    | _ => exact warranted.calls
  · intro member
    rcases world_member taken member with same | ⟨own, first, _⟩
    · rw [same]
      exact warranted.reached member
    · exact (warranted.reached member).next first
  · intro member
    rcases world_member taken member with same | ⟨own, first, hears⟩
    · rw [same]
      exact told member
    · refine toldMade_step ?_ hears first (told member)
      intro uid token found
      obtain ⟨expireAt, entry⟩ := Redis.entry_of_get found
      exact later uid token (warranted.held uid token expireAt entry)

theorem warranted_start (externals : Externals) (network : Network) (users : UserTable weight) (db : Tables) :
    Warranted externals network (.start deployment users db) [] (.start deployment users db) := by
  refine ⟨WellServed.start externals users db, ?_, ?_, ?_, ?_, ?_, fun _ => .refl _, fun _ => Handlers.fresh _ _⟩
  · intro id call waits
    cases waits
  · intro uid token expireAt there
    cases there
  · intro id call waits
    cases waits
  · intro id request index token waits
    cases waits
  · intro id token made
    cases made

end Sessions

/-- Whoever is logged in has sent a login on this session, with a token that was made for him. -/
theorem authenticated_token {lib : JsonLib} {name : String} {server : ChatServer} {made : Int64 → String → Prop} {addr : Addr}
    (reached : Transition.Reachable (ChatServer.step lib) (.fresh name) server)
    (told : Handlers (fun _ _ told _ => ToldMade made told) server) (authenticated : (server.session addr).isAuthenticated = true) :
    ∃ readMsg request, readMsg ∈ handed server.log addr ∧ MessageId.enumCast readMsg.id = some .loginRequest ∧
      parseJson lib UserLoginRequest.fromJson readMsg.bodyText = some request ∧ request.uid = (server.session addr).uid ∧
      made request.uid request.token := by
  obtain ⟨acts, run⟩ := reached
  have tracked : Tracked lib server := run.invariant step_tracked (fresh_tracked lib name)
  have found := (tracked.vouched addr).installed authenticated
  cases set : lastSet (ledgerOf (server.session addr).reader) with
  | some given =>
    -- the handler of another login is still at work
    cases task : (server.session addr).reader.task with
    | none =>
      rw [ledgerOf_idle task] at set
      cases set
    | some running =>
      obtain ⟨readMsg, ledger, rest⟩ := running
      have known : ledgerOf (server.session addr).reader = ledger := by
        unfold ledgerOf
        rw [task]
      rw [known] at set found
      rw [set, Option.some_or] at found
      obtain ⟨kind, request, passed, same⟩ := (tracked.traced.suspended task).separate.set given set
      refine ⟨readMsg, request, List.mem_of_getLast? (tracked.current addr _ _ _ task), kind, passed.parsed, ?_, ?_⟩
      · exact same.trans (Option.some.inj found)
      · exact told.suspended addr _ _ _ task _ _ passed.token
  | none =>
    rw [set, Option.none_or] at found
    obtain ⟨readMsg, ledger, reply, request, logged, kind, passed, same, _⟩ := installed_login tracked.traced found
    have answered : (readMsg, reply) ∈ replies server.log addr := by
      apply List.mem_reverse.mpr
      exact List.mem_filterMap.mpr ⟨_, logged, if_pos rfl⟩
    have handed : readMsg ∈ handed server.log addr := by
      rw [(run_inTurn run).1.frames addr]
      exact List.mem_append_left _ (List.mem_map_of_mem answered)
    exact ⟨readMsg, request, handed, kind, passed.parsed, same, told.replied addr _ _ _ logged _ _ passed.token⟩

/-- The session has sent a login for its user, with a token that was made for him, in the call of a login at the gate server that
    has shown his password. -/
theorem sessions_have_passwords (deployment : Deployment) {weight : Collation} (externals : Externals) (network : Network)
    (users : UserTable weight) (db : Tables) (actions : List (WorldAct deployment.Member)) (after : World deployment weight)
    (run : Transition.Run (World.step externals network) (.start deployment users db) actions after)
    (asks : ∀ act ∈ actions, AsksNoToken act) (member : deployment.Member) (addr : Addr)
    (authenticated : ((after.fleet.server member).session addr).isAuthenticated = true) :
    ∃ readMsg request id, readMsg ∈ handed (after.fleet.server member).log addr ∧
      MessageId.enumCast readMsg.id = some .loginRequest ∧
      parseJson externals.lib UserLoginRequest.fromJson readMsg.bodyText = some request ∧
      request.uid = ((after.fleet.server member).session addr).uid ∧ id.toInt64 = request.uid ∧
      GeneratedFor externals network (.start deployment users db) actions id request.token := by
  let start : World deployment weight := .start deployment users db
  have keeps : ∀ done before act after, Transition.Run (World.step externals network) start done before →
      ((∀ act ∈ done, AsksNoToken act) → Warranted externals network start done before) →
      before.step externals network act = some after →
      (∀ other ∈ done ++ [act], AsksNoToken other) → Warranted externals network start (done ++ [act]) after := by
    intro done before act after reached warranted taken asks
    have earlier : ∀ act ∈ done, AsksNoToken act := fun act member => asks act (List.mem_append_left _ member)
    exact (warranted earlier).step reached (asks act (List.mem_append_right _ List.mem_cons_self)) taken
  have warranted : Warranted externals network start actions after := by
    refine Transition.Run.invariant_along ?_ keeps run asks
    exact fun _ => warranted_start externals network users db
  obtain ⟨readMsg, request, handed, kind, parsed, current, made⟩ :=
    authenticated_token (warranted.reached member) (warranted.told member) authenticated
  obtain ⟨id, generated, named⟩ := made
  exact ⟨readMsg, request, id, handed, kind, parsed, current, named, warranted.made id request.token generated⟩

/-- The user logs in at the gate server, and with his token at the first chat server. -/
def ninaChats : List (WorldAct (Sample.deployed 2).Member) :=
  Sample.ninaLogsIn ++ (Sample.connectTo Sample.firstOfTwo 1 [(.loginRequest, Sample.loginBody 9 "7f3c")] ++
    Sample.frameOf Sample.firstOfTwo 1 8).map .chat

theorem sessions_have_passwords_nina : ∃ after : World (Sample.deployed 2) id,
    Transition.Run (World.step Sample.nineExternals Sample.network) Sample.startOfNina ninaChats after ∧
      ((after.fleet.server Sample.firstOfTwo).session 1).uid = 9 ∧
      ∃ token, GeneratedFor Sample.nineExternals Sample.network Sample.startOfNina ninaChats 9 token := by
  have possible : ((Transition.runs (World.step Sample.nineExternals Sample.network) Sample.startOfNina ninaChats).any
      fun after => ((after.fleet.server Sample.firstOfTwo).session 1).isAuthenticated &&
        ((after.fleet.server Sample.firstOfTwo).session 1).uid = 9) = true := by decide +kernel
  obtain ⟨after, reached, found⟩ := (Option.any_eq_true _ _).mp possible
  obtain ⟨authenticated, uid⟩ := Bool.and_eq_true_iff.mp found
  have user := of_decide_eq_true uid
  have run := Transition.run_iff_runs.mpr reached
  have asks : ∀ act ∈ ninaChats, AsksNoToken act := by
    intro act member
    rcases List.mem_append.mp member with first | second
    · simp only [Sample.ninaLogsIn, List.mem_cons, List.not_mem_nil, or_false] at first
      rcases first with rfl | rfl | rfl | rfl <;> trivial
    · obtain ⟨chat, _, same⟩ := List.mem_map.mp second
      subst same
      trivial
  obtain ⟨readMsg, request, id, _, _, _, current, named, generated⟩ := sessions_have_passwords (Sample.deployed 2) Sample.nineExternals
    Sample.network Sample.nina {} ninaChats after run asks Sample.firstOfTwo 1 authenticated
  have same : id = 9 := toInt64_injective (named.trans (current.trans user))
  subst same
  exact ⟨after, run, user, request.token, generated⟩

end ChatProof
