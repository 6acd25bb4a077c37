import ChatProject.Cluster.Destination
import ChatProject.Cluster.World
import ChatProject.Store.Keys
import ChatProject.Verify.Served

/-! Which records in Redis each of the services writes. -/

namespace ChatProof

open ChatModel

/-! ## The records of the chat servers -/

/-- The key of an entry that a chat server writes. -/
inductive ChatKey : String → Prop
  | route (uid : Int64) : ChatKey (userLoginServerKey uid)
  | cached (key : UserKey) : ChatKey key.redisKey
  | count : ChatKey loginCountKey

/-- A key that belongs to the chat servers or to the status server. -/
def Reserved (key : String) : Prop := ChatKey key ∨ ∃ uid, key = userTokenKey uid

theorem userTokenKey_not_chatKey (uid : Int64) : ¬ ChatKey (userTokenKey uid) := by
  have apart : ∀ key, ChatKey key → userTokenKey uid ≠ key := by
    intro key chat
    cases chat with
    | route other => exact append_ne_of_take 6 (by decide) (by decide) (by decide)
    | cached key =>
      cases key with
      | uid other => exact append_ne_of_take 6 (by decide) (by decide) (by decide)
      | name name => exact append_ne_of_take 6 (by decide) (by decide) (by decide)
    | count =>
      have different : userTokenPrefix ++ toString64 uid ≠ loginCountKey ++ "" :=
        append_ne_of_take 1 (by decide) (by decide) (by decide)
      rwa [String.append_empty] at different
  intro chat
  exact apart _ chat rfl

/-- The entry of Redis that a call may change. -/
def keyWritten : Op → Option String
  | .redisSet key _ => some key
  | .redisHset key _ _ => some key
  | _ => none

theorem asked_keyWritten {lib : JsonLib} {msg : MsgNode} {told : Ledger} {op : Op} (asked : Asked lib msg told op) :
    ∀ key ∈ keyWritten op, ChatKey key := by
  intro key writes
  cases asked with
  | gate => cases writes
  | login _ asks =>
    cases asks with
    | @cache request text passed =>
      cases writes
      exact .cached (.uid request.uid)
    | counted name count =>
      cases writes
      exact .count
    | @route request name passed set told =>
      cases writes
      exact .route request.uid
    | _ => cases writes
  | @search _ searched _ _ _ asks =>
    cases asks with
    | cache info =>
      cases writes
      exact .cached searched
    | _ => cases writes
  | addFriend _ _ asks =>
    cases asks with
    | prepare asks =>
      cases asks with
      | statement _ same =>
        cases same
        cases writes
      | _ => cases writes
    | _ => cases writes
  | authFriend _ _ asks =>
    cases asks with
    | prepare asks =>
      cases asks with
      | statement _ same =>
        cases same
        cases writes
      | _ => cases writes
    | _ => cases writes
  | textChat _ _ asks =>
    cases asks with
    | prepare asks =>
      cases asks with
      | statement _ same => cases same
      | _ => cases writes
    | _ => cases writes

/-- The clock, and the entries under all other keys. -/
def SameBut (key : String) (before after : Redis) : Prop :=
  after.now = before.now ∧ ∀ other, other ≠ key → after.entries other = before.entries other

theorem sameBut_put (key : String) (entry : RedisEntry) (redis : Redis) : SameBut key redis (redis.put key entry) :=
  ⟨rfl, fun _ different => if_neg different⟩

theorem sameBut_settle {α : Type} {key : String} {redis : Redis} (outcome : Outcome) {done : α × Redis} (failed : α)
    (same : SameBut key redis done.2) : SameBut key redis (outcome.settle done failed redis).2 := by
  cases outcome with
  | ok => exact same
  | error => exact ⟨rfl, fun _ _ => rfl⟩
  | lost => exact same

theorem sameBut_hset (key field : String) (value : Int64) (redis : Redis) :
    SameBut key redis ((redis.hset key field value).getD (-1, redis)).2 := by
  unfold Redis.hset
  split
  · exact ⟨rfl, fun _ _ => rfl⟩
  · exact sameBut_put key _ redis
  · exact sameBut_put key _ redis

theorem exec_entries (externals : Externals) (outcome : Outcome) (op : Op) (stores : Stores) :
    (stores.exec externals outcome op).2.redis.now = stores.redis.now ∧ ∀ key, (∀ changed ∈ keyWritten op, key ≠ changed) →
      (stores.exec externals outcome op).2.redis.entries key = stores.redis.entries key := by
  cases op with
  | redisSet key value =>
    obtain ⟨now, entries⟩ : SameBut key stores.redis (RedisClient.set key value outcome stores.redis).2 :=
      sameBut_settle outcome false (sameBut_put key ⟨.string value, none⟩ stores.redis)
    exact ⟨now, fun other different => entries other (different key rfl)⟩
  | redisHset key field value =>
    obtain ⟨now, entries⟩ : SameBut key stores.redis (RedisClient.hset key field value outcome stores.redis).2 :=
      sameBut_settle outcome (-1) (sameBut_hset key field value stores.redis)
    exact ⟨now, fun other different => entries other (different key rfl)⟩
  | redisGet key =>
    have same : (stores.exec externals outcome (.redisGet key)).2.redis = stores.redis := RedisClient.get_redis key outcome stores.redis
    rw [same]
    exact ⟨rfl, fun _ _ => rfl⟩
  | getUserInfo key => cases key <;> exact ⟨rfl, fun _ _ => rfl⟩
  | addFriendApply fromUid toUid =>
    have same : (stores.exec externals outcome (.addFriendApply fromUid toUid)).2.redis = stores.redis := by
      simp only [Stores.exec, Stores.addFriendApply]
      split <;> rfl
    rw [same]
    exact ⟨rfl, fun _ _ => rfl⟩
  | _ => exact ⟨rfl, fun _ _ => rfl⟩

/-! ## The steps of the chat servers -/

section Fleet

variable {deployment : Deployment} {externals : Externals} {network : Network} {fleet after : Fleet deployment.Member}

def AllTraced (lib : JsonLib) (fleet : Fleet deployment.Member) : Prop := ∀ member, Traced lib (fleet.server member)

theorem AllTraced.setServer (traced : AllTraced externals.lib fleet) {member : deployment.Member} {server : ChatServer}
    (here : Traced externals.lib server) : AllTraced externals.lib (fleet.setServer member server) := by
  intro other
  by_cases same : other = member
  · subst same
    rw [fleet_setServer_self]
    exact here
  · rw [fleet_setServer_other same]
    exact traced other

theorem AllTraced.start (lib : JsonLib) (stores : Stores) : AllTraced lib (.start deployment stores) :=
  fun member => Traced.fresh lib (deployment.name member)

theorem AllTraced.step (traced : AllTraced externals.lib fleet) {act : FleetAct deployment.Member}
    (taken : fleet.step externals network act = some after) : AllTraced externals.lib after := by
  cases fleet_steps taken with
  | own _ first => exact traced.setServer (step_traced _ _ _ (traced _) first)
  | exec reading => exact traced.setServer ((Traced.rule externals.lib).answer _ _ _ _ _ _ _ trivial reading (traced _))
  | @arrive member peer request _ _ =>
    have queued : AllTraced externals.lib (fleet.setRpc member (.queued peer request)) := traced
    exact queued.setServer ((Traced.rule externals.lib).post _ _ (traced _))
  | @runTask peer caller request rest free tasks _ =>
    have first : (fleet.server peer).step externals.lib .runTask =
        some ({ fleet.server peer with tasks := rest }.serveNotify request) := by
      simp only [ChatServer.step, ChatServer.threadStep, free, tasks, if_true]
    have served : AllTraced externals.lib (fleet.setServer peer ({ fleet.server peer with tasks := rest }.serveNotify request)) :=
      traced.setServer (step_traced _ _ _ (traced peer) first)
    cases caller <;> exact served
  | @returned _ member addr answer readMsg told request next _ blocked reading =>
    have first : (fleet.server member).step externals.lib (.returned answer) = some ({ fleet.server member with blocked := none
        }.runHandler addr readMsg (⟨.notify request, answer⟩ :: told) (next answer)) := by
      simp only [ChatServer.step, blocked, reading]
    have idle : AllTraced externals.lib (fleet.setRpc member .idle) := traced
    exact idle.setServer (step_traced _ _ _ (traced member) first)
  | others _ => exact traced

/-- The chat servers write their own records only. -/
theorem fleet_entries (traced : AllTraced externals.lib fleet) {act : FleetAct deployment.Member}
    (taken : fleet.step externals network act = some after) (inside : ∀ stores, act ≠ .others stores) :
    after.stores.redis.now = fleet.stores.redis.now ∧
      ∀ key, ¬ ChatKey key → after.stores.redis.entries key = fleet.stores.redis.entries key := by
  cases fleet_steps taken with
  | @exec member addr outcome readMsg told op next reading =>
    have waits : ((fleet.server member).session addr).reader.task = some (readMsg, told, .call op next) := by
      rw [reading]
      rfl
    have asked : Asked externals.lib readMsg told op :=
      (((traced member).suspended waits).guided (handleMessage_asked externals.lib readMsg)).1.1
    obtain ⟨now, entries⟩ := exec_entries externals outcome op fleet.stores
    refine ⟨now, ?_⟩
    intro key other
    apply entries key
    intro changed writes same
    exact other (same ▸ asked_keyWritten asked changed writes)
  | @runTask peer caller request rest free tasks _ => cases caller <;> exact ⟨rfl, fun _ _ => rfl⟩
  | own _ _ => exact ⟨rfl, fun _ _ => rfl⟩
  | arrive _ _ => exact ⟨rfl, fun _ _ => rfl⟩
  | returned _ _ _ => exact ⟨rfl, fun _ _ => rfl⟩
  | others stores => exact absurd rfl (inside stores)

end Fleet

/-! ## The steps of all services -/

section World

variable {deployment : Deployment} {weight : Collation} {externals : Externals} {network : Network}
  {world after : World deployment weight}

/-- What holds whoever asks for what. -/
structure WellServed (externals : Externals) (world : World deployment weight) : Prop where
  traced : AllTraced externals.lib world.fleet
  staged : Staged world.verify

/-- All that a step can do to Redis and to the histories of the two services with calls. -/
inductive WorldSteps (externals : Externals) (world : World deployment weight) :
    WorldAct deployment.Member → World deployment weight → Prop
  | chat (act : FleetAct deployment.Member) (after : World deployment weight) : AllTraced externals.lib after.fleet →
      after.verify = world.verify → after.status = world.status → after.passed = world.passed → after.redis.now = world.redis.now →
      (∀ key, ¬ ChatKey key → after.redis.entries key = world.redis.entries key) → WorldSteps externals world (.chat act) after
  | gate (act : GateAct) (after : World deployment weight) : AllTraced externals.lib after.fleet →
      after.verify = world.verify → after.status = world.status → after.passed = world.passed → after.redis = world.redis → WorldSteps externals world (.gate act) after
  | login (id : Nat) (body : Bytes) (checking : MysqlOutcome) (request : GetChatServerRequest) : world.status.call id = none →
      WorldSteps externals world (.login id body checking)
        { world with status := world.status.receive id request, passed := request.uid :: world.passed }
  | refused (id : Nat) (body : Bytes) (checking : MysqlOutcome) : WorldSteps externals world (.login id body checking) world
  | verify (act : VerifyAct) (server : VerifyServer) (redis : Redis) : world.verify.step world.redis act = some (server, redis) →
      WorldSteps externals world (.verify act) { world.setRedis redis with verify := server }
  | count (id : Nat) (outcome : Outcome) (request : GetChatServerRequest) (index : Int32) :
      world.status.call id = some (.counting request) →
      WorldSteps externals world (.status (.count id outcome)) { world with status := world.status.setCall id (some (.chosen request index)) }
  | uuid (id : Nat) (token : String) (request : GetChatServerRequest) (index : Int32) :
      world.status.call id = some (.chosen request index) →
      WorldSteps externals world (.status (.uuid id token))
        { world with status := { world.status.setCall id (some (.storing request index token)) with
            commands := world.status.commands ++ [id], history := .generated request.uid token :: world.status.history } }
  | setToken (id : Nat) (commands : List Nat) (token : String) (outcome : Outcome) (request : GetChatServerRequest) (index : Int32)
      (response : Option GetChatServerResponse) : world.status.commands = id :: commands →
      world.status.call id = some (.storing request index token) →
      WorldSteps externals world (.status (.setToken outcome))
        { world.setRedis (RedisClient.set (StatusService.tokenKey request.uid) token outcome world.redis).2 with
          status := { world.status.setCall id none with commands, history := .answered id response :: world.status.history } }
  | tick (seconds : Nat) : WorldSteps externals world (.tick seconds) (world.setRedis (world.redis.tick seconds))

theorem world_steps (orderly : WellServed externals world) {act : WorldAct deployment.Member}
    (taken : world.step externals network act = some after) : WorldSteps externals world act after := by
  cases act with
  | chat act =>
    have inside : ∀ stores, act ≠ .others stores := by
      rintro stores rfl
      cases taken
    have moved : (world.fleet.step externals network act).map (fun fleet => { world with fleet }) = some after := by
      cases act with
      | others stores => exact absurd rfl (inside stores)
      | _ => exact taken
    obtain ⟨fleet, stepped, same⟩ := Option.map_eq_some_iff.mp moved
    subst same
    obtain ⟨now, entries⟩ := fleet_entries orderly.traced stepped inside
    exact .chat act _ (orderly.traced.step stepped) rfl rfl rfl now entries
  | gate act =>
    cases act with
    | others redis => cases taken
    | userLogin body checking => cases taken
    | userRegister body getting storing =>
      simp only [World.step] at taken
      obtain ⟨gate, _, same⟩ := Option.map_eq_some_iff.mp taken
      subst same
      exact .gate _ _ orderly.traced rfl rfl rfl rfl
    | resetPassword body getting storing =>
      simp only [World.step] at taken
      obtain ⟨gate, _, same⟩ := Option.map_eq_some_iff.mp taken
      subst same
      exact .gate _ _ orderly.traced rfl rfl rfl rfl
  | login id body checking =>
    simp only [World.step] at taken
    split at taken <;> cases taken
    · rename_i request next free calls
      exact .login id body checking request free
    · exact .refused id body checking
  | verify act =>
    simp only [World.step] at taken
    obtain ⟨⟨server, redis⟩, stepped, same⟩ := Option.map_eq_some_iff.mp taken
    subst same
    exact .verify act server redis stepped
  | status act =>
    simp only [World.step] at taken
    obtain ⟨⟨server, redis⟩, stepped, same⟩ := Option.map_eq_some_iff.mp taken
    subst same
    cases act with
    | count id outcome =>
      simp only [StatusServer.step] at stepped
      split at stepped
      · rename_i request waits
        cases stepped
        rw [RedisClient.hgetall_redis]
        exact .count id outcome request _ waits
      · cases stepped
    | uuid id token =>
      simp only [StatusServer.step] at stepped
      split at stepped <;> cases stepped
      rename_i waits
      exact .uuid id token _ _ waits
    | setToken outcome =>
      simp only [StatusServer.step] at stepped
      split at stepped
      · rename_i id commands first
        split at stepped <;> cases stepped
        rename_i waits
        exact .setToken id commands _ outcome _ _ _ first waits
      · cases stepped
  | tick seconds =>
    cases taken
    exact .tick seconds

theorem WellServed.start (externals : Externals) (users : UserTable weight) (db : Tables) :
    WellServed externals (.start deployment users db) :=
  ⟨AllTraced.start externals.lib _, fun _ _ absent => nomatch absent⟩

theorem WellServed.step (orderly : WellServed externals world) {act : WorldAct deployment.Member}
    (taken : world.step externals network act = some after) : WellServed externals after := by
  cases world_steps orderly taken with
  | chat act after traced verify _ _ _ _ =>
    refine ⟨traced, ?_⟩
    rw [verify]
    exact orderly.staged
  | gate act after traced verify _ _ _ =>
    refine ⟨traced, ?_⟩
    rw [verify]
    exact orderly.staged
  | verify act server redis stepped => exact ⟨orderly.traced, (step_served orderly.staged stepped).1⟩
  | _ => exact ⟨orderly.traced, orderly.staged⟩

end World

end ChatProof
