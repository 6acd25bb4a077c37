import ChatProject.Cluster.Login
import ChatProject.Cluster.Solo
import ChatProject.Server.Load
import ChatProject.Server.Turns
import ChatProject.Store.Keys

/-! The figure that a server has given Redis, and the sessions that are logged in. -/

namespace ChatProof

open ChatModel

/-! ## The figure in Redis -/

section Entries

variable {redis after : Redis} {key field name : String} {value : Int64}

theorem find_setField (field : String) (value : Int64) (fields : List (String × Int64)) :
    ((Redis.setField field value fields).find? fun entry => entry.1 = field) = some (field, value) := by
  induction fields with
  | nil => simp [Redis.setField]
  | cons head rest ih =>
    obtain ⟨other, old⟩ := head
    unfold Redis.setField
    split
    · simp
    · rename_i different
      rw [List.find?_cons, decide_eq_false (Ne.symm different)]
      exact ih

theorem loginCount_put_other (different : loginCountKey ≠ key) (entry : RedisEntry) (redis : Redis) :
    (redis.put key entry).loginCount name = redis.loginCount name := by
  have same : (redis.put key entry).entries loginCountKey = redis.entries loginCountKey := if_neg different
  have found : (redis.put key entry).lookup loginCountKey = redis.lookup loginCountKey := by
    unfold Redis.lookup
    rw [same]
    rfl
  rw [Redis.loginCount, Redis.hgetall, found, Redis.loginCount, Redis.hgetall]

theorem lookup_put (key : String) (value : RedisValue) {redis : Redis} {expireAt : Option Nat}
    (lasting : ∀ time, expireAt = some time → redis.now < time) : (redis.put key ⟨value, expireAt⟩).lookup key = some value := by
  cases expireAt with
  | none => simp [Redis.lookup, Redis.put]
  | some time => simp [Redis.lookup, Redis.put, lasting time rfl]

theorem loginCount_hset {added : Int} (written : redis.hset loginCountKey name value = some (added, after)) :
    after.loginCount name = some value := by
  unfold Redis.hset at written
  split at written
  · cases written
  · rename_i fields found
    cases written
    have lasting : ∀ time, (redis.entries loginCountKey).bind RedisEntry.expireAt = some time → redis.now < time := by
      intro time expires
      unfold Redis.lookup at found
      generalize redis.entries loginCountKey = entry at expires found
      cases entry with
      | none => cases expires
      | some entry =>
        obtain ⟨held, ends⟩ := entry
        have same : ends = some time := expires
        subst same
        by_contra late
        simp only [if_neg late] at found
        cases found
    rw [Redis.loginCount, Redis.hgetall, lookup_put loginCountKey _ lasting]
    exact congrArg (Option.map Prod.snd) (find_setField name value fields)
  · cases written
    have lasting : ∀ time, (none : Option Nat) = some time → redis.now < time := nofun
    rw [Redis.loginCount, Redis.hgetall, lookup_put loginCountKey _ lasting]
    simp

end Entries

/-! ## The steps of a server with its stores -/

/-- What Redis is asked. -/
def isRedis : Op → Bool
  | .redisGet _ | .redisSet _ _ | .redisHset _ _ _ => true
  | _ => false

/-- An error of Redis: the key has a string. -/
def isRefused (stores : Stores) : Op → Bool
  | .redisHset key field value => (stores.redis.hset key field value).isNone
  | _ => false

/-- The call is answered, and not with an error. -/
def Answered (stores : Stores) (outcome : Outcome) (op : Op) : Prop :=
  isRedis op = true → outcome = .ok ∧ isRefused stores op = false

instance (stores : Stores) (outcome : Outcome) (op : Op) : Decidable (Answered stores outcome op) :=
  inferInstanceAs (Decidable (_ → _))

/-- What the handler of this reader waits for. -/
def Reader.waitsFor : Reader → Option Op
  | .waiting _ _ op _ => some op
  | _ => none

/-- Redis answers. -/
def RedisAnswers (solo : Solo) : SoloAct → Prop
  | .exec addr outcome => ∀ op ∈ Reader.waitsFor (solo.server.session addr).reader, Answered solo.stores outcome op
  | _ => True

instance (solo : Solo) : (act : SoloAct) → Decidable (RedisAnswers solo act)
  | .exec addr outcome =>
    inferInstanceAs (Decidable (∀ op ∈ Reader.waitsFor (solo.server.session addr).reader, Answered solo.stores outcome op))
  | .own _ | .others _ => .isTrue trivial

/-- The steps of the server itself keep its load. -/
def KeepsFigure (lib : JsonLib) (solo : Solo) : SoloAct → Prop
  | .own act => KeepsLoad lib solo.server act
  | _ => True

section Steps

variable {externals : Externals} {solo after : Solo}

/-- What a step with the stores is made of. -/
inductive SoloSteps (externals : Externals) (solo : Solo) : SoloAct → Solo → Prop
  | own {act : Act} {server : ChatServer} : (∀ addr oracle, act ≠ .answer addr oracle) → solo.server.step externals.lib act = some server →
      SoloSteps externals solo (.own act) { solo with server }
  | exec {addr : Addr} {outcome : Outcome} {readMsg : MsgNode} {told : Ledger} {op : Op} {next : op.Res → Awaitable ChannelMessage}
      {answer : op.Res} {stores : Stores} : (solo.server.session addr).reader = .waiting readMsg told op next →
      solo.stores.exec externals outcome op = (answer, stores) → SoloSteps externals solo (.exec addr outcome)
        { server := solo.server.setReader addr (.resuming readMsg (⟨op, answer⟩ :: told) (next answer)), stores }
  | others {stores : Stores} : stores.redis.loginCount solo.server.name = solo.stores.redis.loginCount solo.server.name →
      SoloSteps externals solo (.others stores) { solo with stores }

theorem solo_steps {act : SoloAct} (taken : solo.step externals act = some after) : SoloSteps externals solo act after := by
  cases act with
  | own act =>
    cases act with
    | answer addr oracle => cases taken
    | _ =>
      simp only [Solo.step] at taken
      obtain ⟨server, first, same⟩ := Option.map_eq_some_iff.mp taken
      subst same
      exact .own (fun _ _ => nofun) first
  | exec addr outcome =>
    simp only [Solo.step, Solo.exec] at taken
    split at taken
    · rename_i readMsg told op next reading
      obtain ⟨server, first, same⟩ := Option.map_eq_some_iff.mp taken
      simp only [ChatServer.step, reading] at first
      cases first
      subst same
      exact .exec reading rfl
    · cases taken
  | others stores =>
    simp only [Solo.step] at taken
    split at taken <;> cases taken
    rename_i kept
    exact .others kept

/-- For its server, a step is a step of its own, or nothing. -/
theorem solo_server {act : SoloAct} (taken : solo.step externals act = some after) :
    after.server = solo.server ∨ ∃ act, solo.server.step externals.lib act = some after.server := by
  cases solo_steps taken with
  | own _ first => exact .inr ⟨_, first⟩
  | @exec addr outcome readMsg told op next answer stores reading done =>
    right
    refine ⟨.answer addr fun op => (solo.stores.exec externals outcome op).1, ?_⟩
    simp only [ChatServer.step, reading, done]
  | others _ => exact .inl rfl

theorem solo_keeps {inv : ChatServer → Prop}
    (keeps : ∀ server act after, inv server → server.step externals.lib act = some after → inv after)
    {act : SoloAct} (taken : solo.step externals act = some after) (holds : inv solo.server) : inv after.server := by
  rcases solo_server taken with same | ⟨act, first⟩
  · rw [same]
    exact holds
  · exact keeps _ act _ holds first

end Steps

/-! ## What the stores make of the figure -/

section Stores

variable {externals : Externals} {lib : JsonLib} {readMsg : MsgNode} {told : Ledger} {stores : Stores} {outcome : Outcome} {name : String}

theorem asked_redisSet {key value : String} (asked : Asked lib readMsg told (.redisSet key value)) : loginCountKey ≠ key := by
  have cached : ∀ key : UserKey, loginCountKey ≠ key.redisKey := by
    intro key
    have different : loginCountKey ++ "" ≠ key.redisKey := by
      cases key with
      | uid uid => exact append_ne_of_take 1 (by decide) (by decide) (by decide)
      | name name => exact append_ne_of_take 1 (by decide) (by decide) (by decide)
    rwa [String.append_empty] at different
  cases asked with
  | login _ asks =>
    cases asks with
    | @cache request text passed => exact cached (.uid request.uid)
    | route passed => exact fun same => userLoginServerKey_ne_loginCountKey _ same.symm
  | search _ _ _ asks =>
    cases asks with
    | cache info => exact cached _
  | addFriend _ _ asks =>
    cases asks with
    | prepare asks =>
      cases asks with
      | statement _ same => cases same
  | authFriend _ _ asks =>
    cases asks with
    | prepare asks =>
      cases asks with
      | statement _ same => cases same
  | textChat _ _ asks =>
    cases asks with
    | prepare asks =>
      cases asks with
      | statement _ same => cases same

/-- Whatever else the stores are asked leaves it as it is. -/
theorem exec_loginCount {op : Op} (asked : Asked lib readMsg told op) (plain : isFigure op = false) :
    (stores.exec externals outcome op).2.redis.loginCount name = stores.redis.loginCount name := by
  have tables : ∀ {α : Type} (done : α × Tables), (stores.onTables outcome done).2.redis = stores.redis := fun _ => rfl
  cases op with
  | redisSet key value =>
    have kept : (stores.redis.put key ⟨.string value, none⟩).loginCount name = stores.redis.loginCount name :=
      loginCount_put_other (asked_redisSet asked) _ _
    cases outcome with
    | ok => exact kept
    | error => rfl
    | lost => exact kept
  | redisHset key field value => cases plain
  | redisGet key => cases outcome <;> rfl
  | getUserInfo key => cases key <;> rfl
  | addFriendApply fromUid toUid =>
    simp only [Stores.exec, Stores.addFriendApply]
    split <;> rfl
  | _ => rfl

theorem exec_figure {key field : String} {value : Int64} (same : key = loginCountKey)
    (answered : Answered stores outcome (.redisHset key field value)) :
    (stores.exec externals outcome (.redisHset key field value)).2.redis.loginCount field = some value := by
  subst same
  obtain ⟨sent, taken⟩ := answered rfl
  subst sent
  obtain ⟨⟨added, after⟩, done⟩ := Option.isSome_iff_exists.mp (Option.isNone_eq_false_iff.mp taken)
  have put : (stores.exec externals .ok (.redisHset loginCountKey field value)).2.redis = after := by
    simp only [Stores.exec, Stores.onRedis, RedisClient.hset, Outcome.settle, done, Option.getD_some]
  rw [put]
  exact loginCount_hset done

end Stores

/-! ## Runs -/

/-- No handler has had an answer to a figure yet. -/
def Unwritten : ChatServer → Prop := Handlers fun _ _ told _ => ¬ Written told

theorem unwritten_follows (lib : JsonLib) : Follows lib fun _ _ told _ => ¬ Written told where
  handed _ _ := Uncounted.nil.written
  quick _ _ _ op _ _ own unwritten := by
    rw [written_cons]
    rintro (figure | written)
    · cases op <;> simp only [isFigure, Bool.false_eq_true] at figure
      cases own
    · exact unwritten written

/-- Whoever is logged in and open counts in the figure, once there is one. -/
structure Accurate (lib : JsonLib) (name : String) (solo : Solo) : Prop where
  named : NameIs name solo.server
  traced : Traced lib solo.server
  unused : Unused solo.server
  registered : Registered solo.server
  balanced : Balanced (solo.stores.redis.loginCount name) (Unwritten solo.server) solo.server

section Runs

variable {externals : Externals} {name : String} {solo after : Solo}

theorem step_registered {lib : JsonLib} (server : ChatServer) (act : Act) (after : ChatServer) (registered : Registered server)
    (taken : server.step lib act = some after) : Registered after :=
  (Registered.rule lib).step trivial (fun _ _ _ => trivial) taken registered

theorem Accurate.start (lib : JsonLib) (name : String) (stores : Stores) : Accurate lib name (.start name stores) where
  named := rfl
  traced := Traced.fresh lib name
  unused := fresh_unused name
  registered := Registered.fresh name
  balanced := Balanced.fresh _ (Handlers.fresh _ name) name

theorem Accurate.step (accurate : Accurate externals.lib name solo) {act : SoloAct} (redis : RedisAnswers solo act)
    (keeps : KeepsFigure externals.lib solo act) (taken : solo.step externals act = some after) : Accurate externals.lib name after := by
  refine ⟨solo_keeps step_nameIs taken accurate.named, solo_keeps step_traced taken accurate.traced,
    solo_keeps step_unused taken accurate.unused, solo_keeps step_registered taken accurate.registered, ?_⟩
  have balanced := accurate.balanced
  cases solo_steps taken with
  | @own act server own first =>
    have knows := And.intro accurate.traced (And.intro accurate.unused (And.intro accurate.registered (And.intro keeps own)))
    have now := (Balanced.rule externals.lib _ _).step knows (fun _ _ _ => trivial) first balanced
    apply now.mono
    exact (Handlers.rule (unwritten_follows externals.lib)).step trivial own (fun _ _ _ => trivial) first
  | @exec addr outcome readMsg told op next answer stores reading done =>
    have stored : (solo.stores.exec externals outcome op).2 = stores := congrArg Prod.snd done
    have reaches : Reaches externals.lib readMsg told (.call op next) := by
      apply accurate.traced.suspended
      rw [reading]
      rfl
    have asked := (reaches.guided (handleMessage_asked externals.lib readMsg)).1.1
    cases kind : isFigure op with
    | false =>
      have kept : stores.redis.loginCount name = solo.stores.redis.loginCount name := by
        rw [← stored]
        exact exec_loginCount asked kind
      have now := balanced.answer accurate.traced reading kind answer
      rw [← kept] at now
      apply now.mono
      intro unwritten
      apply Handlers.answer unwritten reading
      intro quiet
      rw [written_cons, kind]
      simpa using quiet
    | true =>
      cases op <;> try cases kind
      rename_i key field value
      have answered : Answered solo.stores outcome (.redisHset key field value) := by
        apply redis
        rw [reading]
        rfl
      obtain ⟨same, here, now⟩ := balanced.answer_figure accurate.traced reading answer (Unwritten (solo.server.setReader addr
        (.resuming readMsg (⟨.redisHset key field value, answer⟩ :: told) (next answer))))
      have figure : stores.redis.loginCount name = some value := by
        rw [← stored, ← accurate.named, ← here]
        exact exec_figure same answered
      rw [← figure] at now
      exact now
  | others kept =>
    have named : solo.server.name = name := accurate.named
    rw [named] at kept
    rw [← kept] at balanced
    exact balanced

/-- A login of this server has succeeded. -/
def LoginSucceeded (log : List Event) : Prop := ∃ addr readMsg told reply, Event.replied addr readMsg told reply ∈ log ∧
  MessageId.enumCast readMsg.id = some .loginRequest ∧ ¬ CarriesError reply

/-- The entry of the server in Redis is the number of its sessions that are open and logged in. -/
def FigureIsRight (name : String) (solo : Solo) : Prop :=
  ∃ sessions : List Addr, sessions.Nodup ∧
    (∀ addr, addr ∈ sessions ↔ Live solo.server addr ∧ (solo.server.session addr).isAuthenticated = true) ∧
    solo.stores.redis.loginCount name = some (Int64.ofNat sessions.length)

theorem Accurate.figureIsRight (accurate : Accurate externals.lib name solo)
    (quiet : ∀ addr, (solo.server.session addr).reader.task = none) (succeeded : LoginSucceeded solo.server.log) :
    FigureIsRight name solo := by
  obtain ⟨addr, readMsg, told, reply, logged, kind, success⟩ := succeeded
  have written : ¬ Unwritten solo.server := by
    intro unwritten
    have ends := (accurate.traced.replied logged).guided (handleMessage_counts externals.lib readMsg)
    exact unwritten.replied addr readMsg told reply logged (ends.written reply rfl kind success)
  have right := accurate.balanced.right fun other => isEntering_idle (quiet other)
  refine ⟨solo.server.participants.toList.filter fun addr => (solo.server.session addr).isAuthenticated, ?_, ?_, ?_⟩
  · apply List.Nodup.filter
    exact solo.server.participants.sorted.imp fun below => ne_of_lt below
  · intro other
    rw [List.mem_filter, OrderedSet.mem_toList, accurate.registered other]
  · rw [← List.countP_eq_length_filter]
    exact right.resolve_right written

/-- In every run whose steps keep the load, the figure is right when no handler is in progress, and a login has succeeded. -/
theorem load_figure_accurate (externals : Externals) (name : String) (stores : Stores) (acts : List SoloAct) (solo : Solo)
    (run : Transition.Run (Solo.step externals) (.start name stores) acts solo)
    (redis : Transition.Meets (Solo.step externals) RedisAnswers (.start name stores) acts)
    (keeps : Transition.Meets (Solo.step externals) (KeepsFigure externals.lib) (.start name stores) acts)
    (quiet : ∀ addr, (solo.server.session addr).reader.task = none) (succeeded : LoginSucceeded solo.server.log) :
    FigureIsRight name solo := by
  have both : ∀ solo act after, (Accurate externals.lib name solo) → (RedisAnswers solo act ∧ KeepsFigure externals.lib solo act) →
      solo.step externals act = some after → Accurate externals.lib name after :=
    fun solo act after accurate cond taken => accurate.step cond.1 cond.2 taken
  have accurate := run.invariant_of_meets both (redis.and keeps) (Accurate.start externals.lib name stores)
  exact accurate.figureIsRight quiet succeeded

end Runs

/-! ## A server with one user -/

namespace Sample

/-- No frame of anybody else has been handed to a handler. -/
def handedOnly (own : Addr) : Event → Bool
  | .handed addr _ => addr = own
  | _ => true

/-- Nobody leaves, and whoever counts is alone. -/
def countsAlone (own : Addr) (lib : JsonLib) (solo : Solo) : SoloAct → Bool
  | .own act => (closing solo.server act).isNone && (counts lib solo.server act).all fun addr =>
      addr = own && solo.server.participants.toList = [own] && solo.server.log.all (handedOnly own)
  | _ => true

/-- A login has been answered with something else than an error. -/
def succeeds : Event → Bool
  | .replied _ readMsg _ reply =>
    MessageId.enumCast readMsg.id = some .loginRequest && reply.msg.bodyText[2]?.any fun byte => byte ≠ 101
  | _ => false

/-- The user connects, and logs in over eight calls of the stores. -/
def logsIn : List SoloAct :=
  [.own (.accept 1 0), .own (.startReader 1), .own (.send 1 annFrame.wire), .own (.readDone 1), .own (.resumeReader 1),
    .own (.readDone 1), .own (.resumeReader 1)] ++ (List.replicate 8 [.exec 1 .ok, .own (.resumeReader 1)]).flatten

end Sample

theorem alone_idle {server : ChatServer} (current : Current server) {own other : Addr}
    (alone : server.log.all (Sample.handedOnly own) = true) (different : other ≠ own) : (server.session other).reader.task = none := by
  have nothing : handed server.log other = [] := by
    rw [handed, List.reverse_eq_nil_iff, List.filterMap_eq_nil_iff]
    intro event member
    have seen := List.all_eq_true.mp alone event member
    cases event with
    | handed addr readMsg =>
      have same : addr = own := of_decide_eq_true seen
      exact if_neg fun here => different (here.symm.trans same)
    | _ => rfl
  cases task : (server.session other).reader.task with
  | none => rfl
  | some running =>
    obtain ⟨readMsg, told, rest⟩ := running
    have last := current other readMsg told rest task
    rw [nothing] at last
    cases last

theorem solo_current (externals : Externals) (solo : Solo) (act : SoloAct) (after : Solo) (current : Current solo.server)
    (taken : solo.step externals act = some after) : Current after.server := by
  apply solo_keeps _ taken current
  intro server act after current first
  exact (Current.rule externals.lib).step trivial (fun _ _ _ => trivial) first current

theorem solo_registered (externals : Externals) (solo : Solo) (act : SoloAct) (after : Solo) (registered : Registered solo.server)
    (taken : solo.step externals act = some after) : Registered after.server := solo_keeps step_registered taken registered

theorem keepsFigure_alone {lib : JsonLib} {solo : Solo} {own : Addr} {act : SoloAct} (current : Current solo.server)
    (alone : Sample.countsAlone own lib solo act = true) : KeepsFigure lib solo act := by
  cases act with
  | own act =>
    obtain ⟨stays, counting⟩ := Bool.and_eq_true_iff.mp alone
    constructor
    · intro addr closes
      rw [closes] at stays
      cases stays
    · intro addr counted
      rw [counted] at counting
      obtain ⟨both, handed⟩ := Bool.and_eq_true_iff.mp counting
      obtain ⟨here, members⟩ := Bool.and_eq_true_iff.mp both
      have here : addr = own := of_decide_eq_true here
      have members : solo.server.participants.toList = [own] := of_decide_eq_true members
      subst here
      refine ⟨?_, ?_, ?_⟩
      · intro other member different
        rw [← OrderedSet.mem_toList, members] at member
        exact absurd (List.mem_singleton.mp member) different
      · intro other different
        exact isEntering_idle (alone_idle current handed different)
      · rw [OrderedSet.size, members, List.length_singleton]
        decide
  | exec addr outcome => trivial
  | others stores => trivial

theorem succeeded_of_any {log : List Event} (found : log.any Sample.succeeds = true) : LoginSucceeded log := by
  obtain ⟨event, member, succeeds⟩ := List.any_eq_true.mp found
  cases event with
  | replied addr readMsg told reply =>
    obtain ⟨kind, byte⟩ := Bool.and_eq_true_iff.mp succeeds
    obtain ⟨byte, third, different⟩ := (Option.any_eq_true _ _).mp byte
    refine ⟨addr, readMsg, told, reply, member, of_decide_eq_true kind, ?_⟩
    rintro ⟨responseId, error, _, same⟩
    rw [same, errorResponse_third] at third
    cases third
    exact absurd rfl (of_decide_eq_true different)
  | _ => cases succeeds

theorem load_figure_accurate_ann : ∃ solo,
    Transition.Run (Solo.step (Sample.externals [annLogin])) (.start "chat_server1" Sample.stores) Sample.logsIn solo ∧
      solo.stores.redis.loginCount "chat_server1" = some 1 ∧ FigureIsRight "chat_server1" solo := by
  have possible : ((Transition.runs (Solo.step (Sample.externals [annLogin])) (.start "chat_server1" Sample.stores) Sample.logsIn).any
      fun solo => solo.stores.redis.loginCount "chat_server1" = some 1 ∧ (solo.server.session 1).reader.task.isNone = true ∧
        solo.server.log.all (Sample.handedOnly 1) = true ∧ solo.server.log.any Sample.succeeds = true) = true := by decide +kernel
  have redis : Transition.Meets (Solo.step (Sample.externals [annLogin])) RedisAnswers (.start "chat_server1" Sample.stores)
      Sample.logsIn := by decide +kernel
  have alone : Transition.Meets (Solo.step (Sample.externals [annLogin]))
      (fun solo act => Sample.countsAlone 1 (Sample.externals [annLogin]).lib solo act = true) (.start "chat_server1" Sample.stores)
      Sample.logsIn := by decide +kernel
  obtain ⟨solo, reached, found⟩ := (Option.any_eq_true _ _).mp possible
  obtain ⟨figure, idle, handed, logged⟩ := of_decide_eq_true found
  have run := Transition.run_iff_runs.mpr reached
  have keeps := alone.mono_of_invariant (solo_current _) (fun _ _ current alone => keepsFigure_alone current alone) (Current.fresh _)
  have current : Current solo.server := run.invariant (solo_current _) (Current.fresh _)
  refine ⟨solo, run, figure, load_figure_accurate _ _ _ _ solo run redis keeps ?_ (succeeded_of_any logged)⟩
  intro addr
  by_cases here : addr = 1
  · rw [here]
    exact Option.isNone_iff_eq_none.mp idle
  · exact alone_idle current handed here

/-- The user logs in, and leaves. -/
theorem load_figure_stays : ¬ ∀ (externals : Externals) (name : String) (stores : Stores) (acts : List SoloAct) (solo : Solo),
    Transition.Run (Solo.step externals) (.start name stores) acts solo →
    Transition.Meets (Solo.step externals) RedisAnswers (.start name stores) acts →
    (∀ addr, (solo.server.session addr).reader.task = none) → LoginSucceeded solo.server.log → FigureIsRight name solo := by
  intro claim
  let acts : List SoloAct := Sample.logsIn ++ [.own (.readFailed 1)]
  have possible : ((Transition.runs (Solo.step (Sample.externals [annLogin])) (.start "chat_server1" Sample.stores) acts).any
      fun solo => solo.stores.redis.loginCount "chat_server1" = some 1 ∧ (solo.server.session 1).reader.task.isNone = true ∧
        solo.server.participants.toList = [] ∧ solo.server.log.all (Sample.handedOnly 1) = true ∧
        solo.server.log.any Sample.succeeds = true) = true := by decide +kernel
  have redis : Transition.Meets (Solo.step (Sample.externals [annLogin])) RedisAnswers (.start "chat_server1" Sample.stores) acts := by
    decide +kernel
  obtain ⟨solo, reached, found⟩ := (Option.any_eq_true _ _).mp possible
  obtain ⟨figure, idle, nobody, handed, logged⟩ := of_decide_eq_true found
  have run := Transition.run_iff_runs.mpr reached
  have current : Current solo.server := run.invariant (solo_current _) (Current.fresh _)
  have quiet : ∀ addr, (solo.server.session addr).reader.task = none := by
    intro addr
    by_cases here : addr = 1
    · rw [here]
      exact Option.isNone_iff_eq_none.mp idle
    · exact alone_idle current handed here
  obtain ⟨sessions, _, members, counted⟩ := claim _ _ _ _ solo run redis quiet (succeeded_of_any logged)
  have registered : Registered solo.server := run.invariant (solo_registered _) (Registered.fresh _)
  have empty : sessions = [] := by
    apply List.eq_nil_iff_forall_not_mem.mpr
    intro addr member
    have present := (registered addr).mpr ((members addr).mp member).1
    rw [← OrderedSet.mem_toList, nobody] at present
    cases present
  rw [figure, empty] at counted
  exact absurd counted (by decide)

end ChatProof
