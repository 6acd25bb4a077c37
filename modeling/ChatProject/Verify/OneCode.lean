import ChatProject.Library.Transition
import ChatProject.Verify.Served

/-! Which code a request for a verification code gets. -/

namespace ChatProof

open ChatModel

/-! ## One code for each email and window -/

/-- From the first code that was stored for the email on, and for 600 seconds, every answer is this code, and so
    is what Redis holds. -/
structure OneCode (email : String) (system : CodeSystem) : Prop where
  answers : ∀ newer older time code, system.server.history = newer ++ .stored time email code :: older →
    (∀ earlier other, .stored earlier email other ∉ older) →
    ∀ now response, .answered now response ∈ newer → response.error = 0 → response.email = email →
      now < time + 600 → response.code = code
  held : ∀ newer older time code, system.server.history = newer ++ .stored time email code :: older →
    (∀ earlier other, .stored earlier email other ∉ older) →
    system.redis.now < time + 600 → system.redis.get email = some code

/-- No code is stored over another one that is still alive. -/
def StoresOnFree (email : String) (system : CodeSystem) : CodeAct → Prop
  | .serve act => ∀ code, StoresCode system.server act email code → system.redis.get email = none
  | .tick _ => True

/-- An answer in the window of a code is that code. -/
def Agree (email : String) (newer older : VerifyEvent) : Prop :=
  ∀ now response time code, newer = .answered now response → response.error = 0 → response.email = email →
    older = .stored time email code → now < time + 600 → response.code = code

structure Windows (email : String) (system : CodeSystem) : Prop where
  staged : Staged system.server
  held : ∀ time code, .stored time email code ∈ system.server.history → system.redis.now < time + 600 →
    system.redis.entries email = some ⟨.string code, some (time + 600)⟩
  agree : system.server.history.Pairwise (Agree email)

section Window

variable {email : String} {system after : CodeSystem}

theorem Windows.get (windows : Windows email system) {time : Nat} {code : String}
    (stored : .stored time email code ∈ system.server.history) (alive : system.redis.now < time + 600) :
    system.redis.get email = some code := Redis.get_of_entry (windows.held time code stored alive) alive

theorem agree_unanswered {event : VerifyEvent} (silent : ∀ now response, event ≠ .answered now response)
    (older : VerifyEvent) : Agree email event older :=
  fun now response _ _ answered => absurd answered (silent now response)

theorem agree_failed {response : GetVerifyResponse} (now : Nat) (fails : response.error = 0 → response.email ≠ email)
    (older : VerifyEvent) : Agree email (.answered now response) older := by
  intro _ _ _ _ answered success requested
  cases answered
  exact absurd requested (fails success)

theorem agree_answered {response : GetVerifyResponse} {now : Nat} {older : VerifyEvent}
    (same : ∀ time code, older = .stored time email code → now < time + 600 → response.code = code) :
    Agree email (.answered now response) older := by
  intro _ _ time code answered _ _ stored alive
  cases answered
  exact same time code stored alive

theorem Windows.served (windows : Windows email system) {act : VerifyAct} (free : StoresOnFree email system (.serve act))
    (staged : Staged after.server)
    (served : Served system.server system.redis act (after.server.history, after.redis)) : Windows email after := by
  obtain ⟨server, redis⟩ := after
  obtain ⟨call, mails, history⟩ := server
  dsimp only at served
  cases served with
  | quiet => exact ⟨staged, windows.held, windows.agree⟩
  | generated other code =>
    refine ⟨staged, ?_, ?_⟩
    · intro time code stored
      exact windows.held time code (List.mem_of_ne_of_mem (by simp) stored)
    · exact List.pairwise_cons.mpr ⟨fun older _ => agree_unanswered (by simp) older, windows.agree⟩
  | failed response fails =>
    refine ⟨staged, ?_, ?_⟩
    · intro time code stored
      exact windows.held time code (List.mem_of_ne_of_mem (by simp) stored)
    · exact List.pairwise_cons.mpr ⟨fun older _ => agree_failed _ (fun success => absurd success fails) older, windows.agree⟩
  | found other code _ held =>
    refine ⟨staged, ?_, List.pairwise_cons.mpr ⟨?_, windows.agree⟩⟩
    · intro time code stored
      exact windows.held time code (List.mem_of_ne_of_mem (by simp) stored)
    · intro older there
      by_cases same : other = email
      · subst same
        refine agree_answered ?_
        intro time stored older alive
        subst older
        have holds := windows.get there alive
        exact Option.some.inj (held.symm.trans holds)
      · exact agree_failed _ (fun _ => same) older
  | stored other code response made stores answer =>
    by_cases same : other = email
    · subst same
      have unheld : system.redis.get other = none := free code stores
      -- so every window of an older code is over
      have closed : ∀ time older, .stored time other older ∈ system.server.history → ¬ system.redis.now < time + 600 := by
        intro time older there alive
        have holds := windows.get there alive
        rw [unheld] at holds
        cases holds
      refine ⟨staged, ?_, ?_⟩
      · intro time newer stored alive
        rcases List.mem_cons.mp (List.mem_of_ne_of_mem (by simp) stored) with same | there
        · cases same
          exact if_pos rfl
        · exact absurd alive (closed time newer there)
      · refine List.pairwise_cons.mpr ⟨?_, List.pairwise_cons.mpr ⟨fun older _ => agree_unanswered (by simp) older, windows.agree⟩⟩
        intro older there now _ time newer answered success _ stored alive
        cases answered
        rw [answer success]
        subst stored
        rcases List.mem_cons.mp there with same | before
        · cases same
          rfl
        · exact absurd alive (closed time newer before)
    · refine ⟨staged, ?_, ?_⟩
      · intro time newer stored alive
        have different : (VerifyEvent.stored time email newer) ≠ .stored system.redis.now other code := by
          intro equal
          cases equal
          exact same rfl
        have before := List.mem_of_ne_of_mem different (List.mem_of_ne_of_mem (by simp) stored)
        exact (Redis.entries_setex_other (Ne.symm same) 600 code _).trans (windows.held time newer before alive)
      · refine List.pairwise_cons.mpr ⟨?_, List.pairwise_cons.mpr ⟨fun older _ => agree_unanswered (by simp) older, windows.agree⟩⟩
        intro older _
        refine agree_failed _ ?_ older
        intro success
        rw [answer success]
        exact same

theorem Windows.step {act : CodeAct} (windows : Windows email system) (free : StoresOnFree email system act)
    (stepped : system.step act = some after) : Windows email after := by
  cases act with
  | serve act =>
    simp only [CodeSystem.step, Option.map_eq_some_iff] at stepped
    obtain ⟨next, stepped, same⟩ := stepped
    subst same
    obtain ⟨staged, served⟩ := step_served windows.staged stepped
    exact windows.served free staged served
  | tick seconds =>
    cases stepped
    refine ⟨windows.staged, ?_, windows.agree⟩
    intro time code stored alive
    exact windows.held time code stored (Nat.lt_of_le_of_lt (Nat.le_add_right _ _) alive)

theorem windows_start (email : String) (redis : Redis) : Windows email { redis } :=
  { staged := fun _ _ absent => nomatch absent
    held := fun _ _ absent => absurd absent List.not_mem_nil
    agree := List.Pairwise.nil }

theorem Windows.oneCode (windows : Windows email system) : OneCode email system := by
  constructor
  · intro newer older time code history _ now response answered success requested alive
    have pairs := windows.agree
    rw [history] at pairs
    have relates := (List.pairwise_append.mp pairs).2.2 _ answered _ List.mem_cons_self
    exact relates now response time code rfl success requested rfl alive
  · intro newer older time code history _ alive
    have stored : .stored time email code ∈ system.server.history := by
      rw [history]
      exact List.mem_append_right _ List.mem_cons_self
    exact windows.get stored alive

end Window

theorem one_code_in_window (email : String) (redis : Redis) (actions : List CodeAct) (after : CodeSystem)
    (run : Transition.Run CodeSystem.step { redis } actions after)
    (free : Transition.Meets CodeSystem.step (StoresOnFree email) { redis } actions) : OneCode email after :=
  (run.invariant_of_meets (fun _ _ _ windows free stepped => windows.step free stepped) free
    (windows_start email redis)).oneCode

/-- One request after the other. -/
def laterRun : List CodeAct :=
  [.serve (.receive 0 ⟨"alice@example.com"⟩), .serve (.get 0 .ok), .serve (.uuid 0 "7f3c"), .serve (.setex 0 .ok), .tick 599,
    .serve (.receive 1 ⟨"alice@example.com"⟩), .serve (.get 1 .ok)]

theorem laterRun_free : Transition.Meets CodeSystem.step (StoresOnFree "alice@example.com") { redis := {} } laterRun := by
  have other : ∀ system act, (∀ id outcome, act ≠ .setex id outcome) → StoresOnFree "alice@example.com" system (.serve act) := by
    intro system act different code stores
    obtain ⟨id, outcome, same, _⟩ := stores
    exact absurd same (different id outcome)
  refine .of_step rfl (other _ _ nofun) ?_
  refine .of_step rfl (other _ _ nofun) ?_
  refine .of_step rfl (other _ _ nofun) ?_
  refine .of_step rfl (fun _ _ => rfl) ?_
  refine .of_step rfl trivial ?_
  refine .of_step rfl (other _ _ nofun) ?_
  refine .of_step rfl (other _ _ nofun) ?_
  trivial

theorem one_code_in_window_later : ∃ after, Transition.Run CodeSystem.step { redis := {} } laterRun after ∧
    OneCode "alice@example.com" after := by
  obtain ⟨after, run⟩ : ∃ after, Transition.runs CodeSystem.step { redis := {} } laterRun = some after := ⟨_, rfl⟩
  have run := Transition.run_iff_runs.mpr run
  exact ⟨after, run, one_code_in_window "alice@example.com" {} laterRun after run laterRun_free⟩

/-- Both requests look before either has stored its code. -/
def racingRun : List CodeAct :=
  [.serve (.receive 0 ⟨"alice@example.com"⟩), .serve (.receive 1 ⟨"alice@example.com"⟩), .serve (.get 0 .ok), .serve (.get 1 .ok),
    .serve (.uuid 0 "7f3c"), .serve (.uuid 1 "92d0"), .serve (.setex 0 .ok), .serve (.setex 1 .ok)]

theorem racing_requests_get_two_codes : ∃ after, Transition.Run CodeSystem.step { redis := {} } racingRun after ∧
    ¬ OneCode "alice@example.com" after := by
  obtain ⟨after, run⟩ : ∃ after, Transition.runs CodeSystem.step { redis := {} } racingRun = some after := ⟨_, rfl⟩
  refine ⟨after, Transition.run_iff_runs.mpr run, ?_⟩
  intro one
  cases run
  have first : ∀ earlier other, VerifyEvent.stored earlier "alice@example.com" other ∉
      [.generated "alice@example.com" "92d0", .generated "alice@example.com" "7f3c"] := by simp
  have code := one.answers
    [.answered 0 { email := "alice@example.com", code := "92d0" }, .stored 0 "alice@example.com" "92d0",
      .answered 0 { email := "alice@example.com", code := "7f3c" }] _ 0 "7f3c" rfl first 0
    { email := "alice@example.com", code := "92d0" } List.mem_cons_self rfl rfl (by decide)
  exact absurd code (by decide)

end ChatProof
