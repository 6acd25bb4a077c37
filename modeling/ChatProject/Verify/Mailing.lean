import ChatProject.Verify.MailQueue
import ChatProject.Verify.VerifyService

/-! The verification service and its mails. -/

namespace ChatModel

/-- The coroutines of the service run on one thread. It hands the mails of an answer to `MailClient` before it finishes the
    answer, and it is this thread that destroys `MailClient` at the end. -/
structure VerifyProcess where
  server : VerifyServer := {}
  redis : Redis
  mail : MailQueue := {}
  /-- the answer at hand, and those of its mails that have not been queued yet -/
  answering : Option GetVerifyResponse := none
  sending : List Task := []
  finished : List GetVerifyResponse := []

inductive ProcessAct where
  | serve (act : VerifyAct)
  | sendMail
  | notify
  | finish
  | mail (act : MailAct)
  | tick (seconds : Nat)

namespace VerifyProcess

/-- The answer that a step of the service has come to. -/
def newAnswer (before after : VerifyServer) : Option GetVerifyResponse :=
  if after.history.length = before.history.length then none
  else
    match after.history with
    | .answered _ response :: _ => some response
    | _ => none

/-- A step of the worker of `MailClient` or of its destructor. -/
def stepMail (act : MailAct) (process : VerifyProcess) : Option VerifyProcess :=
  (process.mail.step act).map fun mail => { process with mail }

def step (process : VerifyProcess) : ProcessAct → Option VerifyProcess
  | .serve act =>
    if process.answering ≠ none ∨ process.mail.destructor ≠ .notCalled then none
    else (process.server.step process.redis act).map fun (server, redis) =>
      { process with
        server, redis
        answering := newAnswer process.server server
        sending := server.mails.drop process.server.mails.length }
  | .sendMail =>
    match process.sending with
    | [] => none
    | task :: sending => (process.mail.step (.push 0 task)).map fun mail => { process with mail, sending }
  | .notify => process.stepMail (.notify 0)
  | .finish =>
    match process.answering with
    | none => none
    | some response =>
      if process.sending ≠ [] ∨ process.mail.notifying 0 = true then none
      else some { process with answering := none, finished := process.finished ++ [response] }
  | .mail act =>
    match act with
    | .push _ _ | .notify _ => none
    | .requestStop => if process.answering ≠ none then none else process.stepMail .requestStop
    | act => process.stepMail act
  | .tick seconds => some { process with redis := process.redis.tick seconds }

end VerifyProcess

end ChatModel

namespace ChatProof

open ChatModel

/-! ## What an answer has to do with mails -/

/-- The mails of an answer: one to the address, and a copy. -/
def mailsFor (response : GetVerifyResponse) : List Task :=
  if response.error = 0 then
    [VerifyService.verifyMail response.email response.code, VerifyService.verifyMail "chitanda@localhost" response.code]
  else []

/-- All answers, the oldest first. -/
def answersOf (history : List VerifyEvent) : List GetVerifyResponse :=
  (history.filterMap fun
    | .answered _ response => some response
    | _ => none).reverse

theorem reply_mails (email : String) (uniqueId : Except Int32 String) :
    (VerifyService.reply email uniqueId).2 = mailsFor (VerifyService.reply email uniqueId).1 := by
  cases uniqueId <;> rfl

/-- A step of the service comes to no answer, or to one, with its mails. -/
inductive Answers (server after : VerifyServer) : Prop
  | none : after.mails = server.mails → answersOf after.history = answersOf server.history →
      VerifyProcess.newAnswer server after = .none → Answers server after
  | one (response : GetVerifyResponse) : after.mails = server.mails ++ mailsFor response →
      answersOf after.history = answersOf server.history ++ [response] →
      VerifyProcess.newAnswer server after = some response → Answers server after

section Answers

variable {server ready : VerifyServer} {redis : Redis}

theorem answersOf_answered (now : Nat) (response : GetVerifyResponse) (history : List VerifyEvent) :
    answersOf (.answered now response :: history) = answersOf history ++ [response] := by
  simp [answersOf]

theorem finish_answers (id : Nat) (email : String) (uniqueId : Except Int32 String) (now : Nat)
    (mails : ready.mails = server.mails) (answers : answersOf ready.history = answersOf server.history)
    (longer : server.history.length ≤ ready.history.length) : Answers server (ready.finish id email uniqueId now) := by
  have grown : (ready.finish id email uniqueId now).history.length ≠ server.history.length := by
    show ready.history.length + 1 ≠ _
    omega
  apply Answers.one (VerifyService.reply email uniqueId).1
  · rw [← reply_mails, ← mails]
    rfl
  · rw [← answers, ← answersOf_answered now]
    rfl
  · rw [VerifyProcess.newAnswer, if_neg grown]
    rfl

theorem resume_answers (id : Nat) (email : String) (rest : Coroutine VerifyOp VerifyOp.Res Int32 String) (now : Nat)
    (mails : ready.mails = server.mails) (answers : answersOf ready.history = answersOf server.history)
    (longer : server.history.length ≤ ready.history.length) (none : VerifyProcess.newAnswer server ready = .none) :
    Answers server (ready.resume id email rest now) := by
  cases rest with
  | ret code => exact finish_answers id email (.ok code) now mails answers longer
  | throw error => exact finish_answers id email (.error error) now mails answers longer
  | call op next => exact .none mails answers none

theorem newAnswer_same (same : ready.history = server.history) : VerifyProcess.newAnswer server ready = none := by
  rw [VerifyProcess.newAnswer, same, if_pos rfl]

/-- An event that is no answer. -/
theorem newAnswer_other {event : VerifyEvent} (silent : ∀ now response, event ≠ .answered now response)
    (history : ready.history = event :: server.history) :
    VerifyProcess.newAnswer server ready = none ∧ answersOf ready.history = answersOf server.history := by
  rw [VerifyProcess.newAnswer, history, if_neg (by simp)]
  cases event with
  | answered now response => exact absurd rfl (silent now response)
  | generated email code => exact ⟨rfl, rfl⟩
  | stored time email code => exact ⟨rfl, rfl⟩

theorem step_answers {act : VerifyAct} {after : VerifyServer × Redis} (stepped : server.step redis act = some after) :
    Answers server after.1 := by
  cases act with
  | receive id request =>
    simp only [VerifyServer.step] at stepped
    split at stepped <;> cases stepped
    exact .none rfl rfl (newAnswer_same rfl)
  | get id outcome =>
    simp only [VerifyServer.step] at stepped
    split at stepped <;> cases stepped
    exact resume_answers id _ _ _ rfl rfl (Nat.le_refl _) (newAnswer_same rfl)
  | uuid id code =>
    simp only [VerifyServer.step] at stepped
    split at stepped <;> cases stepped
    rename_i email next there
    obtain ⟨none, answers⟩ : VerifyProcess.newAnswer server (server.record (.generated email code)) = none ∧
      answersOf (server.record (.generated email code)).history = answersOf server.history :=
        newAnswer_other (fun _ _ => VerifyEvent.noConfusion) rfl
    exact resume_answers id _ _ _ rfl answers (Nat.le_succ _) none
  | setex id outcome =>
    simp only [VerifyServer.step] at stepped
    split at stepped <;> cases stepped
    rename_i email key value ttl next there
    by_cases fails : outcome = .error
    · rw [if_pos fails]
      exact resume_answers id _ _ _ rfl rfl (Nat.le_refl _) (newAnswer_same rfl)
    · rw [if_neg fails]
      obtain ⟨none, answers⟩ : VerifyProcess.newAnswer server (server.record (.stored redis.now key value)) = none ∧
        answersOf (server.record (.stored redis.now key value)).history = answersOf server.history :=
          newAnswer_other (fun _ _ => VerifyEvent.noConfusion) rfl
      exact resume_answers id _ _ _ rfl answers (Nat.le_succ _) none

end Answers

/-! ## The end of the worker -/

/-- The worker returns when it is told to stop and nothing is left to do. -/
structure Closing (mail : MailQueue) : Prop where
  stop : mail.stop = true → mail.destructor ≠ .notCalled
  returned : mail.worker = .returned → mail.stop = true ∧ mail.queue = []
  joined : mail.destructor = .joined → mail.worker = .returned

section Closing

variable {mail after : MailQueue}

theorem Closing.notifyOne (closing : Closing mail) : Closing mail.notifyOne := by
  rcases notifyOne_cases mail with same | ⟨waits, same⟩
  · rw [same]
    exact closing
  · rw [same]
    refine ⟨closing.stop, fun returned => Worker.noConfusion returned, ?_⟩
    intro joined
    rw [closing.joined joined] at waits
    cases waits

theorem notifyOne_enqueued (mail : MailQueue) : mail.notifyOne.enqueued = mail.enqueued ∧ mail.notifyOne.destructor = mail.destructor := by
  rcases notifyOne_cases mail with same | ⟨_, same⟩ <;> rw [same] <;> exact ⟨rfl, rfl⟩

/-- Nobody has called the destructor, so the worker cannot have returned. -/
theorem Closing.push (closing : Closing mail) (open' : mail.destructor = .notCalled) {thread : Nat} {task : Task}
    (stepped : mail.step (.push thread task) = some after) :
    Closing after ∧ after.enqueued = mail.enqueued ++ [task] ∧ after.destructor = mail.destructor := by
  simp only [MailQueue.step, Option.ite_none_left_eq_some] at stepped
  obtain ⟨_, same⟩ := stepped
  cases same
  refine ⟨⟨closing.stop, ?_, closing.joined⟩, rfl, rfl⟩
  intro returned
  exact absurd open' (closing.stop (closing.returned returned).1)

theorem Closing.step (closing : Closing mail) {act : MailAct} (other : ∀ thread task, act ≠ .push thread task)
    (stepped : mail.step act = some after) : Closing after ∧ after.enqueued = mail.enqueued ∧
      (after.destructor = mail.destructor ∨ act = .requestStop ∨ mail.destructor ≠ .notCalled) := by
  cases act with
  | push thread task => exact absurd rfl (other thread task)
  | notify thread =>
    simp only [MailQueue.step, Option.ite_none_right_eq_some] at stepped
    obtain ⟨_, same⟩ := stepped
    cases same
    obtain ⟨stop, returned, joined⟩ := closing.notifyOne
    exact ⟨⟨stop, returned, joined⟩, (notifyOne_enqueued mail).1, .inl (notifyOne_enqueued mail).2⟩
  | lock =>
    simp only [MailQueue.step, Option.ite_none_right_eq_some] at stepped
    obtain ⟨locking, same⟩ := stepped
    cases same
    have running : mail.destructor ≠ .joined := by
      intro joined
      rw [closing.joined joined] at locking
      cases locking
    rcases workerSection_cases mail with ⟨task, queue, _, same⟩ | ⟨stop, empty, same⟩ | ⟨empty, same⟩ <;> rw [same]
    · exact ⟨⟨closing.stop, fun returned => Worker.noConfusion returned, fun joined => absurd joined running⟩, rfl, .inl rfl⟩
    · exact ⟨⟨closing.stop, fun _ => ⟨stop, empty⟩, fun _ => rfl⟩, rfl, .inl rfl⟩
    · exact ⟨⟨closing.stop, fun returned => Worker.noConfusion returned, fun joined => absurd joined running⟩, rfl, .inl rfl⟩
  | wakeUp =>
    simp only [MailQueue.step, Option.ite_none_right_eq_some] at stepped
    obtain ⟨waits, same⟩ := stepped
    cases same
    refine ⟨⟨closing.stop, fun returned => Worker.noConfusion returned, ?_⟩, rfl, .inl rfl⟩
    intro joined
    rw [closing.joined joined] at waits
    cases waits
  | deliver =>
    simp only [MailQueue.step] at stepped
    split at stepped <;> cases stepped
    rename_i task holding
    refine ⟨⟨closing.stop, fun returned => Worker.noConfusion returned, ?_⟩, rfl, .inl rfl⟩
    intro joined
    rw [closing.joined joined] at holding
    cases holding
  | delivered =>
    simp only [MailQueue.step] at stepped
    split at stepped <;> cases stepped
    rename_i task delivering
    refine ⟨⟨closing.stop, fun returned => Worker.noConfusion returned, ?_⟩, rfl, .inl rfl⟩
    intro joined
    rw [closing.joined joined] at delivering
    cases delivering
  | requestStop =>
    simp only [MailQueue.step, Option.ite_none_right_eq_some] at stepped
    obtain ⟨_, same⟩ := stepped
    cases same
    refine ⟨⟨fun _ => Destructor.noConfusion, fun returned => ⟨rfl, (closing.returned returned).2⟩, Destructor.noConfusion⟩, rfl,
      .inr (.inl rfl)⟩
  | notifyStop =>
    simp only [MailQueue.step, Option.ite_none_right_eq_some] at stepped
    obtain ⟨stopped, same⟩ := stepped
    cases same
    have later := closing.notifyOne
    have called : mail.destructor ≠ .notCalled := by
      rw [stopped]
      exact Destructor.noConfusion
    exact ⟨⟨fun _ => Destructor.noConfusion, later.returned, Destructor.noConfusion⟩, (notifyOne_enqueued mail).1,
      .inr (.inr called)⟩
  | join =>
    simp only [MailQueue.step, Option.ite_none_right_eq_some] at stepped
    obtain ⟨⟨joining, returned⟩, same⟩ := stepped
    cases same
    have called : mail.destructor ≠ .notCalled := by
      rw [joining]
      exact Destructor.noConfusion
    exact ⟨⟨fun _ => Destructor.noConfusion, closing.returned, fun _ => returned⟩, rfl, .inr (.inr called)⟩

end Closing

/-! ## The whole process -/

structure Mailed (process : VerifyProcess) : Prop where
  answers : answersOf process.server.history = process.finished ++ process.answering.toList
  sent : ∃ done, done ++ process.sending = process.answering.toList.flatMap mailsFor ∧
    process.mail.enqueued = process.finished.flatMap mailsFor ++ done
  accounted : Accounted process.mail
  closing : Closing process.mail
  called : process.mail.destructor ≠ .notCalled → process.answering = none

section Process

variable {process after : VerifyProcess}

namespace Mailed

theorem idle (posted : Mailed process) (idle : process.answering = none) :
    process.sending = [] ∧ process.mail.enqueued = process.finished.flatMap mailsFor := by
  obtain ⟨done, same, enqueued⟩ := posted.sent
  rw [idle] at same
  obtain ⟨nothing, left⟩ := List.append_eq_nil_iff.mp same
  rw [nothing, List.append_nil] at enqueued
  exact ⟨left, enqueued⟩

theorem mail (posted : Mailed process) {act : MailAct} (other : ∀ thread task, act ≠ .push thread task)
    (stop : act = .requestStop → process.answering = none) (stepped : process.stepMail act = some after) : Mailed after := by
  obtain ⟨mail, taken, same⟩ := Option.map_eq_some_iff.mp stepped
  subst same
  obtain ⟨closing, enqueued, destructor⟩ := posted.closing.step other taken
  refine ⟨posted.answers, ?_, posted.accounted.moves (mailStep_moves taken), closing, ?_⟩
  · obtain ⟨done, same, before⟩ := posted.sent
    exact ⟨done, same, enqueued.trans before⟩
  · intro called
    rcases destructor with same | stops | before
    · rw [same] at called
      exact posted.called called
    · exact stop stops
    · exact posted.called before

theorem serve (posted : Mailed process) {act : VerifyAct} (stepped : process.step (.serve act) = some after) : Mailed after := by
  simp only [VerifyProcess.step, Option.ite_none_left_eq_some, not_or, not_not] at stepped
  obtain ⟨⟨idle, open'⟩, taken⟩ := stepped
  obtain ⟨result, executed, same⟩ := Option.map_eq_some_iff.mp taken
  obtain ⟨server, redis⟩ := result
  subst same
  obtain ⟨_, enqueued⟩ := posted.idle idle
  have before := posted.answers
  rw [idle, Option.toList_none, List.append_nil] at before
  cases step_answers executed with
  | none mails answers silent =>
    have nothing : server.mails.drop process.server.mails.length = [] := by
      rw [mails]
      exact List.drop_length
    refine ⟨?_, ⟨[], ?_, ?_⟩, posted.accounted, posted.closing, fun called => absurd open' called⟩
    · rw [answers, before, silent, Option.toList_none, List.append_nil]
    · rw [silent, nothing]
      rfl
    · rw [List.append_nil]
      exact enqueued
  | one response mails answers found =>
    have left : server.mails.drop process.server.mails.length = mailsFor response := by
      rw [mails]
      exact List.drop_left
    refine ⟨?_, ⟨[], ?_, ?_⟩, posted.accounted, posted.closing, fun called => absurd open' called⟩
    · rw [answers, before, found, Option.toList_some]
    · rw [found, left]
      simp
    · rw [List.append_nil]
      exact enqueued

theorem sendMail (posted : Mailed process) (stepped : process.step .sendMail = some after) : Mailed after := by
  simp only [VerifyProcess.step] at stepped
  split at stepped
  · cases stepped
  rename_i task sending left
  obtain ⟨mail, taken, same⟩ := Option.map_eq_some_iff.mp stepped
  subst same
  -- there is an answer whose mail this is, so the destructor has not been called
  have open' : process.mail.destructor = .notCalled := by
    by_contra called
    have nothing := (posted.idle (posted.called called)).1
    rw [left] at nothing
    cases nothing
  obtain ⟨closing, enqueued, destructor⟩ := posted.closing.push open' taken
  refine ⟨posted.answers, ?_, posted.accounted.moves (mailStep_moves taken), closing, ?_⟩
  · obtain ⟨done, same, before⟩ := posted.sent
    refine ⟨done ++ [task], ?_, ?_⟩
    · rw [List.append_assoc, List.singleton_append, ← left]
      exact same
    · rw [enqueued, before, List.append_assoc]
  · intro called
    rw [destructor] at called
    exact absurd open' called

theorem finish (posted : Mailed process) (stepped : process.step .finish = some after) : Mailed after := by
  simp only [VerifyProcess.step] at stepped
  split at stepped
  · cases stepped
  rename_i response answering
  simp only [Option.ite_none_left_eq_some, not_or, not_not] at stepped
  obtain ⟨⟨through, _⟩, same⟩ := stepped
  cases same
  obtain ⟨done, same, enqueued⟩ := posted.sent
  rw [through, List.append_nil, answering, Option.toList_some, List.flatMap_singleton] at same
  refine ⟨?_, ⟨[], ?_, ?_⟩, posted.accounted, posted.closing, fun _ => rfl⟩
  · rw [posted.answers, answering]
    simp
  · rw [through]
    rfl
  · rw [enqueued, same]
    simp

theorem step (posted : Mailed process) {act : ProcessAct} (stepped : process.step act = some after) : Mailed after := by
  cases act with
  | serve act => exact posted.serve stepped
  | sendMail => exact posted.sendMail stepped
  | notify => exact posted.mail (fun _ _ => MailAct.noConfusion) MailAct.noConfusion stepped
  | finish => exact posted.finish stepped
  | mail act =>
    cases act with
    | push thread task => cases stepped
    | notify thread => cases stepped
    | requestStop =>
      simp only [VerifyProcess.step, Option.ite_none_left_eq_some, not_not] at stepped
      exact posted.mail (fun _ _ => MailAct.noConfusion) (fun _ => stepped.1) stepped.2
    | _ => exact posted.mail (fun _ _ => MailAct.noConfusion) MailAct.noConfusion stepped
  | tick seconds =>
    cases stepped
    exact ⟨posted.answers, posted.sent, posted.accounted, posted.closing, posted.called⟩

end Mailed

theorem posted_start (redis : Redis) : Mailed { redis } where
  answers := rfl
  sent := ⟨[], rfl, rfl⟩
  accounted := rfl
  closing := ⟨Bool.noConfusion, Worker.noConfusion, Destructor.noConfusion⟩
  called called := absurd rfl called

/-- What the worker has run so far, and where it comes from. -/
theorem Mailed.delivered (posted : Mailed process) : process.mail.delivered <+: (answersOf process.server.history).flatMap mailsFor := by
  obtain ⟨done, same, enqueued⟩ := posted.sent
  have front : process.mail.delivered <+: process.mail.enqueued := by
    rw [← posted.accounted, List.append_assoc]
    exact List.prefix_append _ _
  apply front.trans
  rw [enqueued, posted.answers, List.flatMap_append, ← same]
  exact (List.prefix_append_right_inj _).mpr (List.prefix_append _ _)

end Process

theorem mails_follow_answers (redis : Redis) (acts : List ProcessAct) (process : VerifyProcess)
    (run : Transition.Run VerifyProcess.step { redis } acts process) :
    answersOf process.server.history = process.finished ++ process.answering.toList ∧
    process.finished.flatMap mailsFor <+: process.mail.enqueued ∧
    process.mail.delivered <+: (answersOf process.server.history).flatMap mailsFor ∧
    (∀ task ∈ process.mail.delivered, ∃ response ∈ answersOf process.server.history, response.error = 0 ∧ task ∈ mailsFor response) ∧
    (process.mail.destructor = .joined → process.mail.delivered = process.finished.flatMap mailsFor) := by
  have posted : Mailed process := run.invariant (fun _ _ _ posted stepped => posted.step stepped) (posted_start redis)
  refine ⟨posted.answers, ?_, posted.delivered, ?_, ?_⟩
  · obtain ⟨done, _, enqueued⟩ := posted.sent
    exact ⟨done, enqueued.symm⟩
  · intro task member
    obtain ⟨response, answered, own⟩ := List.mem_flatMap.mp (posted.delivered.subset member)
    refine ⟨response, answered, ?_, own⟩
    by_contra fails
    rw [mailsFor, if_neg fails] at own
    exact List.not_mem_nil own
  · intro joined
    have returned := posted.closing.joined joined
    obtain ⟨_, empty⟩ := posted.closing.returned returned
    have called : process.mail.destructor ≠ .notCalled := by
      rw [joined]
      exact Destructor.noConfusion
    have accounted := posted.accounted
    rw [Accounted, empty, MailQueue.inHand, returned, List.append_nil, List.append_nil] at accounted
    rw [accounted]
    exact (posted.idle (posted.called called)).2

/-- A request with a code, one that fails, and the end of the process. -/
def mailingRun : List ProcessAct :=
  [.serve (.receive 0 ⟨"alice@example.com"⟩), .serve (.receive 1 ⟨"bob@example.com"⟩), .serve (.get 0 .ok), .serve (.uuid 0 "7f3c"),
    .serve (.setex 0 .ok), .sendMail, .mail .lock, .notify, .mail .deliver, .sendMail, .notify, .finish, .serve (.get 1 .ok),
    .serve (.uuid 1 "92d0"), .serve (.setex 1 .error), .finish, .mail .requestStop, .mail .notifyStop, .mail .delivered, .mail .lock,
    .mail .deliver, .mail .delivered, .mail .lock, .mail .join]

theorem mails_follow_answers_two : ∃ process, Transition.Run VerifyProcess.step { redis := {} } mailingRun process ∧
    process.mail.delivered = mailsFor { email := "alice@example.com", code := "7f3c" } := by
  obtain ⟨process, found⟩ : ∃ process, Transition.runs VerifyProcess.step { redis := {} } mailingRun = some process := ⟨_, rfl⟩
  have run := Transition.run_iff_runs.mpr found
  have all := (mails_follow_answers {} mailingRun process run).2.2.2.2
  cases found
  exact ⟨_, run, all rfl⟩

end ChatProof
