import ChatProject.Library.Transition
import ChatProject.Verify.MailClient

namespace ChatModel

/-- Where `worker_loop` is. -/
inductive Worker where
  | locking
  | waiting
  | holding (task : Task)
  | delivering (task : Task)
  | returned
deriving DecidableEq

/-- Where `~MailClient` is. -/
inductive Destructor where
  | notCalled
  | stopped
  | joining
  | joined
deriving DecidableEq

/-- The members of `MailClient`, where its threads are, and what has been queued and delivered so far. A thread
    is marked while it is in `send_mail` between its lock and its notification. -/
structure MailQueue where
  queue : List Task := []
  stop : Bool := false
  worker : Worker := .locking
  destructor : Destructor := .notCalled
  notifying : Nat → Bool := fun _ => false
  enqueued : List Task := []
  delivered : List Task := []

/-- What runs without another thread in between: a section under the lock, or a step outside of it. -/
inductive MailAct where
  | push (thread : Nat) (task : Task)
  | notify (thread : Nat)
  | lock
  | wakeUp
  | deliver
  | delivered
  | requestStop
  | notifyStop
  | join

namespace MailQueue

/-- `cv_.notify_one()`, which is lost where nobody waits. -/
def notifyOne (mail : MailQueue) : MailQueue :=
  if mail.worker = .waiting then { mail with worker := .locking } else mail

/-- The section of the worker: `wait` looks at its condition, then there is a task or the end. -/
def workerSection (mail : MailQueue) : MailQueue :=
  if mail.stop = true ∨ mail.queue ≠ [] then
    match mail.queue with
    | task :: queue => { mail with queue, worker := .holding task }
    | [] => { mail with worker := .returned }
  else { mail with worker := .waiting }

def step (mail : MailQueue) : MailAct → Option MailQueue
  | .push thread task =>
    -- a mail client that is gone has no queue
    if mail.notifying thread = true ∨ mail.destructor = .joined then none
    else some { mail with
      queue := mail.queue ++ [task]
      enqueued := mail.enqueued ++ [task]
      notifying := Function.update mail.notifying thread true }
  | .notify thread =>
    if mail.notifying thread = true then
      some { mail.notifyOne with notifying := Function.update mail.notifying thread false }
    else none
  | .lock => if mail.worker = .locking then some mail.workerSection else none
  | .wakeUp => if mail.worker = .waiting then some { mail with worker := .locking } else none
  | .deliver =>
    match mail.worker with
    | .holding task => some { mail with worker := .delivering task, delivered := mail.delivered ++ [task] }
    | _ => none
  | .delivered =>
    match mail.worker with
    | .delivering _ => some { mail with worker := .locking }
    | _ => none
  | .requestStop =>
    if mail.destructor = .notCalled then some { mail with stop := true, destructor := .stopped } else none
  | .notifyStop => if mail.destructor = .stopped then some { mail.notifyOne with destructor := .joining } else none
  | .join =>
    if mail.destructor = .joining ∧ mail.worker = .returned then some { mail with destructor := .joined } else none

/-- The task that the worker has taken and not yet handed on. -/
def inHand (mail : MailQueue) : List Task :=
  match mail.worker with
  | .holding task => [task]
  | _ => []

end MailQueue

end ChatModel

namespace ChatProof

open ChatModel

/-- What a step does to the tasks and to the worker. -/
inductive Moves (mail : MailQueue) : MailQueue → Prop
  | push (task : Task) (after : MailQueue) : after.queue = mail.queue ++ [task] → after.enqueued = mail.enqueued ++ [task] →
      after.delivered = mail.delivered → after.worker = mail.worker → Moves mail after
  | workerSection : mail.worker = .locking → Moves mail mail.workerSection
  | deliver (task : Task) : mail.worker = .holding task →
      Moves mail { mail with worker := .delivering task, delivered := mail.delivered ++ [task] }
  | quiet (after : MailQueue) : after.queue = mail.queue → after.enqueued = mail.enqueued →
      after.delivered = mail.delivered → after.inHand = mail.inHand →
      (after.worker = .returned → mail.worker = .returned) → Moves mail after

/-- A notification wakes the worker or does nothing. -/
theorem notifyOne_cases (mail : MailQueue) : mail.notifyOne = mail ∨
    mail.worker = .waiting ∧ mail.notifyOne = { mail with worker := .locking } := by
  by_cases waits : mail.worker = .waiting
  · exact .inr ⟨waits, if_pos waits⟩
  · exact .inl (if_neg waits)

/-- A step that only lets the worker try again, and changes nothing else that matters. -/
theorem Moves.tryAgain {mail after : MailQueue} (busy : mail.inHand = []) (queue : after.queue = mail.queue)
    (enqueued : after.enqueued = mail.enqueued) (delivered : after.delivered = mail.delivered)
    (worker : after.worker = .locking) : Moves mail after := by
  refine .quiet after queue enqueued delivered ?_ ?_
  · rw [busy, MailQueue.inHand, worker]
  · intro returned
    rw [worker] at returned
    cases returned

theorem mailStep_moves {mail after : MailQueue} {act : MailAct} (stepped : mail.step act = some after) :
    Moves mail after := by
  have waiting_busy : mail.worker = .waiting → mail.inHand = [] := by
    intro waits
    rw [MailQueue.inHand, waits]
  cases act with
  | push thread task =>
    simp only [MailQueue.step, Option.ite_none_left_eq_some] at stepped
    obtain ⟨_, same⟩ := stepped
    cases same
    exact .push task _ rfl rfl rfl rfl
  | notify thread =>
    simp only [MailQueue.step, Option.ite_none_right_eq_some] at stepped
    obtain ⟨_, same⟩ := stepped
    cases same
    rcases notifyOne_cases mail with same | ⟨waits, same⟩ <;> rw [same]
    · exact .quiet _ rfl rfl rfl rfl id
    · exact .tryAgain (waiting_busy waits) rfl rfl rfl rfl
  | lock =>
    simp only [MailQueue.step, Option.ite_none_right_eq_some] at stepped
    obtain ⟨locking, same⟩ := stepped
    cases same
    exact .workerSection locking
  | wakeUp =>
    simp only [MailQueue.step, Option.ite_none_right_eq_some] at stepped
    obtain ⟨waits, same⟩ := stepped
    cases same
    exact .tryAgain (waiting_busy waits) rfl rfl rfl rfl
  | deliver =>
    simp only [MailQueue.step] at stepped
    split at stepped
    · rename_i task holding
      cases stepped
      exact .deliver task holding
    · cases stepped
  | delivered =>
    simp only [MailQueue.step] at stepped
    split at stepped
    · rename_i task delivering
      have busy : mail.inHand = [] := by rw [MailQueue.inHand, delivering]
      cases stepped
      exact .tryAgain busy rfl rfl rfl rfl
    · cases stepped
  | requestStop =>
    simp only [MailQueue.step, Option.ite_none_right_eq_some] at stepped
    obtain ⟨_, same⟩ := stepped
    cases same
    exact .quiet _ rfl rfl rfl rfl id
  | notifyStop =>
    simp only [MailQueue.step, Option.ite_none_right_eq_some] at stepped
    obtain ⟨_, same⟩ := stepped
    cases same
    rcases notifyOne_cases mail with same | ⟨waits, same⟩ <;> rw [same]
    · exact .quiet _ rfl rfl rfl rfl id
    · exact .tryAgain (waiting_busy waits) rfl rfl rfl rfl
  | join =>
    simp only [MailQueue.step, Option.ite_none_right_eq_some] at stepped
    obtain ⟨_, same⟩ := stepped
    cases same
    exact .quiet _ rfl rfl rfl rfl id

/-- The worker's section takes the first task, or ends the worker, or puts it to sleep. -/
theorem workerSection_cases (mail : MailQueue) :
    (∃ task queue, mail.queue = task :: queue ∧ mail.workerSection = { mail with queue, worker := .holding task }) ∨
      (mail.stop = true ∧ mail.queue = [] ∧ mail.workerSection = { mail with worker := .returned }) ∨
      (mail.queue = [] ∧ mail.workerSection = { mail with worker := .waiting }) := by
  unfold MailQueue.workerSection
  cases waiting : mail.queue with
  | cons task queue =>
    left
    exact ⟨task, queue, rfl, by simp⟩
  | nil =>
    right
    cases stop : mail.stop with
    | true =>
      left
      exact ⟨rfl, rfl, by simp⟩
    | false =>
      right
      exact ⟨rfl, by simp⟩

/-- What has been handed to `deliver`, what the worker holds and what waits are together what was queued. -/
def Accounted (mail : MailQueue) : Prop := mail.delivered ++ mail.inHand ++ mail.queue = mail.enqueued

theorem Accounted.moves {mail after : MailQueue} (accounted : Accounted mail) (moves : Moves mail after) :
    Accounted after := by
  unfold Accounted at accounted
  cases moves with
  | push task _ queue enqueued delivered worker =>
    have hand : after.inHand = mail.inHand := by rw [MailQueue.inHand, worker, MailQueue.inHand]
    rw [Accounted, queue, enqueued, delivered, hand, ← accounted, ← List.append_assoc]
  | workerSection locking =>
    have nothing : mail.inHand = [] := by rw [MailQueue.inHand, locking]
    rw [nothing, List.append_nil] at accounted
    rcases workerSection_cases mail with ⟨task, queue, waits, same⟩ | ⟨_, empty, same⟩ | ⟨empty, same⟩
    · rw [waits] at accounted
      simpa [same, Accounted, MailQueue.inHand] using accounted
    · simpa [same, Accounted, MailQueue.inHand] using accounted
    · simpa [same, Accounted, MailQueue.inHand] using accounted
  | deliver task holding => simpa [Accounted, MailQueue.inHand, holding] using accounted
  | quiet _ queue enqueued delivered hand _ => rw [Accounted, queue, enqueued, delivered, hand, accounted]

theorem Moves.returns {mail after : MailQueue} (moves : Moves mail after) (running : mail.worker ≠ .returned)
    (returned : after.worker = .returned) : after.stop = true ∧ after.queue = [] := by
  cases moves with
  | push task _ _ _ _ worker => exact absurd (worker ▸ returned) running
  | workerSection locking =>
    rcases workerSection_cases mail with ⟨task, queue, _, same⟩ | ⟨stop, empty, same⟩ | ⟨_, same⟩ <;>
      rw [same] at returned ⊢
    · cases returned
    · exact ⟨stop, empty⟩
    · cases returned
  | deliver task holding => cases returned
  | quiet _ _ _ _ _ worker => exact absurd (worker returned) running

theorem mail_accounted {mail : MailQueue} (reached : Transition.Reachable MailQueue.step {} mail) : Accounted mail :=
  reached.invariant (fun _ _ _ accounted stepped => accounted.moves (mailStep_moves stepped)) rfl

theorem mail_queue_keeps_order {mail : MailQueue} (reached : Transition.Reachable MailQueue.step {} mail) :
    mail.delivered ++ mail.inHand ++ mail.queue = mail.enqueued ∧
      ∀ act after, mail.step act = some after → mail.worker ≠ .returned → after.worker = .returned →
        after.stop = true ∧ after.queue = [] ∧ after.delivered = after.enqueued := by
  refine ⟨mail_accounted reached, ?_⟩
  intro act after stepped running returned
  obtain ⟨stop, empty⟩ := (mailStep_moves stepped).returns running returned
  have accounted := mail_accounted (reached.next stepped)
  have nothing : after.inHand = [] := by rw [MailQueue.inHand, returned]
  rw [Accounted, nothing, empty, List.append_nil, List.append_nil] at accounted
  exact ⟨stop, empty, accounted⟩

/-- The two mails of one request; the client is destroyed while the second of them still waits. -/
def codeMail : Task := { recipient := bytesOf "a@b.c", subject := bytesOf "verify code", body := bytesOf "7" }
def copyMail : Task := { codeMail with recipient := bytesOf "chitanda@localhost" }

def codeRun : List MailAct :=
  [.lock, .push 0 codeMail, .notify 0, .lock, .push 0 copyMail, .requestStop, .deliver, .notify 0, .delivered, .lock,
    .deliver, .notifyStop, .delivered]

theorem mail_queue_keeps_order_stopped : ∃ mail after : MailQueue,
    mail.delivered ++ mail.inHand ++ mail.queue = mail.enqueued ∧ mail.step .lock = some after ∧
      after.worker = .returned ∧ after.delivered = [codeMail, copyMail] ∧ after.delivered = after.enqueued := by
  obtain ⟨mail, run⟩ : ∃ mail, Transition.runs MailQueue.step {} codeRun = some mail := ⟨_, rfl⟩
  have worker : mail.worker = .locking := by
    cases run
    rfl
  obtain ⟨order, last⟩ := mail_queue_keeps_order ⟨codeRun, Transition.run_iff_runs.mpr run⟩
  cases run
  obtain ⟨_, _, all⟩ := last .lock _ rfl (by rw [worker]; simp) rfl
  exact ⟨_, _, order, rfl, rfl, rfl, all⟩

end ChatProof
