import ChatProject.Cluster.Calls

/-! When two servers wait for each other. -/

namespace ChatProof

open ChatModel

section Crossing

variable {externals : Externals} {stores : Stores} {name : Side → String} {cluster after : Cluster}

/-- Both threads are in a call, and a task that the other side has asked for is queued behind each of them. -/
def Deadlocked (cluster : Cluster) : Prop := ∀ side,
  (cluster.server side).outgoing.isSome = true ∧ (cluster.server side).tasks ≠ []

theorem outgoing_of_free {server : ChatServer} (free : server.blocked = none) : server.outgoing = none := by
  unfold ChatServer.outgoing
  rw [free]

/-- The call has been made, and its task was not run yet. -/
def unserved : Call → Bool
  | .sent _ | .queued => true
  | _ => false

theorem not_idle {call : Call} (pending : unserved call = true) : call ≠ .idle := by
  intro idle
  rw [idle] at pending
  cases pending

theorem deadlocked_unserved (linked : Linked cluster) (deadlocked : Deadlocked cluster) (side : Side) :
    unserved (cluster.call side) = true := by
  cases call : cluster.call side with
  | idle =>
    have silent := outgoing_of_free ((linked.idle side).mp call)
    have asked := (deadlocked side).1
    rw [silent] at asked
    cases asked
  | answered =>
    have posted := linked.posted side
    rw [call] at posted
    exact absurd posted (deadlocked side.other).2
  | _ => rfl

theorem queued_deadlocked (linked : Linked cluster) (queued : ∀ side, cluster.call side = .queued) : Deadlocked cluster := by
  intro side
  have busy : (cluster.server side).blocked ≠ none := by
    intro free
    have idle := (linked.idle side).mpr free
    rw [queued side] at idle
    cases idle
  obtain ⟨request, asked⟩ := (linked.waiting side).outgoing busy
  have posted := linked.posted side.other
  rw [queued side.other, other_other] at posted
  exact ⟨by rw [asked]; rfl, posted⟩

/-- Unless one of the calls fails, both threads wait for ever. -/
theorem queued_step (linked : Linked cluster) {act : ClusterAct} (queued : ∀ side, cluster.call side = .queued)
    (patient : ∀ side, act ≠ .fail side) (taken : cluster.step externals act = some after) (side : Side) :
    after.call side = .queued := by
  have busy : ∀ side, cluster.call side ≠ .idle := by
    intro side
    rw [queued side]
    exact Call.noConfusion
  have kept : ∀ which server, (cluster.setServer which server).call side = .queued := by
    intro which server
    by_cases here : side = which
    · rw [here, setServer_call_busy _ _ _ (busy which)]
      exact queued which
    · rw [setServer_call_other _ _ here]
      exact queued side
  cases step_cases taken with
  | own _ _ => exact kept _ _
  | exec _ _ => exact kept _ _
  | @arrive which request sent =>
    rw [queued which] at sent
    cases sent
  | @runTask which request rest free tasks => exact absurd ((linked.idle which).mpr free) (busy which)
  | @returned _ which addr answer readMsg told request next kind blocked reading =>
    rcases kind with ⟨_, answered, _⟩ | ⟨fails, _, _⟩
    · rw [queued which] at answered
      cases answered
    · exact absurd fails (patient which)
  | tick seconds => exact queued side

/-- The handler that this step resumes goes on to call the peer. -/
def callsPeer (lib : JsonLib) (server : ChatServer) (act : Act) : Bool :=
  (server.step lib act).any fun after => server.blocked.isNone && after.blocked.isSome

/-- A handler goes on to call the peer while the peer waits for a call to this server to be run. -/
def Crosses (externals : Externals) (cluster : Cluster) : ClusterAct → Prop
  | .own side act =>
    unserved (cluster.call side.other) = true ∧ callsPeer externals.lib (cluster.server side) act = true
  | _ => False

def Uncrossed (cluster : Cluster) : Prop := ∃ side, unserved (cluster.call side) = false

/-- Unless its handler calls the peer, a server has no call after the step that it had not before. -/
theorem setServer_unserved {side : Side} {server : ChatServer}
    (silent : cluster.call side = .idle → server.outgoing = none) :
    (cluster.setServer side server).call = cluster.call := by
  funext third
  by_cases here : third = side
  · subst here
    by_cases idle : cluster.call third = .idle
    · rw [setServer_call_idle _ _ _ idle, silent idle, idle]
    · exact setServer_call_busy _ _ _ idle
  · exact setServer_call_other _ _ here

theorem Uncrossed.step (traced : ∀ side, Traced externals.lib (cluster.server side)) (linked : Linked cluster)
    (uncrossed : Uncrossed cluster) {act : ClusterAct} (straight : ¬ Crosses externals cluster act)
    (taken : cluster.step externals act = some after) : Uncrossed after := by
  obtain ⟨served, quiet⟩ := uncrossed
  cases step_cases taken with
  | @own side act server own first =>
    by_cases silent : cluster.call side = .idle → server.outgoing = none
    · refine ⟨served, ?_⟩
      rw [setServer_unserved silent]
      exact quiet
    · -- the server makes a call, so the peer waits for none
      refine ⟨side.other, ?_⟩
      rw [setServer_call_other _ _ (other_ne side)]
      simp only [not_forall] at silent
      obtain ⟨idle, asked⟩ := silent
      have free := (linked.idle side).mp idle
      have blocked : server.blocked ≠ none := fun free => asked (outgoing_of_free free)
      have calls : callsPeer externals.lib (cluster.server side) act = true := by
        unfold callsPeer
        rw [first, Option.any_some, free]
        exact Option.isSome_iff_ne_none.mpr blocked
      cases pending : unserved (cluster.call side.other) with
      | false => rfl
      | true => exact absurd ⟨pending, calls⟩ straight
  | @exec side addr outcome readMsg told op next answer stores reading done =>
    refine ⟨served, ?_⟩
    have silent : cluster.call side = .idle → ((cluster.server side).setReader addr
        (.resuming readMsg (⟨op, answer⟩ :: told) (next answer))).outgoing = none :=
      fun idle => outgoing_of_free ((linked.idle side).mp idle)
    have same := congrFun (setServer_unserved silent) served
    dsimp only
    rw [same]
    exact quiet
  | @arrive side request sent =>
    rcases eq_or_other side served with rfl | rfl
    · rw [sent] at quiet
      cases quiet
    · refine ⟨side.other, ?_⟩
      have silent : (cluster.setCall side .queued).call side.other = .idle →
          ({ cluster.server side.other with
            tasks := (cluster.server side.other).tasks ++ [request] } : ChatServer).outgoing = none := by
        rw [setCall_other _ _ (other_ne side)]
        intro idle
        have free : (cluster.server side.other).blocked = none := (linked.idle side.other).mp idle
        exact outgoing_of_free free
      rw [setServer_unserved silent, setCall_other _ _ (other_ne side)]
      exact quiet
  | @runTask side request rest free tasks =>
    refine ⟨side, ?_⟩
    have silent : (({ cluster.server side with tasks := rest }).serveNotify request).outgoing = none :=
      outgoing_of_free ((serveNotify_blocked _ _).trans free)
    rw [setCall_other _ _ (ne_other side), setServer_unserved fun _ => silent, (linked.idle side).mpr free]
    rfl
  | @returned _ side addr answer readMsg told request next kind blocked reading =>
    refine ⟨side, ?_⟩
    have reaches : Reaches externals.lib readMsg (⟨.notify request, answer⟩ :: told) (next answer) :=
      (traced side).resumes (.returned answer blocked reading)
    have unblocked : ({ cluster.server side with blocked := none }.runHandler addr readMsg
        (⟨.notify request, answer⟩ :: told) (next answer)).blocked = none := returned_blocked reaches rfl
    rw [setServer_unserved fun _ => outgoing_of_free unblocked, setCall_self]
    rfl
  | tick seconds => exact ⟨served, quiet⟩

/-- The task of a call that has been made can be queued at once. -/
theorem arrives (externals : Externals) {side : Side} (pending : unserved (cluster.call side) = true)
    (busy : cluster.call side.other ≠ .idle) : ∃ deliveries after,
      Transition.Run (Cluster.step externals) cluster deliveries after ∧
      (∀ act ∈ deliveries, act = .arrive side) ∧ after.call side = .queued ∧
      after.call side.other = cluster.call side.other := by
  cases call : cluster.call side with
  | queued => exact ⟨[], cluster, .nil cluster, by simp, call, rfl⟩
  | sent request =>
    let after := (cluster.setCall side .queued).setServer side.other
      { cluster.server side.other with tasks := (cluster.server side.other).tasks ++ [request] }
    have taken : cluster.step externals (.arrive side) = some after := by
      simp only [Cluster.step, call, Cluster.serverStep, ChatServer.step]
      rfl
    refine ⟨_, after, .single taken, by simp, ?_, ?_⟩
    · exact (setServer_call_other _ _ (ne_other side)).trans (setCall_self _ _ _)
    · have kept : (cluster.setCall side .queued).call side.other = cluster.call side.other :=
        setCall_other _ _ (other_ne side)
      exact (setServer_call_busy _ _ _ (by rw [kept]; exact busy)).trans kept
  | idle =>
    rw [call] at pending
    cases pending
  | answered =>
    rw [call] at pending
    cases pending

theorem both_arrive (externals : Externals) {cluster : Cluster} (both : ∀ side, unserved (cluster.call side) = true) : ∃ deliveries after,
      Transition.Run (Cluster.step externals) cluster deliveries after ∧
      (∀ act ∈ deliveries, ∃ side, act = .arrive side) ∧ ∀ side, after.call side = .queued := by
  obtain ⟨first, middle, firstRun, firstArrives, queued, kept⟩ :=
    arrives externals (both .one) (not_idle (both .two))
  have pending : unserved (middle.call .two) = true := (congrArg unserved kept).trans (both .two)
  have busy : middle.call .one ≠ .idle := by
    rw [queued]
    exact Call.noConfusion
  obtain ⟨second, after, secondRun, secondArrives, last, same⟩ := arrives externals pending busy
  refine ⟨first ++ second, after, firstRun.append secondRun, ?_, ?_⟩
  · intro act member
    rcases List.mem_append.mp member with member | member
    · exact ⟨.one, firstArrives act member⟩
    · exact ⟨.two, secondArrives act member⟩
  · intro side
    cases side with
    | one => exact same.trans queued
    | two => exact last

theorem deadlock_of_crosses (reached : Transition.Reachable (Cluster.step externals) (.start stores name) cluster)
    {act : ClusterAct} (crosses : Crosses externals cluster act) (taken : cluster.step externals act = some after) :
    ∀ side, unserved (after.call side) = true := by
  have linked := reachable_linked reached
  have next := reachable_linked (reached.next taken)
  cases act with
  | own side act =>
    obtain ⟨pending, calls⟩ := crosses
    simp only [Cluster.step] at taken
    split at taken
    · obtain ⟨server, first, same⟩ := serverStep_eq_some.mp taken
      subst same
      unfold callsPeer at calls
      rw [first, Option.any_some, Bool.and_eq_true] at calls
      have free : (cluster.server side).blocked = none := Option.isNone_iff_eq_none.mp calls.1
      have blocked : server.blocked ≠ none := Option.isSome_iff_ne_none.mp calls.2
      have waits := next.waiting side
      rw [setServer_self] at waits
      obtain ⟨request, asked⟩ := waits.outgoing blocked
      intro third
      rcases eq_or_other side third with rfl | rfl
      · rw [setServer_call_idle _ _ _ ((linked.idle third).mpr free), asked]
        rfl
      · rw [setServer_call_other _ _ (other_ne side)]
        exact pending
    · cases taken
  | _ => exact crosses.elim

end Crossing

theorem peers_never_deadlocked (externals : Externals) (stores : Stores) (name : Side → String)
    (acts : List ClusterAct) (cluster : Cluster)
    (run : Transition.Run (Cluster.step externals) (.start stores name) acts cluster)
    (straight : Transition.Meets (Cluster.step externals) (fun cluster act => ¬ Crosses externals cluster act)
      (.start stores name) acts) :
    ¬ Deadlocked cluster ∧ ∀ act after, Crosses externals cluster act → cluster.step externals act = some after →
      ∃ deliveries locked, Transition.Run (Cluster.step externals) after deliveries locked ∧
        (∀ act ∈ deliveries, ∃ side, act = .arrive side) ∧
        ∀ more later, Transition.Run (Cluster.step externals) locked more later → (∀ side, .fail side ∉ more) →
          Deadlocked later ∧ ∀ side, later.call side = .queued := by
  have reached : Transition.Reachable (Cluster.step externals) (.start stores name) cluster := ⟨acts, run⟩
  refine ⟨?_, ?_⟩
  · intro deadlocked
    have keeps : ∀ cluster act after,
        (Linked cluster ∧ (∀ side, Traced externals.lib (cluster.server side)) ∧ Uncrossed cluster) →
        ¬ Crosses externals cluster act → cluster.step externals act = some after →
        Linked after ∧ (∀ side, Traced externals.lib (after.server side)) ∧ Uncrossed after := by
      intro cluster act after known straight taken
      obtain ⟨linked, traced, uncrossed⟩ := known
      exact ⟨linked.step traced taken, step_servers step_traced taken traced,
        uncrossed.step traced linked straight taken⟩
    obtain ⟨linked, _, side, served⟩ := run.invariant_of_meets keeps straight
      ⟨Linked.start stores name, fun side => Traced.fresh externals.lib (name side), .one, rfl⟩
    rw [deadlocked_unserved linked deadlocked side] at served
    cases served
  · intro act after crosses taken
    have both := deadlock_of_crosses reached crosses taken
    obtain ⟨deliveries, locked, delivered, arrivals, queued⟩ := both_arrive externals both
    refine ⟨deliveries, locked, delivered, arrivals, ?_⟩
    intro more later rest patient
    have there := (reached.next taken).trans delivered
    have kept : ∀ (cluster : Cluster) (act : ClusterAct) (after : Cluster),
        (Linked cluster ∧ (∀ side, Traced externals.lib (cluster.server side)) ∧ ∀ side, cluster.call side = .queued) →
        (∀ side, act ≠ .fail side) → cluster.step externals act = some after →
        Linked after ∧ (∀ side, Traced externals.lib (after.server side)) ∧ ∀ side, after.call side = .queued := by
      intro cluster act after known waits taken
      obtain ⟨linked, traced, queued⟩ := known
      exact ⟨linked.step traced taken, step_servers step_traced taken traced, queued_step linked queued waits taken⟩
    have waits : ∀ act ∈ more, ∀ side, act ≠ .fail side := by
      intro act member side same
      exact patient side (same ▸ member)
    obtain ⟨linked, _, still⟩ :=
      rest.invariant_of_all kept waits ⟨reachable_linked there, reachable_traced there, queued⟩
    exact ⟨queued_deadlocked linked still, still⟩

/-- Two users, each on his server, write to each other. -/
def crossingBodies : List Sample.Body :=
  [Sample.loginBody 1 "token1", Sample.loginBody 2 "token2", Sample.textBody 1 2, Sample.textBody 2 1]

def crossingLogins : List ClusterAct :=
  Sample.connect .one 1 [(.loginRequest, Sample.loginBody 1 "token1"), (.textChatMsgReq, Sample.textBody 1 2)] ++
  Sample.connect .two 1 [(.loginRequest, Sample.loginBody 2 "token2"), (.textChatMsgReq, Sample.textBody 2 1)] ++
  Sample.frame .one 1 8 ++ Sample.frame .two 1 8

instance decidableForallSide {motive : Side → Prop} [∀ side, Decidable (motive side)] : Decidable (∀ side, motive side) :=
  decidable_of_iff (motive .one ∧ motive .two) (by
    constructor
    · intro both side
      cases side with
      | one => exact both.1
      | two => exact both.2
    · exact fun all => ⟨all .one, all .two⟩)

instance (cluster : Cluster) : Decidable (Deadlocked cluster) :=
  inferInstanceAs (Decidable (∀ side, (cluster.server side).outgoing.isSome = true ∧ (cluster.server side).tasks ≠ []))

instance (externals : Externals) (cluster : Cluster) : (act : ClusterAct) → Decidable (Crosses externals cluster act)
  | .own side act => inferInstanceAs (Decidable
      (unserved (cluster.call side.other) = true ∧ callsPeer externals.lib (cluster.server side) act = true))
  | .exec _ _ _ => .isFalse id
  | .arrive _ => .isFalse id
  | .runTask _ => .isFalse id
  | .finish _ => .isFalse id
  | .fail _ => .isFalse id
  | .tick _ => .isFalse id

/-- One after the other, the two calls go through. -/
theorem peers_never_deadlocked_in_turn : ∃ cluster,
    Transition.Run (Cluster.step (Sample.externals crossingBodies)) (.start Sample.stores Sample.name)
      (crossingLogins ++ Sample.frame .one 1 1 ++ [.arrive .one, .runTask .two] ++ Sample.frame .two 1 1) cluster ∧
      (cluster.server .two).outgoing.isSome = true ∧ ¬ Deadlocked cluster := by
  have possible : ((Transition.runs (Cluster.step (Sample.externals crossingBodies)) (.start Sample.stores Sample.name)
      (crossingLogins ++ Sample.frame .one 1 1 ++ [.arrive .one, .runTask .two] ++ Sample.frame .two 1 1)).any
        fun cluster => (cluster.server .two).outgoing.isSome) = true := by decide +kernel
  have straight : Transition.Meets (Cluster.step (Sample.externals crossingBodies))
      (fun cluster act => ¬ Crosses (Sample.externals crossingBodies) cluster act) (.start Sample.stores Sample.name)
      (crossingLogins ++ Sample.frame .one 1 1 ++ [.arrive .one, .runTask .two] ++ Sample.frame .two 1 1) := by
    decide +kernel
  obtain ⟨cluster, reached, calling⟩ := (Option.any_eq_true _ _).mp possible
  have run := Transition.run_iff_runs.mpr reached
  exact ⟨cluster, run, calling, (peers_never_deadlocked _ _ _ _ cluster run straight).1⟩

theorem peers_deadlock : ¬ ∀ (externals : Externals) (stores : Stores) (name : Side → String)
    (acts : List ClusterAct) (cluster : Cluster),
    Transition.Run (Cluster.step externals) (.start stores name) acts cluster → ¬ Deadlocked cluster := by
  intro claim
  have possible : ((Transition.runs (Cluster.step (Sample.externals crossingBodies)) (.start Sample.stores Sample.name)
      (crossingLogins ++ Sample.frame .one 1 1 ++ Sample.frame .two 1 1 ++ [.arrive .one, .arrive .two])).any
        fun cluster => decide (Deadlocked cluster)) = true := by decide +kernel
  obtain ⟨cluster, reached, deadlocked⟩ := (Option.any_eq_true _ _).mp possible
  exact claim _ _ _ _ cluster (Transition.run_iff_runs.mpr reached) (of_decide_eq_true deadlocked)

end ChatProof
