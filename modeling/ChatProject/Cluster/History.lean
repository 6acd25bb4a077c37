import ChatProject.Chat.Conduct
import ChatProject.Cluster.Run

/-! What the history of a cluster says of the calls of its handlers. -/

namespace ChatProof

open ChatModel

/-- A store has given this answer, and the history knows when. -/
def Executed (externals : Externals) (history : List Record) (side : Side) (addr : Addr) (readMsg : MsgNode) (told : Ledger)
    (op : Op) (answer : op.Res) : Prop :=
  ∃ outcome stores, .executed side addr readMsg told op outcome stores.db ∈ history ∧
    (Stores.exec externals outcome op stores).1 = answer

/-- So have the stores for all of this ledger. -/
def Backed (externals : Externals) (history : List Record) (side : Side) (addr : Addr) (readMsg : MsgNode) : Ledger → Prop
  | [] => True
  | ⟨op, answer⟩ :: told => (isStoreCall op = true → Executed externals history side addr readMsg told op answer) ∧
      Backed externals history side addr readMsg told

section Backed

variable {externals : Externals} {history later : List Record} {side : Side} {addr : Addr} {readMsg : MsgNode} {told : Ledger}

theorem Backed.mono (backed : Backed externals history side addr readMsg told) (grows : history ⊆ later) :
    Backed externals later side addr readMsg told := by
  induction told with
  | nil => trivial
  | cons entry told ih =>
    refine ⟨?_, ih backed.2⟩
    intro store
    obtain ⟨outcome, stores, member, same⟩ := backed.1 store
    exact ⟨outcome, stores, grows member, same⟩

/-- Where a handler was told something by a store, the history has the call and what came before it. -/
theorem Backed.executed (backed : Backed externals history side addr readMsg told) {op : Op} {answer : op.Res}
    (known : Told told op answer) (store : isStoreCall op = true) :
    ∃ early, (⟨op, answer⟩ :: early) <:+ told ∧ Executed externals history side addr readMsg early op answer := by
  induction told with
  | nil => cases known
  | cons entry told ih =>
    rcases List.mem_cons.mp known with same | before
    · subst same
      exact ⟨told, List.suffix_refl _, backed.1 store⟩
    · obtain ⟨early, suffix, executed⟩ := ih backed.2 before
      exact ⟨early, suffix.trans (List.suffix_cons _ _), executed⟩

theorem backed_follows (externals : Externals) (history : List Record) (side : Side) :
    Follows externals.lib fun addr readMsg told _ => Backed externals history side addr readMsg told where
  handed _ _ := trivial
  quick _ _ _ _ _ _ plain backed := ⟨fun store => absurd (plain.symm.trans store) nofun, backed⟩

end Backed

/-- Every answer of a store to a handler is in the history, and every call there is one of a handler. -/
structure Recorded (externals : Externals) (cluster : Cluster) : Prop where
  handlers : ∀ side, Handlers (fun addr readMsg told _ => Backed externals cluster.history side addr readMsg told)
    (cluster.server side)
  asked : ∀ side addr readMsg told op outcome db, .executed side addr readMsg told op outcome db ∈ cluster.history →
    isStoreCall op = true ∧ AsksFor externals.lib readMsg told op

/-- The calls that a step adds to the history. -/
def newCalls (cluster : Cluster) : ClusterAct → List Record
  | .exec side addr outcome =>
    match ((cluster.server side).session addr).reader with
    | .waiting readMsg told op _ => [.executed side addr readMsg told op outcome cluster.stores.db]
    | _ => []
  | _ => []

/-- A record of a call, which is what is left of the history without the log. -/
def isCall : Record → Bool
  | .executed _ _ _ _ _ _ _ => true
  | .logged _ _ => false

section Steps

variable {externals : Externals} {cluster after : Cluster}

theorem setServer_history (cluster : Cluster) (side : Side) (server : ChatServer) :
    ∃ events, (cluster.setServer side server).history = events ++ cluster.history ∧
      ∀ record ∈ events, isCall record = false := by
  refine ⟨_, rfl, ?_⟩
  intro record member
  obtain ⟨_, _, same⟩ := List.mem_map.mp member
  rw [← same]
  rfl

/-- A step adds its call to the history, and entries of the log. -/
theorem step_history {act : ClusterAct} (taken : cluster.step externals act = some after) :
    ∃ events, after.history = newCalls cluster act ++ events ++ cluster.history ∧
      ∀ record ∈ events, isCall record = false := by
  have own : ∀ (cluster : Cluster) side server, ∃ events,
      (cluster.setServer side server).history = [] ++ events ++ cluster.history ∧
        ∀ record ∈ events, isCall record = false := setServer_history
  cases step_cases taken with
  | own _ _ => exact own _ _ _
  | @exec side addr outcome readMsg told op next answer stores reading done =>
    have calls : newCalls cluster (.exec side addr outcome) =
        [.executed side addr readMsg told op outcome cluster.stores.db] := by
      simp only [newCalls, reading]
    obtain ⟨events, same, plain⟩ := setServer_history cluster side ((cluster.server side).setReader addr
      (.resuming readMsg (⟨op, answer⟩ :: told) (next answer)))
    refine ⟨events, ?_, plain⟩
    rw [calls, same]
    rfl
  | arrive _ => exact own _ _ _
  | runTask _ _ => exact own _ _ _
  | returned kind _ _ =>
    have calls : newCalls cluster act = [] := by
      rcases kind with ⟨same, _⟩ | ⟨same, _⟩ <;> subst same <;> rfl
    rw [calls]
    exact own _ _ _
  | tick _ => exact ⟨[], rfl, nofun⟩

theorem step_history_subset {act : ClusterAct} (taken : cluster.step externals act = some after) :
    cluster.history ⊆ after.history := by
  obtain ⟨events, same, _⟩ := step_history taken
  rw [same]
  exact List.subset_append_right _ _

/-- The calls in the history after a step are those before it and the one of the step. -/
theorem mem_step_history {act : ClusterAct} (taken : cluster.step externals act = some after) {record : Record}
    (call : isCall record = true) : record ∈ after.history ↔ record ∈ newCalls cluster act ∨ record ∈ cluster.history := by
  obtain ⟨events, same, plain⟩ := step_history taken
  rw [same, List.mem_append, List.mem_append]
  constructor
  · rintro ((new | event) | old)
    · exact .inl new
    · exact absurd ((plain record event).symm.trans call) nofun
    · exact .inr old
  · rintro (new | old)
    · exact .inl (.inl new)
    · exact .inr old

theorem mem_newCalls {act : ClusterAct} {record : Record} : record ∈ newCalls cluster act ↔
    ∃ side addr outcome readMsg told op next, act = .exec side addr outcome ∧
      ((cluster.server side).session addr).reader = .waiting readMsg told op next ∧
      record = .executed side addr readMsg told op outcome cluster.stores.db := by
  constructor
  · intro member
    unfold newCalls at member
    split at member
    · split at member
      · rename_i reading
        exact ⟨_, _, _, _, _, _, _, rfl, reading, List.mem_singleton.mp member⟩
      · cases member
    · cases member
  · rintro ⟨side, addr, outcome, readMsg, told, op, next, rfl, reading, rfl⟩
    simp only [newCalls, reading, List.mem_singleton]

end Steps

namespace Recorded

variable {externals : Externals} {cluster after : Cluster}

theorem step (traced : ∀ side, Traced externals.lib (cluster.server side)) (recorded : Recorded externals cluster)
    {act : ClusterAct} (taken : cluster.step externals act = some after) : Recorded externals after := by
  have grows := step_history_subset taken
  have still : ∀ side, Handlers (fun addr readMsg told _ => Backed externals after.history side addr readMsg told)
      (cluster.server side) := fun side => (recorded.handlers side).mono fun _ _ _ _ backed => backed.mono grows
  have calls : ∀ side addr readMsg told op next, ((cluster.server side).session addr).reader = .waiting readMsg told op next →
      isStoreCall op = true ∧ AsksFor externals.lib readMsg told op := by
    intro side addr readMsg told op next reading
    have reaches : Reaches externals.lib readMsg told (.call op next) := by
      apply (traced side).suspended
      rw [reading]
      rfl
    have store := (traced side).proper addr
    rw [reading] at store
    exact ⟨store, next, reaches⟩
  refine ⟨?_, ?_⟩
  · intro side
    by_cases own : ∀ side addr outcome, act ≠ .exec side addr outcome
    · rcases step_own taken own side with same | ⟨act, mine, first⟩
      · rw [same]
        exact still side
      · exact (Handlers.rule (backed_follows externals after.history side)).step trivial mine (fun _ _ _ => trivial) first
          (still side)
    · simp only [not_forall, not_not] at own
      obtain ⟨which, addr, outcome, same⟩ := own
      subst same
      cases step_cases taken with
      | @exec _ _ _ readMsg told op next answer stores reading done =>
        by_cases here : side = which
        · subst here
          change Handlers _ ((cluster.setServer side _).server side)
          rw [setServer_self]
          apply (still side).answer reading
          intro backed
          refine ⟨?_, backed⟩
          intro _
          refine ⟨outcome, cluster.stores, ?_, congrArg Prod.fst done⟩
          exact (mem_step_history taken rfl).mpr (.inl (mem_newCalls.mpr ⟨_, _, _, _, _, _, _, rfl, reading, rfl⟩))
        · change Handlers _ ((cluster.setServer which _).server side)
          rw [setServer_other _ _ here]
          exact still side
      | returned kind _ _ =>
        rcases kind with ⟨same, _⟩ | ⟨same, _⟩ <;> cases same
  · intro side addr readMsg told op outcome db member
    rcases (mem_step_history taken rfl).mp member with new | old
    · obtain ⟨_, _, _, _, _, _, _, _, reading, same⟩ := mem_newCalls.mp new
      cases same
      exact calls _ _ _ _ _ _ reading
    · exact recorded.asked _ _ _ _ _ _ _ old

theorem start (externals : Externals) (stores : Stores) (name : Side → String) : Recorded externals (.start stores name) where
  handlers side := Handlers.fresh _ (name side)
  asked := by
    intro _ _ _ _ _ _ _ member
    cases member

end Recorded

theorem reachable_recorded {externals : Externals} {stores : Stores} {name : Side → String} {cluster : Cluster}
    (reached : Transition.Reachable (Cluster.step externals) (.start stores name) cluster) : Recorded externals cluster := by
  apply reached.invariant_with
  · exact fun cluster reached => reachable_traced reached
  · exact fun cluster act after traced recorded taken => recorded.step traced taken
  · exact Recorded.start externals stores name

/-! ## The tables -/

/-- The statements that change a table. -/
def isStatement : Op → Bool
  | .addFriendApply _ _ | .authFriendApply _ _ => true
  | _ => false

section Tables

variable {externals : Externals} {cluster after : Cluster}

theorem onTables_db {α : Type} (stores : Stores) (outcome : Outcome) (done : α × Tables) :
    (stores.onTables outcome done).2.db = if outcome = .error then stores.db else done.2 := by
  cases outcome <;> rfl

theorem exec_db (externals : Externals) (outcome : Outcome) {op : Op} (plain : isStatement op = false) (stores : Stores) :
    (stores.exec externals outcome op).2.db = stores.db := by
  have query : ∀ {α : Type} (value : α), (stores.onTables outcome (value, stores.db)).2.db = stores.db := by
    intro α value
    rw [onTables_db, ite_self]
  cases op with
  | addFriendApply _ _ => cases plain
  | authFriendApply _ _ => cases plain
  | getUserInfo key => cases key <;> exact query _
  | getFriendApplies uid => exact query _
  | getFriends uid => exact query _
  | _ => rfl

theorem exec_authFriendApply (externals : Externals) (outcome : Outcome) (fromUid toUid : Int64) (stores : Stores) :
    (stores.exec externals outcome (.authFriendApply fromUid toUid)).2.db =
      if outcome = .error then stores.db else stores.db.authFriendApply fromUid toUid :=
  onTables_db stores outcome ((), stores.db.authFriendApply fromUid toUid)

theorem authFriendApply_ok {outcome : Outcome} {fromUid toUid : Int64} {stores : Stores}
    (done : (stores.exec externals outcome (.authFriendApply fromUid toUid)).1 = .ok ()) : outcome = .ok := by
  cases outcome with
  | ok => rfl
  | error => cases done
  | lost => cases done

theorem exec_addFriendApply (externals : Externals) (outcome : Outcome) (fromUid toUid : Int64) (stores : Stores) :
    (stores.exec externals outcome (.addFriendApply fromUid toUid)).2.db = stores.db ∨
      outcome ≠ .error ∧ ∃ fromColumn toColumn, intColumn fromUid = some fromColumn ∧ intColumn toUid = some toColumn ∧
        (stores.exec externals outcome (.addFriendApply fromUid toUid)).2.db =
          { stores.db with friendApply := stores.db.friendApply.insertIgnore { fromUid := fromColumn, toUid := toColumn } } := by
  change (stores.addFriendApply outcome fromUid toUid).2.db = stores.db ∨ outcome ≠ .error ∧ ∃ fromColumn toColumn, _ ∧ _ ∧
    (stores.addFriendApply outcome fromUid toUid).2.db = _
  unfold Stores.addFriendApply Tables.addFriendApply
  cases first : intColumn fromUid with
  | none => exact .inl rfl
  | some fromColumn =>
    cases second : intColumn toUid with
    | none => exact .inl rfl
    | some toColumn =>
      dsimp only
      rw [onTables_db]
      by_cases refused : outcome = .error
      · rw [if_pos refused]
        exact .inl rfl
      · rw [if_neg refused]
        exact .inr ⟨refused, fromColumn, toColumn, rfl, rfl, rfl⟩

/-- The tables change by the calls alone. -/
theorem step_db {act : ClusterAct} (taken : cluster.step externals act = some after) :
    after.stores.db = cluster.stores.db ∨ ∃ side addr outcome readMsg told op next, act = .exec side addr outcome ∧
      ((cluster.server side).session addr).reader = .waiting readMsg told op next ∧ isStatement op = true ∧
      after.stores.db = (cluster.stores.exec externals outcome op).2.db := by
  cases step_cases taken with
  | own _ _ => exact .inl rfl
  | @exec side addr outcome readMsg told op next answer stores reading done =>
    have stored : stores = (cluster.stores.exec externals outcome op).2 := (congrArg Prod.snd done).symm
    subst stored
    cases statement : isStatement op with
    | true => exact .inr ⟨side, addr, outcome, readMsg, told, op, next, rfl, reading, statement, rfl⟩
    | false => exact .inl (exec_db externals outcome statement cluster.stores)
  | arrive _ => exact .inl rfl
  | runTask _ _ => exact .inl rfl
  | returned _ _ _ => exact .inl rfl
  | tick _ => exact .inl rfl

end Tables

end ChatProof
