import Mathlib

/-! Systems given by a partial step function on a state and an action. -/

namespace Transition

variable {σ α : Type} {step : σ → α → Option σ}

/-- `Run step s actions t`: from `s` the actions, taken in order, lead to `t`. -/
inductive Run (step : σ → α → Option σ) : σ → List α → σ → Prop
  | nil (s : σ) : Run step s [] s
  | cons {s t u : σ} {action : α} {actions : List α} :
      step s action = some t → Run step t actions u → Run step s (action :: actions) u

/-- The state that a list of actions leads to, when all of them are possible. -/
def runs (step : σ → α → Option σ) : σ → List α → Option σ
  | s, [] => some s
  | s, action :: actions => (step s action).bind fun t => runs step t actions

theorem run_iff_runs {s t : σ} {actions : List α} :
    Run step s actions t ↔ runs step s actions = some t := by
  constructor
  · intro run
    induction run with
    | nil s => rfl
    | cons taken _ ih => simpa only [runs, taken, Option.bind_some] using ih
  · intro found
    induction actions generalizing s with
    | nil => cases found; exact .nil _
    | cons action actions ih =>
      simp only [runs] at found
      cases taken : step s action with
      | none => rw [taken] at found; cases found
      | some middle =>
        rw [taken] at found
        exact .cons taken (ih found)

theorem Run.append {s t u : σ} {first second : List α} (left : Run step s first t)
    (right : Run step t second u) : Run step s (first ++ second) u := by
  induction left with
  | nil s => exact right
  | cons taken _ ih => exact .cons taken (ih right)

theorem Run.single {s t : σ} {action : α} (taken : step s action = some t) :
    Run step s [action] t := .cons taken (.nil t)

theorem Run.invariant {inv : σ → Prop}
    (keeps : ∀ s action t, inv s → step s action = some t → inv t)
    {s t : σ} {actions : List α} (run : Run step s actions t) (start : inv s) : inv t := by
  induction run with
  | nil s => exact start
  | cons taken _ ih => exact ih (keeps _ _ _ start taken)

/-- `Meets step cond s actions`: each action, taken from `s` on, starts in a state where
    the condition allows it. -/
def Meets (step : σ → α → Option σ) (cond : σ → α → Prop) : σ → List α → Prop
  | _, [] => True
  | s, action :: actions => cond s action ∧ ∀ t, step s action = some t → Meets step cond t actions

theorem meets_cons {cond : σ → α → Prop} {s : σ} {action : α} {actions : List α} :
    Meets step cond s (action :: actions) ↔
      cond s action ∧ ∀ t ∈ step s action, Meets step cond t actions := Iff.rfl

instance decidableMeets {cond : σ → α → Prop} [∀ s action, Decidable (cond s action)] :
    (s : σ) → (actions : List α) → Decidable (Meets step cond s actions)
  | _, [] => .isTrue trivial
  | _, _ :: actions =>
    have (t : σ) : Decidable (Meets step cond t actions) := decidableMeets t actions
    decidable_of_iff _ meets_cons.symm

theorem Meets.of_step {cond : σ → α → Prop} {s t : σ} {action : α} {actions : List α} (taken : step s action = some t)
    (allowed : cond s action) (rest : Meets step cond t actions) : Meets step cond s (action :: actions) := by
  refine ⟨allowed, ?_⟩
  intro u other
  cases taken.symm.trans other
  exact rest

theorem Meets.mono {cond weaker : σ → α → Prop} (implies : ∀ s action, cond s action → weaker s action)
    {s : σ} {actions : List α} (meets : Meets step cond s actions) : Meets step weaker s actions := by
  induction actions generalizing s with
  | nil => trivial
  | cons action actions ih => exact ⟨implies _ _ meets.1, fun t taken => ih (meets.2 t taken)⟩

theorem Meets.and {cond other : σ → α → Prop} {s : σ} {actions : List α} (meets : Meets step cond s actions)
    (also : Meets step other s actions) : Meets step (fun s action => cond s action ∧ other s action) s actions := by
  induction actions generalizing s with
  | nil => trivial
  | cons action actions ih => exact ⟨⟨meets.1, also.1⟩, fun t taken => ih (meets.2 t taken) (also.2 t taken)⟩

theorem Meets.append_left {cond : σ → α → Prop} {s : σ} {first second : List α} (meets : Meets step cond s (first ++ second)) :
    Meets step cond s first := by
  induction first generalizing s with
  | nil => trivial
  | cons action first ih => exact ⟨meets.1, fun t taken => ih (meets.2 t taken)⟩

theorem Meets.at_step {cond : σ → α → Prop} {s t : σ} {first later : List α} {action : α}
    (meets : Meets step cond s (first ++ action :: later)) (run : Run step s first t) : cond t action := by
  induction run with
  | nil s => exact meets.1
  | cons taken _ ih => exact ih (meets.2 _ taken)

/-- The invariant rule for what also depends on the actions taken so far. -/
theorem Run.invariant_along {inv : List α → σ → Prop} {s : σ} (start : inv [] s)
    (keeps : ∀ done before action after, Run step s done before → inv done before → step before action = some after →
      inv (done ++ [action]) after)
    {t : σ} {actions : List α} (run : Run step s actions t) : inv actions t := by
  suffices goes : ∀ (rest : List α) (middle last : σ), Run step middle rest last → ∀ done, Run step s done middle →
      inv done middle → inv (done ++ rest) last from goes actions s t run [] (.nil s) start
  intro rest middle last run
  induction run with
  | nil middle =>
    intro done _ holds
    rw [List.append_nil]
    exact holds
  | @cons middle next last action rest taken _ ih =>
    intro done reached holds
    have later := ih (done ++ [action]) (reached.append (.single taken)) (keeps done middle action next reached holds taken)
    rw [List.append_assoc] at later
    exact later

/-- A condition that is weaker in every state that can be reached. -/
theorem Meets.mono_of_invariant {inv : σ → Prop} {cond weaker : σ → α → Prop}
    (keeps : ∀ s action t, inv s → step s action = some t → inv t)
    (implies : ∀ s action, inv s → cond s action → weaker s action)
    {s : σ} {actions : List α} (meets : Meets step cond s actions) (start : inv s) : Meets step weaker s actions := by
  induction actions generalizing s with
  | nil => trivial
  | cons action actions ih =>
    exact ⟨implies s action start meets.1, fun t taken => ih (meets.2 t taken) (keeps s action t start taken)⟩

/-- The invariant rule for runs whose every step meets a condition. -/
theorem Run.invariant_of_meets {inv : σ → Prop} {cond : σ → α → Prop}
    (keeps : ∀ s action t, inv s → cond s action → step s action = some t → inv t)
    {s t : σ} {actions : List α} (run : Run step s actions t)
    (meets : Meets step cond s actions) (start : inv s) : inv t := by
  induction run with
  | nil s => exact start
  | cons taken _ ih => exact ih (meets.2 _ taken) (keeps _ _ _ start meets.1 taken)

theorem Run.invariant_of_all {inv : σ → Prop} {cond : α → Prop}
    (keeps : ∀ s action t, inv s → cond action → step s action = some t → inv t)
    {s t : σ} {actions : List α} (run : Run step s actions t) (all : ∀ action ∈ actions, cond action) (start : inv s) : inv t := by
  induction run with
  | nil s => exact start
  | cons taken _ ih =>
    obtain ⟨first, rest⟩ := List.forall_mem_cons.mp all
    exact ih rest (keeps _ _ _ start first taken)

/-- Where a step keeps the invariant exactly under a condition, a run keeps it exactly when its steps meet the condition. -/
theorem Run.invariant_iff_meets {inv : σ → Prop} {cond : σ → α → Prop}
    (exact : ∀ s action t, inv s → step s action = some t → (inv t ↔ cond s action))
    {s t : σ} {actions : List α} (run : Run step s actions t) (start : inv s) :
    (∀ before rest middle, actions = before ++ rest → Run step s before middle → inv middle) ↔ Meets step cond s actions := by
  induction run with
  | nil s =>
    refine iff_of_true ?_ trivial
    intro before rest middle same run
    obtain ⟨rfl, rfl⟩ := List.append_eq_nil_iff.mp same.symm
    cases run
    exact start
  | @cons s middle t action actions taken rest ih =>
    constructor
    · intro holds
      have next : inv middle := holds [action] actions middle rfl (.single taken)
      refine .of_step taken ((exact s action middle start taken).mp next) ((ih next).mp ?_)
      intro before rest later same run
      exact holds (action :: before) rest later (by rw [same, List.cons_append]) (.cons taken run)
    · intro meets before rest later same run
      have next : inv middle := (exact s action middle start taken).mpr meets.1
      cases run with
      | nil => exact start
      | @cons _ other _ first before also run =>
        rw [List.cons_append] at same
        obtain ⟨rfl, tail⟩ := List.cons.inj same
        cases taken.symm.trans also
        exact (ih next).mpr (meets.2 _ taken) before rest later tail run

def Reachable (step : σ → α → Option σ) (start s : σ) : Prop := ∃ actions, Run step start actions s

theorem Reachable.refl (s : σ) : Reachable step s s := ⟨[], .nil s⟩

theorem Reachable.next {start s t : σ} {action : α} (reached : Reachable step start s)
    (taken : step s action = some t) : Reachable step start t := by
  obtain ⟨actions, run⟩ := reached
  exact ⟨actions ++ [action], run.append (.single taken)⟩

theorem Reachable.trans {start s t : σ} {actions : List α} (reached : Reachable step start s)
    (run : Run step s actions t) : Reachable step start t := by
  obtain ⟨before, first⟩ := reached
  exact ⟨before ++ actions, first.append run⟩

theorem Reachable.invariant {inv : σ → Prop}
    (keeps : ∀ s action t, inv s → step s action = some t → inv t)
    {start s : σ} (reached : Reachable step start s) (holds : inv start) : inv s := by
  obtain ⟨actions, run⟩ := reached
  exact run.invariant keeps holds

/-- An invariant that needs an earlier one: the first is available at every step. -/
theorem Reachable.invariant_with {known inv : σ → Prop}
    {start s : σ} (reached : Reachable step start s)
    (given : ∀ s, Reachable step start s → known s)
    (keeps : ∀ s action t, known s → inv s → step s action = some t → inv t)
    (holds : inv start) : inv s := by
  obtain ⟨actions, run⟩ := reached
  suffices ∀ s t actions, Reachable step start s → Run step s actions t → inv s → inv t from
    this start s actions (.refl start) run holds
  clear run holds actions s
  intro s t actions reached run
  induction run with
  | nil s => exact id
  | cons taken _ ih =>
    intro holds
    exact ih (reached.next taken) (keeps _ _ _ (given _ reached) holds taken)

/-! ## Systems that watch others -/

section Watching

variable {τ : Type} {watching : τ → α → Option τ} {proj : τ → σ}

/-- To a run there is one of the system that watches it. -/
theorem Run.watched (watches : ∀ t action, (watching t action).map proj = step (proj t) action) {s u : σ} {actions : List α}
    (run : Run step s actions u) {t : τ} (here : proj t = s) : ∃ v, Run watching t actions v ∧ proj v = u := by
  induction run generalizing t with
  | nil s => exact ⟨t, .nil t, here⟩
  | @cons s _ u action _ taken _ ih =>
    rw [← here, ← watches] at taken
    obtain ⟨middle, first, same⟩ := Option.map_eq_some_iff.mp taken
    obtain ⟨last, rest, reached⟩ := ih same
    exact ⟨last, .cons first rest, reached⟩

end Watching

/-! ## Refinement -/

/-- Where each step of one system is matched by a run of another, of good actions only, so is each run. -/
theorem Run.refines {τ β : Type} {fine : τ → β → Option τ} {rel : τ → σ → Prop} {known : τ → Prop} {cond : β → Prop} {good : α → Prop}
    (follows : ∀ t action t' s, known t → rel t s → cond action → fine t action = some t' →
      ∃ actions s', Run step s actions s' ∧ (∀ other ∈ actions, good other) ∧ rel t' s')
    (keeps : ∀ t action t', known t → fine t action = some t' → known t')
    {t t' : τ} {actions : List β} (run : Run fine t actions t') (all : ∀ action ∈ actions, cond action) (knows : known t)
    {s : σ} (related : rel t s) :
    ∃ matching s', Run step s matching s' ∧ (∀ other ∈ matching, good other) ∧ rel t' s' := by
  induction run generalizing s with
  | nil t => exact ⟨[], s, .nil s, List.forall_mem_nil _, related⟩
  | @cons t middle t' action actions taken _ ih =>
    obtain ⟨first, next, begins, fit, relates⟩ := follows t action middle s knows related (all action List.mem_cons_self) taken
    obtain ⟨rest, last, goes, also, ends⟩ :=
      ih (fun other member => all other (List.mem_cons_of_mem _ member)) (keeps t action middle knows taken) relates
    refine ⟨first ++ rest, last, begins.append goes, ?_, ends⟩
    intro other member
    rcases List.mem_append.mp member with here | there
    · exact fit other here
    · exact also other there

end Transition
