import Mathlib

/-- A computation that returns, fails, or asks its environment for one operation and
    goes on with the answer. -/
inductive Coroutine (Op : Type) (Res : Op → Type) (ε α : Type) where
  | ret (value : α)
  | throw (error : ε)
  | call (op : Op) (next : Res op → Coroutine Op Res ε α)

namespace Coroutine

variable {Op : Type} {Res : Op → Type} {ε α β σ : Type}

def bind (c : Coroutine Op Res ε α) (f : α → Coroutine Op Res ε β) : Coroutine Op Res ε β :=
  match c with
  | .ret value => f value
  | .throw error => .throw error
  | .call op next => .call op fun answer => (next answer).bind f

def perform (op : Op) : Coroutine Op Res ε (Res op) := .call op .ret

def catchWith (c : Coroutine Op Res ε α) (recover : ε → Coroutine Op Res ε α) :
    Coroutine Op Res ε α :=
  match c with
  | .ret value => .ret value
  | .throw error => recover error
  | .call op next => .call op fun answer => (next answer).catchWith recover

/-- An outcome that is already known, as a coroutine. -/
def ofExcept : Except ε α → Coroutine Op Res ε α
  | .ok value => .ret value
  | .error error => .throw error

instance : Monad (Coroutine Op Res ε) where
  pure := .ret
  bind := bind

@[simp] theorem pure_def (value : α) : (pure value : Coroutine Op Res ε α) = .ret value := rfl

@[simp] theorem bind_def (c : Coroutine Op Res ε α) (f : α → Coroutine Op Res ε β) :
    c >>= f = c.bind f := rfl

@[simp] theorem ret_bind (value : α) (f : α → Coroutine Op Res ε β) :
    (ret value).bind f = f value := rfl

@[simp] theorem throw_bind (error : ε) (f : α → Coroutine Op Res ε β) :
    (throw error : Coroutine Op Res ε α).bind f = .throw error := rfl

@[simp] theorem call_bind (op : Op) (next : Res op → Coroutine Op Res ε α)
    (f : α → Coroutine Op Res ε β) :
    (call op next).bind f = .call op fun answer => (next answer).bind f := rfl

@[simp] theorem perform_bind (op : Op) (f : Res op → Coroutine Op Res ε β) :
    (perform op).bind f = .call op f := rfl

/-- An exception that ends the coroutine does not make it ask for more. -/
theorem catchWith_calls {c : Coroutine Op Res ε α} {recover : ε → Coroutine Op Res ε α}
    (ends : ∀ error, ∃ value, recover error = .ret value) :
    (∃ op next, c.catchWith recover = .call op next) ↔ ∃ op next, c = .call op next := by
  cases c with
  | ret value => simp [catchWith]
  | throw error =>
    obtain ⟨value, same⟩ := ends error
    simp [catchWith, same]
  | call op next => simp [catchWith]

section Footprint

variable {allowed permitted : Op → Prop}

/-- Every operation the coroutine can still ask for is allowed. -/
def AsksOnly (allowed : Op → Prop) : Coroutine Op Res ε α → Prop
  | .ret _ | .throw _ => True
  | .call op next => allowed op ∧ ∀ answer, (next answer).AsksOnly allowed

@[simp] theorem asksOnly_ret (value : α) : (ret value : Coroutine Op Res ε α).AsksOnly allowed := trivial

@[simp] theorem asksOnly_throw (error : ε) : (throw error : Coroutine Op Res ε α).AsksOnly allowed := trivial

@[simp] theorem asksOnly_call (op : Op) (next : Res op → Coroutine Op Res ε α) :
    (call op next).AsksOnly allowed ↔ allowed op ∧ ∀ answer, (next answer).AsksOnly allowed := Iff.rfl

@[simp] theorem asksOnly_perform (op : Op) :
    (perform op : Coroutine Op Res ε (Res op)).AsksOnly allowed ↔ allowed op := by
  simp [perform]

@[simp] theorem asksOnly_ofExcept (known : Except ε α) :
    (ofExcept known : Coroutine Op Res ε α).AsksOnly allowed := by
  cases known <;> trivial

theorem AsksOnly.bind {c : Coroutine Op Res ε α} {f : α → Coroutine Op Res ε β}
    (first : c.AsksOnly allowed) (rest : ∀ value, (f value).AsksOnly allowed) : (c.bind f).AsksOnly allowed := by
  induction c with
  | ret value => exact rest value
  | throw error => trivial
  | call op next ih => exact ⟨first.1, fun answer => ih answer (first.2 answer)⟩

theorem AsksOnly.catchWith {c : Coroutine Op Res ε α} {recover : ε → Coroutine Op Res ε α}
    (first : c.AsksOnly allowed) (rest : ∀ error, (recover error).AsksOnly allowed) :
    (c.catchWith recover).AsksOnly allowed := by
  induction c with
  | ret value => trivial
  | throw error => exact rest error
  | call op next ih => exact ⟨first.1, fun answer => ih answer (first.2 answer)⟩

theorem asksOnly_all (c : Coroutine Op Res ε α) : c.AsksOnly fun _ => True := by
  induction c with
  | ret value => trivial
  | throw error => trivial
  | call op next ih => exact ⟨trivial, ih⟩

theorem AsksOnly.mono {c : Coroutine Op Res ε α} (asks : c.AsksOnly allowed)
    (implies : ∀ op, allowed op → permitted op) : c.AsksOnly permitted := by
  induction c with
  | ret value => trivial
  | throw error => trivial
  | call op next ih => exact ⟨implies op asks.1, fun answer => ih answer (asks.2 answer)⟩

end Footprint

section Ends

variable {post weaker : Except ε α → Prop}

/-- Whatever the environment answers, the coroutine can only end as `post` allows. -/
def Ends (post : Except ε α → Prop) : Coroutine Op Res ε α → Prop
  | .ret value => post (.ok value)
  | .throw error => post (.error error)
  | .call _ next => ∀ answer, (next answer).Ends post

@[simp] theorem ends_ret (value : α) :
    (ret value : Coroutine Op Res ε α).Ends post ↔ post (.ok value) := Iff.rfl

@[simp] theorem ends_throw (error : ε) :
    (throw error : Coroutine Op Res ε α).Ends post ↔ post (.error error) := Iff.rfl

@[simp] theorem ends_call (op : Op) (next : Res op → Coroutine Op Res ε α) :
    (call op next).Ends post ↔ ∀ answer, (next answer).Ends post := Iff.rfl

theorem Ends.mono {c : Coroutine Op Res ε α} (ends : c.Ends post)
    (implies : ∀ result, post result → weaker result) : c.Ends weaker := by
  induction c with
  | ret value => exact implies _ ends
  | throw error => exact implies _ ends
  | call op next ih => exact fun answer => ih answer (ends answer)

theorem Ends.trivial (c : Coroutine Op Res ε α) : c.Ends fun _ => True := by
  induction c with
  | ret value => exact True.intro
  | throw error => exact True.intro
  | call op next ih => exact ih

theorem Ends.bind {post : Except ε β → Prop} {c : Coroutine Op Res ε α}
    {f : α → Coroutine Op Res ε β} (values : c.Ends fun result =>
      ∀ value, result = .ok value → (f value).Ends post)
    (errors : c.Ends fun result => ∀ error, result = .error error → post (.error error)) :
    (c.bind f).Ends post := by
  induction c with
  | ret value => exact values value rfl
  | throw error => exact errors error rfl
  | call op next ih => exact fun answer => ih answer (values answer) (errors answer)

theorem Ends.catchWith {c : Coroutine Op Res ε α} {recover : ε → Coroutine Op Res ε α}
    (values : c.Ends fun result => ∀ value, result = .ok value → post (.ok value))
    (errors : ∀ error, (recover error).Ends post) : (c.catchWith recover).Ends post := by
  induction c with
  | ret value => exact values value rfl
  | throw error => exact errors error
  | call op next ih => exact fun answer => ih answer (values answer)

end Ends

section Guided

variable {ask : List ((op : Op) × Res op) → Op → Prop} {post weaker : List ((op : Op) × Res op) → Except ε α → Prop}
  {told : List ((op : Op) × Res op)}

/-- With what it has been told so far, newest first, the coroutine only asks for what `ask` allows
    and only ends as `post` allows. -/
def Guided (ask : List ((op : Op) × Res op) → Op → Prop) (post : List ((op : Op) × Res op) → Except ε α → Prop) :
    Coroutine Op Res ε α → List ((op : Op) × Res op) → Prop
  | .ret value, told => post told (.ok value)
  | .throw error, told => post told (.error error)
  | .call op next, told => ask told op ∧ ∀ answer, (next answer).Guided ask post (⟨op, answer⟩ :: told)

@[simp] theorem guided_ret (value : α) :
    (ret value : Coroutine Op Res ε α).Guided ask post told ↔ post told (.ok value) := Iff.rfl

@[simp] theorem guided_throw (error : ε) :
    (throw error : Coroutine Op Res ε α).Guided ask post told ↔ post told (.error error) := Iff.rfl

@[simp] theorem guided_call (op : Op) (next : Res op → Coroutine Op Res ε α) :
    (call op next).Guided ask post told ↔
      ask told op ∧ ∀ answer, (next answer).Guided ask post (⟨op, answer⟩ :: told) := Iff.rfl

@[simp] theorem guided_ofExcept (known : Except ε α) :
    (ofExcept known : Coroutine Op Res ε α).Guided ask post told ↔ post told known := by
  cases known <;> rfl

theorem Guided.mono {c : Coroutine Op Res ε α} (guided : c.Guided ask post told)
    (implies : ∀ told result, post told result → weaker told result) : c.Guided ask weaker told := by
  induction c generalizing told with
  | ret value => exact implies _ _ guided
  | throw error => exact implies _ _ guided
  | call op next ih => exact ⟨guided.1, fun answer => ih answer (guided.2 answer)⟩

/-- What holds of the answers so far, and is kept by each question, is at hand everywhere. -/
theorem Guided.imp {inv : List ((op : Op) × Res op) → Prop} {asks : List ((op : Op) × Res op) → Op → Prop}
    {c : Coroutine Op Res ε α} (guided : c.Guided ask post told)
    (may : ∀ told op, ask told op → inv told → asks told op)
    (keeps : ∀ told op answer, ask told op → inv told → inv (⟨op, answer⟩ :: told))
    (ends : ∀ told result, post told result → inv told → weaker told result) (holds : inv told) :
    c.Guided asks weaker told := by
  induction c generalizing told with
  | ret value => exact ends _ _ guided holds
  | throw error => exact ends _ _ guided holds
  | call op next ih =>
    refine ⟨may told op guided.1 holds, ?_⟩
    intro answer
    exact ih answer (guided.2 answer) (keeps told op answer guided.1 holds)

theorem Guided.bind {post : List ((op : Op) × Res op) → Except ε β → Prop} {c : Coroutine Op Res ε α}
    {f : α → Coroutine Op Res ε β} (guided : c.Guided ask (fun told result =>
      match result with
      | .ok value => (f value).Guided ask post told
      | .error error => post told (.error error)) told) : (c.bind f).Guided ask post told := by
  induction c generalizing told with
  | ret value => exact guided
  | throw error => exact guided
  | call op next ih => exact ⟨guided.1, fun answer => ih answer (guided.2 answer)⟩

theorem Guided.catchWith {c : Coroutine Op Res ε α} {recover : ε → Coroutine Op Res ε α}
    (guided : c.Guided ask (fun told result =>
      match result with
      | .ok value => post told (.ok value)
      | .error error => (recover error).Guided ask post told) told) :
    (c.catchWith recover).Guided ask post told := by
  induction c generalizing told with
  | ret value => exact guided
  | throw error => exact guided
  | call op next ih => exact ⟨guided.1, fun answer => ih answer (guided.2 answer)⟩

/-- What every allowed question keeps true of the answers is true at the end. -/
theorem AsksOnly.guided {allowed : Op → Prop} {inv : List ((op : Op) × Res op) → Prop}
    {c : Coroutine Op Res ε α} (asks : c.AsksOnly allowed) (may : ∀ told op, allowed op → inv told → ask told op)
    (keeps : ∀ told op answer, allowed op → inv told → inv (⟨op, answer⟩ :: told)) (holds : inv told) :
    c.Guided ask (fun told _ => inv told) told := by
  induction c generalizing told with
  | ret value => exact holds
  | throw error => exact holds
  | call op next ih =>
    refine ⟨may told op asks.1 holds, ?_⟩
    intro answer
    exact ih answer (asks.2 answer) (keeps told op answer asks.1 holds)

theorem Guided.weaken {asks : List ((op : Op) × Res op) → Op → Prop} {c : Coroutine Op Res ε α} (guided : c.Guided ask post told)
    (may : ∀ told op, ask told op → asks told op) : c.Guided asks post told := by
  induction c generalizing told with
  | ret value => exact guided
  | throw error => exact guided
  | call op next ih => exact ⟨may told op guided.1, fun answer => ih answer (guided.2 answer)⟩

theorem AsksOnly.guides {allowed : Op → Prop} {c : Coroutine Op Res ε α} (asks : c.AsksOnly allowed)
    (may : ∀ told op, allowed op → ask told op) (ends : ∀ told result, post told result) : c.Guided ask post told := by
  induction c generalizing told with
  | ret value => exact ends told _
  | throw error => exact ends told _
  | call op next ih => exact ⟨may told op asks.1, fun answer => ih answer (asks.2 answer)⟩

end Guided

section Run

variable (exec : (op : Op) → σ → Res op × σ)

/-- Run to the end against an environment that answers every operation at once. -/
def run : Coroutine Op Res ε α → σ → Except ε α × σ
  | .ret value, state => (.ok value, state)
  | .throw error, state => (.error error, state)
  | .call op next, state => (next (exec op state).1).run (exec op state).2

@[simp] theorem run_ret (value : α) (state : σ) :
    (ret value : Coroutine Op Res ε α).run exec state = (.ok value, state) := rfl

@[simp] theorem run_throw (error : ε) (state : σ) :
    (throw error : Coroutine Op Res ε α).run exec state = (.error error, state) := rfl

@[simp] theorem run_call (op : Op) (next : Res op → Coroutine Op Res ε α) (state : σ) :
    (call op next).run exec state = (next (exec op state).1).run exec (exec op state).2 := rfl

@[simp] theorem run_ofExcept (known : Except ε α) (state : σ) :
    (ofExcept known : Coroutine Op Res ε α).run exec state = (known, state) := by
  cases known <;> rfl

theorem run_bind (c : Coroutine Op Res ε α) (f : α → Coroutine Op Res ε β) (state : σ) :
    (c.bind f).run exec state =
      match c.run exec state with
      | (.ok value, after) => (f value).run exec after
      | (.error error, after) => (.error error, after) := by
  induction c generalizing state with
  | ret value => rfl
  | throw error => rfl
  | call op next ih => exact ih _ _

theorem run_catchWith (c : Coroutine Op Res ε α) (recover : ε → Coroutine Op Res ε α) (state : σ) :
    (c.catchWith recover).run exec state =
      match c.run exec state with
      | (.ok value, after) => (.ok value, after)
      | (.error error, after) => (recover error).run exec after := by
  induction c generalizing state with
  | ret value => rfl
  | throw error => rfl
  | call op next ih => exact ih _ _

theorem run_preserves {allowed : Op → Prop} {inv : σ → Prop}
    (keeps : ∀ op state, allowed op → inv state → inv (exec op state).2)
    {c : Coroutine Op Res ε α} (asks : c.AsksOnly allowed) {state : σ} (holds : inv state) :
    inv (c.run exec state).2 := by
  induction c generalizing state with
  | ret value => exact holds
  | throw error => exact holds
  | call op next ih => exact ih _ (asks.2 _) (keeps op state asks.1 holds)

/-- What each question and its answer keep true holds at the end, together with what the coroutine says of its result. -/
theorem Guided.run {ask : List ((op : Op) × Res op) → Op → Prop} {post : List ((op : Op) × Res op) → Except ε α → Prop}
    {inv : List ((op : Op) × Res op) → σ → Prop} {c : Coroutine Op Res ε α} {told : List ((op : Op) × Res op)} {state : σ}
    (guided : c.Guided ask post told)
    (keeps : ∀ told op state, ask told op → inv told state → inv (⟨op, (exec op state).1⟩ :: told) (exec op state).2)
    (holds : inv told state) : ∃ later, post later (c.run exec state).1 ∧ inv later (c.run exec state).2 := by
  induction c generalizing told state with
  | ret value => exact ⟨told, guided, holds⟩
  | throw error => exact ⟨told, guided, holds⟩
  | call op next ih => exact ih _ (guided.2 _) (keeps told op state guided.1 holds)

end Run

section Advance

variable (exec : (op : Op) → σ → Option (Res op × σ))

/-- Run up to the first operation that the environment does not answer at once. -/
def advance : Coroutine Op Res ε α → σ → Coroutine Op Res ε α × σ
  | .ret value, state => (.ret value, state)
  | .throw error, state => (.throw error, state)
  | .call op next, state =>
    match exec op state with
    | some (answer, after) => (next answer).advance after
    | none => (.call op next, state)

@[simp] theorem advance_ret (value : α) (state : σ) :
    (ret value : Coroutine Op Res ε α).advance exec state = (.ret value, state) := rfl

@[simp] theorem advance_throw (error : ε) (state : σ) :
    (throw error : Coroutine Op Res ε α).advance exec state = (.throw error, state) := rfl

theorem advance_asksOnly {allowed : Op → Prop} {c : Coroutine Op Res ε α} (asks : c.AsksOnly allowed)
    (state : σ) : (c.advance exec state).1.AsksOnly allowed := by
  induction c generalizing state with
  | ret value => trivial
  | throw error => trivial
  | call op next ih =>
    unfold advance
    split
    · exact ih _ (asks.2 _) _
    · exact asks

theorem advance_preserves {allowed : Op → Prop} {inv : σ → Prop}
    (keeps : ∀ op state answer after, allowed op → exec op state = some (answer, after) →
      inv state → inv after)
    {c : Coroutine Op Res ε α} (asks : c.AsksOnly allowed) {state : σ} (holds : inv state) :
    inv (c.advance exec state).2 := by
  induction c generalizing state with
  | ret value => exact holds
  | throw error => exact holds
  | call op next ih =>
    unfold advance
    split
    · rename_i answer after answered
      exact ih _ (asks.2 _) (keeps op state answer after asks.1 answered holds)
    · exact holds

/-- Where it stops, the operation asked for is one the environment does not answer at once. -/
theorem advance_suspended {c : Coroutine Op Res ε α} {state after : σ} {op : Op}
    {next : Res op → Coroutine Op Res ε α}
    (stopped : c.advance exec state = (.call op next, after)) : exec op after = none := by
  induction c generalizing state with
  | ret value => cases stopped
  | throw error => cases stopped
  | call asked rest ih =>
    unfold advance at stopped
    split at stopped
    · exact ih _ stopped
    · rename_i silent
      cases stopped
      exact silent

end Advance

section Leads

/-- After these answers, the newest first, the coroutine `c` has got this far. -/
inductive Leads (c : Coroutine Op Res ε α) : List ((op : Op) × Res op) → Coroutine Op Res ε α → Prop
  | start : Leads c [] c
  | answer {told : List ((op : Op) × Res op)} {op : Op} {next : Res op → Coroutine Op Res ε α} (answer : Res op) :
      Leads c told (.call op next) → Leads c (⟨op, answer⟩ :: told) (next answer)

variable {c rest : Coroutine Op Res ε α} {told : List ((op : Op) × Res op)}

theorem Leads.guided {ask : List ((op : Op) × Res op) → Op → Prop} {post : List ((op : Op) × Res op) → Except ε α → Prop}
    (leads : Leads c told rest) (guided : c.Guided ask post []) : rest.Guided ask post told := by
  induction leads with
  | start => exact guided
  | answer answer _ ih => exact ih.2 answer

theorem Leads.ends {post : Except ε α → Prop} (leads : Leads c told rest) (ends : c.Ends post) : rest.Ends post := by
  induction leads with
  | start => exact ends
  | answer answer _ ih => exact ih answer

theorem Leads.asksOnly {allowed : Op → Prop} (leads : Leads c told rest) (asks : c.AsksOnly allowed) : rest.AsksOnly allowed := by
  induction leads with
  | start => exact asks
  | answer answer _ ih => exact ih.2 answer

theorem Leads.of_ret {value : α} (leads : Leads c told rest) (returns : c = .ret value) : told = [] ∧ rest = .ret value := by
  induction leads with
  | start => exact ⟨rfl, returns⟩
  | answer answer _ ih => cases ih.2

/-- Up to where it stops, when the environment writes down what it has answered: operations of one kind only. -/
theorem Leads.advance {exec : (op : Op) → List ((op : Op) × Res op) → Option (Res op × List ((op : Op) × Res op))} {kind : Op → Prop}
    (records : ∀ op told answer later, exec op told = some (answer, later) → kind op ∧ later = ⟨op, answer⟩ :: told)
    (leads : Leads c told rest) : Leads c (rest.advance exec told).2 (rest.advance exec told).1 ∧
      ∃ heard, (rest.advance exec told).2 = heard ++ told ∧ ∀ entry ∈ heard, kind entry.1 := by
  induction rest generalizing told with
  | ret value => exact ⟨leads, [], rfl, List.forall_mem_nil _⟩
  | throw error => exact ⟨leads, [], rfl, List.forall_mem_nil _⟩
  | call op next ih =>
    unfold Coroutine.advance
    split
    · rename_i answer later answered
      obtain ⟨known, same⟩ := records op told answer later answered
      rw [same]
      obtain ⟨reached, heard, front, all⟩ := ih answer (leads.answer answer)
      refine ⟨reached, heard ++ [⟨op, answer⟩], ?_, ?_⟩
      · rw [front, List.append_assoc]
        rfl
      · intro entry member
        rcases List.mem_append.mp member with old | new
        · exact all entry old
        · rw [List.mem_singleton.mp new]
          exact known
    · exact ⟨leads, [], rfl, List.forall_mem_nil _⟩

end Leads

end Coroutine
