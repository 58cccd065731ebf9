import Treewalk.Proofs.Evaluation.Exec

/-!
# What a step that succeeds has done

`Succeeds` lists, for each kind of term, how its evaluation can come to a value: which parts were
evaluated, in which order, and what was asked of their values. `succeeds_of_exec` says that there is
no other way, and `Succeeds.exec_eq` that each of them is one. Arguments are evaluated one after
another (`Threads`), and only then bound (`Scope.bindAll`).
-/

namespace Treewalk

/-- Binds parameters to values, as long as there are both. -/
def Scope.bindAll (s : Scope) : List Parameter → List Value → Scope
  | p :: parameters, v :: values => (s.bind p.name v).bindAll parameters values
  | _, _ => s

namespace Evaluator

/-- Terms evaluated one after another, each in the session that the one before it left. -/
inductive Threads (o : (job : Job) → Option job.Answer) :
    Session → List Term → List Value → Session → Prop
  | nil {s : Session} : Threads o s [] [] s
  | cons {s s' s'' : Session} {t : Term} {v : Value} {ts : List Term} {vs : List Value}
      (ht : o (.evaluate t s) = some (.ok v, s')) (hts : Threads o s' ts vs s'') :
      Threads o s (t :: ts) (v :: vs) s''

theorem Threads.length_eq {o : (job : Job) → Option job.Answer} {s s' : Session}
    {ts : List Term} {vs : List Value} (h : Threads o s ts vs s') :
    vs.length = ts.length := by
  induction h with
  | nil => rfl
  | cons _ _ ih => simp [ih]

theorem Threads.mono {o o' : (job : Job) → Option job.Answer}
    (ho : ∀ q x, o q = some x → o' q = some x) {s s' : Session} {ts : List Term}
    {vs : List Value} (h : Threads o s ts vs s') : Threads o' s ts vs s' := by
  induction h with
  | nil => exact .nil
  | cons ht _ ih => exact .cons (ho _ _ ht) ih

/-- Arguments that could be bound were evaluated in turn, and bound in `frame`. -/
theorem threads_of_bindArguments {o : (job : Job) → Option job.Answer}
    {parameters : List Parameter} {arguments : List Term}
    (hlen : parameters.length = arguments.length) {frame : Scope} {values : List Value}
    {s s' : Session} {x : Scope × List Value}
    (h : exec o (bindArguments (parameters.zip arguments) frame values) s =
      some (.ok x, s')) :
    ∃ vs, Threads o s arguments vs s' ∧
      x = (frame.bindAll parameters vs, values.reverse ++ vs) := by
  induction arguments generalizing parameters frame values s with
  | nil =>
    obtain rfl : parameters = [] := List.eq_nil_of_length_eq_zero hlen
    cases h
    exact ⟨[], .nil, by simp [Scope.bindAll]⟩
  | cons a arguments ih =>
    cases parameters with
    | nil => cases hlen
    | cons p parameters =>
      obtain ⟨v, s₁, hv, h⟩ := exec_bind_eq_ok h
      rw [exec_evaluate] at hv
      obtain ⟨vs, hvs, rfl⟩ := ih (Nat.succ.inj hlen) h
      exact ⟨v :: vs, .cons hv hvs, by simp [Scope.bindAll]⟩

/-- Arguments that can be evaluated in turn can be bound. -/
theorem Threads.exec_bindArguments {o : (job : Job) → Option job.Answer}
    {parameters : List Parameter} {arguments : List Term} {vs : List Value} {s s' : Session}
    (h : Threads o s arguments vs s') (hlen : parameters.length = arguments.length)
    (frame : Scope) (values : List Value) :
    exec o (bindArguments (parameters.zip arguments) frame values) s =
      some (.ok (frame.bindAll parameters vs, values.reverse ++ vs), s') := by
  induction h generalizing parameters frame values with
  | nil =>
    obtain rfl : parameters = [] := List.eq_nil_of_length_eq_zero hlen
    simp only [List.append_nil]
    rfl
  | @cons s s₁ s' a v arguments vs ha _ ih =>
    cases parameters with
    | nil => cases hlen
    | cons p parameters =>
      rw [List.zip_cons_cons, bindArguments,
        exec_bind_of_ok ((exec_evaluate a).trans ha), ih (Nat.succ.inj hlen)]
      simp [Scope.bindAll]

/-- A call enters the body once function and arguments are evaluated. -/
theorem exec_call_of_threads {options : EvalOptions} {o : (job : Job) → Option job.Answer}
    {callee body : Term} {parameters : List Parameter} {arguments : List Term}
    {definition : Location} {vs : List Value} {s s₁ s₂ : Session}
    (hcallee : o (.evaluate callee s) =
      some (.ok (.closure parameters body definition), s₁))
    (hlen : parameters.length = arguments.length) (hvs : Threads o s₁ arguments vs s₂)
    (l : Location) : exec o (call options callee arguments l) s =
      exec o (enter (if options.memoize then signature? callee definition vs else none)
        (s₁.scope.bindAll parameters vs) body) s₂ := by
  rw [call, exec_bind_of_ok ((exec_evaluate callee).trans hcallee)]
  simp only [hlen, ne_eq, not_true_eq_false, ↓reduceIte]
  rw [exec_bind_of_ok exec_get, exec_bind_of_ok (hvs.exec_bindArguments hlen _ _)]
  rfl

/-- A term whose evaluation is open came to a value, and the session to another. -/
inductive Succeeds (options : EvalOptions) (o : (job : Job) → Option job.Answer) :
    Session → Term → Value → Session → Prop
  | int {s : Session} {n : Int32} {l : Location} :
      Succeeds options o s (.int n l) (.int n) s
  | str {s : Session} {text : String} {l : Location} :
      Succeeds options o s (.str text l) (.str text) s
  | bool {s : Session} {b : Bool} {l : Location} :
      Succeeds options o s (.bool b l) (.bool b) s
  | var {s : Session} {x : String} {v : Value} {l : Location}
      (h : s.scope.lookup? x = some v) : Succeeds options o s (.var x l) v s
  | function {s : Session} {parameters : List Parameter} {body : Term} {l : Location} :
      Succeeds options o s (.function parameters body l) (.closure parameters body l) s
  | tuple {s : Session} {a b : Term} {l : Location} :
      Succeeds options o s (.tuple a b l) (.tuple a b l) s
  | call {s s₁ s₂ s₃ : Session} {callee body : Term} {parameters : List Parameter}
      {arguments : List Term} {definition l : Location} {vs : List Value} {v : Value}
      (hcallee : o (.evaluate callee s) =
        some (.ok (.closure parameters body definition), s₁))
      (hlen : parameters.length = arguments.length)
      (harguments : Threads o s₁ arguments vs s₂)
      (hbody : exec o (enter (if options.memoize then signature? callee definition vs else none)
        (s₁.scope.bindAll parameters vs) body) s₂ = some (.ok v, s₃)) :
      Succeeds options o s (.call callee arguments l) v s₃
  | letIn {s s₁ s₂ : Session} {x : Parameter} {value next : Term} {v w : Value} {l : Location}
      (hvalue : o (.evaluate value s) = some (.ok v, s₁))
      (hnext : o (.evaluate next { s₁ with scope := s₁.scope.bind x.name v }) =
        some (.ok w, s₂)) :
      Succeeds options o s (.letIn x value next l) w s₂
  | cond {s s₁ s₂ : Session} {condition yes no : Term} {b : Bool} {v : Value} {l : Location}
      (hcondition : o (.evaluate condition s) = some (.ok (.bool b), s₁))
      (hbranch : o (.evaluate (if b then yes else no) s₁) = some (.ok v, s₂)) :
      Succeeds options o s (.cond condition yes no l) v s₂
  | binary {s s₁ s₂ : Session} {lhs rhs : Term} {op : Operator} {a b v : Value} {l : Location}
      (hlhs : o (.evaluate lhs s) = some (.ok a, s₁))
      (hrhs : o (.evaluate rhs s₁) = some (.ok b, s₂)) (hop : op.apply a b = .ok v) :
      Succeeds options o s (.binary lhs op rhs l) v s₂
  | print {s s₁ s₂ : Session} {operand : Term} {v : Value} {text : String} {sink : Sink}
      {l : Location} (hoperand : o (.evaluate operand s) = some (.ok v, s₁))
      (htext : o (.render v "" s₁) = some (.ok text, s₂))
      (hline : s₂.sink.writeLine text = (.ok (), sink)) :
      Succeeds options o s (.print operand l) .nil
        { s₂ with sink := sink, prints := s₂.prints + 1 }
  | first {s s₁ s₂ : Session} {operand a b : Term} {v : Value} {place l : Location}
      (hoperand : o (.evaluate operand s) = some (.ok (.tuple a b place), s₁))
      (hpart : o (.evaluate a s₁) = some (.ok v, s₂)) :
      Succeeds options o s (.first operand l) v s₂
  | second {s s₁ s₂ : Session} {operand a b : Term} {v : Value} {place l : Location}
      (hoperand : o (.evaluate operand s) = some (.ok (.tuple a b place), s₁))
      (hpart : o (.evaluate b s₁) = some (.ok v, s₂)) :
      Succeeds options o s (.second operand l) v s₂

section Inversion

variable {options : EvalOptions} {o : (job : Job) → Option job.Answer} {s s' : Session}

theorem tuple_of_components {l : Location} {v : Value} {x : Term × Term}
    (h : exec o (components l v) s = some (.ok x, s')) :
    s' = s ∧ ∃ place, v = .tuple x.1 x.2 place := by
  cases v with
  | tuple a b place => cases h; exact ⟨rfl, place, rfl⟩
  | int | str | bool | closure | nil => cases h

theorem line_of_printLine {l : Location} {text : String} {v : Value}
    (h : exec o (printLine l text) s = some (.ok v, s')) :
    ∃ sink, s.sink.writeLine text = (.ok (), sink) ∧ v = .nil ∧
      s' = { s with sink := sink, prints := s.prints + 1 } := by
  rw [exec_printLine] at h
  rcases hw : s.sink.writeLine text with ⟨e | u, sink⟩
  · rw [hw] at h
    cases h
  · rw [hw] at h
    cases h
    exact ⟨sink, rfl, rfl, rfl⟩

theorem succeeds_of_call {callee : Term} {arguments : List Term} {l : Location} {v : Value}
    (h : exec o (call options callee arguments l) s = some (.ok v, s')) :
    Succeeds options o s (.call callee arguments l) v s' := by
  obtain ⟨c, s₁, hc, h⟩ := exec_bind_eq_ok h
  rw [exec_evaluate] at hc
  cases c with
  | closure parameters body definition =>
    by_cases hlen : parameters.length = arguments.length
    · simp only [hlen, ne_eq, not_true_eq_false, ↓reduceIte] at h
      rw [exec_bind_of_ok exec_get] at h
      obtain ⟨x, s₂, hx, h⟩ := exec_bind_eq_ok h
      obtain ⟨vs, hvs, rfl⟩ := threads_of_bindArguments hlen hx
      exact .call hc hlen hvs h
    · simp only [hlen, ne_eq, not_false_eq_true, ↓reduceIte] at h
      cases h
  | int | str | bool | tuple | nil => cases h

/-- There is no other way to come to a value. -/
theorem succeeds_of_exec {t : Term} {v : Value}
    (h : exec o (step options t) s = some (.ok v, s')) :
    Succeeds options o s t v s' := by
  cases t with
  | int => cases h; exact .int
  | str => cases h; exact .str
  | bool => cases h; exact .bool
  | function => cases h; exact .function
  | tuple => cases h; exact .tuple
  | var x l =>
    rw [step, exec_bind_of_ok exec_get] at h
    cases hx : s.scope.lookup? x with
    | some w => rw [hx] at h; cases h; exact .var hx
    | none => rw [hx] at h; cases h
  | call callee arguments l => exact succeeds_of_call h
  | letIn x value next l =>
    obtain ⟨w, s₁, hw, h⟩ := exec_bind_eq_ok h
    obtain ⟨_, s₂, hb, h⟩ := exec_bind_eq_ok h
    rw [exec_bindName] at hb
    cases hb
    rw [exec_evaluate] at hw h
    exact .letIn hw h
  | cond condition yes no l =>
    obtain ⟨w, s₁, hw, h⟩ := exec_bind_eq_ok h
    rw [exec_evaluate] at hw
    cases w with
    | bool b =>
      refine .cond hw ?_
      cases b with
      | true => exact (exec_evaluate ..).symm.trans h
      | false => exact (exec_evaluate ..).symm.trans h
    | int | str | closure | tuple | nil => cases h
  | binary lhs op rhs l =>
    obtain ⟨a, s₁, ha, h⟩ := exec_bind_eq_ok h
    obtain ⟨b, s₂, hb, h⟩ := exec_bind_eq_ok h
    rw [exec_evaluate] at ha hb
    cases hop : op.apply a b with
    | ok w => rw [hop] at h; cases h; exact .binary ha hb hop
    | error c => rw [hop] at h; cases h
  | print operand l =>
    obtain ⟨w, s₁, hw, h⟩ := exec_bind_eq_ok h
    obtain ⟨text, s₂, ht, h⟩ := exec_bind_eq_ok h
    rw [exec_evaluate] at hw
    rw [exec_render] at ht
    obtain ⟨sink, hline, rfl, rfl⟩ := line_of_printLine h
    exact .print hw ht hline
  | first operand l =>
    obtain ⟨w, s₁, hw, h⟩ := exec_bind_eq_ok h
    obtain ⟨x, s₂, hx, hpart⟩ := exec_bind_eq_ok h
    rw [exec_evaluate] at hw
    obtain ⟨rfl, place, rfl⟩ := tuple_of_components hx
    exact .first hw ((exec_evaluate ..).symm.trans hpart)
  | second operand l =>
    obtain ⟨w, s₁, hw, h⟩ := exec_bind_eq_ok h
    obtain ⟨x, s₂, hx, hpart⟩ := exec_bind_eq_ok h
    rw [exec_evaluate] at hw
    obtain ⟨rfl, place, rfl⟩ := tuple_of_components hx
    exact .second hw ((exec_evaluate ..).symm.trans hpart)

/-- An answer that is a value is that of a step that succeeded, one level deeper. -/
theorem succeeds_of_answer {n : Nat} {t : Term} {v : Value}
    (h : Walk.answerWithin (body options) n (.evaluate t s) = some (.ok v, s')) :
    ∃ k after, n = k + 1 ∧ s.depth < options.depthLimit ∧
      Succeeds options (Walk.answerWithin (body options) k) s.deeper t v after ∧
      s' = after.shallower := by
  obtain ⟨k, hk, ⟨hr, -⟩ | ⟨hlt, after, hstep, hs'⟩⟩ := answer_eq_some h
  · cases hr
  · exact ⟨k, after, hk, hlt, succeeds_of_exec hstep, hs'⟩

/-- Each of these ways comes to the value. -/
theorem Succeeds.exec_eq {t : Term} {v : Value} (h : Succeeds options o s t v s') :
    exec o (step options t) s = some (.ok v, s') := by
  cases h with
  | int | str | bool | function | tuple => rfl
  | var hx =>
    rw [step, exec_bind_of_ok exec_get, hx]
    rfl
  | call hcallee hlen harguments hbody =>
    rw [step, exec_call_of_threads hcallee hlen harguments, hbody]
  | letIn hvalue hnext =>
    rw [step, exec_bind_of_ok ((exec_evaluate ..).trans hvalue),
      exec_bind_of_ok (exec_bindName ..), exec_evaluate, hnext]
  | @cond _ _ _ _ _ b _ _ hcondition hbranch =>
    rw [step, exec_bind_of_ok ((exec_evaluate ..).trans hcondition)]
    cases b with
    | true => exact (exec_evaluate ..).trans hbranch
    | false => exact (exec_evaluate ..).trans hbranch
  | binary hlhs hrhs hop =>
    rw [step, exec_bind_of_ok ((exec_evaluate ..).trans hlhs),
      exec_bind_of_ok ((exec_evaluate ..).trans hrhs), hop]
    rfl
  | print hoperand htext hline =>
    rw [step, exec_bind_of_ok ((exec_evaluate ..).trans hoperand),
      exec_bind_of_ok ((exec_render ..).trans htext), exec_printLine, hline]
  | first hoperand hpart =>
    rw [step, exec_bind_of_ok ((exec_evaluate ..).trans hoperand)]
    exact (exec_evaluate ..).trans hpart
  | second hoperand hpart =>
    rw [step, exec_bind_of_ok ((exec_evaluate ..).trans hoperand)]
    exact (exec_evaluate ..).trans hpart

/-- Below the limit on depth a term comes to a value if one level of it does. -/
theorem Succeeds.answer_eq {n : Nat} {t : Term} {v : Value} (hd : s.depth < options.depthLimit)
    (h : Succeeds options (Walk.answerWithin (body options) n) s.deeper t v s') :
    Walk.answerWithin (body options) (n + 1) (.evaluate t s) = some (.ok v, s'.shallower) :=
  answer_of_exec hd h.exec_eq

theorem answer_of_int {n : Nat} {i : Int32} {l : Location} (hd : s.depth < options.depthLimit) :
    Walk.answerWithin (body options) (n + 1) (.evaluate (.int i l) s) = some (.ok (.int i), s) :=
  Succeeds.answer_eq hd .int

theorem answer_of_var {n : Nat} {x : String} {v : Value} {l : Location}
    (hd : s.depth < options.depthLimit) (hx : s.scope.lookup? x = some v) :
    Walk.answerWithin (body options) (n + 1) (.evaluate (.var x l) s) = some (.ok v, s) := by
  have hstep : Succeeds options (Walk.answerWithin (body options) n) s.deeper (.var x l) v
      s.deeper := .var hx
  exact hstep.answer_eq hd

theorem answer_of_unbound {n : Nat} {x : String} {l : Location} (hd : s.depth < options.depthLimit)
    (hx : s.scope.lookup? x = none) :
    Walk.answerWithin (body options) (n + 1) (.evaluate (.var x l) s) =
      some (.error ⟨.undefinedVariable x, l⟩, s) := by
  have hstep : exec (Walk.answerWithin (body options) n) (step options (.var x l)) s.deeper =
      some (.error ⟨.undefinedVariable x, l⟩, s.deeper) := by
    have hx : s.deeper.scope.lookup? x = none := hx
    rw [step, exec_bind_of_ok exec_get, hx]
    rfl
  exact answer_of_exec hd hstep

end Inversion

end Evaluator

end Treewalk
