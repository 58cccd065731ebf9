import Treewalk.Proofs.Evaluation.FirstOrder

/-!
# Quiet evaluation

An evaluation that succeeds without printing a line is a matter of scopes alone. `Quiet` is this
part of evaluation as a relation: no session, no depth and no number of levels occur in it. For
first-order programs evaluated without the cache it is exact in both directions. An evaluation that
succeeds and prints nothing is quiet (`leads_of_answer`), and where there is a quiet evaluation, any
evaluation of the term in any session whose scope agrees on the names that the term can see comes to
the same value and prints nothing, unless it runs into the limit on depth (`determines_of_quiet`).
-/

namespace Treewalk

open Definition

mutual

/-- The term comes to a value and the scope to another, and nothing is printed on the way. -/
inductive Quiet : Scope → Term → Value → Scope → Prop
  | int {s : Scope} {n : Int32} {l : Location} : Quiet s (.int n l) (.int n) s
  | bool {s : Scope} {b : Bool} {l : Location} : Quiet s (.bool b l) (.bool b) s
  | var {s : Scope} {x : String} {v : Value} {l : Location} (h : s.lookup? x = some v) :
      Quiet s (.var x l) v s
  | call {s s₁ s₂ frame : Scope} {callee body : Term} {parameters : List Parameter}
      {arguments : List Term} {place l : Location} {vs : List Value} {v : Value}
      (hcallee : Quiet s callee (.closure parameters body place) s₁)
      (hlen : parameters.length = arguments.length) (harguments : QuietAll s₁ arguments vs s₂)
      (hbody : Quiet (s₁.bindAll parameters vs) body v frame) :
      Quiet s (.call callee arguments l) v s₂
  | letIn {s s₁ s₂ : Scope} {x : Parameter} {value next : Term} {v w : Value} {l : Location}
      (hvalue : Quiet s value v s₁) (hnext : Quiet (s₁.bind x.name v) next w s₂) :
      Quiet s (.letIn x value next l) w s₂
  | cond {s s₁ s₂ : Scope} {condition yes no : Term} {b : Bool} {v : Value} {l : Location}
      (hcondition : Quiet s condition (.bool b) s₁)
      (hbranch : Quiet s₁ (if b then yes else no) v s₂) : Quiet s (.cond condition yes no l) v s₂
  | binary {s s₁ s₂ : Scope} {lhs rhs : Term} {op : Operator} {a b v : Value} {l : Location}
      (hlhs : Quiet s lhs a s₁) (hrhs : Quiet s₁ rhs b s₂) (hop : op.apply a b = .ok v) :
      Quiet s (.binary lhs op rhs l) v s₂

/-- Terms come to values one after another. -/
inductive QuietAll : Scope → List Term → List Value → Scope → Prop
  | nil {s : Scope} : QuietAll s [] [] s
  | cons {s s₁ s₂ : Scope} {t : Term} {v : Value} {ts : List Term} {vs : List Value}
      (ht : Quiet s t v s₁) (hts : QuietAll s₁ ts vs s₂) : QuietAll s (t :: ts) (v :: vs) s₂

end

theorem QuietAll.length_eq {s s' : Scope} {ts : List Term} {vs : List Value}
    (h : QuietAll s ts vs s') : vs.length = ts.length := by
  match h with
  | .nil => rfl
  | .cons _ hts => simp [QuietAll.length_eq hts]

namespace Evaluator

variable {limit : Nat} {defs : List Definition}

/-- Answers of an evaluation that does without the cache, within `n` levels. -/
def plainly (limit n : Nat) : (job : Job) → Option job.Answer :=
  Walk.answerWithin (body ⟨limit, false⟩) n

/-! ## What succeeds without printing is quiet -/

/-- What an evaluation that came to a value leads to: values are plain again, lines are only
added, and without new lines the evaluation is quiet. -/
structure Leads (defs : List Definition) (s : Session) (t : Term) (v : Value) (s' : Session) :
    Prop where
  provides : s'.scope.Provides defs
  plain : v.IsPlain defs
  prints_le : s.prints ≤ s'.prints
  quiet : s'.prints = s.prints → Quiet s.scope t v s'.scope

/-- The same for terms evaluated one after another. -/
structure LeadsAll (defs : List Definition) (s : Session) (ts : List Term) (vs : List Value)
    (s' : Session) : Prop where
  provides : s'.scope.Provides defs
  plain : ∀ v ∈ vs, Value.IsPlain defs v
  prints_le : s.prints ≤ s'.prints
  quiet : s'.prints = s.prints → QuietAll s.scope ts vs s'.scope

/-- If nothing was printed in all, nothing was printed in either part. -/
theorem prints_eq_of_le {a b c : Nat} (h1 : a ≤ b) (h2 : b ≤ c) (h : c = a) : b = a ∧ c = b := by
  omega

theorem leadsAll_of_threads {o : (job : Job) → Option job.Answer} {s s' : Session}
    {ts : List Term} {vs : List Value} (h : Threads o s ts vs s')
    (ho : ∀ t ∈ ts, ∀ s v s', s.scope.Provides defs →
      o (.evaluate t s) = some (.ok v, s') → Leads defs s t v s')
    (hs : s.scope.Provides defs) : LeadsAll defs s ts vs s' := by
  induction h with
  | nil => exact ⟨hs, by simp, Nat.le_refl _, fun _ => .nil⟩
  | cons ht _ ih =>
    have h1 := ho _ List.mem_cons_self _ _ _ hs ht
    have h2 := ih (fun t ht => ho t (List.mem_cons_of_mem _ ht)) h1.provides
    refine ⟨h2.provides, ?_, Nat.le_trans h1.prints_le h2.prints_le, fun hp => ?_⟩
    · intro v hv
      rcases List.mem_cons.1 hv with rfl | hv
      · exact h1.plain
      · exact h2.plain v hv
    · obtain ⟨e1, e2⟩ := prints_eq_of_le h1.prints_le h2.prints_le hp
      exact .cons (h1.quiet e1) (h2.quiet e2)

theorem Leads.refl {s : Session} (hs : s.scope.Provides defs) {t : Term} {v : Value}
    (hv : v.IsPlain defs) (h : Quiet s.scope t v s.scope) : Leads defs s t v s :=
  ⟨hs, hv, Nat.le_refl _, fun _ => h⟩

/-- The depth does not matter. -/
theorem Leads.shallower {s s' : Session} {t : Term} {v : Value} (h : Leads defs s.deeper t v s') :
    Leads defs s t v s'.shallower :=
  ⟨h.provides, h.plain, h.prints_le, h.quiet⟩

/-- Two evaluations, the second after the first, make up one that is quiet if both are. -/
theorem Leads.seq {s s₁ s₂ s₃ : Session} {t u e : Term} {v w x : Value} (h₁ : Leads defs s t v s₁)
    (h₂ : Leads defs s₂ u w s₃) (hprints : s₂.prints = s₁.prints) (hx : x.IsPlain defs)
    (hquiet : Quiet s.scope t v s₁.scope → Quiet s₂.scope u w s₃.scope →
      Quiet s.scope e x s₃.scope) : Leads defs s e x s₃ := by
  have hle : s₁.prints ≤ s₃.prints := hprints ▸ h₂.prints_le
  refine ⟨h₂.provides, hx, Nat.le_trans h₁.prints_le hle, fun hp => ?_⟩
  obtain ⟨e₁, e₂⟩ := prints_eq_of_le h₁.prints_le hle hp
  exact hquiet (h₁.quiet e₁) (h₂.quiet (e₂.trans hprints.symm))

/-- An evaluation that succeeds leads on; if it printed nothing, it was quiet. -/
theorem leads_of_answer (hlib : FirstOrderLibrary defs) {n : Nat} {t : Term}
    {bound : String → Prop} (ht : t.FirstOrder (names defs) bound) {s s' : Session} {v : Value}
    (hs : s.scope.Provides defs) (h : plainly limit n (.evaluate t s) = some (.ok v, s')) :
    Leads defs s t v s' := by
  induction n generalizing t bound s v s' with
  | zero => cases (Walk.answerWithin_zero _ _).symm.trans h
  | succ n ih =>
    obtain ⟨k, after, hk, -, hstep, rfl⟩ := succeeds_of_answer h
    obtain rfl : n = k := Nat.succ.inj hk
    have hs : s.deeper.scope.Provides defs := hs
    refine Leads.shallower ?_
    generalize s.deeper = s at hs hstep
    cases hstep with
    | int => exact .refl hs (.inl trivial) .int
    | bool => exact .refl hs (.inl trivial) .bool
    | var hx => exact .refl hs (hs.plain _ _ hx) (.var hx)
    | str | function | tuple => cases ht
    | letIn hvalue hnext =>
      cases ht with
      | letIn hx htvalue htnext =>
        have h1 := ih htvalue hs hvalue
        have h2 := ih htnext (h1.provides.bind hx h1.plain) hnext
        exact h1.seq h2 rfl h2.plain .letIn
    | cond hcondition hbranch =>
      cases ht with
      | cond htc hty htn =>
        have h1 := ih htc hs hcondition
        have h2 := ih (hty.branch htn _) h1.provides hbranch
        exact h1.seq h2 rfl h2.plain .cond
    | binary hlhs hrhs hop =>
      cases ht with
      | binary htl htr =>
        have h1 := ih htl hs hlhs
        have h2 := ih htr h1.provides hrhs
        have hv := h1.plain.apply h2.plain hop
        exact h1.seq h2 rfl hv fun hq₁ hq₂ => .binary hq₁ hq₂ hop
    | call hcallee hlen hargs hbody =>
      cases ht with
      | @call _ f _ l _ hf ha =>
        have hvar : (Term.var f l).FirstOrder (names defs) fun _ => True := .var trivial
        have h1 := ih hvar hs hcallee
        obtain ⟨d, hd, rfl, rfl, rfl⟩ := h1.plain.exists_of_closure
        have h2 := leadsAll_of_threads hargs
          (fun t ht s v s' hs h => ih (ha t ht) hs h) h1.provides
        have hframe := h1.provides.bindAll (hlib.parameters d hd) h2.plain
        -- the cache is not asked, so the body was evaluated in its frame
        obtain ⟨s₄, hb, rfl⟩ := exec_evaluateIn_eq_some hbody
        have h3 := ih (hlib.bodies d hd) hframe hb
        have le2 := Nat.le_trans h1.prints_le h2.prints_le
        refine ⟨h2.provides, h3.plain, Nat.le_trans le2 h3.prints_le, fun hp => ?_⟩
        obtain ⟨e2, e3⟩ := prints_eq_of_le le2 h3.prints_le hp
        obtain ⟨e1, e2⟩ := prints_eq_of_le h1.prints_le h2.prints_le e2
        exact .call (h1.quiet e1) hlen (h2.quiet e2) (h3.quiet e3)
    | print hoperand htext hline =>
      cases ht with
      | print hto =>
        have h1 := ih hto hs hoperand
        cases n with
        | zero => cases (Walk.answerWithin_zero _ _).symm.trans htext
        | succ n =>
          rw [answer_render_leaf h1.plain.ne_tuple] at htext
          cases htext
          refine ⟨h1.provides, .inr (.inl rfl), Nat.le_succ_of_le h1.prints_le, fun hp => ?_⟩
          have := h1.prints_le
          simp only at hp
          omega
    | first hoperand =>
      cases ht with
      | first hto => exact absurd rfl ((ih hto hs hoperand).plain.ne_tuple _ _ _)
    | second hoperand =>
      cases ht with
      | second hto => exact absurd rfl ((ih hto hs hoperand).plain.ne_tuple _ _ _)

/-! ## Where there is a quiet evaluation, there is no other -/

/-- A session with the bindings of `frame` as far as they are `bound`, and with nothing printed
since it had the given sink and number of lines. -/
structure Follows (defs : List Definition) (bound : String → Prop) (frame : Scope) (sink : Sink)
    (prints : Nat) (s : Session) : Prop where
  defines : s.scope.Defines defs
  agree : frame.Agree bound s.scope
  sink_eq : s.sink = sink
  prints_eq : s.prints = prints

theorem Follows.mono {bound bound' : String → Prop} {frame : Scope} {sink : Sink} {prints : Nat}
    {s : Session} (h : Follows defs bound frame sink prints s) (hb : ∀ x, bound' x → bound x) :
    Follows defs bound' frame sink prints s :=
  ⟨h.defines, h.agree.mono hb, h.sink_eq, h.prints_eq⟩

theorem Follows.withDepth {bound : String → Prop} {frame : Scope} {sink : Sink} {prints : Nat}
    {s : Session} (h : Follows defs bound frame sink prints s) (depth : Nat) :
    Follows defs bound frame sink prints { s with depth := depth } :=
  ⟨h.defines, h.agree, h.sink_eq, h.prints_eq⟩

/-- The step does what quiet evaluation does, from the first scope to the second, or else it runs
into the limit on depth. -/
abbrev Repeats {α : Type} (limit n : Nat) (defs : List Definition) (bound : String → Prop)
    (frame : Scope) (m : EvalM α) (a : α) (frame' : Scope) : Prop :=
  ∀ sink prints, Triple (plainly limit n) (fun _ => True) (Follows defs bound frame sink prints) m
    (fun x s => x = a ∧ Follows defs bound frame' sink prints s)
    (fun f _ => f.cause.isResource = true)

theorem repeats_evaluate {n : Nat} {bound : String → Prop} {frame frame' : Scope} {t : Term}
    {v : Value} (h : ∀ n, Repeats limit n defs bound frame (step ⟨limit, false⟩ t) v frame') :
    Repeats limit n defs bound frame (evaluate t) v frame' := by
  refine fun sink prints => .evaluate (fun _ _ => trivial) fun s hs x hx => ?_
  rcases x with ⟨r, s'⟩
  obtain ⟨k, -, ⟨rfl, -⟩ | ⟨-, after, hstep, rfl⟩⟩ := answer_eq_some hx
  · rfl
  · have hsettles := (h k sink prints).settles (hs.withDepth _) hstep
    cases r with
    | ok w => exact ⟨hsettles.1, hsettles.2.withDepth _⟩
    | error f => exact hsettles

/-- A body is evaluated in the frame that its parameters are bound in, whatever else the caller's
scope holds. -/
theorem repeats_evaluateIn (hlib : FirstOrderLibrary defs) {d : Definition} (hd : d ∈ defs)
    {n : Nat} {bound : String → Prop} (hb : ∀ x ∈ names defs, bound x) {sc sc' frame : Scope}
    {vs : List Value} {v : Value} (hlen : d.parameters.length = vs.length) {scope : Scope}
    (hdefines : scope.Defines defs) (hagree : sc.Agree bound scope)
    (h : Repeats limit n defs (fun x => x ∈ names defs ∨ x ∈ d.parameters.map (·.name))
      (sc.bindAll d.parameters vs) (evaluate d.body) v frame) :
    Repeats limit n defs bound sc' (evaluateIn (scope.bindAll d.parameters vs) d.body) v sc' := by
  refine fun sink prints => .evaluateIn (fun _ _ => trivial) fun s hs x hx => ?_
  have hframe : Follows defs (fun x => x ∈ names defs ∨ x ∈ d.parameters.map (·.name))
      (sc.bindAll d.parameters vs) sink prints
      { s with scope := scope.bindAll d.parameters vs } :=
    ⟨hdefines.bindAll (hlib.parameters d hd) vs, (hagree.mono hb).bindAll hlen, hs.sink_eq,
      hs.prints_eq⟩
  have := (h sink prints).settles hframe ((exec_evaluate ..).trans hx)
  rcases x with ⟨f | w, s'⟩
  · exact this
  · exact ⟨this.1, hs.defines, hs.agree, this.2.sink_eq, this.2.prints_eq⟩

/-- Evaluating the term, wherever what it can see is bound as in `sc`, comes to `v`. -/
def Determines (limit : Nat) (defs : List Definition) (sc : Scope) (t : Term) (v : Value)
    (sc' : Scope) : Prop :=
  ∀ {bound : String → Prop}, (∀ x ∈ names defs, bound x) → t.FirstOrder (names defs) bound →
    ∀ n, Repeats limit n defs bound sc (evaluate t) v sc'

/-- Binding parameters to the values of the terms binds them to `vs`. -/
def DeterminesAll (limit : Nat) (defs : List Definition) (sc : Scope) (ts : List Term)
    (vs : List Value) (sc' : Scope) : Prop :=
  ∀ {bound : String → Prop}, (∀ x ∈ names defs, bound x) →
    (∀ t ∈ ts, t.FirstOrder (names defs) bound) → ∀ n (parameters : List Parameter),
      parameters.length = ts.length → ∀ (frame : Scope) (values : List Value),
        Repeats limit n defs bound sc (bindArguments (parameters.zip ts) frame values)
          (frame.bindAll parameters vs, values.reverse ++ vs) sc'

section Cases

variable {sc s₁ s₂ frame : Scope} {l : Location}

theorem determines_var {x : String} {v : Value} (hx : sc.lookup? x = some v) :
    Determines limit defs sc (.var x l) v sc := by
  intro bound hb ht n
  refine repeats_evaluate fun n sink prints => ?_
  cases ht with
  | var hbx =>
    refine .get_bind fun s hs => ?_
    rw [← hs.agree x hbx, hx]
    refine .pure ?_
    rintro _ rfl
    exact ⟨rfl, hs⟩

theorem determines_letIn {x : Parameter} {value next : Term} {v w : Value}
    (hvalue : Determines limit defs sc value v s₁)
    (hnext : Determines limit defs (s₁.bind x.name v) next w s₂) :
    Determines limit defs sc (.letIn x value next l) w s₂ := by
  intro bound hb ht n
  refine repeats_evaluate fun n sink prints => ?_
  cases ht with
  | letIn hx htvalue htnext =>
    refine .bind (hvalue hb htvalue n sink prints) fun u => .assume ?_
    rintro rfl
    refine .bind (.bindName fun s hs => ?_) fun _ =>
      (hnext (fun y hy => .inr (hb y hy)) htnext n sink prints).weaken (fun s hs => hs)
        fun u s hs => ⟨hs.1, hs.2.mono fun _ => .inr⟩
    exact ⟨hs.defines.bind hx _, hs.agree.bind _ _, hs.sink_eq, hs.prints_eq⟩

theorem determines_cond {condition yes no : Term} {b : Bool} {v : Value}
    (hcondition : Determines limit defs sc condition (.bool b) s₁)
    (hbranch : Determines limit defs s₁ (if b then yes else no) v s₂) :
    Determines limit defs sc (.cond condition yes no l) v s₂ := by
  intro bound hb ht n
  refine repeats_evaluate fun n sink prints => ?_
  cases ht with
  | cond htc hty htn =>
    have hbranch := hbranch hb (hty.branch htn b) n sink prints
    refine .bind (hcondition hb htc n sink prints) fun w => .assume ?_
    rintro rfl
    cases b with
    | true => exact hbranch
    | false => exact hbranch

theorem determines_binary {lhs rhs : Term} {op : Operator} {a b v : Value}
    (hlhs : Determines limit defs sc lhs a s₁) (hrhs : Determines limit defs s₁ rhs b s₂)
    (hop : op.apply a b = .ok v) : Determines limit defs sc (.binary lhs op rhs l) v s₂ := by
  intro bound hb ht n
  refine repeats_evaluate fun n sink prints => ?_
  cases ht with
  | binary htl htr =>
    refine .bind (hlhs hb htl n sink prints) fun w => .assume ?_
    rintro rfl
    refine .bind (hrhs hb htr n sink prints) fun w => .assume ?_
    rintro rfl
    rw [hop]
    exact .pure fun s hs => ⟨rfl, hs⟩

theorem determines_call (hlib : FirstOrderLibrary defs) {callee body : Term}
    {parameters : List Parameter} {arguments : List Term} {place : Location} {vs : List Value}
    {v : Value} (hq : Quiet sc callee (.closure parameters body place) s₁)
    (hcallee : Determines limit defs sc callee (.closure parameters body place) s₁)
    (hlen : parameters.length = arguments.length) (hvs : vs.length = arguments.length)
    (harguments : DeterminesAll limit defs s₁ arguments vs s₂)
    (hbody : Determines limit defs (s₁.bindAll parameters vs) body v frame) :
    Determines limit defs sc (.call callee arguments l) v s₂ := by
  intro bound hb ht n
  refine repeats_evaluate fun n sink prints => ?_
  cases ht with
  | @call _ f _ lf _ hf ha =>
    cases hq with
    | var hx =>
      refine .bind (hcallee hb (.var (hb f hf)) n sink prints) fun w => .assume ?_
      rintro rfl
      simp only [hlen, ne_eq, not_true_eq_false, ↓reduceIte]
      -- the scope is that of a session which follows `sc`
      refine .get_bind fun s₀ h₀ => ?_
      obtain ⟨d, hd, rfl⟩ := List.mem_map.1 hf
      have hclosure : some d.closure = some (Value.closure parameters body place) :=
        ((h₀.defines d hd).symm.trans (h₀.agree _ (hb _ hf)).symm).trans hx
      cases hclosure
      refine .bind ((harguments hb ha n _ hlen _ _ sink prints).weaken (fun _ hs => hs ▸ h₀)
        fun _ _ h => h) fun x => .assume ?_
      rintro rfl
      exact repeats_evaluateIn hlib hd hb (hlen.trans hvs.symm) h₀.defines h₀.agree
        (hbody (fun _ => .inl) (hlib.bodies d hd) n) sink prints

theorem determinesAll_cons {t : Term} {v : Value} {ts : List Term} {vs : List Value}
    (ht : Determines limit defs sc t v s₁) (hts : DeterminesAll limit defs s₁ ts vs s₂) :
    DeterminesAll limit defs sc (t :: ts) (v :: vs) s₂ := by
  intro bound hb hfo n parameters hlen frame values sink prints
  cases parameters with
  | nil => cases hlen
  | cons p parameters =>
    refine .bind (ht hb (hfo t List.mem_cons_self) n sink prints) fun w => .assume ?_
    rintro rfl
    refine (hts hb (fun u hu => hfo u (List.mem_cons_of_mem _ hu)) n _ (Nat.succ.inj hlen) _ _
      sink prints).weaken (fun s hs => hs) ?_
    rintro x s ⟨rfl, hs⟩
    exact ⟨by simp [Scope.bindAll], hs⟩

end Cases

/-- Where there is a quiet evaluation, every evaluation repeats it or runs into the limit. The
induction is on the quiet one, with that of arguments beside it. -/
theorem determines_of_quiet (hlib : FirstOrderLibrary defs) {sc sc' : Scope} {t : Term} {v : Value}
    (h : Quiet sc t v sc') : Determines limit defs sc t v sc' := by
  refine @Quiet.rec (fun sc t v sc' _ => Determines limit defs sc t v sc')
    (fun sc ts vs sc' _ => DeterminesAll limit defs sc ts vs sc')
    ?int ?bool ?var ?call ?letIn ?cond ?binary ?nil ?cons sc t v sc' h
  case int => exact fun _ _ n => repeats_evaluate fun n _ _ => .pure fun s hs => ⟨rfl, hs⟩
  case bool => exact fun _ _ n => repeats_evaluate fun n _ _ => .pure fun s hs => ⟨rfl, hs⟩
  case var => exact determines_var
  case call =>
    intro _ _ _ _ _ _ _ _ _ _ _ _ hq hlen hqs _ hcallee harguments hbody
    exact determines_call hlib hq hcallee hlen hqs.length_eq harguments hbody
  case letIn => exact fun _ _ => determines_letIn
  case cond => exact fun _ _ => determines_cond
  case binary => exact fun _ _ hop hlhs hrhs => determines_binary hlhs hrhs hop
  case nil =>
    intro s bound hb ht n parameters hlen frame values sink prints
    obtain rfl : parameters = [] := List.eq_nil_of_length_eq_zero hlen
    exact .pure fun s hs => ⟨by simp [Scope.bindAll], hs⟩
  case cons => exact fun _ _ => determinesAll_cons

end Evaluator

end Treewalk
