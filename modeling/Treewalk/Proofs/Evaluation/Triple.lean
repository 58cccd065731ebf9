import Treewalk.Evaluator
import Treewalk.Proofs.Walk

/-!
# A program logic for evaluation steps

`Triple o pre P m Q E` says of an evaluation step `m`, with jobs answered by `o`: started in a
session that satisfies `P` it asks only for jobs that satisfy `pre`; if it comes to a value, value
and session satisfy `Q`, and if it fails, failure and session satisfy `E`. There is one rule for
each operation that steps are made of, so that a contract of `Evaluator.body` is proved by following
the text of `step` and `renderStep`.
-/

namespace Treewalk.Evaluator

variable {α β : Type}

/-- A reply that is a value satisfies `Q`, and one that is a failure satisfies `E`. -/
def Settles (Q : α → Session → Prop) (E : Failure → Session → Prop) : Reply α → Prop
  | (.ok a, s) => Q a s
  | (.error f, s) => E f s

theorem Settles.mono {Q Q' : α → Session → Prop} {E E' : Failure → Session → Prop}
    (hQ : ∀ a s, Q a s → Q' a s) (hE : ∀ f s, E f s → E' f s) :
    ∀ {x : Reply α}, Settles Q E x → Settles Q' E' x
  | (.ok a, s), h => hQ a s h
  | (.error f, s), h => hE f s h

def Triple (o : (job : Job) → Option job.Answer) (pre : Job → Prop) (P : Session → Prop)
    (m : EvalM α) (Q : α → Session → Prop) (E : Failure → Session → Prop) : Prop :=
  ∀ s, P s → (m.run.run s).Meets o pre (Settles Q E)

namespace Triple

variable {o : (job : Job) → Option job.Answer} {pre : Job → Prop} {P P' : Session → Prop}
  {Q Q' : α → Session → Prop} {E : Failure → Session → Prop}

/-! ## Rules of the logic -/

theorem weaken {m : EvalM α} (h : Triple o pre P m Q E) (hP : ∀ s, P' s → P s)
    (hQ : ∀ a s, Q a s → Q' a s) : Triple o pre P' m Q' E :=
  fun s hs => (h s (hP s hs)).mono fun _ => Settles.mono hQ fun _ _ hf => hf

theorem bind {m : EvalM α} {f : α → EvalM β} {R : β → Session → Prop}
    (hm : Triple o pre P m Q E) (hf : ∀ a, Triple o pre (Q a) (f a) R E) :
    Triple o pre P (m >>= f) R E := by
  intro s hs
  refine Walk.Meets.bind ((hm s hs).mono fun x hx => ?_)
  rcases x with ⟨a | a, s'⟩
  · exact hx
  · exact hf a s' hx

/-- The session may be fixed, with what is known of it. -/
theorem of_forall_eq {m : EvalM α} (h : ∀ s, P s → Triple o pre (· = s) m Q E) :
    Triple o pre P m Q E :=
  fun s hs => h s hs s rfl

/-- A condition on the value alone may be assumed of what follows. -/
theorem assume {p : Prop} {m : EvalM α} (h : p → Triple o pre P m Q E) :
    Triple o pre (fun s => p ∧ P s) m Q E :=
  fun s hs => h hs.1 s hs.2

/-! ## Rules for the operations -/

theorem pure {a : α} (h : ∀ s, P s → Q a s) : Triple o pre P (pure a) Q E := h

theorem fail {location : Location} {cause : Cause} (h : ∀ s, P s → E ⟨cause, location⟩ s) :
    Triple o pre P (fail location cause) Q E := h

theorem evaluate {t : Term} {Q : Value → Session → Prop} (hpre : ∀ s, P s → pre (.evaluate t s))
    (hpost : ∀ s, P s → ∀ x, o (.evaluate t s) = some x → Settles Q E x) :
    Triple o pre P (evaluate t) Q E :=
  fun s hs => ⟨hpre s hs, hpost s hs⟩

theorem render {v : Value} {text : String} {Q : String → Session → Prop}
    (hpre : ∀ s, P s → pre (.render v text s))
    (hpost : ∀ s, P s → ∀ x, o (.render v text s) = some x → Settles Q E x) :
    Triple o pre P (render v text) Q E :=
  fun s hs => ⟨hpre s hs, hpost s hs⟩

/-- A body is evaluated in its frame, after which the scope is what it was. -/
theorem evaluateIn {frame : Scope} {t : Term} {Q : Value → Session → Prop}
    (hpre : ∀ s, P s → pre (.evaluate t { s with scope := frame }))
    (hpost : ∀ s, P s → ∀ x, o (.evaluate t { s with scope := frame }) = some x →
      Settles (fun v s' => Q v { s' with scope := s.scope })
        (fun f s' => E f { s' with scope := s.scope }) x) :
    Triple o pre P (evaluateIn frame t) Q E := by
  intro s hs
  refine ⟨hpre s hs, fun x hx => ?_⟩
  have := hpost s hs x hx
  rcases x with ⟨f | v, s'⟩
  · exact this
  · exact this

/-- A step that looks at its session goes on in that session. -/
theorem get_bind {f : Session → EvalM α} (h : ∀ s, P s → Triple o pre (· = s) (f s) Q E) :
    Triple o pre P (get >>= f) Q E :=
  fun s hs => h s hs s rfl

theorem modify {f : Session → Session} {Q : Unit → Session → Prop} (h : ∀ s, P s → Q () (f s)) :
    Triple o pre P (modify f : EvalM Unit) Q E := h

theorem bindName {name : String} {v : Value} {Q : Unit → Session → Prop}
    (h : ∀ s, P s → Q () { s with scope := s.scope.bind name v }) :
    Triple o pre P (bindName name v) Q E := h

theorem askCache {key : String} {Q : Option Value → Session → Prop}
    (h : ∀ s, P s → Q (s.cache.get? key).1 { s with cache := (s.cache.get? key).2 }) :
    Triple o pre P (askCache key) Q E := h

/-- A line is written whole and counted, or it is refused and the step fails. -/
theorem printLine {location : Location} {text : String} {Q : Value → Session → Prop}
    (hok : ∀ s, P s → ∀ sink, s.sink.writeLine text = (.ok (), sink) →
      Q .nil { s with sink := sink, prints := s.prints + 1 })
    (herror : ∀ s, P s → ∀ e sink, s.sink.writeLine text = (.error e, sink) →
      E ⟨.output e, location⟩ { s with sink := sink }) :
    Triple o pre P (printLine location text) Q E := by
  intro s hs
  unfold Evaluator.printLine ExceptT.mk ExceptT.run StateT.run
  rcases h : s.sink.writeLine text with ⟨e | u, sink⟩
  · simp only [h]
    exact herror s hs e sink h
  · simp only [h]
    exact hok s hs sink h

end Triple

/-! ## One level -/

section Level

variable {options : EvalOptions} {t : Term} {s : Session}

theorem body_of_limit_le (h : options.depthLimit ≤ s.depth) : body options (.evaluate t s) =
    .done (.error ⟨.stackOverflow s.depth options.depthLimit, t.location⟩, s) :=
  if_pos h

theorem body_of_lt_limit (h : s.depth < options.depthLimit) : body options (.evaluate t s) =
    ((step options t).run.run s.deeper).bind fun x => .done (x.1, x.2.shallower) :=
  if_neg (Nat.not_le_of_lt h)

/-- What a level comes to is what its step comes to, once the level is left. -/
theorem meets_body_of_lt_limit {o : (job : Job) → Option job.Answer} {pre : Job → Prop}
    {post : Reply Value → Prop} (h : s.depth < options.depthLimit)
    (hstep : ((step options t).run.run s.deeper).Meets o pre fun x =>
      post (x.1, x.2.shallower)) :
    (body options (.evaluate t s)).Meets o pre post := by
  rw [body_of_lt_limit h]
  exact Walk.Meets.bind hstep

end Level

end Treewalk.Evaluator
