import Treewalk.Proofs.Evaluation.Invariant

/-!
# What evaluation does to the sink

What a sink holds is never taken back (`sink_grows`). An evaluation that succeeds and whose count of
printed lines did not go up has written nothing at all (`sink_eq_of_prints_eq`). After a failure the
count says less: the line that was refused may have been written in part, and it does not count.
-/

namespace Treewalk

/-- The second sink holds what the first one holds, and perhaps more after it. -/
def Sink.Grows (s s' : Sink) : Prop := ∃ rest, s'.contents = s.contents ++ rest

namespace Sink

variable {s s' s'' : Sink}

theorem Grows.refl (s : Sink) : s.Grows s := ⟨.empty, ByteArray.append_empty.symm⟩

theorem Grows.trans (h : s.Grows s') (h' : s'.Grows s'') : s.Grows s'' := by
  obtain ⟨a, ha⟩ := h
  obtain ⟨b, hb⟩ := h'
  exact ⟨a ++ b, by rw [hb, ha, ByteArray.append_assoc]⟩

theorem grows_write (s : Sink) (bytes : ByteArray) : s.Grows (s.write bytes).2 := by
  unfold write
  split
  · exact ⟨bytes, rfl⟩
  · dsimp only
    split
    · exact ⟨bytes, rfl⟩
    · exact ⟨_, rfl⟩

theorem grows_writeLine {text : String} {r : Except Error Unit} (h : s.writeLine text = (r, s')) :
    s.Grows s' := by
  have htext := grows_write s text.toUTF8
  unfold writeLine at h
  rcases hw : s.write text.toUTF8 with ⟨e | u, k⟩
  · rw [hw] at h htext
    cases h
    exact htext
  · rw [hw] at h htext
    have hend : k.Grows (k.write "\n".toUTF8).2 := grows_write k _
    have h : k.write "\n".toUTF8 = (r, s') := h
    rw [h] at hend
    exact htext.trans hend

/-- The bytes of a line. -/
def line (text : String) : ByteArray := text.toUTF8 ++ "\n".toUTF8

theorem writeLine_of_ok {text : String} (h : s.write text.toUTF8 = (.ok (), s')) :
    s.writeLine text = s'.write "\n".toUTF8 := by
  unfold writeLine
  rw [h]

theorem writeLine_unlimited (flushFails : Bool) (contents : ByteArray) (text : String) :
    writeLine ⟨none, flushFails, contents⟩ text =
      (.ok (), ⟨none, flushFails, contents ++ line text⟩) := by
  rw [line, ← ByteArray.append_assoc]
  rfl

end Sink

namespace Evaluator

/-- Since the session `s₀`: the sink has grown, and as long as all succeeds, it has changed only if
lines were counted. -/
def output : Invariant Session := .ofSessions
  (fun s₀ s => s₀.sink.Grows s.sink ∧ s₀.prints ≤ s.prints ∧
    (s.prints = s₀.prints → s.sink = s₀.sink))
  fun s₀ _ s => s₀.sink.Grows s.sink

theorem output_lawful (options : EvalOptions) (o : (job : Job) → Option job.Answer) :
    output.Lawful options o := by
  refine Invariant.ofSessions_lawful ?_ ?_ ?_ ?_ ?_ ?_ ?_
  · exact fun _ _ _ _ hs => hs
  · exact fun _ _ _ _ _ hs => hs
  · exact fun _ _ _ hs => hs.1
  · rintro s₀ s text sink ⟨hgrows, hle, -⟩ - h
    refine ⟨hgrows.trans (Sink.grows_writeLine h), Nat.le_succ_of_le hle, fun he => ?_⟩
    simp only at he
    omega
  · exact fun _ _ _ _ _ _ hs h => hs.1.trans (Sink.grows_writeLine h)
  · exact fun _ _ _ _ hs => hs
  · exact fun _ _ _ _ _ _ _ _ _ _ hs => hs

variable {options : EvalOptions} {n : Nat} {s s' : Session}

/-- Since a job began nothing has changed when it begins. -/
theorem asked_output (job : Job) : output.Asked job.session job :=
  Invariant.asked_ofSessions ⟨.refl _, Nat.le_refl _, fun _ => rfl⟩

theorem keeps_output {job : Job} {x : job.Answer}
    (h : Walk.answerWithin (body options) n job = some x) : output.Keeps job x :=
  Invariant.of_answer (fun _ o _ _ => output_lawful _ o) .start h

/-- However a job is answered, the sink has grown. -/
theorem sink_grows {job : Job} {x : job.Answer}
    (h : Walk.answerWithin (body options) n job = some x) :
    job.session.sink.Grows (job.after x).sink := by
  obtain ⟨hs' | ⟨_, hgrows⟩, -⟩ := (keeps_output h job.session (asked_output job)).after
  · exact hs'.1
  · exact hgrows

/-- An evaluation that came to a value and counted no line has written nothing. -/
theorem sink_eq_of_prints_eq {t : Term} {v : Value}
    (h : Walk.answerWithin (body options) n (.evaluate t s) = some (.ok v, s'))
    (hp : s'.prints = s.prints) : s'.sink = s.sink :=
  (keeps_output h s (asked_output (.evaluate t s))).2.session.2.2 hp

end Evaluator

end Treewalk
