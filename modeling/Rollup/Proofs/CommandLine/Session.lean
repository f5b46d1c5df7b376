/-
What actions of a session come to, one after the other.

An action turns what was done before into a result and what is done after it. Each action has an
equation for this, and two actions in a row are the first and then the second, unless the first
one fails (`run_bind_ok`, `run_bind_error`).

Many actions only find something out: their result does not depend on what was done before, and they
print nothing. `Finds` says of such an action what it can find, and failing is to find nothing. Two
of them in a row are one again (`Finds.bind`), so that whole stages of a command are stated by what
there is to find.
-/
import Rollup.CommandLine.Session

set_option autoImplicit false

namespace Rollup.CommandLine.Action

variable {ε α β : Type} {t t' : Transcript} {x : Action ε α} {f : α → Action ε β}

/-- What follows an action goes on with what it has done. -/
theorem run_bind : (x >>= f).run t =
    match x.run t with
    | (.ok a, t') => (f a).run t'
    | (.error e, t') => (.error e, t') := by
  change (match (x.run t).1 with | .ok a => (f a).run | .error e => pure (.error e)) (x.run t).2 = _
  -- Below the transformer an action is a function on transcripts, so that both cases compute.
  rcases x.run t with ⟨_ | _, _⟩ <;> rfl

/-- Behind an action that succeeds comes what follows. -/
theorem run_bind_ok {a : α} (h : x.run t = (.ok a, t')) : (x >>= f).run t = (f a).run t' := by
  rw [run_bind, h]

/-- Behind an action that fails comes nothing. -/
theorem run_bind_error {e : ε} (h : x.run t = (.error e, t')) :
    (x >>= f).run t = (.error e, t') := by
  rw [run_bind, h]

theorem run_ofExcept (r : Except ε α) : (ofExcept r).run t = (r, t) := rfl

theorem run_print (line : String) : (print line : Action ε Unit).run t =
    (.ok (), { t with lines := t.lines ++ [line] }) := rfl

theorem run_prints (lines : List String) : (lines.forM print : Action ε PUnit).run t =
    (.ok (), { t with lines := t.lines ++ lines }) := by
  induction lines generalizing t with
  | nil =>
    rw [List.append_nil]
    rfl
  | cons line lines ih =>
    rw [List.forM, run_bind_ok (run_print line), ih, List.append_assoc]
    rfl

theorem run_start (program : String) (arguments : List String) (times : Nat) :
    (start program arguments times : Action ε Unit).run t =
      (.ok (), { t with
        programs := t.programs ++ List.replicate times (program, arguments) }) := rfl

/-- Actions of which each one succeeds and starts programs, and does nothing else, do so one after
the other. -/
theorem run_mapM {g : α → β} {programs : α → List (String × List String)} {act : α → Action ε β}
    (h : ∀ a t, (act a).run t = (.ok (g a), { t with programs := t.programs ++ programs a }))
    (l : List α) : (l.mapM act).run t =
      (.ok (l.map g), { t with programs := t.programs ++ l.flatMap programs }) := by
  induction l generalizing t with
  | nil =>
    rw [List.mapM_nil, List.flatMap_nil, List.append_nil]
    rfl
  | cons a l ih =>
    rw [List.mapM_cons, run_bind_ok (h a t), run_bind_ok ih, List.flatMap_cons, List.append_assoc]
    rfl

/-! ## Finding something out -/

/-- A result is the same with its errors wrapped. -/
theorem mapError_eq_ok_iff {δ : Type} {wrap : δ → ε} {r : Except δ α} {a : α} :
    r.mapError wrap = .ok a ↔ r = .ok a := by
  rcases r with e | b
  · exact iff_of_false nofun nofun
  · constructor
    · exact fun h => congrArg Except.ok (Except.ok.inj h)
    · exact fun h => congrArg Except.ok (Except.ok.inj h)

/-- The action has this result, whatever was done before, and prints nothing. -/
def Gives (x : Action ε α) (r : Except ε α) : Prop :=
  ∀ t, ∃ t', x.run t = (r, t') ∧ t'.lines = t.lines

/-- The action prints nothing. It has a result that satisfies the condition, the only one that does,
or it fails because there is none. -/
def Finds (x : Action ε α) (P : α → Prop) : Prop := ∃ r, x.Gives r ∧ ∀ a, r = .ok a ↔ P a

namespace Finds

variable {P : α → Prop}

theorem congr {Q : α → Prop} (h : x.Finds P) (hiff : ∀ a, P a ↔ Q a) : x.Finds Q := by
  obtain ⟨r, hr, hP⟩ := h
  exact ⟨r, hr, fun a => (hP a).trans (hiff a)⟩

theorem ofExcept (r : Except ε α) : (ofExcept r).Finds fun a => r = .ok a :=
  ⟨r, fun t => ⟨t, rfl, rfl⟩, fun _ => Iff.rfl⟩

theorem fail (e : ε) (h : ∀ a, ¬ P a) : (fail e : Action ε α).Finds P :=
  (ofExcept _).congr fun a => iff_of_false nofun (h a)

/-- What is found by a request is what is answered to it. -/
theorem send (request : Chain.Request) (run : Chain.Run α) (wrap : ChainError → ε) :
    (send request run wrap).Finds fun a => run.answer = .ok a :=
  ⟨_, fun _ => ⟨_, rfl, rfl⟩, fun _ => mapError_eq_ok_iff⟩

/-- **One search after the other** finds what the second one finds behind a result of the first. -/
theorem bind {Q : α → β → Prop} (hx : x.Finds P) (hf : ∀ a, P a → (f a).Finds (Q a)) :
    (x >>= f).Finds fun b => ∃ a, P a ∧ Q a b := by
  obtain ⟨r, hr, hP⟩ := hx
  rcases r with e | a
  · refine ⟨.error e, fun t => ?_, fun b => iff_of_false nofun ?_⟩
    · obtain ⟨t', hrun, hlines⟩ := hr t
      exact ⟨t', run_bind_error hrun, hlines⟩
    · rintro ⟨a, ha, -⟩
      exact nomatch (hP a).mpr ha
  · obtain ⟨r', hr', hQ⟩ := hf a ((hP a).mp rfl)
    refine ⟨r', fun t => ?_, fun b => (hQ b).trans ⟨fun hb => ⟨a, (hP a).mp rfl, hb⟩, ?_⟩⟩
    · obtain ⟨t', hrun, hlines⟩ := hr t
      obtain ⟨t'', hrun', hlines'⟩ := hr' t'
      exact ⟨t'', (run_bind_ok hrun).trans hrun', hlines'.trans hlines⟩
    · -- The first search finds one result only, so the second one is that behind it.
      rintro ⟨a', ha', hb⟩
      obtain rfl := Except.ok.inj ((hP a').mpr ha')
      exact hb

/-- What can be found is found, and nothing is printed. -/
theorem run_ok (h : x.Finds P) {a : α} (ha : P a) (t : Transcript) :
    ∃ t', x.run t = (.ok a, t') ∧ t'.lines = t.lines := by
  obtain ⟨r, hr, hP⟩ := h
  rw [← (hP a).mpr ha]
  exact hr t

/-- If there is nothing to be found, then the action fails, and nothing is printed. -/
theorem run_error (h : x.Finds P) (hnone : ∀ a, ¬ P a) (t : Transcript) :
    ∃ e t', x.run t = (.error e, t') ∧ t'.lines = t.lines := by
  obtain ⟨r, hr, hP⟩ := h
  obtain ⟨t', hrun, hlines⟩ := hr t
  rcases r with e | a
  · exact ⟨e, t', hrun, hlines⟩
  · exact absurd ((hP a).mp rfl) (hnone a)

end Finds

end Rollup.CommandLine.Action
