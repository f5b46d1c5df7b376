/-
What every command line that is read has collected.

A grammar reads values in one go from left to right, but a value that stands on its own waits
until something else is used. So a property of what is collected is one of the values so far and
of what is pending (`Scan.Holds`). If no parameter of the grammar breaks it, then no argument
does, and what is collected in the end has it (`yields_collect`).

A property may also begin later than the command line. Arguments that leave nothing open can be read
first (`read_append`), and the value of a parameter is kept by all that follows, because a parameter
with a value may be given once (`keeps_given`).
-/
import Mathlib.Data.List.TakeWhile
import Rollup.CommandLine.Invocation

set_option autoImplicit false

namespace Rollup.CommandLine

/-! ## Results with a property -/

/-- If there is a result, then it has the property. -/
def Yields {ε α : Type} (P : α → Prop) (x : Except ε α) : Prop := ∀ a, x = .ok a → P a

namespace Yields

variable {ε α β : Type} {P : α → Prop} {Q : β → Prop}

/-- A result with the property has it. -/
theorem ok {a : α} (h : P a) : Yields P (.ok a : Except ε α) := by
  intro b hb
  rw [← Except.ok.inj hb]
  exact h

/-- A failure has no result to speak of. -/
theorem error {e : ε} : Yields P (.error e : Except ε α) := nofun

/-- What follows on a result may count on the property of it. -/
theorem bind {x : Except ε α} {f : α → Except ε β} (hx : Yields P x)
    (hf : ∀ a, P a → Yields Q (f a)) : Yields Q (x >>= f) := by
  intro b hb
  rcases x with e | a
  · exact nomatch hb
  · exact hf a (hx a rfl) b hb

/-- A result without any property is one all the same. -/
theorem trivial (x : Except ε α) : Yields (fun _ => True) x := fun _ _ => True.intro

end Yields

/-! ## Properties that a grammar keeps -/

variable {σ : Type} {P : σ → Prop}

/-- The parameter breaks the property of no values. -/
def Role.Keeps (P : σ → Prop) : Role σ → Prop
  | .value isGiven put => ∀ text v, P v → Yields P (Scan.use isGiven put text v)
  | .switch _ put => ∀ v, P v → P (put v)
  | .counter put => ∀ v, P v → P (put v)
  | .help => True
  | .version => True

structure Grammar.Keeps (g : Grammar σ) (P : σ → Prop) : Prop where
  parameters : ∀ p ∈ g.parameters, p.role.Keeps P
  operand : ∀ put ∈ g.operand, ∀ text v, P v → Yields P (put text v)

/-- The values have the property when what is pending is used, and no parameter that awaits a value
breaks it. -/
def Scan.Holds (P : σ → Prop) (s : Scan σ) : Prop :=
  match s.pending with
  | .nothing => P s.values
  | .awaiting p => P s.values ∧ p.role.Keeps P
  | .holding use => Yields P (use s.values)

/-- A parameter that is found by its long name is one of the grammar. -/
theorem Grammar.Keeps.long? {g : Grammar σ} (h : g.Keeps P) {name : List Char} {p : Parameter σ}
    (hp : g.long? name = some p) : p.role.Keeps P :=
  h.parameters p (List.mem_of_find?_eq_some hp)

/-- A parameter that is found by its letter is one of the grammar. -/
theorem Grammar.Keeps.short? {g : Grammar σ} (h : g.Keeps P) {c : Char} {p : Parameter σ}
    (hp : g.short? c = some p) : p.role.Keeps P :=
  h.parameters p (List.mem_of_find?_eq_some hp)

/-- Using a value puts it where it belongs, or fails. -/
theorem Scan.yields_use {isGiven : σ → Bool} {put : String → σ → Except Usage σ} {text : String}
    {v : σ} (h : Yields P (put text v)) : Yields P (use isGiven put text v) := by
  unfold use
  split
  · exact .error
  · exact h

/-- A parameter with a value that is given takes no other one. -/
theorem Scan.yields_use_of_given {isGiven : σ → Bool} {put : String → σ → Except Usage σ}
    {text : String} {v : σ} (h : isGiven v = true) : Yields P (use isGiven put text v) := by
  unfold use
  rw [if_pos h]
  exact .error

/-- A parameter keeps what every value that it can read keeps. -/
theorem keeps_valueParameter {α : Type} {long : String} {get : σ → Option α}
    {read : ValueReader α} {put : α → σ → σ}
    (h : ∀ text a, read text = .ok a → ∀ v, P v → P (put a v)) :
    (valueParameter long get read put).role.Keeps P := by
  intro text v hv
  apply Scan.yields_use
  refine Yields.bind (P := fun a => read text = .ok a) (fun a ha => ha) ?_
  exact fun a ha => .ok (h text a ha v hv)

/-- A parameter keeps what can only hold when it is given. -/
theorem keeps_given {α : Type} {long : String} {get : σ → Option α} {read : ValueReader α}
    {put : α → σ → σ} (h : ∀ v, P v → (get v).isSome = true) :
    (valueParameter long get read put).role.Keeps P :=
  fun _ v hv => Scan.yields_use_of_given (h v hv)

/-- A letter for a parameter does not change what it does. -/
theorem keeps_withShort {p : Parameter σ} (h : p.role.Keeps P) (short : Char) :
    (p.withShort short).role.Keeps P := h

/-- Values that look like parameters do not change what a parameter does. -/
theorem keeps_withHyphens {p : Parameter σ} (h : p.role.Keeps P) : p.withHyphens.role.Keeps P := h

/-- Parameters that are set within larger settings keep what setting them keeps. -/
theorem keeps_logParameters {get : σ → LogFlags} {set : LogFlags → σ → σ}
    (h : ∀ log v, P v → P (set log v)) : ∀ p ∈ logParameters get set, p.role.Keeps P := by
  rw [logParameters, List.forall_mem_cons, List.forall_mem_singleton]
  exact ⟨fun v => h _ v, keeps_valueParameter fun _ _ _ v => h _ v⟩

/-- The parameters of a node keep what setting the flags of a node keeps. -/
theorem keeps_nodeParameters {get : σ → NodeFlags} {set : NodeFlags → σ → σ}
    (h : ∀ node v, P v → P (set node v)) : ∀ p ∈ nodeParameters get set, p.role.Keeps P := by
  rw [nodeParameters, List.forall_mem_cons, List.forall_mem_cons, List.forall_mem_singleton]
  exact ⟨keeps_valueParameter fun _ _ _ v => h _ v, keeps_valueParameter fun _ _ _ v => h _ v,
    keeps_valueParameter fun _ _ _ v => h _ v⟩

/-! ## Reading -/

namespace Scan

variable {s : Scan σ}

theorem holds_start {v : σ} (h : P v) : (start v).Holds P := h

/-- When nothing is pending any more, the values have the property. -/
theorem yields_resolve (h : s.Holds P) :
    Yields (fun s' => P s'.values ∧ s'.pending = .nothing ∧ s'.trailing = s.trailing)
      s.resolve := by
  unfold Holds at h
  unfold resolve
  split
  next hnothing =>
    rw [hnothing] at h
    exact .ok ⟨h, hnothing, rfl⟩
  next => exact .error
  next use huse =>
    rw [huse] at h
    exact h.bind fun v hv => .ok ⟨hv, rfl, rfl⟩

/-- With nothing pending only the values count. -/
theorem holds_of_nothing (h : P s.values) (hnothing : s.pending = .nothing) : s.Holds P := by
  unfold Holds
  rwa [hnothing]

variable {p : Parameter σ}

/-- A name resolves what is pending, and then a switch or a counter is set, or a value awaited. -/
theorem yields_name (hp : p.role.Keeps P) (h : s.Holds P) : Yields (Holds P) (s.name p) := by
  refine (yields_resolve h).bind fun s ⟨hs, hnothing, _⟩ => ?_
  split
  next => exact .ok ⟨hs, hp⟩
  next isGiven put hrole =>
    rw [hrole] at hp
    split
    · exact .error
    · exact .ok (holds_of_nothing (hp _ hs) hnothing)
  next put hrole =>
    rw [hrole] at hp
    exact .ok (holds_of_nothing (hp _ hs) hnothing)
  next => exact .error
  next => exact .error

/-- A value behind an equals sign is used as soon as what is pending has been. -/
theorem yields_attach (hp : p.role.Keeps P) (h : s.Holds P) (text : List Char) :
    Yields (Holds P) (s.attach p text) := by
  unfold attach
  split
  next isGiven put hrole =>
    rw [hrole] at hp
    -- What is pending is older, and goes first.
    refine (yields_resolve h).bind fun s ⟨hs, hnothing, _⟩ => ?_
    exact (hp _ _ hs).bind fun v hv => .ok (holds_of_nothing hv hnothing)
  next => exact .error

/-- A value of its own is held until something else is used. -/
theorem holds_hold (hp : p.role.Keeps P) (h : s.Holds P) (hvalues : P s.values) (text : String) :
    (s.hold p text).Holds P := by
  unfold hold
  split
  next isGiven put hrole =>
    rw [hrole] at hp
    exact hp _ _ hvalues
  next => exact h

variable {g : Grammar σ}

/-- A long name keeps what its parameter keeps. -/
theorem yields_long (hg : g.Keeps P) (h : s.Holds P) (text : List Char) :
    Yields (Holds P) (s.long g text) := by
  unfold long
  split
  next => exact .error
  next p hp =>
    split
    · exact yields_name (hg.long? hp) h
    · exact yields_attach (hg.long? hp) h _

/-- Letters in a row keep what each of their parameters keeps. -/
theorem yields_shorts (hg : g.Keeps P) (h : s.Holds P) (text : List Char) :
    Yields (Holds P) (s.shorts g text) := by
  induction text generalizing s with
  | nil => exact .ok h
  | cons c rest ih =>
    unfold shorts
    split
    next => exact .error
    next p hp =>
      -- A parameter with a value takes what is left, any other one leaves it to the next.
      have hkeeps := hg.short? hp
      split
      · exact yields_attach hkeeps h _
      · exact yields_attach hkeeps h _
      · exact (yields_name hkeeps h).bind fun s hs => ih hs

/-- An argument with hyphens is a name, some letters, or nothing of the kind. -/
theorem yields_hyphened (hg : g.Keeps P) (h : s.Holds P) (text : List Char) :
    Yields (Holds P) (s.hyphened g text) := by
  unfold hyphened
  split
  · exact .ok h
  · exact yields_long hg h _
  · exact yields_shorts hg h _
  · exact .ok h

/-- An operand is put where the grammar wants it. -/
theorem yields_operand (hg : g.Keeps P) (h : s.Holds P) (arg : String) :
    Yields (Holds P) (s.operand g arg) := by
  unfold operand
  split
  next hput _ =>
    exact (yields_resolve h).bind fun s hs => .ok (hg.operand _ hput arg _ hs.1)
  next =>
    split
    · exact .error
    · exact .error

/-- **No argument breaks what the grammar keeps.** -/
theorem yields_argument (hg : g.Keeps P) (h : s.Holds P) (arg : String) :
    Yields (Holds P) (s.argument g arg) := by
  have hholds := h
  unfold Holds at hholds
  unfold argument
  split
  · exact yields_operand hg h arg
  · split
    next p hp =>
      -- The argument is the value that is waited for, unless it looks like a parameter.
      rw [hp] at hholds
      split
      · exact .ok (holds_hold hholds.2 h hholds.1 arg)
      · exact yields_hyphened hg h _
    next =>
      split
      · exact yields_hyphened hg h _
      · exact yields_operand hg h arg

/-- **Reading arguments keeps what the grammar keeps**, up to a subcommand if there is one. -/
theorem yields_read (hg : g.Keeps P) (h : s.Holds P) (args : List String) :
    Yields (fun r => Holds P r.1) (s.read g args) := by
  induction args generalizing s with
  | nil => exact .ok h
  | cons arg rest ih =>
    unfold read
    split
    · exact .ok h
    · exact (yields_argument hg h arg).bind fun s hs => ih hs

/-- Arguments that are read without a subcommand among them are out of the way. -/
theorem read_append {front : List String} {s' : Scan σ} (h : s.read g front = .ok (s', none))
    (rest : List String) : s.read g (front ++ rest) = s'.read g rest := by
  induction front generalizing s with
  | nil =>
    rw [read, Except.ok.injEq, Prod.mk.injEq] at h
    rw [List.nil_append, h.1]
  | cons arg front ih =>
    rw [List.cons_append, read]
    rw [read] at h
    split
    -- A subcommand among the arguments would have ended the reading.
    next hsub =>
      rw [hsub] at h
      exact nomatch h
    next hsub =>
      rw [hsub] at h
      rcases hnext : s.argument g arg with e | next
      · rw [hnext] at h
        exact nomatch h
      · rw [hnext] at h
        exact ih h

end Scan

/-- **What is collected has every property that the grammar keeps**, if it begins with it. -/
theorem yields_collect {g : Grammar σ} (hg : g.Keeps P) {v : σ} (h : P v) (args : List String) :
    Yields P (collect g v args) := by
  refine (Scan.yields_read hg (Scan.holds_start h) args).bind fun r hr => ?_
  exact (Scan.yields_resolve hr).bind fun s hs => .ok hs.1

/-- What every command has that is read behind a name, the whole command line has as well. -/
theorem yields_parse {env : Environment} {Q : Command → Prop}
    (h : ∀ name args, Yields (fun r : Command × LogFlags => Q r.1) (readCommand env name args))
    (args : List String) : Yields (fun i : Invocation => Q i.command) (parse env args) := by
  unfold parse
  refine (Yields.trivial _).bind fun r _ => ?_
  split
  · -- What stands in front of the name of the command does not touch the command.
    exact (h _ _).bind fun r hr => (Yields.trivial _).bind fun s _ => .ok hr
  · refine (Yields.trivial _).bind fun s _ => ?_
    dsimp only
    split
    · exact .error
    · exact .error

/-! ## Values of parameters -/

/-- No parameter awaits a value, and no lone `--` was read. -/
structure Scan.IsReady (s : Scan σ) : Prop where
  trailing : s.trailing = false
  pending : ∀ p, s.pending ≠ .awaiting p

/-- The arguments that give a value to a parameter by its long name. -/
inductive Gives (name text : String) : List String → Prop where
  | attached : Gives name text ["--" ++ name ++ "=" ++ text]
  /-- Behind its name the value may not look like a parameter. -/
  | alone : Scan.isHyphened text.toList = false → Gives name text ["--" ++ name, text]

namespace Scan

variable {s : Scan σ} {g : Grammar σ} {p : Parameter σ} {isGiven : σ → Bool}
  {put : String → σ → Except Usage σ} {name text : String}

/-- A grammar without subcommands finds none. -/
theorem subcommand?_eq_none (hg : g.subcommands = []) (s : Scan σ) (arg : String) :
    s.subcommand? g arg = none := by
  have hnone : g.subcommand? arg = none := by
    unfold Grammar.subcommand?
    rw [hg]
    rfl
  unfold Scan.subcommand?
  split
  · rfl
  · rfl
  · exact hnone

/-- Behind two hyphens stands a long name. -/
theorem IsReady.argument (h : s.IsReady) (body : String) (hbody : body.toList ≠ []) :
    s.argument g ("--" ++ body) = s.long g body.toList := by
  obtain ⟨c, rest, hcons⟩ := List.exists_cons_of_ne_nil hbody
  have hlist : ("--" ++ body).toList = '-' :: '-' :: c :: rest := by
    rw [String.toList_append, hcons]
    rfl
  unfold Scan.argument
  rw [h.trailing, hlist, hcons]
  split
  next htrue => exact nomatch htrue
  next =>
    split
    next p hp => exact absurd hp (h.pending p)
    next => rfl

/-- Nothing is asked of what is pending. -/
theorem IsReady.yields_resolve (h : s.IsReady) :
    Yields (fun s' => s'.pending = .nothing ∧ s'.trailing = false) s.resolve := by
  have hholds : s.Holds fun _ => True := by
    unfold Holds
    split
    next => trivial
    next p hp => exact absurd hp (h.pending p)
    next => exact Yields.trivial _
  intro s' hs'
  obtain ⟨-, hnothing, htrailing⟩ := Scan.yields_resolve hholds s' hs'
  exact ⟨hnothing, htrailing.trans h.trailing⟩

/-- The name of a parameter, alone or with a value behind it. -/
structure IsNameOf (g : Grammar σ) (name : String) (p : Parameter σ) : Prop where
  long : g.long? name.toList = some p
  ne_nil : name.toList ≠ []
  not_mem : '=' ∉ name.toList

/-- A name goes up to the first equals sign. -/
theorem IsNameOf.ne_equals (h : IsNameOf g name p) : ∀ c ∈ name.toList, decide (c ≠ '=') = true := by
  intro c hc
  apply decide_eq_true
  rintro rfl
  exact h.not_mem hc

/-- A name with a value behind it attaches the value to its parameter. -/
theorem IsNameOf.long_attached (h : IsNameOf g name p) (s : Scan σ) (value : List Char) :
    s.long g (name.toList ++ '=' :: value) = s.attach p value := by
  unfold Scan.long
  rw [List.takeWhile_append_of_pos h.ne_equals, List.dropWhile_append_of_pos h.ne_equals]
  simp only [ne_eq, not_true_eq_false, decide_false, Bool.false_eq_true, not_false_eq_true,
    List.takeWhile_cons_of_neg, List.dropWhile_cons_of_neg, List.append_nil]
  rw [h.long]

/-- A name without a value is only a name. -/
theorem IsNameOf.long_alone (h : IsNameOf g name p) (s : Scan σ) :
    s.long g name.toList = s.name p := by
  unfold Scan.long
  rw [List.takeWhile_eq_self_iff.mpr h.ne_equals, List.dropWhile_eq_nil_iff.mpr h.ne_equals, h.long]

/-- A value that is attached to its parameter is used at once. -/
theorem IsReady.yields_attached (h : s.IsReady) (hname : IsNameOf g name p)
    (hrole : p.role = .value isGiven put) (hput : ∀ v, Yields P (use isGiven put text v)) :
    Yields (Holds P) (s.argument g ("--" ++ name ++ "=" ++ text)) := by
  have hassoc : "--" ++ name ++ "=" ++ text = "--" ++ (name ++ "=" ++ text) := by
    simp only [String.append_assoc]
  have hlist : (name ++ "=" ++ text).toList = name.toList ++ '=' :: text.toList := by
    rw [String.toList_append, String.toList_append, List.append_assoc]
    rfl
  have hne : (name ++ "=" ++ text).toList ≠ [] := by
    rw [hlist]
    exact List.append_ne_nil_of_left_ne_nil hname.ne_nil _
  -- Up to the equals sign the argument is the name, and behind it the value.
  rw [hassoc, h.argument _ hne, hlist, hname.long_attached, attach, hrole]
  refine h.yields_resolve.bind fun s' hs' => ?_
  rw [String.ofList_toList]
  exact (hput _).bind fun v hv => .ok (holds_of_nothing hv hs'.1)

/-- Behind its name alone a parameter awaits its value. -/
theorem IsReady.yields_named (h : s.IsReady) (hname : IsNameOf g name p)
    (hrole : p.role = .value isGiven put) :
    Yields (fun s' => s'.pending = .awaiting p ∧ s'.trailing = false)
      (s.argument g ("--" ++ name)) := by
  rw [h.argument _ hname.ne_nil, hname.long_alone, Scan.name, hrole]
  exact h.yields_resolve.bind fun s' hs' => .ok ⟨rfl, hs'.2⟩

/-- The argument behind a name that awaits a value is that value. -/
theorem argument_of_awaiting (hpending : s.pending = .awaiting p) (htrailing : s.trailing = false)
    (htext : isHyphened text.toList = false) : s.argument g text = .ok (s.hold p text) := by
  unfold Scan.argument
  rw [hpending, htrailing]
  simp only [Bool.false_eq_true, if_false, htext, Bool.not_false, Bool.or_true, if_true]

/-- **A value that is given is used**, now or later, whatever values there are by then. -/
theorem IsReady.yields_read (h : s.IsReady) (hg : g.subcommands = []) (hname : IsNameOf g name p)
    (hrole : p.role = .value isGiven put) (hput : ∀ v, Yields P (use isGiven put text v))
    (hkeeps : g.Keeps P) {given : List String} (hgiven : Gives name text given)
    (rest : List String) : Yields (fun r => Holds P r.1) (s.read g (given ++ rest)) := by
  -- The value is attached to the name, or it is the next argument.
  rcases hgiven with _ | htext
  · rw [List.singleton_append, Scan.read, subcommand?_eq_none hg]
    exact (h.yields_attached hname hrole hput).bind fun s' hs' => Scan.yields_read hkeeps hs' rest
  · rw [List.cons_append, Scan.read, subcommand?_eq_none hg]
    refine (h.yields_named hname hrole).bind fun s' hs' => ?_
    have hholds : (s'.hold p text).Holds P := by
      unfold hold
      rw [hrole]
      exact hput _
    rw [List.singleton_append, Scan.read, subcommand?_eq_none hg,
      argument_of_awaiting hs'.1 hs'.2 htext]
    exact Scan.yields_read hkeeps hholds rest

end Scan

/-- The arguments are read to their end, and leave nothing open that what follows would fill. -/
def Grammar.IsWhole (g : Grammar σ) (start : σ) (front : List String) : Prop :=
  ∃ s, (Scan.start start).read g front = .ok (s, none) ∧ s.IsReady

/-- **What is collected has the property that a value brings with it**, if the grammar keeps it and
the value is given, whatever stands in front of it and behind it. -/
theorem yields_collect_given {α : Type} {get : σ → Option α} {read : ValueReader α}
    {put : α → σ → σ} {g : Grammar σ} {name text : String} (hg : g.subcommands = [])
    (hname : Scan.IsNameOf g name (valueParameter name get read put))
    (hput : ∀ a, read text = .ok a → ∀ v, P (put a v)) (hkeeps : g.Keeps P) {start : σ}
    {front given : List String} (hfront : g.IsWhole start front) (hgiven : Gives name text given)
    (rest : List String) : Yields P (collect g start (front ++ (given ++ rest))) := by
  obtain ⟨s, hread, hready⟩ := hfront
  have huse (v : σ) : Yields P (Scan.use (fun s => (get s).isSome)
      (fun text s => do .ok (put (← read text) s)) text v) :=
    Scan.yields_use (Yields.bind (P := fun a => read text = .ok a) (fun a ha => ha)
      fun a ha => .ok (hput a ha v))
  unfold collect
  -- What stands in front has been read, and leaves nothing open.
  rw [Scan.read_append hread]
  refine (hready.yields_read hg hname rfl huse hkeeps hgiven rest).bind fun r hr => ?_
  exact (Scan.yields_resolve hr).bind fun s hs => .ok hs.1

end Rollup.CommandLine
