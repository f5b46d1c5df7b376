/-
The fee parameters and the value that the command for estimates is given.

Fee parameters that are given one by one are read as they are read anywhere else, so that it does
not matter by which way numbers come in (`parameters_agree`).

The value is given in ether. Every other parameter leaves it alone and it may not be given twice, so
the value of the transaction is what its text is read as, wherever it stands among the arguments.
This is the amount that the text denotes for plain texts, and for no others
(`estimate_value_exact_iff`).

A request to the node has one attempt at least (`attempts_of_parse`).
-/
import Mathlib.Algebra.GroupWithZero.Nat
import Rollup.Proofs.CommandLine.EstimateRun
import Rollup.Proofs.CommandLine.VerifyFlags
import Rollup.Proofs.Ether.Reading
import Rollup.Proofs.Fee.Parameters
import Rollup.Proofs.Transaction.Draft

set_option autoImplicit false

namespace Rollup.CommandLine

open Fee (Field Parameters)

/-! ## Fee parameters -/

namespace FeeFlags

/-- If all fields are given, their texts are read and nothing else counts. -/
theorem parameters_of_given {flags : FeeFlags} {texts : Field → String}
    (h : ∀ f, flags.get f = some (texts f)) : flags.parameters = Parameters.read texts := by
  unfold parameters Parameters.read
  congr 1
  funext f
  rw [h f]

/-- **All ways to fee parameters agree.** Signed numbers of 128 bits and their decimal texts come to
the same parameters, which are these numbers, or to the same error, which names the first negative
one. The decimal or hexadecimal texts of words, in any case and with blanks around them, are read as
these words, on the command line as well. -/
theorem parameters_agree :
    (∀ input : Field → Int, (∀ f, -2 ^ 127 ≤ input f ∧ input f < 2 ^ 127) →
      Parameters.fromSigned input = Parameters.read (fun f => Text.signedDecimal (input f)) ∧
      (∀ f, Field.all.find? (fun f => decide (input f < 0)) = some f →
        Parameters.fromSigned input = .error (.negative f)) ∧
      (Field.all.find? (fun f => decide (input f < 0)) = Option.none →
        ∃ p, Parameters.fromSigned input = .ok p ∧ ∀ f, ((p.get f).toNat : Int) = input f)) ∧
    ∀ (p : Parameters) (texts : Field → String),
      (∀ f, ∃ text, Text.Pads (texts f).toList text ∧ Quantity.Renders (p.get f).toNat text) →
      Parameters.read texts = .ok p ∧
      ∀ flags : FeeFlags, (∀ f, flags.get f = some (texts f)) → flags.parameters = .ok p := by
  constructor
  · intro input hinput
    -- The signed numbers have 128 bits only, and so they are all words if they are not negative.
    have hlt (f : Field) : input f < 2 ^ 256 := by
      have hf := (hinput f).2
      omega
    exact ⟨Parameters.fromSigned_eq_read hlt, Parameters.fromSigned_find? hlt⟩
  · intro p texts htexts
    have hread : Parameters.read texts = .ok p := by
      apply Parameters.build_of_forall
      intro f
      obtain ⟨text, hpads, hrenders⟩ := htexts f
      exact Parameters.readField_of_renders hpads hrenders
    refine ⟨hread, fun flags hflags => ?_⟩
    rw [parameters_of_given hflags, hread]

example : parameters ⟨false, some " 0x6Fc23aC00", some "263\t", some "0x00000AAF", some "819492"⟩ =
    .ok .reference := by
  decide

end FeeFlags

/-! ## The value -/

theorem ether_eq_ok_iff {text : String} {w : Word} :
    ether text = .ok w ↔ Ether.read text.toList = .ok w := by
  unfold ether
  rcases Ether.read text.toList with e | w'
  · rcases e with _ | _
    · exact iff_of_false nofun nofun
    · exact iff_of_false nofun nofun
  · rw [Except.ok.injEq, Except.ok.injEq]

namespace EstimateFlags

/-- The text is an amount of ether, and this is the value that is given. -/
def HasValue (text : String) (f : EstimateFlags) : Prop :=
  ∃ w, Ether.read text.toList = .ok w ∧ f.value = some w

/-- What depends on the settings of the node and on the value only is kept by all other
parameters. -/
theorem keeps_grammar {P : EstimateFlags → Prop}
    (hP : ∀ f f' : EstimateFlags, f'.node = f.node → f'.value = f.value → P f → P f')
    (hnode : ∀ p ∈ nodeParameters (·.node) fun node (f : EstimateFlags) => { f with node := node },
      p.role.Keeps P)
    (hvalue : (valueParameter "value" (·.value) ether
      fun w (f : EstimateFlags) => { f with value := some w }).role.Keeps P) :
    grammar.Keeps P := by
  constructor
  · have hother {α : Type} {long : String} {get : EstimateFlags → Option α} {read : ValueReader α}
        {put : α → EstimateFlags → EstimateFlags}
        (hput : ∀ a f, (put a f).node = f.node ∧ (put a f).value = f.value) :
        (valueParameter long get read put).role.Keeps P :=
      keeps_valueParameter fun _ a _ f => hP f (put a f) (hput a f).1 (hput a f).2
    simp only [grammar, List.forall_mem_append, List.forall_mem_cons]
    -- The value is the sixth parameter behind those of the node.
    refine ⟨⟨⟨⟨trivial, nofun⟩, ?_⟩, hnode⟩, ?_, ?_, ?_, ?_, ?_, hvalue, ?_, ?_, ?_, ?_, ?_, ?_, ?_,
      ?_, ?_, ?_, nofun⟩
    · exact keeps_logParameters fun _ f => hP f _ rfl rfl
    · exact hother fun _ _ => ⟨rfl, rfl⟩
    · exact hother fun _ _ => ⟨rfl, rfl⟩
    · exact hother fun _ _ => ⟨rfl, rfl⟩
    · exact hother fun _ _ => ⟨rfl, rfl⟩
    · exact hother fun _ _ => ⟨rfl, rfl⟩
    · exact hother fun _ _ => ⟨rfl, rfl⟩
    · exact hother fun _ _ => ⟨rfl, rfl⟩
    · exact fun f => hP f _ rfl rfl
    · exact keeps_withHyphens (hother fun _ _ => ⟨rfl, rfl⟩)
    · exact keeps_withHyphens (hother fun _ _ => ⟨rfl, rfl⟩)
    · exact keeps_withHyphens (hother fun _ _ => ⟨rfl, rfl⟩)
    · exact keeps_withHyphens (hother fun _ _ => ⟨rfl, rfl⟩)
    · exact hother fun _ _ => ⟨rfl, rfl⟩
    · exact hother fun _ _ => ⟨rfl, rfl⟩
    · exact hother fun _ _ => ⟨rfl, rfl⟩
  · exact nofun

/-- No parameter changes the value once it is given. -/
theorem keeps_value (text : String) : grammar.Keeps (HasValue text) := by
  have hP (f f' : EstimateFlags) (hvalue : f'.value = f.value) :
      HasValue text f → HasValue text f' := by
    rintro ⟨w, hread, hw⟩
    exact ⟨w, hread, hvalue.trans hw⟩
  refine keeps_grammar (fun f f' _ => hP f f') ?_ (keeps_given fun f h => ?_)
  · exact keeps_nodeParameters fun _ f => hP f _ rfl
  · obtain ⟨w, -, hvalue⟩ := h
    rw [hvalue]
    rfl

theorem isNameOf_value : Scan.IsNameOf grammar "value"
    (valueParameter "value" (·.value) ether fun w s => { s with value := some w }) :=
  ⟨rfl, by decide, by decide⟩

/-- The value is collected wherever it is given. -/
theorem yields_collect_value {text : String} {front given : List String}
    (hfront : grammar.IsWhole .none front) (hgiven : Gives "value" text given)
    (rest : List String) :
    Yields (HasValue text) (collect grammar .none (front ++ (given ++ rest))) :=
  yields_collect_given rfl isNameOf_value (fun w hw _ => ⟨w, ether_eq_ok_iff.mp hw, rfl⟩)
    (keeps_value text) hfront hgiven rest

theorem value_complete {f : EstimateFlags} {env : Environment} {c : EstimateCommand}
    (h : f.complete env = .ok c) : c.value = f.value.getD 0 := by
  unfold complete at h
  split at h
  · exact nomatch h
  · rw [← Except.ok.inj h]

end EstimateFlags

section

variable {env : Environment} {args : List String} {c : EstimateCommand} {logging : Logging}

/-- A command has what the flags bring with them that stand behind its name. -/
theorem yields_parse_estimate {Q : EstimateCommand → Prop}
    (h : Yields (fun f : EstimateFlags => Yields Q (f.complete env))
      (collect EstimateFlags.grammar .none args)) :
    Yields (fun i : Invocation => ∀ c, i.command = .estimate c → Q c)
      (parse env ("estimate" :: args)) := by
  -- The name comes first, so everything behind it belongs to the command.
  have hread : Yields (fun r => r = (Scan.start LogFlags.none, some ("estimate", args)))
      ((Scan.start LogFlags.none).read topGrammar ("estimate" :: args)) := .ok rfl
  unfold parse
  refine hread.bind fun r hr => ?_
  rw [hr]
  dsimp only
  have hcommand : Yields (fun r : Command × LogFlags => ∀ c, r.1 = .estimate c → Q c)
      (readCommand env "estimate" args) := by
    unfold readCommand
    rw [if_pos rfl]
    refine h.bind fun flags hflags => hflags.bind fun c hc => .ok ?_
    exact fun c' hc' => Command.estimate.inj hc' ▸ hc
  exact hcommand.bind fun r hr => (Yields.trivial _).bind fun s _ => .ok hr

/-- The value of the command is what the text is read as that is given for it. -/
theorem value_of_parse {text : String} {front given rest : List String}
    (hparse : parse env ("estimate" :: (front ++ (given ++ rest))) = .ok ⟨.estimate c, logging⟩)
    (hfront : EstimateFlags.grammar.IsWhole .none front) (hgiven : Gives "value" text given) :
    Ether.read text.toList = .ok c.value := by
  have hcollect := EstimateFlags.yields_collect_value hfront hgiven rest
  refine yields_parse_estimate (Q := fun c => Ether.read text.toList = .ok c.value)
    (fun flags hflags c hc => ?_) _ hparse c rfl
  obtain ⟨w, hread, hvalue⟩ := hcollect flags hflags
  rw [EstimateFlags.value_complete hc, hvalue]
  exact hread

/-- **When the value of the transaction is the amount that is given.** The value is always what the
text is read as, and each draft of the command is encoded as a transaction with this value. It is
exactly the amount of ether that the text denotes if and only if the text is plain. -/
theorem estimate_value_exact_iff {text : String} {front given rest : List String}
    (hparse : parse env ("estimate" :: (front ++ (given ++ rest))) = .ok ⟨.estimate c, logging⟩)
    (hfront : EstimateFlags.grammar.IsWhole .none front) (hgiven : Gives "value" text given) :
    Ether.Reads text.toList c.value ∧
    (∀ k draft bytes, c.Gathers k draft → draft.encode = .ok bytes →
      ∃ tx : Transaction, draft.Renders tx ∧ tx.encode = bytes ∧ tx.value = c.value) ∧
    (Ether.IsExact text.toList c.value ↔ Ether.IsPlain text.toList) := by
  have hread := value_of_parse hparse hfront hgiven
  refine ⟨Ether.read_eq_ok_iff.mp hread, fun k draft bytes hdraft hbytes => ?_,
    Ether.isExact_iff hread⟩
  obtain ⟨tx, hrenders, hencode⟩ := Transaction.Draft.encode_eq_ok_iff.mp hbytes
  exact ⟨tx, hrenders, hencode, hrenders.value.symm.trans hdraft.value⟩

end

/-- A contract creation that takes one and a half ether along, with all that a node could tell. -/
def endowed : EstimateCommand :=
  ⟨⟨none, 3, 10⟩, none, some 0, some 1, 21000, none, 1500000000000000000, "0x", some 10, .none, none,
    none, none⟩

/-- The amount stands between other parameters. -/
theorem estimate_value_exact_endowed :
    ∃ logging, parse ⟨none, none, none⟩ ("estimate" :: (["--nonce=0"] ++ (["--value", "1.5"] ++
        ["--gas-price=1", "--chain-id=10"]))) = .ok ⟨.estimate endowed, logging⟩ ∧
      EstimateFlags.grammar.IsWhole .none ["--nonce=0"] ∧ Gives "value" "1.5" ["--value", "1.5"] ∧
      Ether.IsExact "1.5".toList endowed.value ∧
      ∃ tx : Transaction, (⟨0, 1, 21000, none, 1500000000000000000, "0x", 10⟩ :
        Transaction.Draft).Renders tx ∧ tx.value = 1500000000000000000 := by
  obtain ⟨logging, hparse⟩ : ∃ logging, parse ⟨none, none, none⟩ ("estimate" :: (["--nonce=0"] ++
      (["--value", "1.5"] ++ ["--gas-price=1", "--chain-id=10"]))) =
        .ok ⟨.estimate endowed, logging⟩ := ⟨_, rfl⟩
  have hfront : EstimateFlags.grammar.IsWhole .none ["--nonce=0"] := ⟨_, rfl, rfl, nofun⟩
  have hgiven : Gives "value" "1.5" ["--value", "1.5"] := .alone rfl
  obtain ⟨-, hencodes, hexact⟩ := estimate_value_exact_iff hparse hfront hgiven
  -- The value is written with a point, and has one decimal.
  have hdenotes : Ether.Denotes "1.5".toList ⟨false, [1], [5]⟩ :=
    @Ether.Denotes.pointed false ['1'] ['5'] _ _ (.cons (by decide) (by decide) .nil)
      (.cons (by decide) (by decide) .nil) (List.cons_ne_nil _ _)
  have hplain : Ether.IsPlain "1.5".toList := ⟨_, hdenotes, by decide, .inr ⟨rfl, by decide⟩⟩
  have hdraft : endowed.Gathers none ⟨0, 1, 21000, none, 1500000000000000000, "0x", 10⟩ :=
    ⟨.inl rfl, .inl rfl, .inl rfl, rfl, rfl, rfl, rfl⟩
  have hencode : ∃ bytes, (⟨0, 1, 21000, none, 1500000000000000000, "0x", 10⟩ :
      Transaction.Draft).encode = .ok bytes := ⟨_, rfl⟩
  obtain ⟨bytes, hbytes⟩ := hencode
  obtain ⟨tx, hrenders, -, hvalue⟩ := hencodes none _ bytes hdraft hbytes
  exact ⟨logging, hparse, hfront, hgiven, hexact.mpr hplain, tx, hrenders, hvalue⟩

theorem not_isExact_negative {w : Word} (hw : w ≠ 0) : ¬ Ether.IsExact "-1".toList w := by
  rintro ⟨a, hdenotes, hlength, hexact⟩
  obtain ⟨hsign, hwei⟩ := (Ether.Amount.value_iff hlength _).mp hexact
  obtain ⟨whole, hwhole, hdigits, -⟩ := hdenotes.parts
  rcases hsign with hsign | hunits
  · -- Without a sign the minus would stand among the digits.
    rw [hsign] at hwhole
    rw [← (show Ether.wholePart "-1".toList = whole from hwhole), ← List.append_nil
      (Ether.wholePart _)] at hdigits
    exact Ether.ne_minus_of_digits hdigits ['1'] rfl
  · rw [Ether.Amount.wei_eq_zero_iff.mpr hunits] at hwei
    exact hw (BitVec.eq_of_toNat_eq hwei.symm)

theorem not_isExact_tooLong (w : Word) : ¬ Ether.IsExact "1.0000000000000000009".toList w := by
  rintro ⟨a, hdenotes, hlength, -⟩
  obtain ⟨-, -, -, hbehind⟩ := hdenotes.parts
  have hcount := hbehind.length_add_count
  change a.decimals.length + 0 = 19 at hcount
  omega

/-- A negative amount is taken for one near the greatest of all, and of a nineteenth decimal nothing
is left. -/
theorem estimate_value_changed :
    (∃ c logging, parse ⟨none, none, none⟩ ["estimate", "--value=-1"] =
        .ok ⟨.estimate c, logging⟩ ∧ c.value.toNat = 2 ^ 256 - 10 ^ 18 ∧
      ¬ Ether.IsExact "-1".toList c.value) ∧
    ∃ c logging, parse ⟨none, none, none⟩ ["estimate", "--value=1.0000000000000000009"] =
        .ok ⟨.estimate c, logging⟩ ∧ c.value.toNat = 10 ^ 18 ∧
      ¬ Ether.IsExact "1.0000000000000000009".toList c.value :=
  ⟨⟨_, _, rfl, by decide, not_isExact_negative (by decide)⟩,
    ⟨_, _, rfl, by decide, not_isExact_tooLong _⟩⟩

/-! ## Attempts -/

/-- The number of attempts of a request is not zero if it is given. -/
def NodeFlags.Attempts (f : NodeFlags) : Prop := ∀ n ∈ f.attempts, 0 < n.toNat

theorem NodeFlags.Attempts.complete {f : NodeFlags} (h : f.Attempts) (env : Environment) :
    0 < (f.complete env).attempts.toNat := by
  show 0 < (f.attempts.getD 3).toNat
  cases hattempts : f.attempts with
  | none => decide
  | some n => exact h n hattempts

/-- The parameters of the node keep what settings with attempts do not break. -/
theorem keeps_attempts {σ : Type} {P : σ → Prop} {get : σ → NodeFlags} {set : NodeFlags → σ → σ}
    (hget : ∀ v, P v → (get v).Attempts)
    (hset : ∀ node v, P v → node.Attempts → P (set node v)) :
    ∀ p ∈ nodeParameters get set, p.role.Keeps P := by
  rw [nodeParameters, List.forall_mem_cons, List.forall_mem_cons, List.forall_mem_singleton]
  refine ⟨?_, ?_, ?_⟩
  · exact keeps_valueParameter fun _ _ _ v hv => hset _ v hv (hget v hv)
  · refine keeps_valueParameter fun _ n hn v hv => hset _ v hv fun m hm => ?_
    exact Option.some.inj hm ▸ positive32_pos hn
  · exact keeps_valueParameter fun _ _ _ v hv => hset _ v hv (hget v hv)

theorem EstimateFlags.keeps_nodeAttempts : grammar.Keeps fun f => f.node.Attempts :=
  keeps_grammar (fun _ _ hnode _ h => hnode ▸ h) (keeps_attempts (fun _ h => h) fun _ _ _ h => h)
    (keeps_valueParameter fun _ _ _ _ h => h)

/-- A command for an estimate makes attempts. -/
theorem attempts_of_parse {env : Environment} {args : List String} {c : EstimateCommand}
    {logging : Logging} (h : parse env args = .ok ⟨.estimate c, logging⟩) :
    0 < c.node.attempts.toNat := by
  -- Every flag keeps the number positive, and so do the defaults.
  refine yields_parse (Q := fun command => ∀ c, command = .estimate c → 0 < c.node.attempts.toNat)
    (fun name args => ?_) args _ h c rfl
  unfold readCommand
  split
  · have hnone : EstimateFlags.none.node.Attempts := fun _ hn => nomatch hn
    refine (yields_collect EstimateFlags.keeps_nodeAttempts hnone args).bind fun flags hflags => ?_
    refine Yields.bind (P := fun c : EstimateCommand => 0 < c.node.attempts.toNat) ?_ ?_
    · unfold EstimateFlags.complete
      split
      · exact .error
      · exact .ok (hflags.complete env)
    · exact fun c hc => .ok fun c' hc' => Command.estimate.inj hc' ▸ hc
  · split
    · refine (Yields.trivial _).bind fun flags _ => (Yields.trivial _).bind fun c _ => .ok ?_
      exact fun c' hc => nomatch hc
    · exact .error

end Rollup.CommandLine
