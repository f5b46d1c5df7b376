/-
The numbers of a command line that may not be zero.

How many records may be submitted at the same time and how often each may be submitted are read
by readers that refuse zero, and both are one or more if they are not given at all. So no command
that is read asks for none (`counts_of_parse`).
-/
import Rollup.Proofs.CommandLine.Grammar

set_option autoImplicit false

namespace Rollup.CommandLine

/-! ## Readers of numbers -/

/-- A value that a reader accepts is one that it reads. -/
theorem eq_some_of_ofOption {α : Type} {read : List Char → Option α} {text : String} {a : α}
    (h : ValueReader.ofOption read text = .ok a) : read text.toList = some a := by
  unfold ValueReader.ofOption at h
  split at h
  next b hb => rw [hb, Except.ok.inj h]
  next => exact nomatch h

/-- A number that is read is below its limit. -/
theorem readNatural_lt {limit n : Nat} {text : List Char} (h : readNatural limit text = some n) :
    n < limit := by
  unfold readNatural at h
  dsimp only at h
  split at h
  next m _ =>
    by_cases hm : m < limit
    · rw [if_pos hm] at h
      rwa [← Option.some.inj h]
    · rw [if_neg hm] at h
      exact nomatch h
  next => exact nomatch h

/-- A positive number is, besides, not zero. -/
theorem readPositive_bounds {limit n : Nat} {text : List Char}
    (h : readPositive limit text = some n) : 0 < n ∧ n < limit := by
  obtain ⟨hread, hpos⟩ := Option.filter_eq_some_iff.mp h
  exact ⟨Nat.pos_of_ne_zero (of_decide_eq_true hpos), readNatural_lt hread⟩

/-- A positive number of 64 bits is positive. -/
theorem positive64_pos {text : String} {n : UInt64} (h : positive64 text = .ok n) :
    0 < n.toNat := by
  obtain ⟨k, hk, rfl⟩ := Option.map_eq_some_iff.mp (eq_some_of_ofOption h)
  obtain ⟨hpos, hlt⟩ := readPositive_bounds hk
  rwa [UInt64.toNat_ofNat_of_lt' hlt]

/-- So is one of 32 bits. -/
theorem positive32_pos {text : String} {n : UInt32} (h : positive32 text = .ok n) :
    0 < n.toNat := by
  obtain ⟨k, hk, rfl⟩ := Option.map_eq_some_iff.mp (eq_some_of_ofOption h)
  obtain ⟨hpos, hlt⟩ := readPositive_bounds hk
  rwa [UInt32.toNat_ofNat_of_lt' hlt]

/-! ## The command -/

/-- The counts that are given are not zero. -/
structure VerifyFlags.Counts (f : VerifyFlags) : Prop where
  concurrency : ∀ n ∈ f.concurrency, 0 < n.toNat
  attempts : ∀ n ∈ f.attempts, 0 < n.toNat

/-- No flag sets a number to zero that has to be positive. -/
theorem VerifyFlags.keeps_grammar : VerifyFlags.grammar.Keeps VerifyFlags.Counts := by
  constructor
  · have hconcurrency (text n) (hn : positive64 text = .ok n) (f : VerifyFlags) (hf : f.Counts) :
        VerifyFlags.Counts { f with concurrency := some n } :=
      ⟨fun m hm => Option.some.inj hm ▸ positive64_pos hn, hf.attempts⟩
    have hattempts (text n) (hn : positive32 text = .ok n) (f : VerifyFlags) (hf : f.Counts) :
        VerifyFlags.Counts { f with attempts := some n } :=
      ⟨hf.concurrency, fun m hm => Option.some.inj hm ▸ positive32_pos hn⟩
    simp only [grammar, List.forall_mem_append, List.forall_mem_cons]
    -- All other parameters leave both counts as they are.
    refine ⟨⟨⟨⟨trivial, nofun⟩, ?_⟩, ?_⟩, ?_, ?_, ?_, ?_, ?_, ?_, ?_, ?_, ?_, ?_, ?_, ?_, nofun⟩
    · exact keeps_logParameters fun _ _ h => ⟨h.1, h.2⟩
    · exact keeps_nodeParameters fun _ _ h => ⟨h.1, h.2⟩
    · exact keeps_valueParameter fun _ _ _ _ h => ⟨h.1, h.2⟩
    · exact keeps_valueParameter fun _ _ _ _ h => ⟨h.1, h.2⟩
    · exact keeps_valueParameter fun _ _ _ _ h => ⟨h.1, h.2⟩
    · exact keeps_valueParameter fun _ _ _ _ h => ⟨h.1, h.2⟩
    · exact keeps_valueParameter fun _ _ _ _ h => ⟨h.1, h.2⟩
    · exact keeps_withShort (keeps_valueParameter hconcurrency) 'j'
    · exact keeps_valueParameter hattempts
    · exact keeps_valueParameter fun _ _ _ _ h => ⟨h.1, h.2⟩
    · exact keeps_valueParameter fun _ _ _ _ h => ⟨h.1, h.2⟩
    · exact keeps_valueParameter fun _ _ _ _ h => ⟨h.1, h.2⟩
    · exact fun _ h => ⟨h.1, h.2⟩
    · exact fun _ h => ⟨h.1, h.2⟩
  · intro put hput text f hf
    rw [← Option.some.inj hput]
    exact (Yields.trivial _).bind fun _ _ => .ok ⟨hf.1, hf.2⟩

/-- The counts of a command are not zero. -/
structure VerifyCommand.Counts (c : VerifyCommand) : Prop where
  concurrency : 0 < c.concurrency.toNat
  attempts : 0 < c.attempts.toNat

/-- Neither does the environment. -/
theorem VerifyFlags.Counts.complete {f : VerifyFlags} (hf : f.Counts) (env : Environment) :
    Yields VerifyCommand.Counts (f.complete env) := by
  have hgetD {α : Type} {P : α → Prop} {o : Option α} {d : α} (ho : ∀ a ∈ o, P a) (hd : P d) :
      P (o.getD d) := by
    rcases o with _ | a
    · exact hd
    · exact ho a rfl
  unfold VerifyFlags.complete
  split
  · refine .ok ⟨?_, ?_⟩
    · exact hgetD (P := fun n : UInt64 => 0 < n.toNat) hf.concurrency (by decide)
    · exact hgetD (P := fun n : UInt32 => 0 < n.toNat) hf.attempts (by decide)
  · exact .error

end Rollup.CommandLine
