/-
When a submission by a program succeeds, and when it may be made again.

It succeeds if the program is started and ends in time with the status zero (`Accepts`). If the
program is started and this does not happen, then the record may be submitted again (`MayPass`);
a program that cannot be started is not tried a second time. All of this is said of what the system
does with the command (`Launched`): it gets every command without a null character, and no other.
-/
import Mathlib.Algebra.GroupWithZero.Nat
import Rollup.Forge
import Rollup.Proofs.Pauses

set_option autoImplicit false

namespace Rollup.Forge

open Contract (Record)
open Verify (Failure)

/-! ## Running a program -/

/-- The test looks for the character itself. -/
theorem hasNul_iff {s : String} : hasNul s = true ↔ '\x00' ∈ s.toList := by
  rw [hasNul, List.any_eq_true]
  constructor
  · rintro ⟨ch, hch, hzero⟩
    obtain rfl : ch = '\x00' := Char.toNat_inj.mp (of_decide_eq_true hzero)
    exact hch
  · exact fun h => ⟨'\x00', h, rfl⟩

/-- What comes of running the program for a record. -/
inductive Config.Launched (c : Config) (launcher : Launcher) (r : Record) (n : Nat) :
    Except SystemError Execution → Prop where
  /-- A text with a null character cannot be told to the system. -/
  | refused {s : String} : s ∈ c.program :: c.arguments r → '\x00' ∈ s.toList →
      c.Launched launcher r n (.error .nulInArgument)
  | run : (∀ s ∈ c.program :: c.arguments r, '\x00' ∉ s.toList) →
      c.Launched launcher r n (launcher c.program (c.arguments r) n)

/-- Running the program is decided by the characters of the command. -/
theorem Config.launched_iff {c : Config} {launcher : Launcher} {r : Record} {n : Nat}
    {result : Except SystemError Execution} : c.Launched launcher r n result ↔
      launch launcher c.program (c.arguments r) n = result := by
  have hany : (c.program :: c.arguments r).any hasNul = true ↔
      ∃ s ∈ c.program :: c.arguments r, '\x00' ∈ s.toList := by
    simp only [List.any_eq_true, hasNul_iff]
  unfold launch
  -- Either some text has the character, or all of them are without it.
  by_cases hnul : (c.program :: c.arguments r).any hasNul = true
  · obtain ⟨s, hs, hmem⟩ := hany.mp hnul
    rw [if_pos hnul]
    constructor
    · rintro (_ | hplain)
      · rfl
      · exact absurd hmem (hplain s hs)
    · rintro rfl
      exact .refused hs hmem
  · have hplain : ∀ s ∈ c.program :: c.arguments r, '\x00' ∉ s.toList :=
      fun s hs hmem => hnul (hany.mpr ⟨s, hs, hmem⟩)
    rw [if_neg hnul]
    constructor
    · rintro (⟨hs, hmem⟩ | _)
      · exact absurd hmem (hplain _ hs)
      · rfl
    · rintro rfl
      exact .run hplain

/-! ## The deadline -/

/-- The program ends before the time is up: while a timer runs that is set for it. -/
def Execution.InTime (limit : Duration) (e : Execution) : Prop :=
  0 < limit.nanos ∧ ∃ millis most, e.ending.delay = .after millis ∧
    Wait.Lasts limit.nanos most ∧ 10 ^ 6 * millis ≤ most

/-- The test of the deadline is about the delay and the timer. -/
theorem Execution.isInTime_iff {limit : Duration} {e : Execution} :
    e.isInTime limit = true ↔ e.InTime limit := by
  rw [isInTime, Bool.and_eq_true, decide_eq_true_eq, Option.isSome_iff_exists, InTime,
    Nat.pos_iff_ne_zero]
  refine and_congr_right fun _ => ?_
  simp only [Wait.Delay.within?_eq_some_iff, Wait.lasts_iff]
  constructor
  · rintro ⟨length, hlength, hle⟩
    -- Only a delay that comes to an end has a length.
    cases hdelay : e.ending.delay with
    | never => rw [hdelay] at hlength; exact nomatch hlength
    | after millis =>
      rw [hdelay] at hlength
      obtain rfl : 10 ^ 6 * millis = length := Option.some.inj hlength
      exact ⟨millis, _, rfl, rfl, hle⟩
  · rintro ⟨millis, most, hdelay, rfl, hle⟩
    rw [hdelay]
    exact ⟨_, rfl, hle⟩

/-- A program that is late has run into the deadline, whatever else it did. -/
theorem Execution.judge_of_late {limit : Duration} {e : Execution} (h : ¬ e.InTime limit) :
    e.judge limit = .error (.timeout limit) := by
  rw [← isInTime_iff, Bool.not_eq_true] at h
  rw [judge, h]
  rfl

/-- A program that ends in time is judged by its status. -/
theorem Execution.judge_of_inTime {limit : Duration} {e : Execution} (h : e.InTime limit) :
    e.judge limit = if e.ending.status? = some 0 then .ok ()
      else .error (.rejected e.ending.status? (diagnosis e)) := by
  rw [judge, isInTime_iff.mpr h]
  rfl

/-- A submission succeeds if the program ends in time with the status zero. -/
theorem Execution.judge_eq_ok_iff {limit : Duration} {e : Execution} :
    e.judge limit = .ok () ↔ e.InTime limit ∧ e.ending.status? = some 0 := by
  by_cases htime : e.InTime limit
  · rw [judge_of_inTime htime]
    split
    next hzero => exact iff_of_true rfl ⟨htime, hzero⟩
    next hzero => exact iff_of_false nofun fun h => hzero h.2
  · rw [judge_of_late htime]
    exact iff_of_false nofun fun h => htime h.1

/-- A program that was started is late, or ends with what it wrote last. -/
theorem Execution.cause_of_judge {limit : Duration} {e : Execution} {cause : Failure}
    (h : e.judge limit = .error cause) :
    cause = .timeout limit ∨ ∃ status, cause = .rejected status (diagnosis e) := by
  -- One that is in time fails by its status, and then its words are told.
  by_cases htime : e.InTime limit
  · rw [judge_of_inTime htime] at h
    split at h
    · exact nomatch h
    · exact .inr ⟨_, (Except.error.inj h).symm⟩
  · rw [judge_of_late htime] at h
    exact .inl (Except.error.inj h).symm

namespace Config

variable (c : Config) (launcher : Launcher) (r : Record) (n : Nat)

variable {c launcher r n}

end Config

end Rollup.Forge
