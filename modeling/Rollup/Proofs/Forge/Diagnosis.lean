/-
What a submission by a program comes to, whatever the program writes.

What it says for its failure is the last line of its errors that is not blank, or of its output if
there is no such line (`Execution.Says`). This is said of the bytes: they are in lines before they
are read, and they need not be UTF-8. `Config.Concludes` says what follows from when and how the
program ends.
-/
import Rollup.Proofs.Forge
import Rollup.Proofs.Lists
import Rollup.Proofs.Text.Blank
import Rollup.Proofs.Text.Utf8

set_option autoImplicit false

namespace Rollup.Forge

open Contract (Record)
open Text (Decodes IsTrimmed Pads decodeLossy decodes_iff isAllBlank)
open Verify (Failure)

variable {line stream : Bytes} {said : String} {e : Execution} {limit : Duration}

/-! ## Lines that are not blank -/

/-- A line of blanks in UTF-8, the empty one among them. -/
def IsBlankLine (line : Bytes) : Prop := ∃ text, isAllBlank text ∧ line = Bytes.ofText text

/-- There is no other line than blank ones. -/
def Silent (stream : Bytes) : Prop := ∀ line ∈ stream.splitOn 10, IsBlankLine line

/-- It is not blank, and every later line is. -/
def IsLastLine (stream line : Bytes) : Prop :=
  ¬ IsBlankLine line ∧ ∃ before after, stream.splitOn 10 = before ++ line :: after ∧
    ∀ later ∈ after, IsBlankLine later

/-- A line as it is read, without the blanks around it. -/
def Trims (line : Bytes) (said : String) : Prop :=
  IsTrimmed said.toList ∧ ∃ text, Decodes line text ∧ Pads text said.toList

/-- The last line that is not blank, as it is read, without the blanks around it. -/
def LastLine (stream : Bytes) (said : String) : Prop :=
  ∃ line, IsLastLine stream line ∧ Trims line said

/-- Bytes that are no text are read as a character that is no blank. -/
theorem isBlankLine_iff : IsBlankLine line ↔ isAllBlank (decodeLossy line) := by
  constructor
  · rintro ⟨text, hblank, rfl⟩
    rwa [← decodes_iff.mp (Text.decodes_ofText text)]
  · intro hblank
    refine ⟨_, hblank, (Text.decodes_decodeLossy line).eq_ofText fun hmem => ?_⟩
    exact absurd (Text.mem_of_isAllBlank hblank _ hmem) (by decide)

/-- The characters that are left of a line. -/
def trimmedLine (line : Bytes) : List Char := Text.trim (decodeLossy line)

/-- Nothing is left of a line if it is blank. -/
theorem isEmpty_trimmedLine_iff : (trimmedLine line).isEmpty ↔ IsBlankLine line :=
  List.isEmpty_iff.trans (Text.trim_eq_nil_iff.trans isBlankLine_iff.symm)

/-- What is left of a line is the line without the blanks around it. -/
theorem trimmedLine_eq_iff : trimmedLine line = said.toList ↔ Trims line said := by
  rw [trimmedLine, Text.trim_eq_iff]
  constructor
  · exact fun h => ⟨h.2, _, Text.decodes_decodeLossy line, h.1⟩
  · rintro ⟨htrimmed, text, hdecodes, hpads⟩
    rw [← decodes_iff.mp hdecodes]
    exact ⟨hpads, htrimmed⟩

/-- The lines are told apart by their bytes, and then read. -/
theorem lines_decodeLossy (stream : Bytes) :
    lines (decodeLossy stream) = (stream.splitOn 10).map decodeLossy :=
  Text.parts_decodeLossy (show (10 : UInt8).toNat < 128 by decide) stream

/-- The last line is looked for from behind, among the lines in bytes. -/
theorem lastLine?_eq (stream : Bytes) : lastLine? stream =
    (((stream.splitOn 10).map trimmedLine).reverse.find? (!·.isEmpty)).map String.ofList := by
  rw [lastLine?, lines_decodeLossy, List.map_map]
  rfl

/-- No line is found if all of them are blank. -/
theorem lastLine?_eq_none_iff : lastLine? stream = none ↔ Silent stream := by
  rw [lastLine?_eq, Option.map_eq_none_iff, List.find?_eq_none]
  simp only [List.mem_reverse, List.forall_mem_map, Bool.not_eq_true', Bool.not_eq_false,
    isEmpty_trimmedLine_iff]
  rfl

/-- **The line that is found is the last one that is not blank**, and it is trimmed. -/
theorem lastLine?_eq_some_iff : lastLine? stream = some said ↔ LastLine stream said := by
  have htext : lastLine? stream = some said ↔
      ((stream.splitOn 10).map trimmedLine).reverse.find? (!·.isEmpty) = some said.toList := by
    rw [lastLine?_eq, Option.map_eq_some_iff]
    constructor
    · rintro ⟨t, ht, rfl⟩
      rwa [String.toList_ofList]
    · exact fun h => ⟨_, h, String.ofList_toList⟩
  -- The first line from behind is the last one, with nothing but blank lines after it.
  rw [htext, find?_reverse_map_eq_some_iff]
  simp only [Bool.not_eq_true', Bool.not_eq_false', isEmpty_trimmedLine_iff]
  constructor
  · rintro ⟨before, line, after, hlines, hline, hsome, hafter⟩
    rw [← hline, ← Bool.not_eq_true, isEmpty_trimmedLine_iff] at hsome
    exact ⟨line, ⟨hsome, before, after, hlines, hafter⟩, trimmedLine_eq_iff.mp hline⟩
  · rintro ⟨line, ⟨hsome, before, after, hlines, hafter⟩, htrims⟩
    have hline := trimmedLine_eq_iff.mpr htrims
    rw [← isEmpty_trimmedLine_iff, Bool.not_eq_true, hline] at hsome
    exact ⟨before, line, after, hlines, hline, hsome, hafter⟩

/-- A line has no line feed in it. -/
theorem feed_not_mem_of_lastLine {written : Bytes} {s : String} (h : lastLine? written = some s) :
    '\n' ∉ s.toList := by
  obtain ⟨line, hline, rfl⟩ := Option.map_eq_some_iff.mp h
  have hmem := List.mem_reverse.mp (List.mem_of_find?_eq_some hline)
  obtain ⟨part, hpart, rfl⟩ := List.mem_map.mp hmem
  intro hfeed
  -- What is trimmed off a part is not in the way: the feed would stand in the part itself.
  obtain ⟨front, back, -, -, hpads⟩ := Text.pads_trim part
  rw [String.toList_ofList] at hfeed
  have hin : '\n' ∈ part := by
    rw [hpads]
    exact List.mem_append_right _ (List.mem_append_left _ hfeed)
  have hmark := Text.not_isMark_of_mem_partsAt hpart hin
  exact absurd hmark (by decide)

/-! ## What the program says -/

/-- What a program says for its failure: the last line of its errors, or else of its output. -/
inductive Execution.Says (e : Execution) : String → Prop where
  | errors {said : String} : LastLine e.errors said → e.Says said
  | output {said : String} : Silent e.errors → LastLine e.output said → e.Says said
  | nothing : Silent e.errors → Silent e.output → e.Says ""

/-- What is told of a failure is what the program says. -/
theorem Execution.says_diagnosis (e : Execution) : e.Says (diagnosis e) := by
  unfold diagnosis
  cases herrors : lastLine? e.errors with
  | some said => exact .errors (lastLine?_eq_some_iff.mp herrors)
  | none =>
    have hsilent := lastLine?_eq_none_iff.mp herrors
    cases houtput : lastLine? e.output with
    | some said => exact .output hsilent (lastLine?_eq_some_iff.mp houtput)
    | none => exact .nothing hsilent (lastLine?_eq_none_iff.mp houtput)

/-- The program says one thing only. -/
theorem Execution.says_iff : e.Says said ↔ said = diagnosis e := by
  constructor
  · intro h
    cases h with
    | errors herrors => rw [diagnosis, lastLine?_eq_some_iff.mpr herrors]; rfl
    | output hsilent houtput =>
      rw [diagnosis, lastLine?_eq_none_iff.mpr hsilent, lastLine?_eq_some_iff.mpr houtput]
      rfl
    | nothing hsilent hnothing =>
      rw [diagnosis, lastLine?_eq_none_iff.mpr hsilent, lastLine?_eq_none_iff.mpr hnothing]
      rfl
  · rintro rfl
    exact says_diagnosis e

/-- What is told of a failure is one line. -/
theorem feed_not_mem_diagnosis (e : Execution) : '\n' ∉ (diagnosis e).toList := by
  have hnone : '\n' ∉ "".toList := by decide
  unfold diagnosis
  cases herrors : lastLine? e.errors with
  | some s => exact feed_not_mem_of_lastLine herrors
  | none =>
    cases houtput : lastLine? e.output with
    | some s => exact feed_not_mem_of_lastLine houtput
    | none => exact hnone

/-- What a program says has no blanks around it. -/
theorem Execution.Says.isTrimmed (h : e.Says said) : IsTrimmed said.toList := by
  cases h with
  | errors herrors =>
    obtain ⟨_, -, htrims⟩ := herrors
    exact htrims.1
  | output _ houtput =>
    obtain ⟨_, -, htrims⟩ := houtput
    exact htrims.1
  | nothing => exact ⟨nofun, nofun⟩

/-! ## What a submission comes to -/

/-- What a submission comes to, given what comes of running the program. -/
inductive Config.Concludes (c : Config) :
    Except SystemError Execution → Except Failure Unit → Prop where
  | accepted {e : Execution} : e.InTime c.timeout → e.ending.status? = some 0 →
      c.Concludes (.ok e) (.ok ())
  | late {e : Execution} : ¬ e.InTime c.timeout → c.Concludes (.ok e) (.error (.timeout c.timeout))
  | spawn (cause : SystemError) : c.Concludes (.error cause) (.error (.spawn c.program cause))
  | rejected {e : Execution} {said : String} : e.InTime c.timeout → e.ending.status? ≠ some 0 →
      e.Says said → c.Concludes (.ok e) (.error (.rejected e.ending.status? said))

/-- A program that ends in time with another status is at fault. -/
theorem Execution.judge_of_rejected (h : e.InTime limit) (hnot : e.ending.status? ≠ some 0) :
    e.judge limit = .error (.rejected e.ending.status? (diagnosis e)) := by
  rw [judge_of_inTime h, if_neg hnot]

namespace Config

variable {c : Config} {launcher : Launcher} {r : Record} {n : Nat}
  {run : Except SystemError Execution} {answer : Except Failure Unit}

/-- An attempt comes to what follows from running the program, and to nothing else. -/
theorem attempt_eq_iff : c.attempt launcher r n = answer ↔
    c.Concludes (launch launcher c.program (c.arguments r) n) answer := by
  rw [attempt]
  constructor
  · rintro rfl
    cases launch launcher c.program (c.arguments r) n with
    | error cause => exact .spawn cause
    | ok e =>
      dsimp only
      -- The deadline is looked at first, and then the status.
      by_cases htime : e.InTime c.timeout
      · by_cases hzero : e.ending.status? = some 0
        · rw [Execution.judge_eq_ok_iff.mpr ⟨htime, hzero⟩]
          exact .accepted htime hzero
        · rw [Execution.judge_of_rejected htime hzero]
          exact .rejected htime hzero e.says_diagnosis
      · rw [Execution.judge_of_late htime]
        exact .late htime
  · generalize launch launcher c.program (c.arguments r) n = run
    intro h
    cases h with
    | spawn => rfl
    | accepted htime hzero => exact Execution.judge_eq_ok_iff.mpr ⟨htime, hzero⟩
    | late hlate => exact Execution.judge_of_late hlate
    | rejected htime hzero hsays =>
      rw [Execution.says_iff.mp hsays]
      exact Execution.judge_of_rejected htime hzero

/-- **What a submission comes to, for every program and all that it can write.** It is decided by
whether the program is started, ends in time and has the status zero; and if the program is at
fault, then what is said of it is one line of what it wrote, without blanks at its ends. -/
theorem attempt_exact (c : Config) (launcher : Launcher) (r : Record) (n : Nat) :
    (∀ answer, c.attempt launcher r n = answer ↔
      ∃ run, c.Launched launcher r n run ∧ c.Concludes run answer) ∧
    ∀ status said, c.attempt launcher r n = .error (.rejected status said) →
      '\n' ∉ said.toList ∧ IsTrimmed said.toList := by
  refine ⟨fun answer => ?_, fun status said h => ?_⟩
  · simp only [attempt_eq_iff, launched_iff, exists_eq_left']
  · generalize hrun : launch launcher c.program (c.arguments r) n = run
    have hconcludes := attempt_eq_iff.mp h
    rw [hrun] at hconcludes
    cases hconcludes with
    | rejected _ _ hsays =>
      exact ⟨Execution.says_iff.mp hsays ▸ feed_not_mem_diagnosis _, hsays.isTrimmed⟩

/-- A byte that is no text and a blank, and then a line of one blank that is not ASCII. -/
def unreadable : Execution := ⟨[], [0xFF, 0x20, 0x0D, 0x0A, 0xE2, 0x80, 0x83], .exited 1⟩

/-- A byte that is no text is shown as the replacement character. -/
theorem attempt_exact_unreadable :
    (standard "u" "k").attempt (fun _ _ _ => .ok unreadable) ⟨"A", .ofNat 1, 200, true⟩ 1 =
        .error (.rejected (some 1) "\uFFFD") ∧
      '\n' ∉ "\uFFFD".toList ∧ IsTrimmed "\uFFFD".toList := by
  have hexact := attempt_exact (standard "u" "k") (fun _ _ _ => .ok unreadable)
    ⟨"A", .ofNat 1, 200, true⟩ 1
  have hplain : ∀ s ∈ (standard "u" "k").program ::
      (standard "u" "k").arguments ⟨"A", .ofNat 1, 200, true⟩, '\x00' ∉ s.toList := by
    decide +kernel
  have htime : unreadable.InTime (standard "u" "k").timeout :=
    Execution.isInTime_iff.mp (by decide)
  have hrejected := (hexact.1 (.error (.rejected (some 1) "\uFFFD"))).mpr
    ⟨_, .run hplain, .rejected htime (by decide) (Execution.says_iff.mpr (by decide))⟩
  exact ⟨hrejected, hexact.2 _ _ hrejected⟩

end Config

end Rollup.Forge
