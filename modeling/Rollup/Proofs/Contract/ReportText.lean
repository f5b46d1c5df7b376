/-
The lines of a printed report.

A report is printed as the text of each outcome and a line feed behind it, and then the summary.
Source paths and reasons are printed as they are. So the lines of the text are those of the outcomes
exactly if no line feed stands in a source path or in a reason (`Report.lineByLine_iff_forall`):
nothing else that is printed can hold one, and one more line feed is one more line, wherever it
stands.

A line tells whose it is by the status and the address that it opens with. These take up the same
number of characters in every line, so that no line opens with two of them.
-/
import Rollup.Proofs.Address
import Rollup.Proofs.Contract.Batches
import Rollup.Proofs.Text.Numeral
import Rollup.Proofs.Text.Parts

set_option autoImplicit false

namespace Rollup

/-! ## Texts without line feeds -/

namespace Text

/-- Digits hold no line feed. -/
theorem feed_not_mem_of_isDigits {s : List Char} (h : IsDigits s) : '\n' ∉ s := by
  intro hmem
  have hfeed : isDecimal '\n' = true := h _ hmem
  exact absurd hfeed (by decide)

theorem toList_decimal (n : Nat) : (decimal n).toList = numeral 10 n := by
  rw [decimal, String.toList_ofList]

@[simp] theorem feed_not_mem_decimal (n : Nat) : '\n' ∉ (decimal n).toList := by
  rw [toList_decimal]
  exact feed_not_mem_of_isDigits (isNumeral_numeral n).digits

@[simp] theorem feed_not_mem_signedDecimal (i : Int) : '\n' ∉ (signedDecimal i).toList := by
  cases i <;> simp [signedDecimal]

end Text

/-- A digit of either case is no line feed. -/
theorem Hex.feed_not_mem_of_spells {text : List Char} {bytes : Bytes} (h : Spells text bytes) :
    '\n' ∉ text := by
  obtain ⟨digits, hmarks, hdigits⟩ := h
  have hall := (exists_digits_iff.mp ⟨bytes, hdigits⟩).2
  have hnot : '\n' ∉ digits := by
    intro hmem
    have hfeed : (lowerDigits ++ upperDigits).all (· ≠ '\n') = true := by decide
    exact of_decide_eq_true ((hall _ hmem).of_all hfeed) rfl
  rcases hmarks with rfl | rfl | rfl
  · exact hnot
  · simp [hnot]
  · simp [hnot]

namespace Contract

/-! ## What a line opens with -/

/-- A status in its column. -/
def Status.column : Status → String
  | .verified => "verified"
  | .failed => "failed  "

/-- The column of a status is its name, filled up with blanks. -/
theorem Status.padded_eq_column (status : Status) : status.padded ' ' .left 8 = status.column := by
  cases status <;> decide

/-- What the line of a record opens with: its status and its address. -/
def opening (status : Status) (a : Address) : List Char :=
  (status.column ++ " " ++ a.checksum ++ " ").toList

/-- The line opens with this status and this address. -/
def OpensWith (line : List Char) (status : Status) (a : Address) : Prop := opening status a <+: line

/-- An opening is the status and the address, with a blank behind each. -/
theorem opening_eq (status : Status) (a : Address) :
    opening status a = status.column.toList ++ ' ' :: (a.checksum.toList ++ [' ']) := by
  simp [opening]

theorem Status.length_column (status : Status) : status.column.toList.length = 8 := by
  cases status <;> decide

theorem Status.column_inj {s t : Status} : s.column = t.column ↔ s = t := by
  cases s <;> cases t <;> simp [column]

/-- All openings have the same length, because the parts of each have. -/
theorem length_opening (status : Status) (a : Address) : (opening status a).length = 52 := by
  simp [opening_eq, status.length_column, a.length_checksum]

/-- An opening says of which status and address it is. -/
theorem opening_injective {s t : Status} {a b : Address} (h : opening s a = opening t b) :
    s = t ∧ a = b := by
  rw [opening_eq, opening_eq] at h
  have hlength : s.column.toList.length = t.column.toList.length := by
    rw [s.length_column, t.length_column]
  obtain ⟨hcolumn, hrest⟩ := List.append_inj h hlength
  rw [List.cons.injEq, List.append_cancel_right_eq] at hrest
  exact ⟨Status.column_inj.mp (String.toList_inj.mp hcolumn),
    Address.checksum_injective (String.toList_inj.mp hrest.2)⟩

/-- An opening stands on one line. -/
theorem feed_not_mem_opening (status : Status) (a : Address) : '\n' ∉ opening status a := by
  have hcolumn : '\n' ∉ status.column.toList := by cases status <;> decide
  have haddress := Hex.feed_not_mem_of_spells a.spells_checksum
  simp [opening_eq, hcolumn, haddress]

/-! ## The line of an outcome -/

namespace Outcome

/-- What stands behind the opening. -/
def details (o : Outcome) : String :=
  o.sourcePath ++ match o.reason with
    | none => ""
    | some reason => " (" ++ reason ++ ")"

/-- Behind its opening a result is written in detail. -/
theorem toList_text (o : Outcome) :
    o.text.toList = opening o.status o.address ++ o.details.toList := by
  cases h : o.reason <;> simp [text, opening, details, key, Key.text, Status.padded_eq_column, h]

/-- **The line of an outcome opens with its own status and address**, and with no other ones. -/
theorem opensWith_text_iff {o : Outcome} {status : Status} {a : Address} :
    OpensWith o.text.toList status a ↔ o.status = status ∧ o.address = a := by
  rw [OpensWith, toList_text]
  constructor
  · intro h
    have hlength : (opening status a).length = (opening o.status o.address).length := by
      rw [length_opening, length_opening]
    have hstart := List.prefix_of_prefix_length_le h (List.prefix_append _ _) (Nat.le_of_eq hlength)
    exact opening_injective (hstart.eq_of_length hlength).symm
  · rintro ⟨rfl, rfl⟩
    exact List.prefix_append _ _

/-- The line feeds in a result are those in its path and its reason. -/
theorem feed_mem_text_iff {o : Outcome} : '\n' ∈ o.text.toList ↔
    '\n' ∈ o.sourcePath.toList ∨ ∃ reason, o.reason = some reason ∧ '\n' ∈ reason.toList := by
  have hopening := feed_not_mem_opening o.status o.address
  rw [toList_text, List.mem_append, or_iff_right hopening, details]
  cases o.reason with
  | none => simp
  | some reason => simp

end Outcome

/-! ## The summary -/

/-- A numeral cannot be taken for a status. -/
theorem not_opensWith_decimal (n : Nat) (rest : List Char) (status : Status) (a : Address) :
    ¬ OpensWith ((Text.decimal n).toList ++ rest) status a := by
  obtain ⟨c, others, hnumeral⟩ := List.exists_cons_of_ne_nil (Text.isNumeral_numeral n).ne_nil
  have hc : Text.isDecimal c = true :=
    (Text.isNumeral_numeral n).digits c (by rw [hnumeral]; exact List.mem_cons_self)
  obtain ⟨letter, column, hcolumn, hletter⟩ : ∃ letter column,
      status.column.toList = letter :: column ∧ Text.isDecimal letter = false := by
    cases status <;> exact ⟨_, _, rfl, by decide⟩
  rw [OpensWith, opening_eq, hcolumn, Text.toList_decimal, hnumeral, List.cons_append,
    List.cons_append, List.cons_prefix_cons]
  rintro ⟨rfl, -⟩
  rw [hc] at hletter
  cases hletter

namespace Report

/-- Verified results are counted as the summary does it. -/
theorem countP_verified (r : Report) :
    r.outcomes.countP (fun o => o.status = .verified) = r.verifiedCount := rfl

/-- Failed results are counted as the summary does it. -/
theorem countP_failed (r : Report) :
    r.outcomes.countP (fun o => o.status = .failed) = r.failedCount := by
  rw [failedCount_eq, failures, ← List.countP_eq_length_filter]
  refine List.countP_congr fun o _ => ?_
  rw [Outcome.isVerified]
  cases o.status <;> simp

/-- The summary stands on one line. -/
theorem feed_not_mem_summary (r : Report) : '\n' ∉ r.summary.toList := by simp [summary]

/-- The summary opens with no status and no address. -/
theorem not_opensWith_summary (r : Report) (status : Status) (a : Address) :
    ¬ OpensWith r.summary.toList status a := by
  rw [summary, String.toList_append, String.toList_append, String.toList_append, List.append_assoc,
    List.append_assoc]
  exact not_opensWith_decimal _ _ status a

/-! ## The lines of a report -/

/-- The lines of the printed report. -/
def lines (r : Report) : List (List Char) := Text.parts '\n' r.text.toList

/-- The printed report has one line for each outcome in turn, and then the summary. The line of an
outcome opens with its status and its address and with no others, and the summary does not open like
the line of a record at all. -/
structure LineByLine (r : Report) : Prop where
  count : r.lines.length = r.outcomes.length + 1
  line : ∀ (i : Nat) (o : Outcome), r.outcomes[i]? = some o → ∃ line,
    r.lines[i]? = some line ∧ line = o.text.toList ∧
    ∀ status a, OpensWith line status a ↔ o.status = status ∧ o.address = a
  last : ∃ line, r.lines[r.outcomes.length]? = some line ∧
    line = (Text.decimal (r.outcomes.countP fun o => o.status = .verified) ++ " verified, " ++
      Text.decimal (r.outcomes.countP fun o => o.status = .failed) ++ " failed").toList ∧
    ∀ status a, ¬ OpensWith line status a

/-- A report is its results and its summary, each behind a line feed but for the first. -/
theorem toList_text (r : Report) :
    r.text.toList = Text.joinLines '\n' (r.outcomes.map (·.text.toList)) r.summary.toList := by
  simp [text, Text.joinLines, String.toList_join, List.flatMap_map]

/-- **Which reports are printed line by line**: those without a line feed in a source path or in a
reason. -/
theorem lineByLine_iff_forall {r : Report} : r.LineByLine ↔ ∀ o ∈ r.outcomes,
    '\n' ∉ o.sourcePath.toList ∧ ∀ reason, o.reason = some reason → '\n' ∉ reason.toList := by
  have hplain (o : Outcome) : ('\n' ∉ o.sourcePath.toList ∧
      ∀ reason, o.reason = some reason → '\n' ∉ reason.toList) ↔ '\n' ∉ o.text.toList := by
    rw [Outcome.feed_mem_text_iff]
    simp only [not_or, not_exists, not_and]
  simp only [hplain]
  constructor
  · intro h
    -- As many lines as there are texts means that no text has a line feed of its own.
    have hcount := h.count
    rw [lines, toList_text, ← List.length_map (fun o : Outcome => o.text.toList),
      Text.length_parts_joinLines_iff] at hcount
    intro o ho
    exact hcount.1 _ (List.mem_map_of_mem ho)
  · intro h
    -- Without line feeds in them the lines are the texts.
    have hlines : r.lines = r.outcomes.map (·.text.toList) ++ [r.summary.toList] := by
      rw [lines, toList_text, Text.parts_joinLines ?_ r.feed_not_mem_summary]
      intro line hline
      obtain ⟨o, ho, rfl⟩ := List.mem_map.mp hline
      exact h o ho
    constructor
    · rw [hlines, List.length_append, List.length_map, List.length_singleton]
    · intro i o ho
      refine ⟨o.text.toList, ?_, rfl, fun status a => Outcome.opensWith_text_iff⟩
      have hi : i < r.outcomes.length := (List.getElem?_eq_some_iff.mp ho).1
      rw [hlines, List.getElem?_append_left (by rwa [List.length_map]), List.getElem?_map, ho]
      rfl
    · refine ⟨r.summary.toList, ?_, ?_, r.not_opensWith_summary⟩
      · rw [hlines, List.getElem?_append_right (by rw [List.length_map]), List.length_map,
          Nat.sub_self]
        rfl
      · rw [countP_verified, countP_failed, summary]

end Report

end Contract

end Rollup
