/-
Outcomes and reports are read back from what is written for them.

The members of an outcome stand in a fixed order, the reason last and only if there is one. Whatever
the strings are, each member is read for what it was written from. A report is read as any JSON
value first, and its array then gives the outcomes in their order. Both hold in one line and laid
out, so also for what the command prints.
-/
import Rollup.CommandLine.VerifyRun
import Rollup.Proofs.Contract.Documents

set_option autoImplicit false

namespace Rollup.Contract

open Json (Named Spells Takes Carries Path Ends IsGap quoted)

/-! ## Outcomes -/

/-- A status is read from its name. -/
theorem Status.takes_read {body : List Char} {status : Status}
    (h : Spells body status.name.toList) : Takes Status.read (quoted body) status := by
  have hname : Status.ofName? status.name.toList = some status := by
    rw [ofName?, String.ofList_toList]
    cases status <;> rfl
  have hstring := Json.takes_readString h
  refine ⟨hstring.begins, ?_⟩
  intro gap rest hgap hrest
  rw [Status.read, Json.skipGap_begins hgap hstring.begins, Json.quoted_append]
  simp only [if_true, Json.takeString_of_spells h, named, hname, Json.required, bind, Except.bind]

namespace Outcome

section

variable {p : Partial} {m : Named}

/-- A member with an address gives it. -/
theorem carries_address {a : Address} (hname : m.name = "address".toList)
    (h : Takes readAddress m.value a) (hp : p.address = none) :
    Carries Partial.member p m ⟨some a, p.sourcePath, p.status, p.reason⟩ := by
  intro rest hrest
  simp [hname, Partial.member, hp, Json.readOnce_none h hrest, bind, Except.bind]

/-- A member with a source path gives it. -/
theorem carries_sourcePath {s : String} (hname : m.name = "sourcePath".toList)
    (h : Takes readText m.value s) (hp : p.sourcePath = none) :
    Carries Partial.member p m ⟨p.address, some s, p.status, p.reason⟩ := by
  intro rest hrest
  simp [hname, Partial.member, hp, Json.readOnce_none h hrest, bind, Except.bind]

/-- A member with a status gives it. -/
theorem carries_status {status : Status} (hname : m.name = "status".toList)
    (h : Takes Status.read m.value status) (hp : p.status = none) :
    Carries Partial.member p m ⟨p.address, p.sourcePath, some status, p.reason⟩ := by
  intro rest hrest
  simp [hname, Partial.member, hp, Json.readOnce_none h hrest, bind, Except.bind]

/-- A member with a reason gives it, and so does one that says that there is none. -/
theorem carries_reason {reason : Option String} (hname : m.name = "reason".toList)
    (h : Takes (Json.readOptional readText) m.value reason) (hp : p.reason = none) :
    Carries Partial.member p m ⟨p.address, p.sourcePath, p.status, some reason⟩ := by
  intro rest hrest
  simp [hname, Partial.member, hp, Json.readOnce_none h hrest, bind, Except.bind]

end

/-- A result is written without any number. -/
theorem sound_toJson (o : Outcome) : o.toJson.Sound := by
  refine .object ?_
  intro m hm
  rcases List.mem_append.mp hm with hm | hm
  · simp only [List.mem_cons, List.not_mem_nil, or_false] at hm
    rcases hm with rfl | rfl | rfl <;> exact .string _
  · cases hreason : o.reason with
    | none => simp [hreason] at hm
    | some reason =>
      simp only [hreason, List.mem_singleton] at hm
      exact hm ▸ .string _

/-- An object whose members lead to an outcome is read as the outcome. -/
theorem takes_read_object {o : Outcome} {p : Partial} {ms : List Named} {inner : List Char}
    (hpath : Path (Carries Partial.member) .empty ms p)
    (hcomplete : ∀ rest, p.complete rest = .ok o)
    (hlisted : Json.Listed (ms.map fun m => m.text) inner) :
    Takes read ('\x7b' :: (inner ++ ['\x7d'])) o := by
  refine ⟨⟨'\x7b', by decide, _, rfl⟩, ?_⟩
  intro gap rest hgap hrest
  rw [List.cons_append, List.append_assoc, List.singleton_append, read, Json.skipGap_append hgap,
    Json.skipGap_cons (by decide)]
  exact Json.readMembers_close hpath hlisted hcomplete

/-- **What is written for an outcome is read as this outcome**, with a reason or without. -/
theorem takes_read {o : Outcome} {text : List Char} (h : o.toJson.Writes text) :
    Takes read text o := by
  cases h with
  | @object _ items inner hwrites hmembers hlisted =>
    obtain ⟨⟨a, va⟩, items, rfl, ha, hmembers⟩ := List.map_eq_cons_iff.mp hmembers
    obtain ⟨⟨b, vb⟩, items, rfl, hb, hmembers⟩ := List.map_eq_cons_iff.mp hmembers
    obtain ⟨⟨c, vc⟩, items, rfl, hc, hlast⟩ := List.map_eq_cons_iff.mp hmembers
    simp only [Prod.mk.injEq, ofList_eq_iff] at ha hb hc
    obtain ⟨⟨ha, rfl⟩, ⟨hb, rfl⟩, hc, rfl⟩ := ha, hb, hc
    simp only [List.forall_mem_cons] at hwrites
    obtain ⟨hwa, hwb, hwc, hwrites⟩ := hwrites
    obtain ⟨body, hbody, haddress⟩ := hwa.string_inv
    obtain ⟨body₂, hbody₂, hsource⟩ := hwb.string_inv
    obtain ⟨body₃, hbody₃, hstatus⟩ := hwc.string_inv
    have hta : Takes readAddress a.value o.address :=
      haddress ▸ takes_readAddress hbody o.address.spells_lower
    have htb : Takes readText b.value o.sourcePath := hsource ▸ takes_readText hbody₂
    have htc : Takes Status.read c.value o.status := hstatus ▸ Status.takes_read hbody₃
    have hpath {ms : List Named} {p : Partial}
        (h : Path (Carries Partial.member) ⟨o.address, o.sourcePath, o.status, none⟩ ms p) :
        Path (Carries Partial.member) .empty (a :: b :: c :: ms) p :=
      .cons (carries_address ha hta rfl) (.cons (carries_sourcePath hb htb rfl)
        (.cons (carries_status hc htc rfl) h))
    obtain ⟨address, sourcePath, status, reason⟩ := o
    cases reason with
    | none =>
      obtain rfl := List.map_eq_nil_iff.mp hlast
      exact takes_read_object (hpath .nil) (fun _ => rfl) hlisted
    | some reason =>
      obtain ⟨⟨d, vd⟩, items, rfl, hd, hlast⟩ := List.map_eq_cons_iff.mp hlast
      obtain rfl := List.map_eq_nil_iff.mp hlast
      simp only [Prod.mk.injEq, ofList_eq_iff] at hd
      obtain ⟨hd, rfl⟩ := hd
      obtain ⟨body₄, hbody₄, hreason⟩ := (hwrites _ List.mem_cons_self).string_inv
      -- A string does not begin like a null.
      have hnull : (quoted body₄).head? ≠ some 'n' := fun h =>
        absurd (Option.some.inj h) (by decide)
      have htd : Takes (Json.readOptional readText) d.value (some reason) :=
        hreason ▸ (takes_readText hbody₄).readOptional hnull
      exact takes_read_object (hpath (.cons (carries_reason hd htd rfl) .nil)) (fun _ => rfl)
        hlisted

end Outcome

/-! ## Reports -/

namespace Report

/-- A text is read as an object whose only member is an array, and the array as the outcomes of a
report in their order. -/
def ReadsBack (r : Report) (text : List Char) : Prop :=
  ∃ items, Json.parse text = .ok (.object [("results", .array items)]) ∧
    Json.readText (Json.readArray Outcome.read) (Json.Value.array items).compact = .ok r.outcomes

/-- So are the results of a report. -/
theorem sound_items (r : Report) : (Json.Value.array (r.outcomes.map Outcome.toJson)).Sound := by
  refine .array ?_
  intro v hv
  obtain ⟨o, -, rfl⟩ := List.mem_map.mp hv
  exact o.sound_toJson

/-- The numbers in a report are numerals. -/
theorem sound_toJson (r : Report) : r.toJson.Sound :=
  .object (List.forall_mem_singleton.mpr r.sound_items)

/-- The array of a report is read as its outcomes. -/
theorem takes_readArray {r : Report} {text : List Char}
    (h : (Json.Value.array (r.outcomes.map Outcome.toJson)).Writes text) :
    Takes (Json.readArray Outcome.read) text r.outcomes := by
  cases h with
  | @array _ items inner hwrites hvalues hlisted =>
    obtain ⟨pairs, houtcomes, rfl⟩ := exists_pairs hvalues
    simp only [List.forall_mem_map] at hwrites
    rw [List.map_map] at hlisted
    rw [← houtcomes]
    exact Json.takes_readArray (fun p hp => Outcome.takes_read (hwrites p hp)) hlisted

/-- What is written for a report is read back, also with white space behind it. -/
theorem readsBack_of_writes {r : Report} {text gap : List Char} (h : r.toJson.Writes text)
    (hgap : IsGap gap) : r.ReadsBack (text ++ gap) := by
  have hitems := (takes_readArray r.sound_items.writes_compact).readText Json.isGap_nil
    Json.isGap_nil
  rw [List.nil_append, List.append_nil] at hitems
  exact ⟨_, Json.parse_of_writes h Json.isGap_nil hgap, hitems⟩

/-- **Outcomes and reports are read back**, in one line, laid out at any depth, and as the command
prints a report when it is asked for JSON. -/
theorem reads_toJson :
    (∀ o : Outcome, Json.readText Outcome.read o.toJson.compact = .ok o ∧
      ∀ depth, Json.readText Outcome.read (o.toJson.pretty depth) = .ok o) ∧
    ∀ r : Report, r.ReadsBack r.toJson.compact ∧ (∀ depth, r.ReadsBack (r.toJson.pretty depth)) ∧
      ∀ (c : CommandLine.VerifyCommand) (requests : List Chain.Request)
        (programs : List (String × List String)),
        r.ReadsBack (CommandLine.Transcript.mk [{ c with json := true }.shown r] requests
          programs).output.toList := by
  constructor
  · intro o
    have hread {text : List Char} (h : o.toJson.Writes text) :
        Json.readText Outcome.read text = .ok o := by
      have htext := (Outcome.takes_read h).readText Json.isGap_nil Json.isGap_nil
      rwa [List.nil_append, List.append_nil] at htext
    exact ⟨hread o.sound_toJson.writes_compact, fun depth => hread (o.sound_toJson.writes_pretty _)⟩
  · intro r
    have hback {text : List Char} (h : r.toJson.Writes text) : r.ReadsBack text := by
      have htext := readsBack_of_writes h Json.isGap_nil
      rwa [List.append_nil] at htext
    refine ⟨hback r.sound_toJson.writes_compact, fun depth => hback (r.sound_toJson.writes_pretty _),
      fun c requests programs => ?_⟩
    -- What is printed ends with a line feed, which is white space behind the value.
    have hline : IsGap ['\n'] := List.forall_mem_singleton.mpr rfl
    have hprinted : (CommandLine.Transcript.mk [{ c with json := true }.shown r] requests
        programs).output.toList = r.toJson.pretty 0 ++ ['\n'] := by
      simp [CommandLine.Transcript.output, CommandLine.VerifyCommand.shown]
    rw [hprinted]
    exact readsBack_of_writes (r.sound_toJson.writes_pretty 0) hline

end Report

end Rollup.Contract
