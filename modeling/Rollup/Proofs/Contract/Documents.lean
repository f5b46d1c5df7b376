/-
Which JSON texts are lists of records, and that each is read as its records.

A record stands in a document as an object whose members give its fields (`Record.Gives`): each
field once, in any order and under any of its names, with unknown members in between. Everything
else is free, as for any JSON text. Reading goes from member to member, and the state depends only
on which fields have been given so far (`Record.part`). So the order does not matter, and a field
that is given again is found out before its value is looked at.

What is written for a topology is one of its documents, in one line and laid out.
-/
import Rollup.Contract.Topology
import Rollup.Proofs.Address
import Rollup.Proofs.Json.Reading
import Rollup.Proofs.Json.Skipping
import Rollup.Proofs.Lists

set_option autoImplicit false

namespace Rollup.Contract

open Json (IsGap Listed Precedes Named Spells WellFormed Takes Ends Carries Path quoted)

/-! ## Documents -/

/-- The fields of a record. -/
inductive Field where
  | sourcePath
  | address
  | optimizerRuns
  | isProxy
  deriving DecidableEq

/-- The field that goes by a name. The source path has two names. -/
def Field.ofName? (name : List Char) : Option Field :=
  if name = "sourcePath".toList ∨ name = "path".toList then some .sourcePath
  else if name = "address".toList then some .address
  else if name = "optimizerRuns".toList then some .optimizerRuns
  else if name = "isProxy".toList then some .isProxy
  else none

/-- The fields that members give, in their order. -/
def fields (ms : List Named) : List Field := ms.filterMap fun m => Field.ofName? m.name

/-- A text is a way of writing a field of a record. An address may be written in any case, with or
without a marker. -/
def Record.Shows (r : Record) (text : List Char) : Field → Prop
  | .sourcePath => ∃ body, Spells body r.sourcePath.toList ∧ text = quoted body
  | .address => ∃ body content, Spells body content ∧ Hex.Spells content r.address.bytes ∧
    text = quoted body
  | .optimizerRuns => Text.IsNumeral text r.optimizerRuns.toNat
  | .isProxy => text = Json.boolText r.isProxy

/-- Members give fields of a record, none of them twice, or are unknown. -/
structure Record.Gives (r : Record) (ms : List Named) : Prop where
  known : ∀ m ∈ ms, ∀ f, Field.ofName? m.name = some f → r.Shows m.value f
  unknown : ∀ m ∈ ms, Field.ofName? m.name = none → WellFormed m.value
  once : (fields ms).Nodup

/-- A text is a way of writing a record as an object. A record that is no proxy need not say so. -/
def Record.Renders (r : Record) (text : List Char) : Prop :=
  ∃ ms inner, r.Gives ms ∧ (∀ f, f ∈ fields ms ∨ (f = .isProxy ∧ r.isProxy = false)) ∧
    Listed (ms.map fun m => m.text) inner ∧ text = '\x7b' :: (inner ++ ['\x7d'])

/-- A text is a JSON array of records, with white space around it. -/
def IsDocument (records : List Record) (text : List Char) : Prop :=
  ∃ items : List (List Char × Record), items.map Prod.snd = records ∧
    (∀ p ∈ items, p.2.Renders p.1) ∧ ∃ gap gap' inner, IsGap gap ∧ IsGap gap' ∧
      Listed (items.map Prod.fst) inner ∧ text = gap ++ (('[' :: (inner ++ [']'])) ++ gap')

/-- A text begins as a JSON array of records, and one of the objects gives a field that it has given
before. It does not matter what comes then. -/
def RepeatsField (text : List Char) : Prop :=
  ∃ (items : List (List Char × Record)) (r : Record) (ms : List Named) (f : Field)
    (body name gap front front' rest : List Char),
    (∀ p ∈ items, p.2.Renders p.1) ∧ r.Gives ms ∧ f ∈ fields ms ∧ Spells body name ∧
    Field.ofName? name = some f ∧ IsGap gap ∧ Precedes (items.map Prod.fst) front ∧
    Precedes (ms.map fun m => m.text) front' ∧
    text = gap ++ '[' :: (front ++ '\x7b' :: (front' ++ (quoted body ++ rest)))

/-! ## Values of fields -/

/-- A string is read as what it spells. -/
theorem takes_readText {body : List Char} {content : String} (h : Spells body content.toList) :
    Takes readText (quoted body) content := by
  have hmap := (Json.takes_readString h).map String.ofList
  rwa [String.ofList_toList] at hmap

/-- A string that spells an address in hexadecimal is read as this address. -/
theorem takes_readAddress {body content : List Char} {a : Address} (hbody : Spells body content)
    (h : Hex.Spells content a.bytes) : Takes readAddress (quoted body) a := by
  have hstring := Json.takes_readString hbody
  refine ⟨hstring.begins, ?_⟩
  intro gap rest hgap hrest
  have hread := hstring.reads Json.isGap_nil hrest
  rw [List.nil_append] at hread
  rw [readAddress, Json.skipGap_begins hgap hstring.begins]
  split
  next heq =>
    -- A string does not begin like an array of bytes.
    rw [Json.quoted_append] at heq
    exact absurd (List.cons.inj heq).1 (by decide)
  next =>
    simp only [hread, Address.parse_eq_ok_iff.mpr h, bind, Except.bind]

/-- A numeral is read as the number of runs. -/
theorem takes_readRuns {text : List Char} {runs : UInt32} (h : Text.IsNumeral text runs.toNat) :
    Takes readRuns text runs := by
  have hmap := (Json.takes_readUnsigned h runs.toNat_lt (by decide)).map UInt32.ofNat
  rwa [UInt32.ofNat_toNat] at hmap

/-! ## Members of records -/

/-- A name is a text if it has its characters. -/
theorem ofList_eq_iff {name : List Char} {s : String} :
    String.ofList name = s ↔ name = s.toList := by
  rw [← String.toList_inj, String.toList_ofList]

namespace Record

/-- Reads the value of a field. -/
def Partial.take (p : Partial) : Field → Json.Reader Partial
  | .sourcePath, text => do
    let (v, rest) ← Json.readOnce p.sourcePath readText text
    .ok (⟨some v, p.address, p.optimizerRuns, p.isProxy⟩, rest)
  | .address, text => do
    let (v, rest) ← Json.readOnce p.address readAddress text
    .ok (⟨p.sourcePath, some v, p.optimizerRuns, p.isProxy⟩, rest)
  | .optimizerRuns, text => do
    let (v, rest) ← Json.readOnce p.optimizerRuns readRuns text
    .ok (⟨p.sourcePath, p.address, some v, p.isProxy⟩, rest)
  | .isProxy, text => do
    let (v, rest) ← Json.readOnce p.isProxy Json.readBool text
    .ok (⟨p.sourcePath, p.address, p.optimizerRuns, some v⟩, rest)

/-- A member is read by its field. -/
theorem Partial.member_eq (p : Partial) (name text : List Char) :
    p.member name text = match Field.ofName? name with
      | some f => p.take f text
      | none => (Json.skipMember text).map fun rest => (p, rest) := by
  simp only [member, Field.ofName?, ofList_eq_iff]
  split_ifs <;> rfl

/-- What is known of a record when some of its fields have been given. -/
def part (r : Record) (given : List Field) : Partial where
  sourcePath := if .sourcePath ∈ given then some r.sourcePath else none
  address := if .address ∈ given then some r.address else none
  optimizerRuns := if .optimizerRuns ∈ given then some r.optimizerRuns else none
  isProxy := if .isProxy ∈ given then some r.isProxy else none

section

variable {r : Record} {given : List Field}

/-- A field that is given for the first time. -/
theorem take_part {f : Field} {m : Named} (hf : f ∉ given) (h : r.Shows m.value f)
    {rest : List Char} (hrest : Ends rest) :
    (r.part given).take f (m.behindName ++ rest) = .ok (r.part (f :: given), rest) := by
  -- Each field has a reader of its own.
  cases f with
  | sourcePath =>
    obtain ⟨body, hbody, hvalue⟩ := h
    have htakes : Takes readText m.value r.sourcePath := hvalue ▸ takes_readText hbody
    simp [Partial.take, part, hf, Json.readOnce_none htakes hrest, bind, Except.bind]
  | address =>
    obtain ⟨body, content, hbody, hcontent, hvalue⟩ := h
    have htakes : Takes readAddress m.value r.address := hvalue ▸ takes_readAddress hbody hcontent
    simp [Partial.take, part, hf, Json.readOnce_none htakes hrest, bind, Except.bind]
  | optimizerRuns =>
    have htakes : Takes readRuns m.value r.optimizerRuns := takes_readRuns h
    simp [Partial.take, part, hf, Json.readOnce_none htakes hrest, bind, Except.bind]
  | isProxy =>
    have htakes : Takes Json.readBool m.value r.isProxy := by
      rw [show m.value = Json.boolText r.isProxy from h]
      exact Json.takes_readBool r.isProxy
    simp [Partial.take, part, hf, Json.readOnce_none htakes hrest, bind, Except.bind]

/-- A field that is given again. -/
theorem take_part_error {f : Field} (hf : f ∈ given) (text : List Char) :
    (r.part given).take f text = .error ⟨.mismatch, text⟩ := by
  cases f <;> simp [Partial.take, part, hf, Json.readOnce_some, bind, Except.bind]

/-- A member for a field that is not yet given adds this field. -/
theorem carries_known {f : Field} {m : Named} (hname : Field.ofName? m.name = some f)
    (hf : f ∉ given) (h : r.Shows m.value f) :
    Carries Partial.member (r.part given) m (r.part (f :: given)) := by
  intro rest hrest
  rw [Partial.member_eq, hname]
  exact take_part hf h hrest

/-- A member for no field changes nothing. -/
theorem carries_unknown {p : Partial} {m : Named} (hname : Field.ofName? m.name = none)
    (h : WellFormed m.value) : Carries Partial.member p m p := by
  intro rest hrest
  rw [Partial.member_eq, hname]
  dsimp only
  rw [Json.skipMember_behindName h hrest]
  rfl

/-- **Members lead to what they give**, by induction on their number. What they give again of the
fields that were given before is nothing. -/
theorem path_part {ms : List Named} (h : r.Gives ms) (hnew : ∀ f ∈ fields ms, f ∉ given) :
    Path (Carries Partial.member) (r.part given) ms (r.part ((fields ms).reverse ++ given)) := by
  -- The induction is on the members, and what is given grows with every known one.
  induction ms generalizing given with
  | nil => exact .nil
  | cons m ms ih =>
    obtain ⟨hknown, hunknown, honce⟩ := h
    have hknown' : ∀ m' ∈ ms, ∀ f, Field.ofName? m'.name = some f → r.Shows m'.value f :=
      fun m' hm' => hknown m' (List.mem_cons_of_mem m hm')
    have hunknown' : ∀ m' ∈ ms, Field.ofName? m'.name = none → WellFormed m'.value :=
      fun m' hm' => hunknown m' (List.mem_cons_of_mem m hm')
    cases hname : Field.ofName? m.name with
    | none =>
      have hfields : fields (m :: ms) = fields ms := List.filterMap_cons_none hname
      rw [hfields] at honce hnew ⊢
      exact .cons (carries_unknown hname (hunknown m List.mem_cons_self hname))
        (ih ⟨hknown', hunknown', honce⟩ hnew)
    | some f =>
      have hfields : fields (m :: ms) = f :: fields ms := List.filterMap_cons_some hname
      rw [hfields] at honce hnew ⊢
      obtain ⟨hf, honce⟩ := List.nodup_cons.mp honce
      -- No field comes twice, so this one is new to the members behind it.
      have hnew' : ∀ g ∈ fields ms, g ∉ f :: given := by
        intro g hg hmem
        rcases List.mem_cons.mp hmem with rfl | hmem
        · exact hf hg
        · exact hnew g (List.mem_cons_of_mem f hg) hmem
      rw [List.reverse_cons, List.append_assoc]
      exact .cons (carries_known hname (hnew f List.mem_cons_self)
          (hknown m List.mem_cons_self f hname))
        (ih ⟨hknown', hunknown', honce⟩ hnew')

/-- A record is complete when every field is given, but for the one that has a default. -/
theorem complete_part (h : ∀ f, f ∈ given ∨ (f = .isProxy ∧ r.isProxy = false))
    (rest : List Char) : (r.part given).complete rest = .ok r := by
  have hgiven : ∀ f, f ≠ .isProxy → f ∈ given := fun f hf => (h f).resolve_right fun hp => hf hp.1
  have hsource := hgiven .sourcePath nofun
  have haddress := hgiven .address nofun
  have hruns := hgiven .optimizerRuns nofun
  have hproxy : (if Field.isProxy ∈ given then some r.isProxy else none).getD false =
      r.isProxy := by
    by_cases hmem : Field.isProxy ∈ given
    · simp [hmem]
    · have hfalse := ((h .isProxy).resolve_left hmem).2
      simp [hmem, hfalse]
  simp [Partial.complete, part, hsource, haddress, hruns, hproxy, Json.required, bind, Except.bind]

end

/-! ## Objects -/

/-- An object is read member by member. -/
theorem read_object {gap : List Char} (hgap : IsGap gap) (inner : List Char) :
    read (gap ++ '\x7b' :: inner) = (do
      let (p, rest) ← Json.readMembers Partial.member (Json.fuelFor inner) true .empty inner
      .ok (← p.complete rest, ← Json.closeObject rest)) := by
  rw [read, Json.skipGap_append hgap, Json.skipGap_cons (by decide)]
  rfl

/-- **An object that renders a record is read as the record.** -/
theorem Renders.takes_read {r : Record} {text : List Char} (h : r.Renders text) :
    Takes read text r := by
  obtain ⟨ms, inner, hgives, hall, hlisted, rfl⟩ := h
  refine ⟨⟨'\x7b', by decide, _, rfl⟩, ?_⟩
  intro gap rest hgap hrest
  have hpath : Path (Carries Partial.member) .empty ms (r.part ((fields ms).reverse ++ [])) :=
    path_part hgives fun _ _ => List.not_mem_nil
  rw [List.append_nil] at hpath
  have hcomplete : ∀ rest, (r.part (fields ms).reverse).complete rest = .ok r :=
    complete_part fun f => (hall f).imp_left List.mem_reverse.mpr
  rw [List.cons_append, List.append_assoc, List.singleton_append, read_object hgap]
  exact Json.readMembers_close hpath hlisted hcomplete

/-- An object that gives a field again is a mismatch. -/
theorem read_repeated {r : Record} {ms : List Named} {f : Field} {body name front rest : List Char}
    (hgives : r.Gives ms) (hf : f ∈ fields ms) (hbody : Spells body name)
    (hname : Field.ofName? name = some f) (hfront : Precedes (ms.map fun m => m.text) front) :
    read ('\x7b' :: (front ++ (quoted body ++ rest))) = .error ⟨.mismatch, rest⟩ := by
  have hpath : Path (Carries Partial.member) .empty ms (r.part ((fields ms).reverse ++ [])) :=
    path_part hgives fun _ _ => List.not_mem_nil
  rw [List.append_nil] at hpath
  have herror : (r.part (fields ms).reverse).member name rest = .error ⟨.mismatch, rest⟩ := by
    rw [Partial.member_eq, hname]
    exact take_part_error (List.mem_reverse.mpr hf) rest
  have hobject := read_object Json.isGap_nil (front ++ (quoted body ++ rest))
  rw [List.nil_append] at hobject
  rw [hobject, Json.readMembers_error hpath hfront hbody herror]
  rfl

end Record

/-! ## What is written for a record -/

namespace Record

/-- The numerals of a record are numerals. -/
theorem sound_toJson (r : Record) : r.toJson.Sound := by
  -- The number of runs has 32 bits, which is within what a reader of numbers keeps exactly.
  have hruns : Json.IsNumber (Text.numeral 10 r.optimizerRuns.toNat) := by
    have hnumeral := Text.isNumeral_numeral r.optimizerRuns.toNat
    have hlt : r.optimizerRuns.toNat < 2 ^ 64 :=
      Nat.lt_trans r.optimizerRuns.toNat_lt (by decide)
    exact ⟨.ofWhole _, Json.Number.sound_ofWhole hnumeral,
      Json.Number.surplus?_ofWhole hnumeral hlt, Json.Number.text_ofWhole _⟩
  refine .object ?_
  intro m hm
  simp only [List.mem_cons, List.not_mem_nil, or_false] at hm
  rcases hm with rfl | rfl | rfl | rfl
  · exact .string _
  · exact .string _
  · exact .number hruns
  · exact .bool _

/-- Members that each give a field of their own. -/
theorem gives_map {r : Record} (ms : List (Named × Field))
    (h : ∀ p ∈ ms, Field.ofName? p.1.name = some p.2 ∧ r.Shows p.1.value p.2)
    (honce : (ms.map Prod.snd).Nodup) :
    r.Gives (ms.map Prod.fst) ∧ fields (ms.map Prod.fst) = ms.map Prod.snd := by
  have hfields : fields (ms.map Prod.fst) = ms.map Prod.snd := by
    rw [fields, List.filterMap_map, ← List.filterMap_eq_map]
    exact List.filterMap_congr fun p hp => (h p hp).1
  refine ⟨⟨?_, ?_, hfields ▸ honce⟩, hfields⟩
  · intro m hm f hf
    obtain ⟨p, hp, rfl⟩ := List.mem_map.mp hm
    rw [(h p hp).1] at hf
    obtain rfl := Option.some.inj hf
    exact (h p hp).2
  · -- All these members are for fields.
    intro m hm hnone
    obtain ⟨p, hp, rfl⟩ := List.mem_map.mp hm
    rw [(h p hp).1] at hnone
    cases hnone

/-- The members are given in the order of the fields. -/
theorem renders_of_writes {r : Record} {text : List Char} (h : r.toJson.Writes text) :
    r.Renders text := by
  cases h with
  | @object _ items inner hwrites hmembers hlisted =>
    obtain ⟨⟨a, va⟩, items, rfl, ha, hmembers⟩ := List.map_eq_cons_iff.mp hmembers
    obtain ⟨⟨b, vb⟩, items, rfl, hb, hmembers⟩ := List.map_eq_cons_iff.mp hmembers
    obtain ⟨⟨c, vc⟩, items, rfl, hc, hmembers⟩ := List.map_eq_cons_iff.mp hmembers
    obtain ⟨⟨d, vd⟩, items, rfl, hd, hmembers⟩ := List.map_eq_cons_iff.mp hmembers
    obtain rfl := List.map_eq_nil_iff.mp hmembers
    -- There are four members, in the order in which they are written.
    simp only [Prod.mk.injEq, ofList_eq_iff] at ha hb hc hd
    obtain ⟨⟨ha, rfl⟩, ⟨hb, rfl⟩, ⟨hc, rfl⟩, hd, rfl⟩ := ha, hb, hc, hd
    simp only [List.forall_mem_cons, List.not_mem_nil] at hwrites
    obtain ⟨hwa, hwb, hwc, hwd, -⟩ := hwrites
    obtain ⟨body, hbody, hsource⟩ := hwa.string_inv
    obtain ⟨body', hbody', haddress⟩ := hwb.string_inv
    obtain ⟨hgives, hfields⟩ : r.Gives [a, b, c, d] ∧
        fields [a, b, c, d] = [.sourcePath, .address, .optimizerRuns, .isProxy] := by
      refine gives_map [(a, .sourcePath), (b, .address), (c, .optimizerRuns), (d, .isProxy)]
        ?_ (by simp)
      simp only [List.forall_mem_cons, ha, hb, hc, hd]
      exact ⟨⟨rfl, body, hbody, hsource⟩,
        ⟨rfl, body', _, hbody', r.address.spells_lower, haddress⟩,
        ⟨rfl, hwc.number_inv ▸ Text.isNumeral_numeral _⟩, ⟨rfl, hwd.bool_inv⟩, nofun⟩
    refine ⟨[a, b, c, d], inner, hgives, ?_, hlisted, rfl⟩
    intro f
    rw [hfields]
    exact .inl (by cases f <;> decide)

end Record

/-! ## Topologies -/

namespace Topology

/-- A document of records is read as these, in any layout. -/
theorem parse_document {records : List Record} {text : List Char} (h : IsDocument records text) :
    parse text = ofRecords records := by
  obtain ⟨items, rfl, hitems, gap, gap', inner, hgap, hgap', hlisted, rfl⟩ := h
  have htakes := Json.takes_readArray (fun p hp => (hitems p hp).takes_read) hlisted
  rw [parse, htakes.readText hgap hgap']

/-- So are those of a topology. -/
theorem sound_toJson (t : Topology) : t.toJson.Sound := by
  refine .array ?_
  intro v hv
  obtain ⟨r, -, rfl⟩ := List.mem_map.mp hv
  exact r.sound_toJson

/-- What is written for a topology is one of its documents. -/
theorem isDocument_of_writes {t : Topology} {text : List Char} (h : t.toJson.Writes text) :
    IsDocument t.records text := by
  cases h with
  | @array _ items inner hwrites hvalues hlisted =>
    obtain ⟨pairs, hrecords, rfl⟩ := exists_pairs hvalues
    simp only [List.forall_mem_map] at hwrites
    refine ⟨pairs, hrecords, fun p hp => Record.renders_of_writes (hwrites p hp), [], [], inner,
      Json.isGap_nil, Json.isGap_nil, ?_, ?_⟩
    · rwa [List.map_map] at hlisted
    · rw [List.nil_append, List.append_nil]

/-- The records of a topology that was accepted are accepted again. -/
theorem ofRecords_records (t : Topology) : ofRecords t.records = .ok t := by
  rw [ofRecords]
  split
  next => rfl
  next e he => exact absurd (t.valid.symm.trans he) nofun

/-- A document that gives a field twice is refused. -/
theorem parse_repeated {text : List Char} (h : RepeatsField text) :
    parse text = .error (.json .mismatch) := by
  obtain ⟨items, r, ms, f, body, name, gap, front, front', rest, hitems, hgives, hf, hbody, hname,
    hgap, hfront, hfront', rfl⟩ := h
  have herror : Record.read (['\x7b'] ++ (front' ++ (quoted body ++ rest))) =
      .error ⟨.mismatch, rest⟩ := Record.read_repeated hgives hf hbody hname hfront'
  have hbegins : Json.Begins ['\x7b'] := ⟨'\x7b', by decide, [], rfl⟩
  have harray := Json.readArray_error (fun p hp => (hitems p hp).takes_read) hfront hgap hbegins
    herror
  rw [List.singleton_append] at harray
  rw [parse, Json.readText, harray]

/-- **Every document is read as its records**, whatever is free in it. What is written for a
topology is read as this topology, and an object that gives a field twice is refused. -/
theorem parse_renderings :
    (∀ records text, IsDocument records text → parse text = ofRecords records) ∧
    (∀ t : Topology, parse t.toJson.compact = .ok t ∧
      ∀ depth, parse (t.toJson.pretty depth) = .ok t) ∧
    ∀ text, RepeatsField text → parse text = .error (.json .mismatch) := by
  have hwritten : ∀ (t : Topology) (text : List Char), t.toJson.Writes text → parse text = .ok t :=
    fun t text h => (parse_document (isDocument_of_writes h)).trans t.ofRecords_records
  refine ⟨fun records text h => parse_document h, fun t => ?_, fun text h => parse_repeated h⟩
  exact ⟨hwritten t _ t.sound_toJson.writes_compact,
    fun depth => hwritten t _ (t.sound_toJson.writes_pretty depth)⟩

end Topology

/-! ### A document with an unknown member, an escape and another order -/

/-- A record that is no proxy, at the zero address. -/
def plainRecord : Record := ⟨"A", .zero, 1, false⟩

/-- Its source path under the other name, with an escape. -/
def plainPath : Named := .ofKey "path" Json.isGap_nil "\"\\u0041\"".toList

/-- Members that give the record. They say nothing about a proxy. -/
def plainMembers : List Named :=
  [.ofKey "optimizerRuns" Json.isGap_blank "1".toList, .ofKey "x" Json.isGap_blank "null".toList,
    plainPath, .ofKey "address" Json.isGap_blank
      "\"0x0000000000000000000000000000000000000000\"".toList]

/-- These members as an object in one line. -/
def plainObject : List Char := Json.enclose '\x7b' '\x7d' (plainMembers.map fun m => m.text)

/-- The escape stands for the path. -/
theorem shows_plainPath : plainRecord.Shows plainPath.value .sourcePath := by
  have hunit : Json.IsUnit ['0', '0', '4', '1'] 'A'.toNat := by
    refine ⟨[0, 0, 4, 1], ?_, rfl, rfl⟩
    exact .cons (by decide) (.cons (by decide) (.cons (by decide) (.cons (by decide) .nil)))
  exact ⟨_, .unit hunit .nil, rfl⟩

/-- So this member alone gives the path. -/
theorem gives_plainPath : plainRecord.Gives [plainPath] :=
  (Record.gives_map [(plainPath, .sourcePath)]
    (List.forall_mem_singleton.mpr ⟨by decide, shows_plainPath⟩) (List.nodup_singleton _)).1

/-- The object is a rendering of the record. -/
theorem renders_plainObject : plainRecord.Renders plainObject := by
  have hzero : Hex.Spells "0x0000000000000000000000000000000000000000".toList Address.zero.bytes :=
    Address.parse_eq_ok_iff.mp (by decide)
  have hgives : plainRecord.Gives plainMembers := by
    refine ⟨?_, ?_, by decide⟩
    · -- One member after the other; the second one is for no field.
      simp only [plainMembers, List.forall_mem_cons]
      refine ⟨?_, nofun, ?_, ?_, nofun⟩
      · intro f hf
        obtain rfl : Field.optimizerRuns = f := Option.some.inj hf
        exact Text.isNumeral_iff.mpr (Text.numeral_of_lt (by decide : 1 < 10)).symm
      · intro f hf
        obtain rfl : Field.sourcePath = f := Option.some.inj hf
        exact shows_plainPath
      · intro f hf
        obtain rfl : Field.address = f := Option.some.inj hf
        exact ⟨_, _, Json.spells_escaped _, hzero, rfl⟩
    · simp only [plainMembers, List.forall_mem_cons]
      exact ⟨nofun, fun _ => .word (by decide), nofun, nofun, nofun⟩
  obtain ⟨inner, hinner, hlisted⟩ :=
    Json.exists_enclose '\x7b' '\x7d' (plainMembers.map fun m => m.text)
  refine ⟨plainMembers, inner, hgives, ?_, hlisted, hinner⟩
  intro f
  -- Only the proxy is not given, and it has a default.
  cases f with
  | isProxy => exact .inr ⟨rfl, rfl⟩
  | _ => exact .inl (by decide)

/-- A document in this layout is read as its record, and one that gives the path twice is none. -/
theorem Topology.parse_renderings_escaped :
    parse ("[\x7b\"optimizerRuns\": 1,\"x\": null,\"path\":\"\\u0041\",\"address\": " ++
      "\"0x0000000000000000000000000000000000000000\"\x7d]\n").toList = ofRecords [plainRecord] ∧
    parse "[\x7b\"path\":\"\\u0041\",\"sourcePath\":\"B\"\x7d]".toList =
      .error (.json .mismatch) := by
  obtain ⟨hdocuments, -, hrepeated⟩ := parse_renderings
  constructor
  · apply hdocuments
    obtain ⟨inner, hinner, hlisted⟩ := Json.exists_enclose '[' ']' [plainObject]
    refine ⟨[(plainObject, plainRecord)], rfl, ?_, [], ['\n'], inner, Json.isGap_nil, ?_, hlisted,
      ?_⟩
    · exact List.forall_mem_singleton.mpr renders_plainObject
    · exact List.forall_mem_singleton.mpr rfl
    · rw [← hinner]
      rfl
  · apply hrepeated
    -- The path is given under one name first, and then under the other.
    have hfirst : Precedes [plainPath.text] _ :=
      .cons Json.isGap_nil .nil Json.isGap_nil Json.isGap_nil
    exact ⟨[], plainRecord, [plainPath], .sourcePath, _, _, [], _, _, ":\"B\"\x7d]".toList, nofun,
      gives_plainPath, by decide, Json.spells_escaped "sourcePath".toList, by decide,
      Json.isGap_nil, .nil Json.isGap_nil, hfirst, rfl⟩

end Rollup.Contract
