/-
A draft is encoded as the transaction that it renders.

A transaction has many renderings: the digits of its recipient and of its calldata are in either
case, a marker may stand in front of them and blanks around them, and a contract creation is no
recipient or a blank one. All of them are encoded as the transaction is, and no other draft is
(`encode_draft`). Of two malformed fields it is the recipient that is reported.
-/
import Rollup.Proofs.Address
import Rollup.Proofs.Text.Blank
import Rollup.Transaction.Draft

set_option autoImplicit false

namespace Rollup

/-! ## Padded digits -/

/-- There are no blanks among digits. -/
theorem Hex.Spells.not_blank {text : List Char} {bytes : Bytes} (h : Hex.Spells text bytes) :
    ∀ c ∈ text, Text.isBlank c = false := by
  obtain ⟨digits, hmarks, hdigits⟩ := h
  have hall : (lowerDigits ++ upperDigits).all (fun c => !Text.isBlank c) = true := by decide
  have hdigit : ∀ c ∈ digits, Text.isBlank c = false := by
    intro c hc
    have hc' := (exists_digits_iff.mp ⟨bytes, hdigits⟩).2 c hc
    exact Bool.not_eq_true' _ ▸ hc'.of_all hall
  obtain rfl | rfl | rfl := hmarks
  · exact hdigit
  · exact List.forall_mem_cons.mpr ⟨rfl, List.forall_mem_cons.mpr ⟨rfl, hdigit⟩⟩
  · exact List.forall_mem_cons.mpr ⟨rfl, List.forall_mem_cons.mpr ⟨rfl, hdigit⟩⟩

/-- Digits with padding around them are what is left when the padding is cut off. -/
theorem Hex.spells_trim_iff {s : List Char} {bytes : Bytes} :
    Hex.Spells (Text.trim s) bytes ↔ ∃ text, Text.Pads s text ∧ Hex.Spells text bytes := by
  constructor
  · exact fun h => ⟨_, Text.pads_trim s, h⟩
  · rintro ⟨text, hpads, htext⟩
    rw [Text.trim_of_pads hpads (Text.isTrimmed_of_forall htext.not_blank)]
    exact htext

namespace Transaction

/-! ## Renderings -/

/-- The text is, between blanks, the digits of the calldata. -/
def RendersData (s : String) (data : Bytes) : Prop :=
  ∃ text, Text.Pads s.toList text ∧ Hex.Spells text data

/-- What may stand for a recipient. -/
inductive RendersRecipient : Option String → Recipient → Prop where
  | absent : RendersRecipient none .create
  | blank {s : String} : Text.isAllBlank s.toList → RendersRecipient (some s) .create
  | digits {s : String} {text : List Char} {a : Address} : Text.Pads s.toList text →
    Hex.Spells text a.bytes → RendersRecipient (some s) (.call a)

/-- The draft is the transaction in text. -/
structure Draft.Renders (draft : Draft) (tx : Transaction) : Prop where
  nonce : draft.nonce = tx.nonce
  gasPrice : draft.gasPrice = tx.gasPrice
  gasLimit : draft.gasLimit = tx.gasLimit
  recipient : RendersRecipient draft.recipient tx.recipient
  value : draft.value = tx.value
  data : RendersData draft.data tx.data
  chainId : draft.chainId = tx.chainId

/-- Between blanks there is an even number of digits, behind an optional marker. -/
def DataFormed (s : String) : Prop :=
  ∃ digits, Hex.Marks (Text.trim s.toList) digits ∧ digits.length % 2 = 0 ∧
    ∀ c ∈ digits, Hex.IsAnyDigit c

/-- There is no text, or nothing but blanks, or between blanks there are forty digits behind an
optional marker. -/
def RecipientFormed : Option String → Prop
  | none => True
  | some s => Text.isAllBlank s.toList ∨ ∃ digits, Hex.Marks (Text.trim s.toList) digits ∧
      digits.length = 40 ∧ ∀ c ∈ digits, Hex.IsAnyDigit c

/-! ## Calldata -/

/-- Data are read as what they render. -/
theorem readData_eq_ok_iff {s : String} {data : Bytes} :
    readData s = .ok data ↔ RendersData s data := by
  rw [RendersData, ← Hex.spells_trim_iff, ← Hex.decode_eq_ok_iff, readData]
  cases Hex.decode (Text.trim s.toList) with
  | error cause => exact iff_of_false nofun nofun
  | ok bytes => simp only [Except.ok.injEq]

/-- What is formed like data renders some. -/
theorem exists_rendersData_iff {s : String} : (∃ data, RendersData s data) ↔ DataFormed s := by
  simp only [RendersData, ← Hex.spells_trim_iff, DataFormed]
  constructor
  · rintro ⟨data, digits, hmarks, hdigits⟩
    exact ⟨digits, hmarks, Hex.exists_digits_iff.mp ⟨data, hdigits⟩⟩
  · rintro ⟨digits, hmarks, hformed⟩
    obtain ⟨data, hdigits⟩ := Hex.exists_digits_iff.mpr hformed
    exact ⟨data, digits, hmarks, hdigits⟩

/-- Anything else is refused, with its cause. -/
theorem readData_of_not_formed {s : String} (h : ¬ DataFormed s) :
    ∃ cause, readData s = .error (.data cause) := by
  rw [readData]
  cases hdecode : Hex.decode (Text.trim s.toList) with
  | error cause => exact ⟨cause, rfl⟩
  | ok data =>
    refine absurd (exists_rendersData_iff.mp ⟨data, readData_eq_ok_iff.mp ?_⟩) h
    rw [readData, hdecode]

/-! ## The recipient -/

/-- A blank recipient stands for the creation of a contract. -/
theorem readRecipient_of_blank {s : String} (h : Text.isAllBlank s.toList) :
    readRecipient (some s) = .ok .create := by
  unfold readRecipient
  dsimp only
  rw [Text.trim_eq_nil_iff.mpr h]

/-- Any other one is read as an address, without the blanks around it. -/
theorem readRecipient_of_not_blank {s : String} (h : ¬ Text.isAllBlank s.toList) :
    readRecipient (some s) = match Address.parse (Text.trim s.toList) with
      | .ok address => .ok (.call address)
      | .error cause => .error (.recipient (String.ofList (Text.trim s.toList)) cause) := by
  unfold readRecipient
  dsimp only
  split
  next hnil => exact absurd (Text.trim_eq_nil_iff.mp hnil) h
  next => rfl

/-- Blanks are no digits of an address. -/
theorem not_blank_of_spells {s : String} {a : Address}
    (h : Hex.Spells (Text.trim s.toList) a.bytes) : ¬ Text.isAllBlank s.toList := by
  intro hblank
  rw [Text.trim_eq_nil_iff.mpr hblank] at h
  -- The empty text has no marker, and no digits are not those of twenty bytes.
  obtain ⟨digits, rfl | hnil | hnil, hdigits⟩ := h
  · have hlength := hdigits.length
    rw [a.length_bytes] at hlength
    cases hlength
  · cases hnil
  · cases hnil

/-- A recipient is read as the one that is rendered. -/
theorem readRecipient_eq_ok_iff {text : Option String} {recipient : Recipient} :
    readRecipient text = .ok recipient ↔ RendersRecipient text recipient := by
  constructor
  · intro h
    cases text with
    | none =>
      cases h
      exact .absent
    | some s =>
      -- A text is either blank or digits, so the two readings never meet.
      by_cases hblank : Text.isAllBlank s.toList
      · rw [readRecipient_of_blank hblank] at h
        cases h
        exact .blank hblank
      · rw [readRecipient_of_not_blank hblank] at h
        cases hparse : Address.parse (Text.trim s.toList) with
        | error cause => rw [hparse] at h; cases h
        | ok a =>
          rw [hparse] at h
          cases h
          exact .digits (Text.pads_trim s.toList) (Address.parse_eq_ok_iff.mp hparse)
  · intro h
    cases h with
    | absent => rfl
    | blank hblank => exact readRecipient_of_blank hblank
    | digits hpads hspells =>
      have htrim := Hex.spells_trim_iff.mpr ⟨_, hpads, hspells⟩
      rw [readRecipient_of_not_blank (not_blank_of_spells htrim),
        Address.parse_eq_ok_iff.mpr htrim]

/-- What is formed like a recipient renders one. -/
theorem exists_rendersRecipient_iff {text : Option String} :
    (∃ recipient, RendersRecipient text recipient) ↔ RecipientFormed text := by
  cases text with
  | none => exact iff_of_true ⟨.create, .absent⟩ trivial
  | some s =>
    rw [RecipientFormed, ← Address.exists_spells_iff]
    constructor
    · rintro ⟨recipient, h⟩
      cases h with
      | blank hblank => exact .inl hblank
      | digits hpads hspells => exact .inr ⟨_, Hex.spells_trim_iff.mpr ⟨_, hpads, hspells⟩⟩
    · rintro (hblank | ⟨a, hspells⟩)
      · exact ⟨.create, .blank hblank⟩
      · exact ⟨.call a, .digits (Text.pads_trim s.toList) hspells⟩

/-- Anything else is refused, and shown without the blanks around it. -/
theorem readRecipient_of_not_formed {text : Option String} (h : ¬ RecipientFormed text) :
    ∃ s cause, text = some s ∧
      readRecipient text = .error (.recipient (String.ofList (Text.trim s.toList)) cause) := by
  cases text with
  | none => exact absurd trivial h
  | some s =>
    have hblank : ¬ Text.isAllBlank s.toList := fun hblank => h (.inl hblank)
    cases hparse : Address.parse (Text.trim s.toList) with
    | error cause =>
      refine ⟨s, cause, rfl, ?_⟩
      rw [readRecipient_of_not_blank hblank, hparse]
    | ok a =>
      have hspells := Address.parse_eq_ok_iff.mp hparse
      exact absurd (.inr (Address.exists_spells_iff.mp ⟨a, hspells⟩)) h

/-! ## The draft -/

/-- A draft is accepted as the transaction that it renders. -/
theorem Draft.check_eq_ok_iff {draft : Draft} {tx : Transaction} :
    draft.check = .ok tx ↔ draft.Renders tx := by
  constructor
  · intro h
    unfold Draft.check at h
    -- The recipient is read before the data, and nothing else can fail.
    cases hrecipient : readRecipient draft.recipient with
    | error e => rw [hrecipient] at h; cases h
    | ok recipient =>
      rw [hrecipient] at h
      cases hdata : readData draft.data with
      | error e => rw [hdata] at h; cases h
      | ok data =>
        rw [hdata] at h
        cases h
        exact ⟨rfl, rfl, rfl, readRecipient_eq_ok_iff.mp hrecipient, rfl,
          readData_eq_ok_iff.mp hdata, rfl⟩
  · intro h
    obtain ⟨hnonce, hprice, hlimit, hrecipient, hvalue, hdata, hchain⟩ := h
    rw [Draft.check, readRecipient_eq_ok_iff.mpr hrecipient, readData_eq_ok_iff.mpr hdata, hnonce,
      hprice, hlimit, hvalue, hchain]
    rfl

/-- A draft renders a transaction exactly if both texts are well-formed. -/
theorem Draft.exists_renders_iff {draft : Draft} :
    (∃ tx, draft.Renders tx) ↔ RecipientFormed draft.recipient ∧ DataFormed draft.data := by
  rw [← exists_rendersRecipient_iff, ← exists_rendersData_iff]
  constructor
  · rintro ⟨tx, h⟩
    exact ⟨⟨tx.recipient, h.recipient⟩, ⟨tx.data, h.data⟩⟩
  · rintro ⟨⟨recipient, hrecipient⟩, ⟨data, hdata⟩⟩
    exact ⟨⟨draft.nonce, draft.gasPrice, draft.gasLimit, recipient, draft.value, data,
      draft.chainId⟩, rfl, rfl, rfl, hrecipient, rfl, hdata, rfl⟩

/-- What is encoded is the transaction that the draft renders. -/
theorem Draft.encode_eq_ok_iff {draft : Draft} {out : Bytes} :
    draft.encode = .ok out ↔ ∃ tx, draft.Renders tx ∧ tx.encode = out := by
  rw [Draft.encode]
  constructor
  · intro h
    cases hcheck : draft.check with
    | error e => rw [hcheck] at h; cases h
    | ok tx =>
      rw [hcheck] at h
      cases h
      exact ⟨tx, Draft.check_eq_ok_iff.mp hcheck, rfl⟩
  · rintro ⟨tx, h, rfl⟩
    rw [Draft.check_eq_ok_iff.mpr h]
    rfl

/-- **A draft is encoded as the transaction that it renders.** It renders one exactly if both its
texts are well-formed. The recipient is checked first, whatever the calldata is. -/
theorem encode_draft (draft : Draft) :
    ((∃ out, draft.encode = .ok out) ↔
      RecipientFormed draft.recipient ∧ DataFormed draft.data) ∧
    (∀ out, draft.encode = .ok out → ∃ tx, draft.Renders tx ∧ tx.encode = out) ∧
    (∀ tx, draft.Renders tx → draft.encode = .ok tx.encode) ∧
    (¬ RecipientFormed draft.recipient → ∃ s cause, draft.recipient = some s ∧
      draft.encode = .error (.recipient (String.ofList (Text.trim s.toList)) cause)) ∧
    (RecipientFormed draft.recipient → ¬ DataFormed draft.data →
      ∃ cause, draft.encode = .error (.data cause)) := by
  refine ⟨?_, fun out => Draft.encode_eq_ok_iff.mp,
    fun tx htx => Draft.encode_eq_ok_iff.mpr ⟨tx, htx, rfl⟩, fun hrecipient => ?_,
    fun hrecipient hdata => ?_⟩
  · rw [← Draft.exists_renders_iff]
    constructor
    · rintro ⟨out, hout⟩
      obtain ⟨tx, htx, -⟩ := Draft.encode_eq_ok_iff.mp hout
      exact ⟨tx, htx⟩
    · rintro ⟨tx, htx⟩
      exact ⟨tx.encode, Draft.encode_eq_ok_iff.mpr ⟨tx, htx, rfl⟩⟩
  · obtain ⟨s, cause, hs, hread⟩ := readRecipient_of_not_formed hrecipient
    refine ⟨s, cause, hs, ?_⟩
    rw [Draft.encode, Draft.check, hread]
    rfl
  · -- The recipient is fine, so the data are reached.
    obtain ⟨recipient, hrenders⟩ := exists_rendersRecipient_iff.mpr hrecipient
    obtain ⟨cause, hread⟩ := readData_of_not_formed hdata
    refine ⟨cause, ?_⟩
    rw [Draft.encode, Draft.check, readRecipient_eq_ok_iff.mpr hrenders, hread]
    rfl

end Transaction

end Rollup
