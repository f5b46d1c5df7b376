/-
What an estimate is, and when there is none.

The fee comes first: if it overflows, nobody is asked for a price. Then a price is asked for once,
and an error of it is passed on. With both there is always an estimate, because the text of an
amount in ether is of the grammar of numbers that can be read. The one who is asked is arbitrary
here, with a state of his own, so that a question shows in the state that is left.
-/
import Rollup.Proofs.Ether
import Rollup.Fee.Estimate
import Rollup.Proofs.Fee.Overflow

set_option autoImplicit false

namespace Rollup.Fee

variable {bytes : Bytes} {p : Parameters} {σ : Type}

/-- A fee is a word, or it is reported as an overflow. -/
theorem fee_eq_overflow_or_ok (h : bytes.length < 2 ^ 60) (p : Parameters) :
    fee bytes p = .error .overflow ∨ ∃ wei, fee bytes p = .ok wei := by
  by_cases hfits : Fits bytes p
  · obtain ⟨wei, hfee, -⟩ := fee_of_fits h hfits
    exact .inr ⟨wei, hfee⟩
  · exact .inl (fee_of_not_fits h hfits)

/-- An amount of wei, as it is written, can be read as a number. -/
theorem exists_read?_format (wei : Word) :
    ∃ amount, Decimal.read? (Ether.format wei).toList = some amount :=
  Option.isSome_iff_exists.mp
    (Decimal.isSome_read?_iff.mpr (Ether.spells_iff.mpr rfl).isLiteral)

/-- What an estimate says: the weight of the bytes, their fee in wei and exactly the same in ether,
and that read as a number, times the price. -/
structure Estimate.Exact (r : Estimate) (bytes : Bytes) (p : Parameters) (price : Float) :
    Prop where
  size : r.size.toNat = 4 * bytes.countP (· = 0) + 16 * bytes.countP (· ≠ 0)
  wei : fee bytes p = .ok r.wei
  ether : Ether.Spells r.wei r.ether.toList
  fiat : ∃ amount, Decimal.read? r.ether.toList = some amount ∧ r.fiat = amount * price
  price : r.price = price

/-! ## The steps of an estimate -/

section Steps

variable {ask : σ → Except PriceError Float × σ} {s : σ} {wei : Word}

theorem estimateAsking_of_overflow (hfee : fee bytes p = .error .overflow) :
    estimateAsking ask bytes p s = (.error (.parameter .overflow), s) := by
  unfold estimateAsking
  rw [hfee]

theorem estimateAsking_of_noPrice {cause : PriceError} (hfee : fee bytes p = .ok wei)
    (hask : (ask s).1 = .error cause) :
    estimateAsking ask bytes p s = (.error (.price cause), (ask s).2) := by
  unfold estimateAsking
  rw [hfee]
  dsimp only
  rw [← Prod.mk.eta (p := ask s), hask]

theorem estimateAsking_of_price {price : Float} (h : bytes.length < 2 ^ 60)
    (hfee : fee bytes p = .ok wei) (hask : (ask s).1 = .ok price) :
    ∃ r : Estimate, estimateAsking ask bytes p s = (.ok r, (ask s).2) ∧ r.Exact bytes p price := by
  obtain ⟨amount, hread⟩ := exists_read?_format wei
  refine ⟨⟨size bytes, wei, Ether.format wei, amount * price, price⟩, ?_, ?_⟩
  · -- The amount is read last, when the price is there.
    unfold estimateAsking
    rw [hfee]
    dsimp only
    rw [← Prod.mk.eta (p := ask s), hask]
    dsimp only
    rw [hread]
  · exact {
      size := toNat_size h
      wei := hfee
      ether := Ether.spells_iff.mpr rfl
      fiat := ⟨amount, hread, rfl⟩
      price := rfl }

end Steps

/-! ## Every estimate -/

variable (p) (ask : σ → Except PriceError Float × σ) (s : σ)

/-- All that an estimate can come to. -/
theorem estimateAsking_cases (h : bytes.length < 2 ^ 60) :
    fee bytes p = .error .overflow ∧
        estimateAsking ask bytes p s = (.error (.parameter .overflow), s) ∨
      (∃ wei cause, fee bytes p = .ok wei ∧ (ask s).1 = .error cause ∧
        estimateAsking ask bytes p s = (.error (.price cause), (ask s).2)) ∨
      ∃ wei price r, fee bytes p = .ok wei ∧ (ask s).1 = .ok price ∧
        estimateAsking ask bytes p s = (.ok r, (ask s).2) ∧ r.Exact bytes p price := by
  rcases fee_eq_overflow_or_ok h p with hfee | ⟨wei, hfee⟩
  · exact .inl ⟨hfee, estimateAsking_of_overflow hfee⟩
  · cases hask : (ask s).1 with
    | error cause => exact .inr (.inl ⟨wei, cause, hfee, rfl, estimateAsking_of_noPrice hfee hask⟩)
    | ok price =>
      obtain ⟨r, hr, hexact⟩ := estimateAsking_of_price h hfee hask
      exact .inr (.inr ⟨wei, price, r, hfee, rfl, hr, hexact⟩)

/-- The errors there are. -/
theorem estimateAsking_eq_error {e : EstimateError} (h : bytes.length < 2 ^ 60)
    (he : (estimateAsking ask bytes p s).1 = .error e) :
    (e = .parameter .overflow ∧ fee bytes p = .error .overflow) ∨
      ∃ cause, e = .price cause ∧ (ask s).1 = .error cause := by
  rcases estimateAsking_cases p ask s h with
    ⟨hfee, hestimate⟩ | ⟨_, cause, -, hask, hestimate⟩ | ⟨_, _, _, -, -, hestimate, -⟩
  · rw [hestimate] at he
    cases he
    exact .inl ⟨rfl, hfee⟩
  · rw [hestimate] at he
    cases he
    exact .inr ⟨cause, rfl, hask⟩
  · rw [hestimate] at he
    cases he

/-- **What an estimate comes to.** An overflow of the fee is reported, and then nobody is asked;
otherwise the price is asked for once, and an error of it is passed on; otherwise there is an
estimate, and it is exact. An overflow is reported only of a fee that overflows, no other error of
the parameters is reported, and it is never the amount that fails: every word is spelled in ether by
the text that is written for it, and that is a number as it may be written. -/
theorem estimateAsking_exact (h : bytes.length < 2 ^ 60) :
    (fee bytes p = .error .overflow ∧
        estimateAsking ask bytes p s = (.error (.parameter .overflow), s) ∨
      (∃ wei cause, fee bytes p = .ok wei ∧ (ask s).1 = .error cause ∧
        estimateAsking ask bytes p s = (.error (.price cause), (ask s).2)) ∨
      ∃ wei price r, fee bytes p = .ok wei ∧ (ask s).1 = .ok price ∧
        estimateAsking ask bytes p s = (.ok r, (ask s).2) ∧ r.Exact bytes p price) ∧
    ((estimateAsking ask bytes p s).1 = .error (.parameter .overflow) ↔
      fee bytes p = .error .overflow) ∧
    (∀ cause, (estimateAsking ask bytes p s).1 = .error (.parameter cause) → cause = .overflow) ∧
    (estimateAsking ask bytes p s).1 ≠ .error .amount ∧
    ∀ wei : Word, Ether.Spells wei (Ether.format wei).toList ∧
      Decimal.IsLiteral (Ether.format wei).toList := by
  have hspells (wei : Word) : Ether.Spells wei (Ether.format wei).toList :=
    Ether.spells_iff.mpr rfl
  -- The three clauses on errors rest on the list of those there are.
  have herror (e : EstimateError) := estimateAsking_eq_error p ask s (e := e) h
  refine ⟨estimateAsking_cases p ask s h, ⟨fun hreported => ?_, fun hfee => ?_⟩, ?_, ?_,
    fun wei => ⟨hspells wei, (hspells wei).isLiteral⟩⟩
  · rcases herror _ hreported with ⟨-, hfee⟩ | ⟨_, hcause, -⟩
    · exact hfee
    · cases hcause
  · rw [estimateAsking_of_overflow hfee]
  · intro cause hreported
    rcases herror _ hreported with ⟨hcause, -⟩ | ⟨_, hcause, -⟩
    · cases hcause
      rfl
    · cases hcause
  · intro hreported
    rcases herror _ hreported with ⟨hcause, -⟩ | ⟨_, hcause, -⟩
    · cases hcause
    · cases hcause

/-- One who counts how often the reference price is asked for: once for three bytes, which cost 51
wei. -/
theorem estimateAsking_exact_threeBytes :
    ([0xFA, 0xCA, 0xDE] : Bytes).length < 2 ^ 60 ∧
    ∃ r, estimateAsking (fun count : Nat => (checkPrice referencePrice, count + 1))
        [0xFA, 0xCA, 0xDE] ⟨1000, 1000, 1000, 1000⟩ 0 = (.ok r, 1) ∧
      r.size.toNat = 48 ∧ r.wei = 51 ∧ r.ether = "0.000000000000000051" := by
  have h : ([0xFA, 0xCA, 0xDE] : Bytes).length < 2 ^ 60 := by decide
  have hprice : checkPrice referencePrice = .ok referencePrice := rfl
  have hok : fee [0xFA, 0xCA, 0xDE] ⟨1000, 1000, 1000, 1000⟩ = .ok 51 := by decide
  obtain ⟨hcases, -⟩ := estimateAsking_exact ⟨1000, 1000, 1000, 1000⟩
    (fun count : Nat => (checkPrice referencePrice, count + 1)) 0 h
  refine ⟨h, ?_⟩
  -- There is a fee and a price, so only the last case is left.
  rcases hcases with ⟨hfee, -⟩ | ⟨_, _, -, hask, -⟩ | ⟨_, _, r, -, -, hestimate, hexact⟩
  · rw [hok] at hfee
    cases hfee
  · rw [hprice] at hask
    cases hask
  · have hwei : r.wei = 51 := by
      have hfee := hexact.wei
      rw [hok] at hfee
      exact (Except.ok.inj hfee).symm
    refine ⟨r, hestimate, hexact.size, hwei, ?_⟩
    rw [← String.toList_inj, Ether.spells_iff.mp hexact.ether, hwei, Ether.toList_format,
      show (51 : Word).toNat / 10 ^ 18 = 0 by decide, show (51 : Word).toNat % 10 ^ 18 = 51 by decide,
      Text.numeral_of_lt (by decide), Text.numeral_of_le (by decide), Text.numeral_of_lt (by decide)]
    rfl

end Rollup.Fee
