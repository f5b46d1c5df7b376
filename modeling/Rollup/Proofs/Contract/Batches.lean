/-
A report does not depend on how its outcomes arrive in batches.

A report is sorted again with every batch. By induction on the batches it is the one stable sort of
all outcomes in the order of arrival (`ofBatches_eq`), so nothing is lost or doubled, and outcomes
of one key stay as they came. Where the keys differ, even the order of arrival leaves no trace. Keys
are compared byte by byte (`Key.le_iff`), and the counts of a report are those of its outcomes.
-/
import Rollup.Proofs.Bytes.Order
import Rollup.Proofs.Contract.Sorting
import Rollup.Proofs.Word

set_option autoImplicit false

namespace Rollup.Contract

/-! ## The order of keys -/

/-- A key stands before another one or is the same, byte by byte: the address first, then the source
path. -/
def Key.AtMost (a b : Key) : Prop :=
  Bytes.Precedes a.address.bytes b.address.bytes ∨ a.address.bytes = b.address.bytes ∧
    (a.sourcePath = b.sourcePath ∨
      Bytes.Precedes (Bytes.ofText a.sourcePath.toList) (Bytes.ofText b.sourcePath.toList))

theorem precedes_bytes_iff {a b : Address} :
    Bytes.Precedes a.bytes b.bytes ↔ a.bits.toNat < b.bits.toNat := by
  have hlength : a.bytes.length = b.bytes.length := by rw [a.length_bytes, b.length_bytes]
  rw [Bytes.precedes_iff_value_lt hlength, a.value_bytes, b.value_bytes]

theorem sourcePath_le_iff {s t : String} : s ≤ t ↔ s = t ∨ Before Char.toNat s.toList t.toList := by
  have hle : s ≤ t ↔ ¬ Before Char.toNat t.toList s.toList := Iff.rfl
  rw [hle, not_before_iff fun _ _ => Char.toNat_inj.mp, String.toList_inj]

/-- **Keys are compared byte by byte.** -/
theorem Key.le_iff {a b : Key} : a.le b = true ↔ a.AtMost b := by
  have hbytes : a.address.bytes = b.address.bytes ↔ a.address = b.address :=
    ⟨Address.bytes_injective, congrArg Address.bytes⟩
  rw [AtMost, hbytes, Bytes.ofText_precedes_iff, ← sourcePath_le_iff, precedes_bytes_iff, le]
  by_cases h : a.address = b.address
  · rw [if_pos h, decide_eq_true_iff, h]
    simp
  · -- Two addresses differ as numbers too, so one of them is less.
    have hbits : a.address.bits.toNat ≠ b.address.bits.toNat := fun heq =>
      h (Address.ext_toNat heq)
    rw [if_neg h, Address.le, decide_eq_true_iff]
    constructor
    · intro hle
      exact .inl (Nat.lt_of_le_of_ne hle hbits)
    · rintro (hlt | ⟨heq, -⟩)
      · exact Nat.le_of_lt hlt
      · exact absurd heq h

namespace Report

/-! ## Batches -/

/-- The report on a first batch, extended by others in their order. -/
def ofBatches (first : List Outcome) (others : List (List Outcome)) : Report :=
  others.foldl extend (ofList first)

/-- Sorting again after a batch is sorting once. -/
theorem extend_ofList (a b : List Outcome) : (ofList a).extend b = ofList (a ++ b) := by
  have hsort : sort (sort a ++ b) = sort (a ++ b) := by
    refine eq_of_sorted (sorted_sort _) (sorted_sort _) ?_
    intro k
    rw [filter_sort, filter_sort, ofKey_append, ofKey_append, filter_sort]
  rw [extend, ofList, ofList, hsort]

/-- **Batches are sorted as one list**, by induction on the further ones. -/
theorem ofBatches_eq (first : List Outcome) (others : List (List Outcome)) :
    ofBatches first others = ofList (first ++ others.flatten) := by
  induction others generalizing first with
  | nil => rw [List.flatten_nil, List.append_nil, ofBatches, List.foldl_nil]
  | cons batch others ih =>
    rw [List.flatten_cons, ← List.append_assoc, ← ih, ofBatches, ofBatches, List.foldl_cons,
      extend_ofList]

/-- Outcomes of different keys give one report in every order. -/
theorem ofList_eq_of_perm {a b : List Outcome} (h : a.Perm b) (hn : (a.map Outcome.key).Nodup) :
    ofList a = ofList b := extend_eq_of_perm ⟨[]⟩ h hn

/-! ## Counts -/

theorem verifiedCount_add_failedCount (r : Report) : r.verifiedCount + r.failedCount = r.size := by
  have hle : r.verifiedCount ≤ r.size := List.countP_le_length
  rw [failedCount]
  omega

theorem failedCount_eq (r : Report) : r.failedCount = r.failures.length := by
  have hsplit : r.size = r.verifiedCount + r.failures.length := by
    rw [size, verifiedCount, failures, List.countP_eq_length_filter]
    exact List.length_eq_length_filter_add Outcome.isVerified
  rw [failedCount, hsplit, Nat.add_sub_cancel_left]

theorem failures_eq (r : Report) :
    r.failures = r.outcomes.filter fun o => o.status ≠ .verified := by
  rw [failures]
  refine List.filter_congr fun o _ => ?_
  rw [Outcome.isVerified, decide_not]

theorem isSuccess_iff (r : Report) : r.isSuccess = true ↔ r.failedCount = 0 := by
  rw [failedCount_eq, List.length_eq_zero_iff, failures, List.filter_eq_nil_iff, isSuccess,
    List.all_eq_true]
  simp

/-! ## Every sequence of batches -/

/-- A report holds the outcomes that have arrived, in the order of their keys, and those of one key
in the order in which they came. -/
structure Holds (r : Report) (arrived : List Outcome) : Prop where
  perm : r.outcomes.Perm arrived
  sorted : r.outcomes.Pairwise fun a b => a.key.AtMost b.key
  stable : ∀ k, r.outcomes.filter (fun o => o.key = k) = arrived.filter fun o => o.key = k

theorem holds_ofList (arrived : List Outcome) : (ofList arrived).Holds arrived where
  perm := sort_perm arrived
  sorted := (sorted_sort arrived).imp Key.le_iff.mp
  stable k := filter_sort k arrived

/-- **A report is the stable sort of all that has arrived, however it was divided**, and its counts
are those of its outcomes. -/
theorem ofBatches_exact (first : List Outcome) (others : List (List Outcome)) :
    (∀ a b : Key, a.le b = true ↔ a.AtMost b) ∧
    (ofBatches first others).Holds (first ++ others.flatten) ∧
    ofBatches first others = ofList (first ++ others.flatten) ∧
    (((first ++ others.flatten).map Outcome.key).Nodup → ∀ first' others',
      (first' ++ others'.flatten).Perm (first ++ others.flatten) →
      ofBatches first' others' = ofBatches first others) ∧
    (ofBatches first others).verifiedCount + (ofBatches first others).failedCount =
      (ofBatches first others).size ∧
    (ofBatches first others).failures =
      (ofBatches first others).outcomes.filter (fun o => o.status ≠ .verified) ∧
    (ofBatches first others).failedCount = (ofBatches first others).failures.length ∧
    ((ofBatches first others).isSuccess = true ↔ (ofBatches first others).failedCount = 0) := by
  refine ⟨fun a b => Key.le_iff, ?_, ofBatches_eq first others, ?_,
    verifiedCount_add_failedCount _, failures_eq _, failedCount_eq _, isSuccess_iff _⟩
  · rw [ofBatches_eq]
    exact holds_ofList _
  · -- With distinct keys there is one sorted order only.
    intro hn first' others' hperm
    rw [ofBatches_eq, ofBatches_eq]
    exact (ofList_eq_of_perm hperm.symm hn).symm

/-- Two records at two addresses, and then in the other order and in one batch. -/
theorem ofBatches_exact_twoAddresses :
    ofBatches [⟨.ofNat 2, "A", .verified, none⟩, ⟨.ofNat 1, "A", .failed, some "B"⟩] [] =
      ofBatches [⟨.ofNat 1, "A", .failed, some "B"⟩] [[⟨.ofNat 2, "A", .verified, none⟩]] := by
  obtain ⟨-, -, -, hdivided, -⟩ :=
    ofBatches_exact [⟨.ofNat 1, "A", .failed, some "B"⟩] [[⟨.ofNat 2, "A", .verified, none⟩]]
  exact hdivided (by decide) _ _ (.swap _ _ _)

end Report

end Rollup.Contract
