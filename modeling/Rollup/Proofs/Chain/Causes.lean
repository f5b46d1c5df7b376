/-
Which failures with a chain of causes are transient.

Behind an error stands its source, behind that the source of the source, and so on (`sources`). Of
the failures of the system that are met on this way the first one decides: the error is transient if
that one is a failure of the connection (`isTransient_custom_iff_head`), whatever stands behind it.
Hence a failure of the connection counts unless one of another kind stands in front of it
(`Overruled`), and layers around an error count only by the outermost failure of the system among
them.
-/
import Rollup.Chain.Error

set_option autoImplicit false

namespace Rollup.Chain

/-! ## Going from source to source -/

/-- The errors that are met from an error on, going to the source of each. What a failure of the
system was made from is not met itself: the source of the failure is the source of what it was made
from. -/
def sources : List Link → List Link
  | [] => []
  | .wrapper text :: cause => .wrapper text :: sources cause
  | .text content :: _ => [.text content]
  | .system kind :: cause => .system kind :: (sources cause).tail

/-- The kind of a failure of the system. -/
def Link.kind? : Link → Option FailureKind
  | .system kind => some kind
  | .wrapper _ => none
  | .text _ => none

/-- The failures of the system among some errors, in their order. -/
def failures (links : List Link) : List FailureKind := links.filterMap Link.kind?

theorem mem_failures_iff {links : List Link} {kind : FailureKind} :
    kind ∈ failures links ↔ .system kind ∈ links := by
  rw [failures, List.mem_filterMap]
  constructor
  · rintro ⟨link, hlink, hkind⟩
    cases link with
    | system k =>
      obtain rfl : k = kind := Option.some.inj hkind
      exact hlink
    | wrapper text => exact nomatch hkind
    | text content => exact nomatch hkind
  · exact fun h => ⟨.system kind, h, rfl⟩

/-! ## The first failure decides -/

/-- The kinds of failures of a connection that was refused, dropped or stalled. -/
def connectionKinds : List FailureKind :=
  [.connectionRefused, .connectionReset, .connectionAborted, .notConnected, .brokenPipe, .timedOut,
    .unexpectedEof]

theorem isConnection_iff_mem (kind : FailureKind) :
    kind.isConnection = true ↔ kind ∈ connectionKinds := by
  cases kind <;> decide

theorem isConnectionFailure_iff_head (chain : List Link) :
    isConnectionFailure chain = true ↔ ∃ kind ∈ (failures (sources chain)).head?,
      kind ∈ connectionKinds := by
  induction chain with
  | nil => exact iff_of_false nofun nofun
  | cons link cause ih =>
    cases link with
    | wrapper text => exact ih
    | system kind =>
      -- What it was made from is behind it, met or not.
      rw [isConnectionFailure, isConnection_iff_mem]
      exact ⟨fun h => ⟨kind, rfl, h⟩, fun ⟨k, hk, h⟩ => Option.some.inj hk ▸ h⟩
    | text content => exact iff_of_false nofun nofun

/-- **An error is transient if the first failure of the system on the way is one of the
connection.** -/
theorem isTransient_custom_iff_head (chain : List Link) :
    (ChainError.transport (.custom chain)).isTransient = true ↔
      ∃ kind ∈ (failures (sources chain)).head?, kind ∈ connectionKinds :=
  isConnectionFailure_iff_head chain

/-- A failure of another kind is met in front of every failure of the connection, of which there is
one. -/
def Overruled (chain : List Link) : Prop :=
  ∃ first others, failures (sources chain) = first :: others ∧ first ∉ connectionKinds ∧
    ∃ kind ∈ connectionKinds, kind ∈ others

/-- Where nothing is overruled, one failure of the connection is as good as the first. -/
theorem exists_head_iff_exists_mem {chain : List Link} :
    ((∃ kind ∈ (failures (sources chain)).head?, kind ∈ connectionKinds) ↔
      ∃ kind ∈ connectionKinds, kind ∈ failures (sources chain)) ↔ ¬ Overruled chain := by
  unfold Overruled
  cases failures (sources chain) with
  | nil => simp
  | cons first others =>
    by_cases hfirst : first ∈ connectionKinds
    · -- The first one is such a failure itself.
      refine iff_of_true (iff_of_true ⟨first, rfl, hfirst⟩ ⟨first, hfirst, List.mem_cons_self⟩) ?_
      rintro ⟨k, ks, hlist, hk, -⟩
      exact hk ((List.cons.inj hlist).1 ▸ hfirst)
    · have hhead : ¬ ∃ kind ∈ (first :: others).head?, kind ∈ connectionKinds :=
        fun ⟨k, hk, h⟩ => hfirst (Option.some.inj hk ▸ h)
      rw [iff_false_left hhead]
      refine not_congr ⟨?_, ?_⟩
      · rintro ⟨kind, hkind, hmem⟩
        rcases List.mem_cons.mp hmem with rfl | hmem
        · exact absurd hkind hfirst
        · exact ⟨first, others, rfl, hfirst, kind, hkind, hmem⟩
      · rintro ⟨k, ks, hlist, -, kind, hkind, hmem⟩
        obtain ⟨rfl, rfl⟩ := List.cons.inj hlist
        exact ⟨kind, hkind, List.mem_cons_of_mem _ hmem⟩

/-! ## Further layers -/

/-- Around an error the outermost failure of the system decides, and without one nothing changes. -/
theorem isConnectionFailure_append {layers : List Link} (hlayers : ∀ content, .text content ∉ layers)
    (chain : List Link) :
    isConnectionFailure (layers ++ chain) =
      ((failures layers).head?.map FailureKind.isConnection).getD (isConnectionFailure chain) := by
  induction layers with
  | nil => rfl
  | cons layer layers ih =>
    have hinner := ih fun content h => hlayers content (List.mem_cons_of_mem _ h)
    cases layer with
    | wrapper text => exact hinner
    | system kind => rfl
    | text content => exact absurd List.mem_cons_self (hlayers content)

/-- **When any failure of the connection counts, and when layers do not matter.** An error is
transient exactly if a failure of the connection is met among its sources, unless that is overruled.
Layers around it, of which each has a cause, leave it transient or permanent as it was exactly if
the outermost failure of the system among them, if there is any, says the same. -/
theorem isTransient_custom_exact {layers : List Link} (hlayers : ∀ content, .text content ∉ layers)
    (chain : List Link) :
    (((ChainError.transport (.custom chain)).isTransient = true ↔
        ∃ kind ∈ connectionKinds, .system kind ∈ sources chain) ↔ ¬ Overruled chain) ∧
    ((ChainError.transport (.custom (layers ++ chain))).isTransient =
        (ChainError.transport (.custom chain)).isTransient ↔
      ∀ kind ∈ (failures layers).head?,
        (kind ∈ connectionKinds ↔ (ChainError.transport (.custom chain)).isTransient = true)) := by
  constructor
  · rw [isTransient_custom_iff_head]
    simp only [← mem_failures_iff]
    exact exists_head_iff_exists_mem
  · have happend : (ChainError.transport (.custom (layers ++ chain))).isTransient =
        ((failures layers).head?.map FailureKind.isConnection).getD
          (ChainError.transport (.custom chain)).isTransient :=
      isConnectionFailure_append hlayers chain
    rw [happend]
    -- Layers without a failure of the system are looked through, and the first one with such a
    -- failure decides.
    cases (failures layers).head? with
    | none => exact iff_of_true rfl nofun
    | some kind =>
      rw [Option.map_some, Option.getD_some, Bool.eq_iff_iff, isConnection_iff_mem]
      exact ⟨fun h k hk => Option.some.inj hk ▸ h, fun h => h kind rfl⟩

/-- A connection that was reset stays transient within a request that ran out of time. -/
theorem isTransient_custom_exact_timedOut :
    (∀ content, Link.text content ∉ [.wrapper "request failed", .system .timedOut]) ∧
    (ChainError.transport (.custom ([.wrapper "request failed", .system .timedOut] ++
      [.wrapper "error sending request", .system .connectionReset]))).isTransient =
        (ChainError.transport (.custom
          [.wrapper "error sending request", .system .connectionReset])).isTransient := by
  have hlayers : ∀ content, Link.text content ∉ [.wrapper "request failed", .system .timedOut] := by
    simp
  refine ⟨hlayers, (isTransient_custom_exact hlayers _).2.mpr ?_⟩
  intro kind hkind
  obtain rfl : .timedOut = kind := Option.some.inj hkind
  decide

/-- A connection that was reset, within a failure of no particular kind. -/
def resetWithin : List Link :=
  [.system .other, .wrapper "error sending request", .system .connectionReset]

/-- That the connection was reset is met among the sources, but it does not count. Without the
failure around it it does. -/
theorem not_isTransient_resetWithin :
    ¬ ((ChainError.transport (.custom resetWithin)).isTransient = true ↔
      ∃ kind ∈ connectionKinds, .system kind ∈ sources resetWithin) ∧
    (ChainError.transport (.custom resetWithin.tail)).isTransient = true := by
  have hmet : ∃ kind ∈ connectionKinds, .system kind ∈ sources resetWithin :=
    ⟨.connectionReset, by decide, by decide⟩
  have hpermanent : (ChainError.transport (.custom resetWithin)).isTransient ≠ true := by decide
  exact ⟨fun h => hpermanent (h.mpr hmet), by decide⟩

end Rollup.Chain
