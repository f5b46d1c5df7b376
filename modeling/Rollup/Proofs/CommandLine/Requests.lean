/-
What an action of a session asks of nodes.

An action sends the same requests whatever was done before. Many of them are repetitions, so that it
is compared by its merged requests with an order of questions: it goes through this order from the
front, and an action that succeeds goes through all of it (`Action.Sends`). Two actions in a row go
through two orders in a row, and where the first one fails the second one is never begun
(`Asks.bind`).
-/
import Rollup.Proofs.CommandLine.Session
import Rollup.Proofs.Lists

set_option autoImplicit false

namespace Rollup.CommandLine.Action

open Chain (Request)

variable {ε α β : Type} {most : Nat} {x : Action ε α} {f : α → Action ε β}
  {S : Request → Prop} {O : List Request → Prop}

/-- The requests that an action sends are those of `S`. Merged, they are the beginning of an
order. -/
structure Sends (x : Action ε α) (most : Nat) (S : Request → Prop) (sent order : List Request) :
    Prop where
  requests : ∀ t, (x.run t).2.requests = t.requests ++ sent
  mem : ∀ q, q ∈ sent ↔ S q
  count : ∀ q, sent.count q ≤ most
  begins : sent.eraseDups <+: order
  complete : ∀ t a, (x.run t).1 = .ok a → sent.eraseDups = order

/-- The action sends the requests of `S` in one of these orders, each one so often at most. -/
def Asks (x : Action ε α) (most : Nat) (S : Request → Prop) (O : List Request → Prop) : Prop :=
  ∃ sent order, O order ∧ x.Sends most S sent order

namespace Asks

theorem congr {T : Request → Prop} (h : x.Asks most S O) (hiff : ∀ q, S q ↔ T q) :
    x.Asks most T O := by
  obtain ⟨sent, order, horder, hsent⟩ := h
  exact ⟨sent, order, horder, hsent.requests, fun q => (hsent.mem q).trans (hiff q), hsent.count,
    hsent.begins, hsent.complete⟩

/-- What may come in one of several orders may come in one of more. -/
theorem mono {O' : List Request → Prop} (h : x.Asks most S O) (himp : ∀ order, O order → O' order) :
    x.Asks most S O' := by
  obtain ⟨sent, order, horder, hsent⟩ := h
  exact ⟨sent, order, himp order horder, hsent⟩

theorem ofExcept (r : Except ε α) : (ofExcept r).Asks most (fun _ => False) (· = []) :=
  ⟨[], [], rfl, fun _ => (List.append_nil _).symm, List.mem_nil_iff, fun _ => Nat.zero_le _,
    List.nil_prefix, fun _ _ _ => rfl⟩

/-- A failure asks nothing, whatever would have been asked. -/
theorem fail (e : ε) (hS : ∀ q, ¬ S q) (hO : ∃ order, O order) :
    (fail e : Action ε α).Asks most S O := by
  -- Nothing is the beginning of any order.
  obtain ⟨order, horder⟩ := hO
  refine ⟨[], order, horder, fun _ => (List.append_nil _).symm, ?_, fun _ => Nat.zero_le _,
    List.nil_prefix, fun _ _ h => nomatch h⟩
  intro q
  exact iff_of_false List.not_mem_nil (hS q)

/-- A request is sent as often as it is attempted. -/
theorem send (request : Request) (run : Chain.Run α) (wrap : ChainError → ε)
    (hpos : 1 ≤ run.starts.length) (hmost : run.starts.length ≤ most) :
    (send request run wrap).Asks most (· = request) (· = [request]) := by
  have hmem (q : Request) : q ∈ run.starts.map (fun _ => request) ↔ q = request := by
    rw [List.mem_map]
    constructor
    · rintro ⟨_, _, rfl⟩
      rfl
    · -- Without an attempt the request would not be sent at all.
      rintro rfl
      obtain ⟨start, hstart⟩ := List.exists_mem_of_length_pos hpos
      exact ⟨start, hstart, rfl⟩
  have hmerged : (run.starts.map fun _ => request).eraseDups = [request] := by
    apply List.perm_singleton.mp
    apply perm_eraseDups (List.nodup_singleton _)
    intro q
    rw [hmem, List.mem_singleton]
  refine ⟨_, _, rfl, fun _ => rfl, hmem, ?_, ?_, fun _ _ _ => hmerged⟩
  · intro q
    calc _ ≤ (run.starts.map fun _ => request).length := List.count_le_length
      _ = run.starts.length := List.length_map _
      _ ≤ most := hmost
  · exact hmerged ▸ List.prefix_rfl

/-- Printing asks nothing. -/
theorem prints {y : Action ε β} (h : y.Asks most S O) (lines : List String) :
    (lines.forM print >>= fun _ => y).Asks most S O := by
  obtain ⟨sent, order, horder, hsent⟩ := h
  have hrun (t : Transcript) : (lines.forM print >>= fun _ => y).run t =
      y.run { t with lines := t.lines ++ lines } := run_bind_ok (run_prints lines)
  refine ⟨sent, order, horder, ?_, hsent.mem, hsent.count, hsent.begins, ?_⟩
  · intro t
    rw [hrun]
    exact hsent.requests _
  · intro t a ha
    rw [hrun] at ha
    exact hsent.complete _ a ha

/-- What follows may ask nothing. -/
theorem bind_quiet (h : x.Asks most S O) (hf : ∀ a t, ((f a).run t).2.requests = t.requests) :
    (x >>= f).Asks most S O := by
  obtain ⟨sent, order, horder, hsent⟩ := h
  -- If both succeed, then the first one has succeeded, so that its order is complete.
  have hrun (t : Transcript) : ((x >>= f).run t).2.requests = (x.run t).2.requests ∧
      ∀ b, ((x >>= f).run t).1 = .ok b → ∃ a, (x.run t).1 = .ok a := by
    rw [run_bind]
    rcases x.run t with ⟨e | a, t'⟩
    · exact ⟨rfl, nofun⟩
    · exact ⟨hf a t', fun _ _ => ⟨a, rfl⟩⟩
  refine ⟨sent, order, horder, ?_, hsent.mem, hsent.count, hsent.begins, ?_⟩
  · intro t
    rw [(hrun t).1]
    exact hsent.requests t
  · intro t b hb
    obtain ⟨a, ha⟩ := (hrun t).2 b hb
    exact hsent.complete t a ha

end Asks

/-! ## One action after the other -/

section

variable {T : Request → Prop} {sent order sent' order' : List Request}

/-- A run adds what it sends. -/
theorem Sends.run {r : Except ε α} (h : x.Sends most S sent order) (hr : x.Gives r)
    (t : Transcript) : ∃ t', x.run t = (r, t') ∧ t'.requests = t.requests ++ sent := by
  obtain ⟨t', hrun, -⟩ := hr t
  refine ⟨t', hrun, ?_⟩
  have hrequests := h.requests t
  rwa [hrun] at hrequests

/-- Behind an error nothing is sent, and the rest of the order stays open. -/
theorem Sends.bind_error {e : ε} (h : x.Sends most S sent order) (hx : x.Gives (.error e))
    (order' : List Request) : (x >>= f).Sends most S sent (order ++ order') := by
  have hrun (t : Transcript) :
      ∃ t', (x >>= f).run t = (.error e, t') ∧ t'.requests = t.requests ++ sent := by
    obtain ⟨t', hrun, hrequests⟩ := h.run hx t
    exact ⟨t', run_bind_error hrun, hrequests⟩
  refine ⟨?_, h.mem, h.count, h.begins.trans (List.prefix_append _ _), ?_⟩
  · intro t
    obtain ⟨t', hrun, hrequests⟩ := hrun t
    rwa [hrun]
  · intro t b hb
    obtain ⟨t', hrun, -⟩ := hrun t
    rw [hrun] at hb
    exact nomatch hb

/-- Behind a result the requests go on, if they are others. -/
theorem Sends.bind_ok {a : α} (h : x.Sends most S sent order) (hx : x.Gives (.ok a))
    (h' : (f a).Sends most T sent' order') (hdisjoint : ∀ q, S q → ¬ T q) :
    (x >>= f).Sends most (fun q => S q ∨ T q) (sent ++ sent') (order ++ order') := by
  have hrun (t : Transcript) :
      ∃ t', (x >>= f).run t = (f a).run t' ∧ t'.requests = t.requests ++ sent := by
    obtain ⟨t', hrun, hrequests⟩ := h.run hx t
    exact ⟨t', run_bind_ok hrun, hrequests⟩
  have hwhole : sent.eraseDups = order := by
    obtain ⟨t', hrun, -⟩ := hx .empty
    exact h.complete .empty a (congrArg Prod.fst hrun)
  -- The two actions share no request, so that merging does not reach from one into the other.
  have hnot : ∀ q ∈ sent, q ∉ sent' := by
    intro q hq hq'
    exact hdisjoint q ((h.mem q).mp hq) ((h'.mem q).mp hq')
  have hmerged : (sent ++ sent').eraseDups = order ++ sent'.eraseDups := by
    rw [eraseDups_append_of_disjoint hnot, hwhole]
  refine ⟨?_, ?_, ?_, ?_, ?_⟩
  · intro t
    obtain ⟨t', hrun, hrequests⟩ := hrun t
    rw [hrun, h'.requests, hrequests, List.append_assoc]
  · intro q
    rw [List.mem_append, h.mem, h'.mem]
  · intro q
    rw [List.count_append]
    by_cases hq : q ∈ sent
    · rw [List.count_eq_zero.mpr (hnot q hq)]
      exact h.count q
    · rw [List.count_eq_zero.mpr hq, Nat.zero_add]
      exact h'.count q
  · rw [hmerged]
    exact (List.prefix_append_right_inj order).mpr h'.begins
  · intro t b hb
    obtain ⟨t', hrun, -⟩ := hrun t
    rw [hrun] at hb
    rw [hmerged, h'.complete t' b hb]

end

/-- **One action after the other** asks what the first one asks, and then what the second one asks
behind a result of the first, if there is one. -/
theorem Asks.bind {P : α → Prop} {T : α → Request → Prop} {O₁ O₂ : List Request → Prop}
    (hx : x.Finds P) (hask : x.Asks most S O₁) (hf : ∀ a, P a → (f a).Asks most (T a) O₂)
    (hrest : ∃ order, O₂ order) (hdisjoint : ∀ q a, S q → ¬ T a q)
    (hO : ∀ order order', O₁ order → O₂ order' → O (order ++ order')) :
    (x >>= f).Asks most (fun q => S q ∨ ∃ a, P a ∧ T a q) O := by
  obtain ⟨r, hr, hP⟩ := hx
  obtain ⟨sent, order, horder, hsent⟩ := hask
  cases r with
  | error e =>
    -- The second action is never begun, so that any order will do for it.
    obtain ⟨order', horder'⟩ := hrest
    refine congr ⟨_, _, hO _ _ horder horder', hsent.bind_error hr order'⟩ fun q => ⟨.inl, ?_⟩
    rintro (hq | ⟨a, ha, -⟩)
    · exact hq
    · exact nomatch (hP a).mpr ha
  | ok a =>
    have ha := (hP a).mp rfl
    obtain ⟨sent', order', horder', hsent'⟩ := hf a ha
    refine congr ⟨_, _, hO _ _ horder horder', hsent.bind_ok hr hsent' fun q => hdisjoint q a⟩
      fun q => or_congr Iff.rfl ⟨fun hq => ⟨a, ha, hq⟩, ?_⟩
    -- The first action has one result only.
    rintro ⟨a', ha', hq⟩
    obtain rfl := Except.ok.inj ((hP a').mpr ha')
    exact hq

/-- Two steps that ask in a fixed order do so one after the other. -/
theorem Asks.bind_eq {P : α → Prop} {T : α → Request → Prop} {order order' : List Request}
    (hx : x.Finds P) (hask : x.Asks most S (· = order))
    (hf : ∀ a, P a → (f a).Asks most (T a) (· = order')) (hdisjoint : ∀ q a, S q → ¬ T a q) :
    (x >>= f).Asks most (fun q => S q ∨ ∃ a, P a ∧ T a q) (· = order ++ order') := by
  refine Asks.bind hx hask hf ⟨order', rfl⟩ hdisjoint ?_
  rintro _ _ rfl rfl
  rfl

/-- A step that asks nothing may come first. -/
theorem Asks.quiet_bind {P : α → Prop} {T : α → Request → Prop} (hx : x.Finds P)
    (hask : x.Asks most (fun _ => False) (· = [])) (hf : ∀ a, P a → (f a).Asks most (T a) O)
    (hrest : ∃ order, O order) : (x >>= f).Asks most (fun q => ∃ a, P a ∧ T a q) O := by
  refine (Asks.bind hx hask hf hrest nofun ?_).congr fun q => ?_
  · rintro _ order rfl horder
    exact horder
  · rw [false_or]

end Rollup.CommandLine.Action
