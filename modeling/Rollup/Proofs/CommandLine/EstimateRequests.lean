/-
What the command that estimates a fee asks the node.

Every step asks at most one question, and the reads of the fee parameters are three questions at the
same time. A step asks only if its answer is not given and if every step before it has found
something. So the requests go through the questions of the command in their order up to the first
step that finds nothing (`asks_run`), and what is given is neither asked for nor changed by any node
(`estimate_requests`).
-/
import Rollup.Proofs.Chain.Calculator
import Rollup.Proofs.Chain.FeeSlots
import Rollup.Proofs.CommandLine.EstimateFlags
import Rollup.Proofs.CommandLine.Requests

set_option autoImplicit false

namespace Rollup.CommandLine

open Chain

namespace EstimateCommand

variable {c : EstimateCommand} {world : World} {k : Option Connection} {most : Nat}

/-! ## Questions -/

/-- The reads of the fee parameters. -/
def slotReads : List Request := FeeSlots.all.map (.storage FeeSlots.contract)

/-- The questions about the transaction that have no answer among what is given. -/
def draftQuestions (c : EstimateCommand) : List Request :=
  (if c.nonce.isNone then c.sender.toList.map .nonce else []) ++
    ((if c.gasPrice.isNone then [.gasPrice] else []) ++
      (if c.chainId.isNone then [.chainId] else []))

/-- All questions of the command, with the reads in some order, if these are the bytes and the
parameters to compare the fee of. -/
def questions (c : EstimateCommand) (reads : List Request) (bytes : Bytes) (p : Fee.Parameters) :
    List Request :=
  c.draftQuestions ++ ((if c.fees.live then reads else []) ++
    c.oracle.toList.map fun oracle => .call oracle (Calculator.call bytes p))

/-- The nonce is given, or else the node answers it. -/
def HasNonce (c : EstimateCommand) (node : Connection) (nonce : UInt64) : Prop :=
  Supplied c.nonce (fun nonce => ∃ sender, c.sender = some sender ∧
    (node.client.nonce node.node sender).answer = .ok nonce) nonce

/-- The gas price is given, or else the node answers it. -/
def HasGasPrice (c : EstimateCommand) (node : Connection) (wei : Word) : Prop :=
  Supplied c.gasPrice (fun wei => ∃ price,
    (node.client.gasPrice node.node).answer = .ok price ∧ wei = price.setWidth 256) wei

/-- What the node is asked about the transaction: each time the answer is not given, and everything
before it has been found. -/
inductive AskedForDraft (c : EstimateCommand) (node : Connection) : Request → Prop where
  | nonce {sender : Address} : c.nonce = none → c.sender = some sender →
    AskedForDraft c node (.nonce sender)
  | gasPrice {nonce : UInt64} : c.HasNonce node nonce → c.gasPrice = none →
    AskedForDraft c node .gasPrice
  | chainId {nonce : UInt64} {price : Word} : c.HasNonce node nonce → c.HasGasPrice node price →
    c.chainId = none → AskedForDraft c node .chainId

/-- What the node is asked about the fee of encoded bytes: the slots of which the read begins, and
the calculator if there is an estimate. -/
inductive AskedForFee (c : EstimateCommand) (files : Files) (node : Connection) (bytes : Bytes) :
    Request → Prop where
  | storage {slot : Word} : c.fees.live = true →
    slot ∈ FeeSlots.all.take (node.client.parameters node.node .start).started →
      AskedForFee c files node bytes (.storage FeeSlots.contract slot)
  | call {p : Fee.Parameters} {e : Fee.Estimate} {oracle : Address} : c.Obtains (some node) p →
    Fee.estimate c.priceSource files bytes p = .ok e → c.oracle = some oracle →
      AskedForFee c files node bytes (.call oracle (Calculator.call bytes p))

/-- What the node is asked in all: about the fee only if there is a transaction that can be
encoded. -/
inductive Asked (c : EstimateCommand) (world : World) : Request → Prop where
  | draft {node : Connection} {q : Request} : c.Connects world (some node) →
    c.AskedForDraft node q → Asked c world q
  | fee {node : Connection} {draft : Transaction.Draft} {bytes : Bytes} {q : Request} :
    c.Connects world (some node) → c.Gathers (some node) draft → draft.encode = .ok bytes →
    c.AskedForFee world.files node bytes q → Asked c world q

/-- With a connection at hand, its node is the one that is asked. -/
theorem hasNonce_iff {node : Connection} {nonce : UInt64} :
    Supplied c.nonce (fun nonce => ∃ other sender, some node = some other ∧
      c.sender = some sender ∧ (other.client.nonce other.node sender).answer = .ok nonce) nonce ↔
      c.HasNonce node nonce := by
  simp [HasNonce]

/-- So it is for the gas price. -/
theorem hasGasPrice_iff {node : Connection} {wei : Word} :
    Supplied c.gasPrice (fun wei => ∃ other price, some node = some other ∧
      (other.client.gasPrice other.node).answer = .ok price ∧ wei = price.setWidth 256) wei ↔
      c.HasGasPrice node wei := by
  simp [HasGasPrice]

/-! ## The steps -/

/-- A step that sends a request asks this one, as often as the client tries. -/
theorem asks_ask {α β : Type} {client : Client} (hmost : client.policy.attempts ≤ most)
    (node : Node) (r : Request) {run : Run α} {reader : Json.Value → Option β}
    (hrun : run.starts = (client.ask node r reader).starts) (wrap : ChainError → EstimateFailure) :
    (Action.send r run wrap).Asks most (· = r) (· = [r]) := by
  obtain ⟨hzero, hle⟩ := client.starts_ask node r reader
  refine .send r run wrap ?_ ?_
  · rw [hrun]
    exact List.length_pos_of_mem hzero
  · rw [hrun]
    exact Nat.le_trans hle hmost

/-- To connect asks nothing. -/
theorem asks_connect (c : EstimateCommand) (world : World) :
    (c.connect world).Asks most (fun _ => False) (· = []) := by
  unfold connect
  split
  · exact .ofExcept _
  · split
    · exact .ofExcept _
    · exact .ofExcept _

/-- Every read that is on its way has made an attempt, and not too many. -/
theorem begun_parameters {client : Client} (hmost : client.policy.attempts ≤ most) (node : Node) :
    (∀ r ∈ (client.parameters node .start).reads, r.begun ≠ [] ∧ r.begun.length ≤ most) ∧
      1 ≤ (client.parameters node .start).started ∧
      ∀ p, (client.parameters node .start).answer = .ok p →
        (client.parameters node .start).started = FeeSlots.all.length := by
  have hjoins := fetchParameters_joins (client.storage node FeeSlots.contract) .start
  change (client.parameters node .start).Joins _ _ _ _ at hjoins
  -- The reads that have begun are the ones of the first slots.
  obtain ⟨hruns, hpos, hall⟩ := hjoins.started (List.cons_ne_nil _ _)
  refine ⟨fun r hr => ?_, hpos, hall⟩
  have hrun : r.run ∈ (FeeSlots.all.take (client.parameters node .start).started).map
      (client.storage node FeeSlots.contract) := hruns ▸ List.mem_map_of_mem hr
  obtain ⟨slot, -, hslot⟩ := List.mem_map.mp hrun
  have hstarts := client.starts_ask node (.storage FeeSlots.contract slot)
    fun v => (readNumber 256 v).map (BitVec.ofNat 256)
  exact Reading.begun_bounds ⟨hslot ▸ hstarts.1, hslot ▸ Nat.le_trans hstarts.2 hmost⟩

theorem injective_storage (account : Address) : Function.Injective (Request.storage account) := by
  intro slot slot' h
  injection h

/-- The reads answer together, and each of their attempts is a request. -/
theorem run_askParameters (node : Connection) (t : Transcript) :
    ((askParameters node).run t).1 =
      (node.client.parameters node.node .start).answer.mapError .chain ∧
    ((askParameters node).run t).2.requests = t.requests ++
      ((node.client.parameters node.node .start).attempts.map (·.2)).map
        (.storage FeeSlots.contract) := by
  rw [List.map_map]
  exact ⟨rfl, rfl⟩

/-- The reads ask for the slots at which they have begun, and for all of them if they succeed. -/
theorem asks_askParameters {node : Connection} (hmost : node.client.policy.attempts ≤ most) :
    (askParameters node).Asks most
      (fun q => ∃ slot ∈ FeeSlots.all.take (node.client.parameters node.node .start).started,
        q = .storage FeeSlots.contract slot)
      (·.Perm slotReads) := by
  obtain ⟨hbegun, -, hall⟩ := begun_parameters hmost node.node
  have hrun := run_askParameters node
  -- From here on it only counts which reads have begun.
  generalize node.client.parameters node.node .start = f at hbegun hall hrun ⊢
  have hmem (q : Request) : q ∈ (f.attempts.map (·.2)).map (.storage FeeSlots.contract) ↔
      q ∈ (FeeSlots.all.take f.started).map (.storage FeeSlots.contract) := by
    rw [List.mem_map, List.mem_map]
    exact exists_congr fun slot => and_congr_left fun _ =>
      Fetch.mem_attempts_iff fun r hr => (hbegun r hr).1
  -- The three slots differ, so that nothing is merged by mistake.
  have hnodup : ((FeeSlots.all.take f.started).map
      (Request.storage FeeSlots.contract)).Nodup := by
    apply List.Nodup.map (injective_storage _)
    exact List.Nodup.sublist (List.take_sublist _ _) (by decide)
  have hmerged := perm_eraseDups hnodup hmem
  refine ⟨_, _, ?_, fun t => (hrun t).2, fun q => (hmem q).trans ?_, ?_, List.prefix_append _
    ((FeeSlots.all.drop f.started).map (.storage FeeSlots.contract)), ?_⟩
  · -- Behind the reads that have begun stand the others in any order.
    have hperm := hmerged.append_right
      ((FeeSlots.all.drop f.started).map (Request.storage FeeSlots.contract))
    rwa [← List.map_append, List.take_append_drop] at hperm
  · rw [List.mem_map]
    exact exists_congr fun slot => and_congr_right fun _ => eq_comm
  · exact count_map_le (injective_storage _) (Fetch.count_attempts_le fun r hr => (hbegun r hr).2)
  · intro t p hp
    rw [(hrun t).1] at hp
    have hanswer := hall p (Action.mapError_eq_ok_iff.mp hp)
    rw [hanswer, List.drop_length, List.map_nil, List.append_nil]

section

variable (hmost : ∀ node, k = some node → node.client.policy.attempts ≤ most)

include hmost

/-- The nonce is asked for if it is not given and there is somebody to ask about. -/
theorem asks_nonce : (c.findNonce k).Asks most
    (fun q => ∃ node sender, k = some node ∧ c.nonce = none ∧ c.sender = some sender ∧
      q = .nonce sender)
    (· = if c.nonce.isNone then c.sender.toList.map .nonce else []) := by
  unfold findNonce
  cases hnonce : c.nonce with
  | some nonce => exact (Action.Asks.ofExcept _).congr fun q => by simp
  | none =>
    rcases k with _ | node
    · exact .fail _ (by simp) ⟨_, rfl⟩
    · cases hsender : c.sender with
      | none => exact .fail _ (by simp) ⟨_, rfl⟩
      | some sender =>
        exact (asks_ask (hmost node rfl) node.node _ rfl _).congr fun q => by simp

/-- The gas price is asked for if it is not given. -/
theorem asks_gasPrice : (c.findGasPrice k).Asks most
    (fun q => ∃ node, k = some node ∧ c.gasPrice = none ∧ q = .gasPrice)
    (· = if c.gasPrice.isNone then [.gasPrice] else []) := by
  unfold findGasPrice
  cases hprice : c.gasPrice with
  | some price => exact (Action.Asks.ofExcept _).congr fun q => by simp
  | none =>
    rcases k with _ | node
    · exact .fail _ (by simp) ⟨_, rfl⟩
    · exact ((asks_ask (hmost node rfl) node.node _ rfl _).bind_quiet fun _ _ => rfl).congr
        fun q => by simp

/-- The chain is asked for if it is not given. -/
theorem asks_chainId : (c.findChainId k).Asks most
    (fun q => ∃ node, k = some node ∧ c.chainId = none ∧ q = .chainId)
    (· = if c.chainId.isNone then [.chainId] else []) := by
  unfold findChainId
  cases hid : c.chainId with
  | some id => exact (Action.Asks.ofExcept _).congr fun q => by simp
  | none =>
    rcases k with _ | node
    · exact .fail _ (by simp) ⟨_, rfl⟩
    · exact (asks_ask (hmost node rfl) node.node _ rfl _).congr fun q => by simp

/-- For a transaction the three are asked for one after the other. -/
theorem asks_draft : (c.findDraft k).Asks most
    (fun q => ∃ node, k = some node ∧ c.AskedForDraft node q) (· = c.draftQuestions) := by
  refine (Action.Asks.bind_eq (c.finds_nonce k) (asks_nonce hmost) (fun nonce _ =>
    Action.Asks.bind_eq (c.finds_gasPrice k) (asks_gasPrice hmost) (fun price _ =>
      (asks_chainId hmost).bind_quiet fun _ _ => rfl) ?_) ?_).congr ?_
  · -- No two steps ask the same question.
    rintro _ _ ⟨_, _, _, rfl⟩ ⟨_, _, _, hq⟩
    exact nomatch hq
  · rintro _ _ ⟨_, _, _, _, _, rfl⟩ (⟨_, _, _, hq⟩ | ⟨_, _, _, _, _, hq⟩)
    · exact nomatch hq
    · exact nomatch hq
  · intro q
    -- Both ways say which steps have found something before.
    constructor
    · rintro (⟨node, sender, rfl, hnonce, hsender, rfl⟩ | ⟨nonce, hnonce, ⟨node, rfl, hprice, rfl⟩ |
        ⟨price, hprice, node, rfl, hid, rfl⟩⟩)
      · exact ⟨node, rfl, .nonce hnonce hsender⟩
      · exact ⟨node, rfl, .gasPrice (hasNonce_iff.mp hnonce) hprice⟩
      · exact ⟨node, rfl, .chainId (hasNonce_iff.mp hnonce) (hasGasPrice_iff.mp hprice) hid⟩
    · rintro ⟨node, rfl, hq⟩
      cases hq with
      | nonce hnonce hsender => exact .inl ⟨node, _, rfl, hnonce, hsender, rfl⟩
      | gasPrice hnonce hprice =>
        exact .inr ⟨_, hasNonce_iff.mpr hnonce, .inl ⟨node, rfl, hprice, rfl⟩⟩
      | chainId hnonce hprice hid =>
        exact .inr ⟨_, hasNonce_iff.mpr hnonce, .inr ⟨_, hasGasPrice_iff.mpr hprice, node, rfl,
          hid, rfl⟩⟩

/-- The slots are read if no parameters are given. -/
theorem asks_parameters : (c.findParameters k).Asks most
    (fun q => ∃ node slot, k = some node ∧ c.fees.live = true ∧
      slot ∈ FeeSlots.all.take (node.client.parameters node.node .start).started ∧
      q = .storage FeeSlots.contract slot)
    (fun order => ∃ reads, reads.Perm slotReads ∧ order = if c.fees.live then reads else []) := by
  unfold findParameters
  cases hlive : c.fees.live with
  | false =>
    refine ((Action.Asks.ofExcept _).congr fun q => by simp).mono ?_
    rintro _ rfl
    -- Nothing is asked, so any order of the reads will do.
    exact ⟨slotReads, .refl _, rfl⟩
  | true =>
    rcases k with _ | node
    · exact .fail _ (by simp) ⟨_, slotReads, .refl _, rfl⟩
    · refine ((asks_askParameters (hmost node rfl)).congr fun q => ?_).mono ?_
      · simp
      · exact fun order horder => ⟨order, horder, rfl⟩

/-- The calculator is asked if it is named. -/
theorem asks_compare (bytes : Bytes) (p : Fee.Parameters) : (c.compare k bytes p).Asks most
    (fun q => ∃ node oracle, k = some node ∧ c.oracle = some oracle ∧
      q = .call oracle (Calculator.call bytes p))
    (· = c.oracle.toList.map fun oracle => .call oracle (Calculator.call bytes p)) := by
  unfold compare
  cases horacle : c.oracle with
  | none => exact (Action.Asks.ofExcept _).congr fun q => by simp
  | some oracle =>
    rcases k with _ | node
    · exact .fail _ (by simp) ⟨_, rfl⟩
    · refine Action.Asks.congr (Action.Asks.bind_quiet
        (asks_ask (hmost node rfl) node.node _ Client.starts_dataFee _) fun _ _ => rfl) fun q => ?_
      simp

/-- An estimate asks nothing itself, and the comparison comes behind it. -/
theorem asks_comparison (files : Files) (bytes : Bytes) (p : Fee.Parameters) :
    ((do
      let e ← Action.ofExcept ((Fee.estimate c.priceSource files bytes p).mapError .fee)
      (report bytes e).forM Action.print
      c.compare k bytes p) : Estimating Unit).Asks most
    (fun q => ∃ e node oracle, Fee.estimate c.priceSource files bytes p = .ok e ∧ k = some node ∧
      c.oracle = some oracle ∧ q = .call oracle (Calculator.call bytes p))
    (fun order => ∃ p, order =
      c.oracle.toList.map fun oracle => .call oracle (Calculator.call bytes p)) := by
  refine ((Action.Asks.quiet_bind (.ofExcept _) (.ofExcept _) (fun e _ =>
    (asks_compare hmost bytes p).prints (report bytes e)) ⟨_, rfl⟩).congr fun q => ?_).mono
      fun order horder => ⟨p, horder⟩
  simp [Action.mapError_eq_ok_iff]

/-- For a fee the parameters are read first. -/
theorem asks_fee (files : Files) (bytes : Bytes) :
    ((do
      let p ← c.findParameters k
      let e ← Action.ofExcept ((Fee.estimate c.priceSource files bytes p).mapError .fee)
      (report bytes e).forM Action.print
      c.compare k bytes p) : Estimating Unit).Asks most
    (fun q => ∃ node, k = some node ∧ c.AskedForFee files node bytes q)
    (fun order => ∃ reads bytes p, reads.Perm slotReads ∧
      order = (if c.fees.live then reads else []) ++
        c.oracle.toList.map fun oracle => .call oracle (Calculator.call bytes p)) := by
  refine (Action.Asks.bind (c.finds_parameters k) (asks_parameters hmost)
    (fun p _ => asks_comparison hmost files bytes p) ?_ ?_ ?_).congr fun q => ⟨?_, ?_⟩
  · exact ⟨_, .reference, rfl⟩
  · -- A read of the storage is no call of the calculator.
    rintro _ _ ⟨_, _, _, _, _, rfl⟩ ⟨_, _, _, _, _, _, hq⟩
    exact nomatch hq
  · rintro _ _ ⟨reads, hreads, rfl⟩ ⟨p, rfl⟩
    exact ⟨reads, bytes, p, hreads, rfl⟩
  · rintro (⟨node, slot, rfl, hlive, hslot, rfl⟩ | ⟨p, hp, e, node, oracle, he, rfl, horacle, rfl⟩)
    · exact ⟨node, rfl, .storage hlive hslot⟩
    · exact ⟨node, rfl, .call hp he horacle⟩
  · rintro ⟨node, rfl, hq⟩
    cases hq with
    | storage hlive hslot => exact .inl ⟨node, _, rfl, hlive, hslot, rfl⟩
    | call hp he horacle => exact .inr ⟨_, hp, _, node, _, he, rfl, horacle, rfl⟩

end

/-- A node is asked at least once. -/
theorem Connects.attempts {node : Connection} (h : c.Connects world (some node)) :
    node.client.policy.attempts = max 1 c.node.attempts.toNat := by
  cases h
  rfl

/-- **The requests of the command** go through its questions from the front. -/
theorem asks_run (c : EstimateCommand) (world : World) :
    (c.run world).Asks (max 1 c.node.attempts.toNat) (c.Asked world)
      (fun order => ∃ reads bytes p, reads.Perm slotReads ∧ order = c.questions reads bytes p) := by
  have hmost {k} (hk : c.Connects world k) (node : Connection) (hnode : k = some node) :
      node.client.policy.attempts ≤ max 1 c.node.attempts.toNat := by
    subst hnode
    exact Nat.le_of_eq hk.attempts
  have hencoded {k} (hk : c.Connects world k) (draft : Transaction.Draft) :=
    Action.Asks.quiet_bind (.ofExcept (draft.encode.mapError EstimateFailure.encoding)) (.ofExcept _)
      (fun bytes _ => asks_fee (c := c) (hmost hk) world.files bytes)
      ⟨_, slotReads, [], .reference, .refl _, rfl⟩
  refine (Action.Asks.quiet_bind (c.finds_connect world) (asks_connect c world) (fun k hk =>
    Action.Asks.bind (O := fun order => ∃ reads bytes p, reads.Perm slotReads ∧
      order = c.questions reads bytes p) (c.finds_draft k) (asks_draft (hmost hk))
        (fun draft _ => hencoded hk draft) ?_ ?_ ?_) ?_).congr fun q => ⟨?_, ?_⟩
  · -- If there is no transaction, then there are no bytes either, and any will do.
    exact ⟨_, slotReads, [], .reference, .refl _, rfl⟩
  · -- What is asked about the transaction is not asked about the fee.
    rintro q draft ⟨node, -, hq⟩ ⟨bytes, -, node', -, hq'⟩
    cases hq <;> exact nomatch hq'
  · rintro _ _ rfl ⟨reads, bytes, p, hreads, rfl⟩
    exact ⟨reads, bytes, p, hreads, rfl⟩
  · exact ⟨_, slotReads, [], .reference, .refl _, rfl⟩
  · rintro ⟨k, hk, ⟨node, rfl, hq⟩ | ⟨draft, hdraft, bytes, hbytes, node, rfl, hq⟩⟩
    · exact .draft hk hq
    · exact .fee hk hdraft (Action.mapError_eq_ok_iff.mp hbytes) hq
  · intro hq
    cases hq with
    | draft hk hq => exact ⟨_, hk, .inl ⟨_, rfl, hq⟩⟩
    | fee hk hdraft hbytes hq =>
      exact ⟨_, hk, .inr ⟨_, hdraft, _, Action.mapError_eq_ok_iff.mpr hbytes, _, rfl, hq⟩⟩

/-! ## What is given -/

/-- What is given is used as it is given. -/
structure UsesGiven (c : EstimateCommand) (draft : Transaction.Draft) (p : Fee.Parameters) :
    Prop where
  nonce : ∀ nonce, c.nonce = some nonce → draft.nonce = nonce
  gasPrice : ∀ price, c.gasPrice = some price → draft.gasPrice = price
  chainId : ∀ id, c.chainId = some id → draft.chainId = id
  parameters : c.fees.live = false → c.fees.parameters = .ok p

/-- What is supplied is what is given, if anything is. -/
theorem Supplied.eq_given {α : Type} {given : Option α} {Answers : α → Prop} {a b : α}
    (h : Supplied given Answers a) (hgiven : given = some b) : a = b := by
  rcases h with h | ⟨hnone, -⟩
  · exact Option.some.inj (h.symm.trans hgiven)
  · exact nomatch hnone.symm.trans hgiven

/-- An estimate uses what is given. -/
theorem Estimates.usesGiven {draft : Transaction.Draft} {bytes : Bytes} {p : Fee.Parameters}
    {e : Fee.Estimate} (h : c.Estimates world k draft bytes p e) : c.UsesGiven draft p := by
  refine ⟨fun _ => h.gathers.nonce.eq_given, fun _ => h.gathers.gasPrice.eq_given,
    fun _ => h.gathers.chainId.eq_given, fun hgiven => ?_⟩
  rcases h.obtains with ⟨hlive, -, -⟩ | ⟨-, hp⟩
  · exact nomatch hgiven.symm.trans hlive
  · exact hp

/-- The comparison only adds lines. -/
theorem lines_compare (c : EstimateCommand) (k : Option Connection) (bytes : Bytes)
    (p : Fee.Parameters) (t : Transcript) :
    ∃ more, ((c.compare k bytes p).run t).2.lines = t.lines ++ more := by
  by_cases horacle : c.oracle = none
  · rw [run_compare_of_none horacle]
    exact ⟨[], (List.append_nil _).symm⟩
  · by_cases hfee : ∃ fee, c.Compares k bytes p fee
    · obtain ⟨fee, hfee⟩ := hfee
      obtain ⟨t', hrun, hlines⟩ := run_compare_of_fee hfee t
      rw [hrun]
      exact ⟨_, hlines⟩
    · -- Without a fee to compare with nothing is printed.
      obtain ⟨e, t', hrun, hlines⟩ :=
        run_compare_of_no_fee horacle (fun fee h => hfee ⟨fee, h⟩) t
      rw [hrun]
      exact ⟨[], hlines.trans (List.append_nil _).symm⟩

/-- What is printed at all begins with an estimate that uses what is given. -/
theorem lines_run (c : EstimateCommand) (world : World) :
    ((c.run world).run .empty).2.lines = [] ∨
      ∃ k draft bytes p e, c.Estimates world k draft bytes p e ∧ c.UsesGiven draft p ∧
        report bytes e <+: ((c.run world).run .empty).2.lines := by
  by_cases hall : ∀ k draft bytes p e, ¬ c.Estimates world k draft bytes p e
  · obtain ⟨e, t, hrun, hlines⟩ := run_of_not_estimates hall .empty
    rw [hrun, hlines]
    exact .inl rfl
  · simp only [not_forall, not_not] at hall
    obtain ⟨k, draft, bytes, p, e, h⟩ := hall
    obtain ⟨t, hrun, hlines⟩ := run_of_estimates h .empty
    -- What the comparison prints stands behind the lines of the estimate.
    obtain ⟨more, hmore⟩ := c.lines_compare k bytes p t
    refine .inr ⟨k, draft, bytes, p, e, h, h.usesGiven, more, ?_⟩
    rw [hrun, hmore, hlines]
    rfl

/-! ## No question at all -/

/-- Whether there is a connection does not depend on what a node would answer. -/
theorem connect_bind_congr {α : Type} {f : Option Connection → Estimating α}
    (hf : ∀ k k', f k = f k') (c : EstimateCommand) (world world' : World) :
    c.connect world >>= f = c.connect world' >>= f := by
  unfold connect
  split
  · rfl
  · split
    · exact hf _ _
    · rfl

/-- If nothing is left to ask, no connection makes a difference to the transaction. -/
theorem findDraft_congr (hnonce : c.nonce.isSome) (hprice : c.gasPrice.isSome)
    (hid : c.chainId.isSome) (k k' : Option Connection) : c.findDraft k = c.findDraft k' := by
  obtain ⟨nonce, hnonce⟩ := Option.isSome_iff_exists.mp hnonce
  obtain ⟨price, hprice⟩ := Option.isSome_iff_exists.mp hprice
  obtain ⟨id, hid⟩ := Option.isSome_iff_exists.mp hid
  unfold findDraft findNonce findGasPrice findChainId
  rw [hnonce, hprice, hid]

/-- If nothing is left to ask, no node makes a difference. -/
theorem run_congr (hnonce : c.nonce.isSome) (hprice : c.gasPrice.isSome) (hid : c.chainId.isSome)
    (hlive : c.fees.live = false) (horacle : c.oracle = none) (world : World)
    (node node' : Endpoint → Node) :
    c.run { world with node := node } = c.run { world with node := node' } := by
  -- Every step behind the connection is the same with any other one.
  refine connect_bind_congr (fun k k' => ?_) c _ _
  have hcompare (bytes : Bytes) (p : Fee.Parameters) : c.compare k bytes p = c.compare k' bytes p := by
    unfold compare
    rw [horacle]
  have hparameters : c.findParameters k = c.findParameters k' := by
    unfold findParameters
    rw [hlive]
    rfl
  rw [findDraft_congr hnonce hprice hid k k', hparameters]
  simp only [hcompare]

end EstimateCommand

/-! ## The whole program -/

section

variable {env : Environment} {world : World} {args : List String} {c : EstimateCommand}
  {logging : Logging}

/-- What the program has done is what the command has done, and its status is zero only if this
succeeds. -/
theorem run_estimate (hparse : parse env args = .ok ⟨.estimate c, logging⟩) (world : World) :
    (run env world args).2 = ((c.run world).run .empty).2 ∧
      ((run env world args).1.status = 0 → ((c.run world).run .empty).1 = .ok ()) := by
  rcases h : (c.run world).run .empty with ⟨e | _, t⟩
  · rw [run_estimate_of_error hparse h]
    exact ⟨rfl, nofun⟩
  · rw [run_estimate_of_ok hparse h]
    exact ⟨rfl, fun _ => rfl⟩

/-- **What the node is asked for an estimate.** Merged, the requests go through the questions of the
command from the front, and a run with status zero goes through all of them. A request is sent if
and only if its answer is not given and each step before it has found something, and not more often
than there are attempts. Of the reads of the fee parameters at least one begins, and all do if these
are found. What is printed begins with an estimate that uses what is given. If nothing is to be
asked for, then no two nodes make a difference. -/
theorem estimate_requests (hparse : parse env args = .ok ⟨.estimate c, logging⟩) (world : World) :
    (∃ reads bytes p, reads.Perm EstimateCommand.slotReads ∧
      (run env world args).2.requests.eraseDups <+: c.questions reads bytes p ∧
      ((run env world args).1.status = 0 →
        (run env world args).2.requests.eraseDups = c.questions reads bytes p)) ∧
    (∀ q, q ∈ (run env world args).2.requests ↔ c.Asked world q) ∧
    (∀ q, (run env world args).2.requests.count q ≤ c.node.attempts.toNat) ∧
    (∀ node, c.Connects world (some node) →
      1 ≤ (node.client.parameters node.node .start).started ∧
      ∀ p, (node.client.parameters node.node .start).answer = .ok p →
        (node.client.parameters node.node .start).started = 3) ∧
    ((run env world args).2.lines = [] ∨
      ∃ k draft bytes p e, c.Estimates world k draft bytes p e ∧ c.UsesGiven draft p ∧
        EstimateCommand.report bytes e <+: (run env world args).2.lines) ∧
    (c.nonce.isSome → c.gasPrice.isSome → c.chainId.isSome → c.fees.live = false →
      c.oracle = none → ∀ node node' : Endpoint → Node,
        run env { world with node := node } args = run env { world with node := node' } args) := by
  obtain ⟨htranscript, hstatus⟩ := run_estimate hparse world
  obtain ⟨sent, order, ⟨reads, bytes, p, hreads, rfl⟩, hsent⟩ := c.asks_run world
  have hrequests : (run env world args).2.requests = sent := by
    rw [htranscript, hsent.requests]
    rfl
  -- No command is parsed whose node would get no attempt.
  have hattempts : max 1 c.node.attempts.toNat = c.node.attempts.toNat :=
    Nat.max_eq_right (attempts_of_parse hparse)
  rw [hrequests, htranscript]
  refine ⟨⟨reads, bytes, p, hreads, hsent.begins, fun hzero => ?_⟩, hsent.mem, fun q => ?_,
    fun node _ => ?_, c.lines_run world, ?_⟩
  · exact hsent.complete .empty () (hstatus hzero)
  · exact hattempts ▸ hsent.count q
  · obtain ⟨-, hpos, hall⟩ :=
      EstimateCommand.begun_parameters (Nat.le_refl node.client.policy.attempts) node.node
    exact ⟨hpos, hall⟩
  · intro hnonce hprice hid hlive horacle node node'
    have hrun := EstimateCommand.run_congr hnonce hprice hid hlive horacle world node node'
    unfold run
    rw [hparse]
    simp only [Command.run, hrun]

end

/-- A node is given, and nothing is left to ask it. -/
def estimateWithoutQuestions : List String :=
  ["estimate", "--rpc-url=http://node", "--nonce=0", "--gas-price=1", "--chain-id=10"]

/-- Nonce, gas price and calculator are asked, in this order. In the other command nothing is
asked. -/
theorem estimate_requests_compared :
    (∃ c logging, parse ⟨none, none, none⟩ estimateAndCompare = .ok ⟨.estimate c, logging⟩ ∧
      (run ⟨none, none, none⟩ answersOne estimateAndCompare).2.requests.eraseDups =
        [.nonce (.ofNat 1), .gasPrice,
          .call (.ofNat 2) (Calculator.call comparedBytes .reference)]) ∧
    ∃ c logging, parse ⟨none, none, none⟩ estimateWithoutQuestions = .ok ⟨.estimate c, logging⟩ ∧
      ∀ node node' : Endpoint → Node,
        run ⟨none, none, none⟩ { answersOne with node := node } estimateWithoutQuestions =
          run ⟨none, none, none⟩ { answersOne with node := node' } estimateWithoutQuestions := by
  constructor
  · obtain ⟨logging, hparse⟩ : ∃ logging, parse ⟨none, none, none⟩ estimateAndCompare =
        .ok ⟨.estimate compared, logging⟩ := ⟨_, rfl⟩
    obtain ⟨k, e, hestimates, hcompares, -⟩ := estimates_compared
    obtain ⟨⟨reads, bytes, p, -, -, hall⟩, hmem, -⟩ := estimate_requests hparse answersOne
    have hstatus : (run ⟨none, none, none⟩ answersOne estimateAndCompare).1.status = 0 := by
      obtain ⟨t, hrun, -⟩ := EstimateCommand.run_of_estimates hestimates .empty
      obtain ⟨t', hcompare, -⟩ := EstimateCommand.run_compare_of_fee hcompares t
      rw [run_estimate_of_ok hparse (hrun.trans hcompare)]
      rfl
    have hquestions : (run ⟨none, none, none⟩ answersOne estimateAndCompare).2.requests.eraseDups =
        [.nonce (.ofNat 1), .gasPrice, .call (.ofNat 2) (Calculator.call bytes p)] := hall hstatus
    -- The call is the one for this estimate, because it is among the requests.
    have hcall : Request.call (.ofNat 2) (Calculator.call comparedBytes .reference) ∈
        (run ⟨none, none, none⟩ answersOne estimateAndCompare).2.requests := by
      obtain ⟨oracle, node, output, horacle, rfl, -⟩ := hcompares
      exact (hmem _).mpr (.fee hestimates.connects hestimates.gathers hestimates.encodes
        (.call hestimates.obtains hestimates.estimates rfl))
    rw [← List.mem_eraseDups, hquestions] at hcall
    rw [hquestions]
    simp only [List.mem_cons, reduceCtorEq, List.not_mem_nil, or_false, false_or] at hcall
    exact ⟨compared, logging, hparse, by rw [hcall]⟩
  · obtain ⟨c, logging, hparse, hnonce, hprice, hid, hlive, horacle⟩ :
        ∃ c logging, parse ⟨none, none, none⟩ estimateWithoutQuestions =
          .ok ⟨.estimate c, logging⟩ ∧ c.nonce.isSome ∧ c.gasPrice.isSome ∧ c.chainId.isSome ∧
            c.fees.live = false ∧ c.oracle = none := ⟨_, _, rfl, rfl, rfl, rfl, rfl, rfl⟩
    obtain ⟨-, -, -, -, -, hsame⟩ := estimate_requests hparse answersOne
    exact ⟨c, logging, hparse, hsame hnonce hprice hid hlive horacle⟩

end Rollup.CommandLine
