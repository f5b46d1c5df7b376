/-
What the command that estimates a fee prints, and with which status it ends.

Up to the estimate every step only finds something out, so the steps together find what they find
one after the other (`finds_prepare`). Until then nothing is printed: either all of it is found, and
the lines of the estimate follow, or the command fails with nothing printed at all. After that only
the comparison with a calculator can fail, which takes none of these lines back (`estimate_output`).
What the calculator computes is printed and never compared.
-/
import Rollup.CommandLine.Program
import Rollup.Proofs.CommandLine.Session
import Rollup.Proofs.Fee.Estimate

set_option autoImplicit false

namespace Rollup.CommandLine

namespace EstimateCommand

variable {c : EstimateCommand} {world : World} {k : Option Connection}
  {draft : Transaction.Draft} {bytes : Bytes} {p : Fee.Parameters}

/-! ## What there is to find -/

/-- Without an address of a node there is no connection, and otherwise there is one to the node at
that address. -/
inductive Connects (c : EstimateCommand) (world : World) : Option Connection → Prop where
  | unconnected : c.node.url = none → Connects c world none
  | connected {url : String} {endpoint : Chain.Endpoint} : c.node.url = some url →
    Chain.Endpoint.connect url = .ok endpoint →
      Connects c world (some ⟨⟨c.node.policy⟩, world.node endpoint⟩)

/-- A field is what is given for it. If nothing is, it is what is answered. -/
def Supplied {α : Type} (given : Option α) (Answers : α → Prop) (a : α) : Prop :=
  given = some a ∨ given = none ∧ Answers a

/-- The draft has what is given, and for the nonce of the sender, the gas price and the number of
the chain the answers of the node where these are not given. -/
structure Gathers (c : EstimateCommand) (k : Option Connection) (draft : Transaction.Draft) :
    Prop where
  nonce : Supplied c.nonce
    (fun nonce => ∃ node sender, k = some node ∧ c.sender = some sender ∧
      (node.client.nonce node.node sender).answer = .ok nonce) draft.nonce
  gasPrice : Supplied c.gasPrice
    (fun wei => ∃ node price, k = some node ∧
      (node.client.gasPrice node.node).answer = .ok price ∧ wei = price.setWidth 256)
    draft.gasPrice
  chainId : Supplied c.chainId
    (fun id => ∃ node, k = some node ∧ (node.client.chainId node.node).answer = .ok id)
    draft.chainId
  gasLimit : draft.gasLimit = c.gasLimit
  recipient : draft.recipient = c.recipient
  value : draft.value = c.value
  data : draft.data = c.data

/-- The fee parameters are read from the node if that is asked for, and otherwise they are those of
the command line. -/
inductive Obtains (c : EstimateCommand) (k : Option Connection) (p : Fee.Parameters) : Prop where
  | live {node : Connection} : c.fees.live = true → k = some node →
    (node.client.parameters node.node .start).answer = .ok p → Obtains c k p
  | given : c.fees.live = false → c.fees.parameters = .ok p → Obtains c k p

/-- All that is found before anything is printed. -/
structure Estimates (c : EstimateCommand) (world : World) (k : Option Connection)
    (draft : Transaction.Draft) (bytes : Bytes) (p : Fee.Parameters) (e : Fee.Estimate) :
    Prop where
  connects : c.Connects world k
  gathers : c.Gathers k draft
  encodes : draft.encode = .ok bytes
  obtains : c.Obtains k p
  estimates : Fee.estimate c.priceSource world.files bytes p = .ok e

/-- There is a calculator, and the node answers a call of it with a result that holds this fee. -/
def Compares (c : EstimateCommand) (k : Option Connection) (bytes : Bytes) (p : Fee.Parameters)
    (fee : Word) : Prop :=
  ∃ oracle node output, c.oracle = some oracle ∧ k = some node ∧
    (node.client.ask node.node (.call oracle (Chain.Calculator.call bytes p))
      Chain.readBytes).answer = .ok output ∧ Chain.Calculator.result? output = some fee

/-! ## Searches -/

/-- Without the name of a node there is no connection, and none is needed. -/
theorem connects_iff_of_no_url (h : c.node.url = none) : c.Connects world k ↔ k = none := by
  constructor
  · rintro (_ | ⟨hurl, -⟩)
    · rfl
    · exact nomatch h.symm.trans hurl
  · rintro rfl
    exact .unconnected h

/-- A node that is named has to be one that can be connected to. -/
theorem connects_iff_of_url {url : String} (h : c.node.url = some url) : c.Connects world k ↔
    ∃ endpoint, Chain.Endpoint.connect url = .ok endpoint ∧
      k = some ⟨⟨c.node.policy⟩, world.node endpoint⟩ := by
  constructor
  · rintro (hnone | ⟨hurl, hendpoint⟩)
    · exact nomatch h.symm.trans hnone
    · obtain rfl := Option.some.inj (h.symm.trans hurl)
      exact ⟨_, hendpoint, rfl⟩
  · rintro ⟨endpoint, hendpoint, rfl⟩
    exact .connected h hendpoint

/-- The step that connects finds the connection. -/
theorem finds_connect (c : EstimateCommand) (world : World) :
    (c.connect world).Finds (c.Connects world) := by
  unfold connect
  split
  next hurl =>
    refine (Action.Finds.ofExcept _).congr fun k => ?_
    rw [connects_iff_of_no_url hurl, Except.ok.injEq, eq_comm]
  next url hurl =>
    split
    next endpoint hendpoint =>
      refine (Action.Finds.ofExcept _).congr fun k => ?_
      simp only [connects_iff_of_url hurl, hendpoint, Except.ok.injEq, exists_eq_left']
      exact eq_comm
    -- A url that is no endpoint connects to nothing.
    next e he =>
      refine Action.Finds.fail _ fun k hk => ?_
      obtain ⟨endpoint, hendpoint, -⟩ := (connects_iff_of_url hurl).mp hk
      exact nomatch he.symm.trans hendpoint

/-- What is given is found without a question. -/
theorem finds_given {α : Type} (Answers : α → Prop) (a : α) :
    (Action.ofExcept (.ok a) : Estimating α).Finds (Supplied (some a) Answers) := by
  refine (Action.Finds.ofExcept _).congr fun b => ⟨fun hb => .inl ?_, fun hb => ?_⟩
  · rw [Except.ok.inj hb]
  · rcases hb with hb | ⟨hnone, -⟩
    · rw [Option.some.inj hb]
    · exact nomatch hnone

/-- What is not given is found by asking. -/
theorem finds_asked {α : Type} {Answers : α → Prop} {x : Estimating α} (hx : x.Finds Answers) :
    x.Finds (Supplied none Answers) := by
  refine hx.congr fun a => ⟨fun ha => .inr ⟨rfl, ha⟩, fun ha => ?_⟩
  rcases ha with ha | ⟨-, ha⟩
  · exact nomatch ha
  · exact ha

/-- The nonce is what is given, or what the node answers for the sender. -/
theorem finds_nonce (c : EstimateCommand) (k : Option Connection) :
    (c.findNonce k).Finds (Supplied c.nonce fun nonce => ∃ node sender, k = some node ∧
      c.sender = some sender ∧ (node.client.nonce node.node sender).answer = .ok nonce) := by
  unfold findNonce
  rcases c.nonce with _ | nonce
  · refine finds_asked ?_
    -- There is an answer only with a node to ask and a sender to ask about.
    rcases k with _ | node
    · refine Action.Finds.fail _ ?_
      rintro _ ⟨node, sender, hnode, -, -⟩
      exact nomatch hnode
    · rcases c.sender with _ | sender
      · refine Action.Finds.fail _ ?_
        rintro _ ⟨node, sender, -, hsender, -⟩
        exact nomatch hsender
      · refine (Action.Finds.send _ _ _).congr fun nonce => ⟨fun h => ⟨node, sender, rfl, rfl, h⟩, ?_⟩
        rintro ⟨node', sender', hnode, hsender, h⟩
        obtain rfl := Option.some.inj hnode
        obtain rfl := Option.some.inj hsender
        exact h
  · exact finds_given _ _

/-- The gas price is what is given, or what the node answers, made a word. -/
theorem finds_gasPrice (c : EstimateCommand) (k : Option Connection) :
    (c.findGasPrice k).Finds (Supplied c.gasPrice fun wei => ∃ node price, k = some node ∧
      (node.client.gasPrice node.node).answer = .ok price ∧ wei = price.setWidth 256) := by
  unfold findGasPrice
  rcases c.gasPrice with _ | price
  · refine finds_asked ?_
    rcases k with _ | node
    · -- Without a connection there is nobody to ask.
      refine Action.Finds.fail _ ?_
      rintro _ ⟨node, price, hnode, -⟩
      exact nomatch hnode
    · refine ((Action.Finds.send _ _ _).bind fun price _ =>
        Action.Finds.ofExcept _).congr fun wei => ⟨?_, ?_⟩
      · rintro ⟨price, hanswer, hwei⟩
        exact ⟨node, price, rfl, hanswer, (Except.ok.inj hwei).symm⟩
      · rintro ⟨node', price, hnode, hanswer, rfl⟩
        obtain rfl := Option.some.inj hnode
        exact ⟨price, hanswer, rfl⟩
  · exact finds_given _ _

/-- The chain is what is given, or what the node answers. -/
theorem finds_chainId (c : EstimateCommand) (k : Option Connection) :
    (c.findChainId k).Finds (Supplied c.chainId fun id => ∃ node, k = some node ∧
      (node.client.chainId node.node).answer = .ok id) := by
  unfold findChainId
  rcases c.chainId with _ | id
  · refine finds_asked ?_
    rcases k with _ | node
    · refine Action.Finds.fail _ ?_
      rintro _ ⟨node, hnode, -⟩
      exact nomatch hnode
    · refine (Action.Finds.send _ _ _).congr fun id => ⟨fun h => ⟨node, rfl, h⟩, ?_⟩
      rintro ⟨node', hnode, h⟩
      obtain rfl := Option.some.inj hnode
      exact h
  · exact finds_given _ _

/-- A transaction is put together from what the steps find. -/
theorem finds_draft (c : EstimateCommand) (k : Option Connection) :
    (c.findDraft k).Finds (c.Gathers k) := by
  refine ((c.finds_nonce k).bind fun nonce _ => (c.finds_gasPrice k).bind fun price _ =>
    (c.finds_chainId k).bind fun id _ => Action.Finds.ofExcept _).congr fun draft => ⟨?_, fun h => ?_⟩
  · rintro ⟨nonce, hnonce, price, hprice, id, hid, hdraft⟩
    rw [← Except.ok.inj hdraft]
    exact ⟨hnonce, hprice, hid, rfl, rfl, rfl, rfl⟩
  · refine ⟨_, h.nonce, _, h.gasPrice, _, h.chainId, ?_⟩
    rw [← h.gasLimit, ← h.recipient, ← h.value, ← h.data]

/-- The parameters are the ones of the chain, or the ones that are given. -/
theorem finds_parameters (c : EstimateCommand) (k : Option Connection) :
    (c.findParameters k).Finds (c.Obtains k) := by
  unfold findParameters
  by_cases hlive : c.fees.live = true
  · rw [if_pos hlive]
    -- Then the parameters of the command line do not count.
    have hnotGiven {p} (hp : c.Obtains k p) : ∃ node, k = some node ∧
        (node.client.parameters node.node .start).answer = .ok p := by
      rcases hp with ⟨-, hnode, hanswer⟩ | ⟨hgiven, -⟩
      · exact ⟨_, hnode, hanswer⟩
      · exact nomatch hlive.symm.trans hgiven
    split
    next node =>
      refine ⟨_, fun _ => ⟨_, rfl, rfl⟩, fun p => Action.mapError_eq_ok_iff.trans ⟨?_, fun hp => ?_⟩⟩
      · exact .live hlive rfl
      · obtain ⟨node', hnode, hanswer⟩ := hnotGiven hp
        obtain rfl := Option.some.inj hnode
        exact hanswer
    next =>
      refine Action.Finds.fail _ fun p hp => ?_
      obtain ⟨node, hnode, -⟩ := hnotGiven hp
      exact nomatch hnode
  · rw [if_neg hlive]
    refine (Action.Finds.ofExcept _).congr fun p =>
      Action.mapError_eq_ok_iff.trans ⟨.given (Bool.eq_false_iff.mpr hlive), fun hp => ?_⟩
    rcases hp with ⟨hlive', -⟩ | ⟨-, hgiven⟩
    · exact absurd hlive' hlive
    · exact hgiven

/-! ## The calculator -/

/-- The answer of a calculator is what its call returns, if that holds a fee. -/
theorem dataFee_answer_eq_ok_iff {client : Chain.Client} {node : Chain.Node} {oracle : Address}
    {fee : Word} : (client.dataFee node oracle bytes p).answer = .ok fee ↔
      ∃ output, (client.ask node (.call oracle (Chain.Calculator.call bytes p))
        Chain.readBytes).answer = .ok output ∧ Chain.Calculator.result? output = some fee := by
  unfold Chain.Client.dataFee
  dsimp only
  rcases (client.ask node (.call oracle (Chain.Calculator.call bytes p))
    Chain.readBytes).answer with e | output
  · refine iff_of_false nofun ?_
    rintro ⟨_, houtput, -⟩
    exact nomatch houtput
  · dsimp only
    -- There was an output, and then it is the decoding that decides.
    simp only [Except.ok.injEq, exists_eq_left']
    rcases Chain.Calculator.result? output with _ | fee'
    · exact iff_of_false nofun nofun
    · rw [Except.ok.injEq, Option.some.injEq]

/-- Without a calculator nothing is compared. -/
theorem run_compare_of_none (h : c.oracle = none) (t : Transcript) :
    (c.compare k bytes p).run t = (.ok (), t) := by
  unfold compare
  rw [h]
  rfl

/-- The fee of the calculator is printed behind the estimate. -/
theorem run_compare_of_fee {fee : Word} (h : c.Compares k bytes p fee) (t : Transcript) :
    ∃ t', (c.compare k bytes p).run t = (.ok (), t') ∧
      t'.lines = t.lines ++ ["Oracle L1 fee in wei: " ++ fee.decimal] := by
  obtain ⟨oracle, node, output, horacle, rfl, hcall⟩ := h
  have hanswer := dataFee_answer_eq_ok_iff.mpr ⟨output, hcall⟩
  obtain ⟨t', hrun, hlines⟩ := (Action.Finds.send (.call oracle (Chain.Calculator.call bytes p))
    (node.client.dataFee node.node oracle bytes p) EstimateFailure.chain).run_ok hanswer t
  unfold compare
  rw [horacle]
  dsimp only
  rw [Action.run_bind_ok hrun, Action.run_print]
  refine ⟨_, rfl, ?_⟩
  rw [hlines]

/-- A calculator that computes no fee fails the command, and nothing more is printed. -/
theorem run_compare_of_no_fee (horacle : c.oracle ≠ none)
    (h : ∀ fee, ¬ c.Compares k bytes p fee) (t : Transcript) :
    ∃ e t', (c.compare k bytes p).run t = (.error e, t') ∧ t'.lines = t.lines := by
  obtain ⟨oracle, horacle⟩ := Option.ne_none_iff_exists'.mp horacle
  unfold compare
  rw [horacle]
  rcases k with _ | node
  · exact ⟨_, _, rfl, rfl⟩
  · -- An answer with a fee would be one that can be compared.
    have hanswer (fee : Word) :
        (node.client.dataFee node.node oracle bytes p).answer ≠ .ok fee := by
      intro hfee
      obtain ⟨output, hcall⟩ := dataFee_answer_eq_ok_iff.mp hfee
      exact h fee ⟨oracle, node, output, horacle, rfl, hcall⟩
    obtain ⟨e, t', hrun, hlines⟩ := (Action.Finds.send (.call oracle (Chain.Calculator.call bytes p))
      (node.client.dataFee node.node oracle bytes p) EstimateFailure.chain).run_error hanswer t
    exact ⟨e, t', Action.run_bind_error hrun, hlines⟩

/-! ## The command -/

/-- What is printed and compared: the connection, the encoded transaction, the fee parameters and
the estimate. -/
structure Prepared where
  connection : Option Connection
  bytes : Bytes
  parameters : Fee.Parameters
  estimate : Fee.Estimate

/-- All steps up to the estimate. -/
def prepare (c : EstimateCommand) (world : World) : Estimating Prepared := do
  let connection ← c.connect world
  let draft ← c.findDraft connection
  let bytes ← Action.ofExcept (draft.encode.mapError .encoding)
  let p ← c.findParameters connection
  let estimate ← Action.ofExcept
    ((Fee.estimate c.priceSource world.files bytes p).mapError .fee)
  Action.ofExcept (.ok ⟨connection, bytes, p, estimate⟩)

/-- The command is these steps, and then it prints the estimate and compares it. -/
theorem run_eq (c : EstimateCommand) (world : World) :
    c.run world = (do
      let r ← c.prepare world
      (report r.bytes r.estimate).forM Action.print
      c.compare r.connection r.bytes r.parameters) := by
  unfold run prepare
  simp only [bind_assoc]
  rfl

/-- **What is found before anything is printed**, if all of it is. -/
theorem finds_prepare (c : EstimateCommand) (world : World) : (c.prepare world).Finds fun r =>
    ∃ draft, c.Estimates world r.connection draft r.bytes r.parameters r.estimate := by
  refine ((c.finds_connect world).bind fun k _ => (c.finds_draft k).bind fun draft _ =>
    (Action.Finds.ofExcept _).bind fun bytes _ => (c.finds_parameters k).bind fun p _ =>
      (Action.Finds.ofExcept _).bind fun e _ => Action.Finds.ofExcept _).congr fun r => ⟨?_, ?_⟩
  · rintro ⟨k, hk, draft, hdraft, bytes, hbytes, p, hp, e, he, hr⟩
    rw [← Except.ok.inj hr]
    exact ⟨draft, hk, hdraft, Action.mapError_eq_ok_iff.mp hbytes, hp,
      Action.mapError_eq_ok_iff.mp he⟩
  · rintro ⟨draft, h⟩
    exact ⟨_, h.connects, draft, h.gathers, _, Action.mapError_eq_ok_iff.mpr h.encodes, _,
      h.obtains, _, Action.mapError_eq_ok_iff.mpr h.estimates, rfl⟩

/-- Without an estimate the command fails before it prints anything. -/
theorem run_of_not_estimates (h : ∀ k draft bytes p e, ¬ c.Estimates world k draft bytes p e)
    (t : Transcript) : ∃ e t', (c.run world).run t = (.error e, t') ∧ t'.lines = t.lines := by
  obtain ⟨e, t', hrun, hlines⟩ := (c.finds_prepare world).run_error
    (fun r hr => h r.connection hr.choose _ _ _ hr.choose_spec) t
  rw [run_eq]
  exact ⟨e, t', Action.run_bind_error hrun, hlines⟩

/-- With an estimate its lines are printed, and then it is compared. -/
theorem run_of_estimates {e : Fee.Estimate} (h : c.Estimates world k draft bytes p e)
    (t : Transcript) : ∃ t', (c.run world).run t = (c.compare k bytes p).run t' ∧
      t'.lines = t.lines ++ report bytes e := by
  obtain ⟨t', hrun, hlines⟩ := (c.finds_prepare world).run_ok (a := ⟨k, bytes, p, e⟩) ⟨draft, h⟩ t
  rw [run_eq, Action.run_bind_ok hrun, Action.run_bind_ok (Action.run_prints _)]
  refine ⟨_, rfl, ?_⟩
  rw [hlines]

end EstimateCommand

/-! ## The whole program -/

section

variable {env : Environment} {world : World} {args : List String} {c : EstimateCommand}
  {logging : Logging} {s : Transcript}

/-- A command that succeeds ends the program with status zero. -/
theorem run_estimate_of_ok (hparse : parse env args = .ok ⟨.estimate c, logging⟩)
    (h : (c.run world).run .empty = (.ok (), s)) : run env world args = (.finished 0, s) := by
  rw [run, hparse]
  dsimp only
  rw [Command.run, h]

/-- A command that fails ends the program with its failure. -/
theorem run_estimate_of_error {e : EstimateFailure}
    (hparse : parse env args = .ok ⟨.estimate c, logging⟩)
    (h : (c.run world).run .empty = (.error e, s)) :
    run env world args = (.estimateFailed e, s) := by
  rw [run, hparse]
  dsimp only
  rw [Command.run, h]

/-- **What estimating a fee prints.** If any step up to the estimate finds nothing, then nothing is
printed and the status is one. Otherwise the five lines of the estimate are printed, which is the
one of the bytes of the draft that was gathered. If there is a calculator to compare with, then its
fee follows, whatever it is, and without an answer that holds a fee the status is one and nothing
follows. In all other cases the status is zero. -/
theorem estimate_output (hparse : parse env args = .ok ⟨.estimate c, logging⟩) (world : World) :
    ((∀ k draft bytes p e, ¬ c.Estimates world k draft bytes p e) →
      (run env world args).1.status = 1 ∧ (run env world args).2.lines = []) ∧
    ∀ k draft bytes p e, c.Estimates world k draft bytes p e →
      ∃ lines, lines = ["Serialized transaction: 0x" ++ Hex.encode bytes,
          "Compressed size: " ++ Text.decimal e.size.toNat,
          "L1 fee in wei: " ++ Text.decimal e.wei.toNat,
          "L1 fee in ETH: " ++ e.ether,
          "L1 fee in fiat: " ++ Decimal.plain.text e.fiat ++
            " (at " ++ Decimal.plain.text e.price ++ " per ETH)"] ∧
        (c.oracle = none → (run env world args).1.status = 0 ∧
          (run env world args).2.lines = lines) ∧
        (∀ fee, c.Compares k bytes p fee → (run env world args).1.status = 0 ∧
          (run env world args).2.lines =
            lines ++ ["Oracle L1 fee in wei: " ++ Text.decimal fee.toNat]) ∧
        (c.oracle ≠ none → (∀ fee, ¬ c.Compares k bytes p fee) →
          (run env world args).1.status = 1 ∧ (run env world args).2.lines = lines) := by
  refine ⟨fun hnone => ?_, fun k draft bytes p e h => ⟨EstimateCommand.report bytes e, rfl,
    fun horacle => ?_, fun fee hfee => ?_, fun horacle hnone => ?_⟩⟩
  · obtain ⟨failure, t, hrun, hlines⟩ := EstimateCommand.run_of_not_estimates hnone .empty
    rw [run_estimate_of_error hparse hrun]
    exact ⟨rfl, hlines⟩
  · -- Without a calculator the estimate is all there is.
    obtain ⟨t, hrun, hlines⟩ := EstimateCommand.run_of_estimates h .empty
    rw [EstimateCommand.run_compare_of_none horacle] at hrun
    rw [run_estimate_of_ok hparse hrun]
    exact ⟨rfl, hlines⟩
  · -- With its fee there is one more line.
    obtain ⟨t, hrun, hlines⟩ := EstimateCommand.run_of_estimates h .empty
    obtain ⟨t', hcompare, hline⟩ := EstimateCommand.run_compare_of_fee hfee t
    rw [run_estimate_of_ok hparse (hrun.trans hcompare)]
    refine ⟨rfl, hline.trans ?_⟩
    rw [hlines]
    rfl
  · -- If it has none, then the estimate has been printed already.
    obtain ⟨t, hrun, hlines⟩ := EstimateCommand.run_of_estimates h .empty
    obtain ⟨failure, t', hcompare, hline⟩ := EstimateCommand.run_compare_of_no_fee horacle hnone t
    rw [run_estimate_of_error hparse (hrun.trans hcompare)]
    exact ⟨rfl, hline.trans hlines⟩

end

/-- The node answers everything with the number one, in a whole word. -/
def answersOne : World :=
  ⟨⟨fun _ => .error .noSuchFile⟩,
    fun _ _ _ => (.after 0, .result (.string (String.ofList (List.replicate 63 '0' ++ ['1'])))),
    fun _ _ _ => .error .noSuchFile⟩

/-- Arguments for a contract creation without calldata. Nonce and gas price are not given, and
address 2 is the calculator. -/
def estimateAndCompare : List String :=
  ["estimate", "--rpc-url=http://node", "--from=0x0000000000000000000000000000000000000001",
    "--chain-id=10", "--oracle=0x0000000000000000000000000000000000000002"]

/-- The command that these arguments give. -/
def compared : EstimateCommand :=
  ⟨⟨some "http://node", 3, 10⟩, some (.ofNat 1), none, none, 21000, none, 0, "0x", some 10, .none,
    none, none, some (.ofNat 2)⟩

/-- The encoded transaction, with one for nonce and gas price. -/
def comparedBytes : Bytes :=
  [0xCB, 0x01, 0x01, 0x82, 0x52, 0x08, 0x80, 0x80, 0x80, 0x0A, 0x80, 0x80]

/-- The estimate of these bytes, at a price that is not given. -/
theorem estimates_compared : ∃ k e,
    compared.Estimates answersOne k ⟨1, 1, 21000, none, 0, "0x", 10⟩ comparedBytes .reference e ∧
      compared.Compares k comparedBytes .reference 1 ∧
      e.wei = 15753602586 ∧ e.Exact comparedBytes .reference Fee.referencePrice := by
  have hfee : Fee.fee comparedBytes .reference = .ok 15753602586 := by decide
  have hprice : compared.priceSource.spot answersOne.files = .ok Fee.referencePrice := rfl
  obtain ⟨e, he, hexact⟩ : ∃ e : Fee.Estimate,
      Fee.estimateAsking (fun files => (compared.priceSource.spot files, files)) comparedBytes
        .reference answersOne.files = (.ok e, answersOne.files) ∧
      e.Exact comparedBytes .reference Fee.referencePrice :=
    Fee.estimateAsking_of_price (by decide) hfee hprice
  have hwei : e.wei = 15753602586 := Except.ok.inj (hexact.wei.symm.trans hfee)
  have hcheck : (⟨1, 1, 21000, none, 0, "0x", 10⟩ : Transaction.Draft).check =
      .ok ⟨1, 1, 21000, .create, 0, [], 10⟩ := rfl
  -- The encoding is evaluated apart from the draft, whose texts do not reduce well.
  have hbytes : (⟨1, 1, 21000, .create, 0, [], 10⟩ : Transaction).encode = comparedBytes := by cbv
  have hencode : (⟨1, 1, 21000, none, 0, "0x", 10⟩ : Transaction.Draft).encode =
      .ok comparedBytes := by
    rw [Transaction.Draft.encode, hcheck, ← hbytes]
    rfl
  refine ⟨_, e, ⟨.connected rfl rfl, ?_, hencode, .given rfl rfl, congrArg Prod.fst he⟩, ?_, hwei,
    hexact⟩
  · exact ⟨.inr ⟨rfl, _, _, rfl, rfl, rfl⟩, .inr ⟨rfl, _, 1, rfl, rfl, rfl⟩, .inl rfl, rfl, rfl,
      rfl, rfl⟩
  · exact ⟨_, _, _, rfl, rfl, rfl, rfl⟩

/-- The calculator computes another fee, which is printed as well and is no failure. -/
theorem estimate_output_otherFee :
    ∃ c logging fiat, parse ⟨none, none, none⟩ estimateAndCompare = .ok ⟨.estimate c, logging⟩ ∧
      (run ⟨none, none, none⟩ answersOne estimateAndCompare).1.status = 0 ∧
      (run ⟨none, none, none⟩ answersOne estimateAndCompare).2.lines =
        ["Serialized transaction: 0xcb01018252088080800a8080", "Compressed size: 192",
          "L1 fee in wei: 15753602586", "L1 fee in ETH: 0.000000015753602586",
          "L1 fee in fiat: " ++ Decimal.plain.text fiat ++
            " (at " ++ Decimal.plain.text Fee.referencePrice ++ " per ETH)",
          "Oracle L1 fee in wei: 1"] ∧
      ∃ amount, Decimal.read? "0.000000015753602586".toList = some amount ∧
        fiat = amount * Fee.referencePrice := by
  obtain ⟨logging, hparse⟩ : ∃ logging, parse ⟨none, none, none⟩ estimateAndCompare =
      .ok ⟨.estimate compared, logging⟩ := ⟨_, rfl⟩
  obtain ⟨k, e, hestimates, hcompares, hwei, hexact⟩ := estimates_compared
  obtain ⟨-, hall⟩ := estimate_output hparse answersOne
  obtain ⟨lines, htexts, -, hfee, -⟩ := hall _ _ _ _ _ hestimates
  obtain ⟨hstatus, hlines⟩ := hfee 1 hcompares
  -- The texts of the lines, one after the other.
  have hhex : Hex.encode comparedBytes = "cb01018252088080800a8080" := by decide +kernel
  have hsize : Text.decimal e.size.toNat = "192" := by
    rw [hexact.size]
    decide +kernel
  have hdecimal : Text.decimal e.wei.toNat = "15753602586" := by
    rw [hwei]
    decide +kernel
  have hether : e.ether = "0.000000015753602586" := by
    have hformat : Ether.format 15753602586 = "0.000000015753602586" := by decide +kernel
    rw [← hformat, ← hwei]
    exact String.toList_inj.mp (Ether.spells_iff.mp hexact.ether)
  have hone : Text.decimal (1 : Word).toNat = "1" := by decide +kernel
  rw [hhex, hsize, hdecimal, hether, hexact.price] at htexts
  rw [htexts, hone] at hlines
  exact ⟨compared, logging, e.fiat, hparse, hstatus, hlines, hether ▸ hexact.fiat⟩

end Rollup.CommandLine
