/-
Calls of the fee calculator, and what their results are read as.

The arguments of a call are laid out by the general rule for arguments of contracts: the heads of
all arguments one after the other, then the tails of those that have no fixed length, each of which
has the offset of its tail as its head (`encodeArguments`). For the five arguments here this comes
to six words and the encoded transaction in whole words.

No two calls are written the same. The words are found at fixed places. The length of the
transaction is not, because its word wraps around at `2 ^ 256`, but together with the number of
bytes in the whole call it is known (`call_injective`).
-/
import Rollup.Chain.Client
import Rollup.Proofs.Chain.Retry
import Rollup.Proofs.Word

set_option autoImplicit false

namespace Rollup.Chain

namespace Calculator

/-! ## Arguments of contracts -/

/-- An argument of a call. -/
inductive Argument where
  | word (w : Word)
  | bytes (data : Bytes)

/-- The shortest string of whole words that begins with these bytes and goes on with zeros. -/
def inWords (data : Bytes) : Bytes :=
  data ++ List.replicate (wordSize * ((data.length + (wordSize - 1)) / wordSize) - data.length) 0

/-- What stands behind all heads. -/
def Argument.tail : Argument → Bytes
  | .word _ => []
  | .bytes data => Bytes.bigEndian wordSize data.length ++ inWords data

/-- The heads of arguments, the first of which has its tail at an offset. -/
def heads (offset : Nat) : List Argument → Bytes
  | [] => []
  | .word w :: rest => w.bytes ++ heads offset rest
  | .bytes data :: rest =>
    Bytes.bigEndian wordSize offset ++ heads (offset + (Argument.bytes data).tail.length) rest

/-- Arguments as the bytes of a call. -/
def encodeArguments (arguments : List Argument) : Bytes :=
  heads (wordSize * arguments.length) arguments ++ arguments.flatMap Argument.tail

/-- The function of the calculator with the types of its arguments. -/
def signature : String := "getL1FeeEcotone(bytes,uint256,uint256,uint256,uint256)"

/-- A function is selected by the first four bytes of the hash of its signature. -/
theorem selector_eq : selector = (Keccak.hash (Bytes.ofText signature.toList)).take 4 := by
  decide +kernel

/-! ## The call -/

variable {data data' : Bytes} {p p' : Fee.Parameters}

/-- The filling is what is missing to whole words. -/
theorem length_filling (n : Nat) :
    (filling n).length = wordSize * ((n + (wordSize - 1)) / wordSize) - n := by
  rw [filling, List.length_replicate]
  unfold wordSize
  omega

/-- With the filling the data are whole words. -/
theorem append_filling (data : Bytes) : data ++ filling data.length = inWords data := by
  rw [inWords, ← length_filling, filling, List.length_replicate]

/-- Data take as many words as they begin. -/
theorem length_inWords (data : Bytes) :
    (inWords data).length = wordSize * ((data.length + (wordSize - 1)) / wordSize) := by
  rw [inWords, List.length_append, List.length_replicate]
  unfold wordSize
  omega

/-- What the parts of a call are, from left to right. -/
theorem call_eq (data : Bytes) (p : Fee.Parameters) :
    call data p = selector ++ (word 160 ++ (p.l1BaseFee.bytes ++ (p.blobBaseFee.bytes ++
      (p.baseFeeScalar.bytes ++ (p.blobBaseFeeScalar.bytes ++
        (word data.length ++ inWords data)))))) := by
  rw [call, tail, List.append_assoc (word data.length), append_filling]
  simp only [List.append_assoc]
  rfl

theorem length_word (n : Nat) : (word n).length = 32 := Bytes.length_bigEndian 32 n

/-- The call has a selector, six words, and the data in words. -/
theorem length_call (data : Bytes) (p : Fee.Parameters) :
    (call data p).length = 4 + 192 + 32 * ((data.length + 31) / 32) := by
  rw [call_eq]
  simp only [List.length_append, length_word, Word.length_bytes, length_inWords]
  show 4 + (32 + (32 + (32 + (32 + (32 + (32 + 32 * ((data.length + 31) / 32))))))) = _
  omega

/-- The call is encoded as calls with these arguments are. -/
theorem call_eq_encodeArguments (data : Bytes) (p : Fee.Parameters) :
    call data p = selector ++ encodeArguments [.bytes data, .word p.l1BaseFee,
      .word p.blobBaseFee, .word p.baseFeeScalar, .word p.blobBaseFeeScalar] := by
  rw [call_eq, encodeArguments]
  simp only [heads, List.flatMap_cons, List.flatMap_nil, Argument.tail, List.append_nil,
    List.append_assoc]
  rfl

/-- **No two calls are written the same.** -/
theorem call_injective (h : call data p = call data' p') : data = data' ∧ p = p' := by
  have hlength := congrArg List.length h
  rw [length_call, length_call] at hlength
  rw [call_eq, call_eq, List.append_cancel_left_eq, List.append_cancel_left_eq] at h
  obtain ⟨hbase, h⟩ := List.append_inj h (by simp)
  obtain ⟨hblob, h⟩ := List.append_inj h (by simp)
  obtain ⟨hbaseScalar, h⟩ := List.append_inj h (by simp)
  obtain ⟨hblobScalar, h⟩ := List.append_inj h (by simp)
  obtain ⟨hsize, hdata⟩ := List.append_inj h (by simp [length_word])
  -- The word gives the length up to a multiple of `2 ^ 256`, so at least up to whole words. How many
  -- words there are is known from the length of the call.
  have hmod : data.length % 256 ^ 32 = data'.length % 256 ^ 32 := by
    rw [← Bytes.value_bigEndian, ← Bytes.value_bigEndian]
    exact congrArg Bytes.value hsize
  have hequal : data.length = data'.length := by omega
  have hp : p = p' := by
    cases p
    cases p'
    simp only [Fee.Parameters.mk.injEq]
    exact ⟨Word.bytes_injective hbase, Word.bytes_injective hblob,
      Word.bytes_injective hbaseScalar, Word.bytes_injective hblobScalar⟩
  exact ⟨(List.append_inj hdata hequal).1, hp⟩

/-! ## The result -/

/-- Less than a word is no answer. -/
theorem result?_of_lt {output : Bytes} (h : output.length < 32) : result? output = none :=
  if_pos h

/-- A word or more is read as its first word. -/
theorem result?_of_le {output : Bytes} (h : 32 ≤ output.length) :
    ∃ fee, result? output = some fee ∧ fee.toNat = Bytes.value (output.take 32) := by
  have hlength : (output.take 32).length ≤ 32 := List.length_take_le 32 output
  exact ⟨_, if_neg (Nat.not_lt.mpr h), Word.toNat_ofBytes hlength⟩

end Calculator

namespace Client

/-- What an attempt of a request comes to at a node. -/
def attempt {α : Type} (node : Node) (r : Request) (reader : Json.Value → Option α) (n : Nat) :
    Attempt α := ⟨(node r n).1, (node r n).2.read reader⟩

theorem ask_eq {α : Type} (c : Client) (node : Node) (r : Request)
    (reader : Json.Value → Option α) :
    c.ask node r reader = c.policy.run r.method (attempt node r reader) := rfl

/-- A request begins with an attempt, and its client makes no more of them than its policy has. -/
theorem starts_ask {α : Type} (c : Client) (node : Node) (r : Request)
    (reader : Json.Value → Option α) :
    0 ∈ (c.ask node r reader).starts ∧ (c.ask node r reader).starts.length ≤ c.policy.attempts := by
  rw [ask_eq]
  exact c.policy.starts_run _ _

variable {c : Client} {node node' : Node} {calculator : Address} {data : Bytes}
  {p : Fee.Parameters}

/-- What the data fee is read from has been asked for by one request, however often. -/
theorem dataFee_congr (h : ∀ n, node' (.call calculator (Calculator.call data p)) n =
      node (.call calculator (Calculator.call data p)) n) :
    c.dataFee node' calculator data p = c.dataFee node calculator data p := by
  unfold dataFee ask
  simp only [h]

/-- The calculator is asked as often as any request is made. -/
theorem starts_dataFee : (c.dataFee node calculator data p).starts =
    (c.ask node (.call calculator (Calculator.call data p)) readBytes).starts := rfl

/-- A result that can be read is the fee. -/
theorem dataFee_of_result {output : Bytes} {fee : Word}
    (hanswer : (c.ask node (.call calculator (Calculator.call data p)) readBytes).answer =
      .ok output) (h : Calculator.result? output = some fee) :
    (c.dataFee node calculator data p).answer = .ok fee := by
  simp only [dataFee, hanswer, h]

/-- A result that cannot be read is an error. -/
theorem dataFee_of_no_result {output : Bytes}
    (hanswer : (c.ask node (.call calculator (Calculator.call data p)) readBytes).answer =
      .ok output) (h : Calculator.result? output = none) :
    (c.dataFee node calculator data p).answer = .error (.decode calculatorResult) := by
  simp only [dataFee, hanswer, h]

/-- **Asking a calculator for the data fee.** The call is the selector of the function and its five
arguments: six words and the encoded transaction in whole words, so that its length is known and no
two calls are written the same. Nothing else is asked. The first bytes that are answered in time are
the result, whatever they are: a fee if there is a whole word of them, and otherwise a failure for
good, after which nothing is asked again. -/
theorem dataFee_exact (c : Client) (calculator : Address) :
    (∀ data p,
      Calculator.call data p = (Keccak.hash (Bytes.ofText Calculator.signature.toList)).take 4 ++
        Calculator.encodeArguments [.bytes data, .word p.l1BaseFee, .word p.blobBaseFee,
          .word p.baseFeeScalar, .word p.blobBaseFeeScalar] ∧
      Calculator.call data p = [0xC3, 0x4C, 0xC5, 0x61] ++ (Bytes.bigEndian 32 160 ++
        (p.l1BaseFee.bytes ++ (p.blobBaseFee.bytes ++ (p.baseFeeScalar.bytes ++
          (p.blobBaseFeeScalar.bytes ++ (Bytes.bigEndian 32 data.length ++
            (data ++ List.replicate (32 * ((data.length + 31) / 32) - data.length) 0))))))) ∧
      (Calculator.call data p).length = 4 + 192 + 32 * ((data.length + 31) / 32)) ∧
    (∀ data p data' p', Calculator.call data p = Calculator.call data' p' →
      data = data' ∧ p = p') ∧
    ∀ (data : Bytes) (p : Fee.Parameters) (node : Node),
      (∀ node' : Node, (∀ n, node' (.call calculator (Calculator.call data p)) n =
        node (.call calculator (Calculator.call data p)) n) →
          c.dataFee node' calculator data p = c.dataFee node calculator data p) ∧
      ∀ (k : Nat) (output : Bytes), 1 ≤ k → k ≤ c.policy.attempts →
        (∀ i, 1 ≤ i → i < k → isFinal (c.policy.outcome
          (attempt node (.call calculator (Calculator.call data p)) readBytes i)) = false) →
        c.policy.outcome
          (attempt node (.call calculator (Calculator.call data p)) readBytes k) = .ok output →
        (c.dataFee node calculator data p).starts.length = k ∧
        (32 ≤ output.length → ∃ fee, (c.dataFee node calculator data p).answer = .ok fee ∧
          fee.toNat = Bytes.value (output.take 32)) ∧
        (output.length < 32 → ∃ e, (c.dataFee node calculator data p).answer = .error e ∧
          e = .decode calculatorResult ∧ e.isTransient = false) := by
  refine ⟨fun data p => ⟨?_, Calculator.call_eq data p, Calculator.length_call data p⟩,
    fun data p data' p' => Calculator.call_injective, fun data p node => ⟨?_, ?_⟩⟩
  · rw [← Calculator.selector_eq]
    exact Calculator.call_eq_encodeArguments data p
  · intro node' h
    exact dataFee_congr h
  · -- The first attempt with a final answer is the last one, and it is decoded only then.
    intro k output hpos hk hagain houtput
    have hfinal : isFinal (c.policy.outcome
        (attempt node (.call calculator (Calculator.call data p)) readBytes k)) = true := by
      rw [houtput]
      rfl
    obtain ⟨m, -, hends⟩ := c.policy.exists_run_ends
      (Request.call calculator (Calculator.call data p)).method
      (attempt node (.call calculator (Calculator.call data p)) readBytes)
    rw [← ask_eq] at hends
    obtain ⟨hm, hanswer⟩ := hends.decided hpos hk hfinal hagain
    refine ⟨?_, ?_, ?_⟩
    · rw [starts_dataFee]
      exact hends.length_starts.trans hm
    · intro hle
      obtain ⟨fee, hfee, hvalue⟩ := Calculator.result?_of_le hle
      exact ⟨fee, dataFee_of_result (hanswer.trans houtput) hfee, hvalue⟩
    · intro hlt
      exact ⟨_, dataFee_of_no_result (hanswer.trans houtput) (Calculator.result?_of_lt hlt), rfl, rfl⟩

end Client

end Rollup.Chain
