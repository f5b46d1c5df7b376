/-
What more calldata adds to the fee of a transaction.

A fee follows the size of the encoded transaction, and in order of size come the fees
(`fee_le_of_size_le`, `size_le_of_fee_le`). Calldata that is appended adds its own cost, but it
also changes the two headers that give a length: the one of the calldata and the one of the
whole list (`exactSize_extend`). A header may become cheaper when the length grows. The length
511 has two bytes that cost sixteen each and 512 has a zero byte, and a single zero byte needs no
header at all, where no calldata has one. So a transaction may become cheaper by an appended byte.

How much a header can lose depends on how many bytes a length has, so that the loss is made up for
by a few bytes of calldata (`headers_le_of_length`).
-/
import Rollup.Proofs.Fee.Overflow
import Rollup.Proofs.Transaction

set_option autoImplicit false

namespace Rollup

/-! ## Headers of calldata -/

namespace Rlp

/-- What stands in front of a byte string in its encoding: nothing in front of a small byte. -/
def stringHeader (bytes : Bytes) : Bytes :=
  match bytes with
  | [b] => if b < 0x80 then [] else header stringOffset 1
  | bytes => header stringOffset bytes.length

/-- An encoded string is its header and the string. -/
theorem encodeString_eq_stringHeader (bytes : Bytes) :
    encodeString bytes = stringHeader bytes ++ bytes := by
  match bytes with
  | [] => rfl
  | [b] =>
    unfold encodeString stringHeader
    dsimp only
    split <;> rfl
  | _ :: _ :: _ => rfl

/-- Every byte string but a single byte stands behind the header of its length. -/
theorem stringHeader_eq {bytes : Bytes} (h : bytes.length ≠ 1) :
    stringHeader bytes = header stringOffset bytes.length := by
  unfold stringHeader
  split
  · exact absurd rfl h
  · rfl

theorem byteCount_mono {m n : Nat} (h : m ≤ n) : byteCount m ≤ byteCount n := by
  rw [byteCount_le_iff]
  exact Nat.lt_of_le_of_lt h (byteCount_le_iff.mp (Nat.le_refl (byteCount n)))

/-- A longer text has no shorter header. -/
theorem headerLength_mono {m n : Nat} (h : m ≤ n) : headerLength m ≤ headerLength n := by
  have hcount := byteCount_mono h
  unfold headerLength
  split <;> split <;> omega

/-- But for a single byte, a string is as long as its header and itself. -/
theorem stringLength_eq (bytes : Bytes) (h : bytes.length ≠ 1) :
    stringLength bytes = headerLength bytes.length + bytes.length := by
  rw [← length_encodeString, encodeString_eq_stringHeader, stringHeader_eq h, List.length_append,
    length_header]

/-- A single byte has a header or none. -/
theorem stringLength_singleton (b : UInt8) :
    1 ≤ stringLength [b] ∧ stringLength [b] ≤ 2 := by
  change 1 ≤ (if b < 0x80 then 1 else 2) ∧ (if b < 0x80 then 1 else 2) ≤ 2
  split <;> decide

/-- A longer byte string does not have a shorter encoding. -/
theorem stringLength_append_le (bytes more : Bytes) :
    stringLength bytes ≤ stringLength (bytes ++ more) := by
  have hpos : ∀ n, 1 ≤ headerLength n := by
    intro n
    unfold headerLength
    split <;> omega
  -- Only from one byte to more can a header come or go, so these cases are apart.
  match bytes, more with
  | bytes, [] => exact Nat.le_of_eq (congrArg stringLength (List.append_nil bytes).symm)
  | [], [b] => exact (stringLength_singleton b).1
  | [], b :: c :: rest =>
    have hlong := stringLength_eq (b :: c :: rest) (by simp)
    have hheader := hpos (b :: c :: rest).length
    change 1 ≤ stringLength (b :: c :: rest)
    omega
  | [a], b :: rest =>
    have hshort := (stringLength_singleton a).2
    have hlong := stringLength_eq (a :: b :: rest) (by simp)
    simp only [List.length_cons] at hlong
    change stringLength [a] ≤ stringLength (a :: b :: rest)
    omega
  | a :: b :: rest, more =>
    rw [stringLength_eq (a :: b :: rest) (by simp),
      stringLength_eq (a :: b :: rest ++ more) (by simp)]
    have hlength : (a :: b :: rest).length ≤ (a :: b :: rest ++ more).length := by simp
    have hheader := headerLength_mono hlength
    omega

end Rlp

namespace Transaction

/-- The transaction with more calldata behind its own. -/
def extend (tx : Transaction) (more : Bytes) : Transaction := { tx with data := tx.data ++ more }

/-- The headers that give the length of the transaction and of its calldata. -/
def headers (tx : Transaction) : Bytes :=
  Rlp.header Rlp.listOffset tx.payloadLength ++ Rlp.stringHeader tx.data

/-- More data make no shorter payload. -/
theorem payloadLength_extend_le (tx : Transaction) (more : Bytes) :
    tx.payloadLength ≤ (tx.extend more).payloadLength := by
  have hdata := Rlp.stringLength_append_le tx.data more
  unfold payloadLength extend
  exact Nat.add_le_add_right (Nat.add_le_add_left hdata _) _

/-- More data make no shorter encoding. -/
theorem length_extend_le (tx : Transaction) (more : Bytes) :
    tx.encode.length ≤ (tx.extend more).encode.length := by
  have hpayload := tx.payloadLength_extend_le more
  rw [length_encode, length_encode, length, length]
  exact Nat.add_le_add hpayload (Rlp.headerLength_mono hpayload)

/-- The payload holds the data. -/
theorem length_data_le (tx : Transaction) : tx.data.length ≤ tx.payloadLength := by
  have hstring : tx.data.length ≤ Rlp.stringLength tx.data := by
    rw [← Rlp.length_encodeString, Rlp.encodeString_eq_stringHeader, List.length_append]
    omega
  unfold payloadLength
  omega

end Transaction

namespace Fee

open Transaction (extend headers)

variable {bytes : Bytes} {p : Parameters} {f g : Word}

/-! ## Fees in order of size -/

/-- The fee by the size as it is counted, however long the byte string is. -/
theorem fee_eq_ok_iff_size :
    fee bytes p = .ok f ↔ 16 * p.l1BaseFee.toNat < 2 ^ 256 ∧ exactPrice p < 2 ^ 256 ∧
      (size bytes).toNat * exactPrice p < 2 ^ 256 ∧
      f.toNat = (size bytes).toNat * exactPrice p / 16000000 := by
  have hsize : (BitVec.ofNat 256 (size bytes).toNat).toNat = (size bytes).toNat := by
    have hlt := (size bytes).toNat_lt
    rw [BitVec.toNat_ofNat, Nat.mod_eq_of_lt (by omega)]
  -- Each product overflows for itself, in the order in which they are computed.
  cases hscaled : scaledPrice p with
  | error e =>
    refine iff_of_false ?_ fun h => (scaledPrice_eq_error hscaled).2 ⟨h.1, h.2.1⟩
    simp only [fee, hscaled, bind, Except.bind, reduceCtorEq, not_false_eq_true]
  | ok price =>
    obtain ⟨hbase, hprice⟩ := scaledPrice_eq_ok_iff.mp hscaled
    have hlt : exactPrice p < 2 ^ 256 := hprice ▸ price.isLt
    cases hmul : Word.mul? price (BitVec.ofNat 256 (size bytes).toNat) with
    | none =>
      have hle := Word.ofNat?_eq_none.mp hmul
      rw [hsize, hprice, Nat.mul_comm] at hle
      refine iff_of_false ?_ fun h => Nat.not_lt.mpr hle h.2.2.1
      simp only [fee, hscaled, bind, Except.bind, hmul, reduceCtorEq, not_false_eq_true]
    | some product =>
      have hproduct := Word.mul?_eq_some_iff.mp hmul
      rw [hsize, hprice, Nat.mul_comm] at hproduct
      have hquotient : (product / BitVec.ofNat 256 divisor).toNat =
          (size bytes).toNat * exactPrice p / 16000000 := by
        rw [BitVec.toNat_udiv, hproduct, toNat_divisor]
      simp only [fee, hscaled, bind, Except.bind, hmul, Except.ok.injEq]
      constructor
      · rintro rfl
        exact ⟨hbase, hlt, hproduct ▸ product.isLt, hquotient⟩
      · rintro ⟨-, -, -, hf⟩
        apply BitVec.eq_of_toNat_eq
        rw [hf, hquotient]

/-- The fee grows with the size. -/
theorem fee_le_of_size_le {a b : Bytes} (h : size a ≤ size b) (hf : fee a p = .ok f)
    (hg : fee b p = .ok g) : f ≤ g := by
  obtain ⟨-, -, -, hf⟩ := fee_eq_ok_iff_size.mp hf
  obtain ⟨-, -, -, hg⟩ := fee_eq_ok_iff_size.mp hg
  rw [BitVec.le_def, hf, hg]
  exact Nat.div_le_div_right (Nat.mul_le_mul_right _ (UInt64.le_iff_toNat_le.mp h))

/-- Sizes come in steps of four. -/
theorem four_dvd_size (bytes : Bytes) : 4 ∣ (size bytes).toNat := by
  induction bytes using List.reverseRecOn with
  | nil => decide
  | append_singleton bytes b ih =>
    have hcost : 4 ∣ (UInt64.ofNat (byteCost b)).toNat := by
      unfold byteCost
      split <;> decide
    rw [size_append_singleton, UInt64.toNat_add]
    omega

/-- Where a step of size costs a wei or more, a greater size costs more. -/
theorem size_le_of_fee_le {a b : Bytes} (hp : 4000000 ≤ exactPrice p) (hf : fee a p = .ok f)
    (hg : fee b p = .ok g) (h : f ≤ g) : size a ≤ size b := by
  obtain ⟨-, -, -, hf⟩ := fee_eq_ok_iff_size.mp hf
  obtain ⟨-, -, -, hg⟩ := fee_eq_ok_iff_size.mp hg
  rw [BitVec.le_def, hf, hg] at h
  have ha := four_dvd_size a
  have hb := four_dvd_size b
  rw [UInt64.le_iff_toNat_le]
  by_contra hlt
  -- One step of size is 16 million more before the division, and one wei more behind it.
  have hstep : ((size b).toNat + 4) * exactPrice p ≤ (size a).toNat * exactPrice p :=
    Nat.mul_le_mul_right _ (by omega)
  rw [Nat.add_mul] at hstep
  omega

/-! ## Sizes of headers -/

/-- Every byte costs at least four. -/
theorem four_mul_length_le (bytes : Bytes) : 4 * bytes.length ≤ exactSize bytes := by
  induction bytes using List.reverseRecOn with
  | nil => decide
  | append_singleton bytes b ih =>
    have hb : 4 ≤ byteCost b := by
      unfold byteCost
      split <;> decide
    rw [exactSize_append, exactSize_singleton, List.length_append, List.length_singleton]
    omega

/-- A numeral has no zero byte in front, and all of its other bytes may be zero or not. -/
theorem exactSize_minimal (n : Nat) (hn : n ≠ 0) :
    4 * Rlp.byteCount n + 12 ≤ exactSize (Bytes.minimal n) ∧
      exactSize (Bytes.minimal n) ≤ 16 * Rlp.byteCount n := by
  have hnumeral := Bytes.isNumeral_minimal n
  have hlength := Rlp.length_minimal n
  have hpos := hnumeral.length_pos (Nat.pos_of_ne_zero hn)
  refine ⟨?_, ?_⟩
  · obtain ⟨c, rest, hcons⟩ := List.exists_cons_of_length_pos hpos
    -- The first byte is not zero, and costs as much as a byte can.
    have hc : c ≠ 0 := by
      rintro rfl
      exact hnumeral.2 (by rw [hcons]; rfl)
    have hrest := four_mul_length_le rest
    have hsplit : exactSize (c :: rest) = exactSize [c] + exactSize rest := exactSize_append [c] rest
    have hcost : byteCost c = 16 := if_neg hc
    rw [hcons, List.length_cons] at hlength
    rw [hcons, hsplit, exactSize_singleton, hcost]
    omega
  · rw [← hlength]
    exact exactSize_le _

/-- A longer numeral may cost less. -/
example : exactSize (Bytes.minimal 511) = 32 ∧ exactSize (Bytes.minimal 512) = 20 := by cbv

/-- The first byte of a header is never zero. -/
theorem exactSize_header {offset n : Nat} (hoffset : 0 < offset) (hlimit : offset + 63 < 256)
    (h : n < 2 ^ 64) :
    exactSize (Rlp.header offset n) =
      if n ≤ 55 then 16 else 16 + exactSize (Bytes.minimal n) := by
  have hfirst : ∀ c, 0 < c → c < 256 → byteCost (UInt8.ofNat c) = 16 := by
    intro c hpos hlt
    refine if_neg fun hzero => ?_
    have hnat := congrArg UInt8.toNat hzero
    rw [Rlp.toNat_ofNat hlt, UInt8.toNat_zero] at hnat
    omega
  unfold Rlp.header Rlp.shortLimit
  by_cases hshort : n ≤ 55
  · rw [if_pos hshort, if_pos hshort, exactSize_singleton, hfirst _ (by omega) (by omega)]
  · -- A long header is a byte that is not zero and the length.
    have hcount : Rlp.byteCount n ≤ 8 := by
      have hpow : 256 ^ 8 = 2 ^ 64 := by decide
      rw [Rlp.byteCount_le_iff, hpow]
      exact h
    have hsplit : ∀ c rest, exactSize (c :: rest) = exactSize [c] + exactSize rest :=
      fun c rest => exactSize_append [c] rest
    rw [if_neg hshort, if_neg hshort]
    dsimp only
    rw [hsplit, exactSize_singleton, Rlp.length_minimal,
      hfirst _ (by omega) (by omega)]

/-- **What the header of a greater length can save**: twelve for each byte of the length but the
first one, which is never zero. -/
theorem exactSize_header_le {offset m n k : Nat} (hoffset : 0 < offset)
    (hlimit : offset + 63 < 256) (hmn : m ≤ n) (h : n < 2 ^ 64) (hk : n < 256 ^ k) :
    exactSize (Rlp.header offset m) ≤ exactSize (Rlp.header offset n) + 12 * (k - 1) := by
  rw [exactSize_header hoffset hlimit (by omega), exactSize_header hoffset hlimit h]
  by_cases hshort : m ≤ 55
  · rw [if_pos hshort]
    split <;> omega
  · have hcount : Rlp.byteCount n ≤ k := Rlp.byteCount_le_iff.mpr hk
    have hmono := Rlp.byteCount_mono hmn
    obtain ⟨-, hm⟩ := exactSize_minimal m (by omega)
    obtain ⟨hn, -⟩ := exactSize_minimal n (by omega)
    rw [if_neg hshort, if_neg (by omega)]
    omega

/-! ## More calldata -/

/-- The bytes of a transaction without the headers that give a length and without its calldata. -/
theorem exactSize_encode (tx : Transaction) : ∃ rest,
    ∀ data, exactSize ({ tx with data := data } : Transaction).encode =
      exactSize (headers { tx with data := data }) + exactSize data + rest := by
  refine ⟨exactSize (Rlp.encodeNat tx.nonce.toNat) + exactSize (Rlp.encodeNat tx.gasPrice.toNat) +
    exactSize (Rlp.encodeNat tx.gasLimit.toNat) + exactSize (Rlp.encodeString tx.recipient.bytes) +
    exactSize (Rlp.encodeNat tx.value.toNat) + exactSize tx.bindingBytes, fun data => ?_⟩
  unfold Transaction.encode headers
  rw [Rlp.encodeString_eq_stringHeader data]
  simp only [exactSize_append]
  rw [show ({ tx with data := data } : Transaction).bindingBytes = tx.bindingBytes from rfl]
  omega

/-- **What more calldata adds to the size**: its own cost, and the change of the headers. -/
theorem exactSize_extend (tx : Transaction) (more : Bytes) :
    exactSize (extend tx more).encode + exactSize (headers tx) =
      exactSize tx.encode + exactSize (headers (extend tx more)) + exactSize more := by
  obtain ⟨rest, hrest⟩ := exactSize_encode tx
  have hbefore : exactSize tx.encode = exactSize (headers tx) + exactSize tx.data + rest :=
    hrest tx.data
  have hafter : exactSize (extend tx more).encode =
      exactSize (headers (extend tx more)) + exactSize (tx.data ++ more) + rest :=
    hrest (tx.data ++ more)
  rw [exactSize_append] at hafter
  omega

/-- The header of a longer string costs less by twelve at most for every byte of the length but
one. -/
theorem exactSize_stringHeader_le {a b : Bytes} {k : Nat} (hab : a.length ≤ b.length)
    (hb : b.length ≠ 1) (h : b.length < 2 ^ 64) (hk : b.length < 256 ^ k) :
    exactSize (Rlp.stringHeader a) ≤ exactSize (Rlp.stringHeader b) + 12 * (k - 1) := by
  rw [Rlp.stringHeader_eq hb]
  by_cases ha : a.length = 1
  · obtain ⟨c, rfl⟩ := List.length_eq_one_iff.mp ha
    unfold Rlp.stringHeader
    dsimp only
    split
    · exact Nat.zero_le _
    · exact exactSize_header_le (by decide) (by decide) hab h hk
  · rw [Rlp.stringHeader_eq ha]
    exact exactSize_header_le (by decide) (by decide) hab h hk

/-- Calldata of some length makes up for what the headers can save: six bytes for each byte that a
length may have beyond the first one. -/
theorem headers_le_of_length {tx : Transaction} {more : Bytes} {k : Nat}
    (h : (extend tx more).encode.length < 2 ^ 60) (hk : 2 ≤ k)
    (hlt : (extend tx more).encode.length < 256 ^ k) (hmore : 6 * (k - 1) ≤ more.length) :
    exactSize (headers tx) ≤ exactSize (headers (extend tx more)) + exactSize more := by
  have hpayload : (extend tx more).payloadLength ≤ (extend tx more).encode.length := by
    rw [Transaction.length_encode]
    exact Nat.le_add_right _ _
  have hdata := (extend tx more).length_data_le
  have hlength : (extend tx more).data.length = tx.data.length + more.length := List.length_append
  have hlist : exactSize (Rlp.header Rlp.listOffset tx.payloadLength) ≤
      exactSize (Rlp.header Rlp.listOffset (extend tx more).payloadLength) + 12 * (k - 1) :=
    exactSize_header_le (by decide) (by decide) (tx.payloadLength_extend_le more) (by omega)
      (by omega)
  have hstring : exactSize (Rlp.stringHeader tx.data) ≤
      exactSize (Rlp.stringHeader (extend tx more).data) + 12 * (k - 1) :=
    exactSize_stringHeader_le (by omega) (by omega) (by omega) (by omega)
  -- What the two headers can lose, six new bytes for each byte of the length make up for.
  have hcost := four_mul_length_le more
  unfold headers
  rw [exactSize_append, exactSize_append]
  omega

/-- The size does not shrink if the headers lose no more than the new data cost. -/
theorem size_extend_iff {tx : Transaction} {more : Bytes}
    (h : (extend tx more).encode.length < 2 ^ 60) :
    size tx.encode ≤ size (extend tx more).encode ↔
      exactSize (headers tx) ≤ exactSize (headers (extend tx more)) + exactSize more := by
  have hshorter := tx.length_extend_le more
  have hsize := exactSize_extend tx more
  rw [UInt64.le_iff_toNat_le, toNat_size h, toNat_size (by omega)]
  omega

/-- **When more calldata does not make a transaction cheaper**: at all parameters, if its size does
not become less, and only then where a step of size costs a wei or more. The size is what the
headers leave of the cost of the calldata, and it does not become less if there is enough
calldata. -/
theorem fee_extend (tx : Transaction) (more : Bytes) :
    (∀ p f g, fee tx.encode p = .ok f → fee (extend tx more).encode p = .ok g →
      (size tx.encode ≤ size (extend tx more).encode → f ≤ g) ∧
      (4000000 ≤ exactPrice p → f ≤ g → size tx.encode ≤ size (extend tx more).encode)) ∧
    ((extend tx more).encode.length < 2 ^ 60 →
      (size tx.encode ≤ size (extend tx more).encode ↔
        exactSize (headers tx) ≤ exactSize (headers (extend tx more)) + exactSize more) ∧
      ∀ k, 2 ≤ k → (extend tx more).encode.length < 256 ^ k → 6 * (k - 1) ≤ more.length →
        size tx.encode ≤ size (extend tx more).encode) := by
  refine ⟨fun p f g hf hg => ⟨fun hsize => ?_, fun hp hle => ?_⟩, fun h => ⟨?_, ?_⟩⟩
  · exact fee_le_of_size_le hsize hf hg
  · exact size_le_of_fee_le hp hf hg hle
  · exact size_extend_iff h
  · intro k hk hlt hmore
    exact (size_extend_iff h).mpr (headers_le_of_length h hk hlt hmore)

/-- A transfer on a chain, without calldata. -/
def transfer : Transaction :=
  ⟨0, 1000000000, 21000, .call (.ofNat 0xDEAD), 100000000000000000, [], 10⟩

/-- The fee of a transfer. -/
theorem fee_transfer : fee transfer.encode .reference = .ok 37086606088 := by
  have hsize : (size transfer.encode).toNat = 452 := by cbv
  rw [fee_eq_ok_iff_size, hsize]
  decide

/-- Six zero bytes of calldata make the transfer dearer. -/
theorem fee_extend_sixZeros :
    (extend transfer (List.replicate 6 0)).encode.length = 50 ∧
    ∃ f g, fee transfer.encode .reference = .ok f ∧
      fee (extend transfer (List.replicate 6 0)).encode .reference = .ok g ∧
      4000000 ≤ exactPrice .reference ∧ f ≤ g := by
  have hlength : (extend transfer (List.replicate 6 0)).encode.length = 50 := by cbv
  have hlonger : fee (extend transfer (List.replicate 6 0)).encode .reference =
      .ok 39055806411 := by
    -- The size is evaluated first, because the product with the prices does not reduce well.
    have hsize : (size (extend transfer (List.replicate 6 0)).encode).toNat = 476 := by cbv
    rw [fee_eq_ok_iff_size, hsize]
    decide
  obtain ⟨hfees, hsizes⟩ := fee_extend transfer (List.replicate 6 0)
  obtain ⟨-, henough⟩ := hsizes (by rw [hlength]; decide)
  have hsize := henough 2 (by decide) (by rw [hlength]; decide) (by decide)
  exact ⟨hlength, _, _, fee_transfer, hlonger, by decide,
    (hfees _ _ _ fee_transfer hlonger).1 hsize⟩

/-- One zero byte of calldata makes it cheaper: it takes the place of the header that stood for no
calldata. -/
theorem not_fee_le_extend : ¬ ∀ (tx : Transaction) (more : Bytes) (p : Parameters) (f g : Word),
    more ≠ [] → fee tx.encode p = .ok f → fee (extend tx more).encode p = .ok g → f ≤ g := by
  intro hall
  have hlonger : fee (extend transfer [0]).encode .reference = .ok 36102005926 := by
    have hsize : (size (extend transfer [0]).encode).toNat = 440 := by cbv
    rw [fee_eq_ok_iff_size, hsize]
    decide
  have hle := hall transfer [0] .reference _ _ (List.cons_ne_nil _ _) fee_transfer hlonger
  exact absurd hle (by decide)

end Fee

end Rollup
