/-
The bytes of a transaction are the canonical form of the list of its fields.

A transaction is written header first, with a length that is added up field by field and not
taken from the bytes. `encode_eq_item` is the statement that the two agree: `encode` writes
what the recursive encoding makes of `item`. From there on the bytes are a canonical form,
which says what was encoded wherever it stands (`Rlp.Spells.unique`), and the items say
which transaction it was (`item_injective`).

Calldata is taken to be shorter than `2 ^ 63` bytes, as every string of bytes in memory is.
The format itself ends at payloads of `2 ^ 64` bytes.
-/
import Rollup.Proofs.Rlp
import Rollup.Proofs.Word
import Rollup.Transaction

set_option autoImplicit false

namespace Rollup

namespace Transaction

open Rlp (encodeNat encodeString)

/-! ## Lengths -/

/-- The encoded fields, one behind the other. -/
def payload (tx : Transaction) : Bytes :=
  encodeNat tx.nonce.toNat ++ encodeNat tx.gasPrice.toNat ++ encodeNat tx.gasLimit.toNat ++
    encodeString tx.recipient.bytes ++ encodeNat tx.value.toNat ++ encodeString tx.data ++
    tx.bindingBytes

/-- A recipient is encoded in one byte, or in 21. -/
theorem length_recipient (r : Recipient) :
    (encodeString r.bytes).length = recipientLength r := by
  cases r with
  | create => rfl
  | call a =>
    have hlength := a.length_bytes
    have hlarge : ∀ b, a.bytes = [b] → 0x80 ≤ b := by
      intro b hb
      rw [hb] at hlength
      cases hlength
    rw [Recipient.bytes, Rlp.encodeString_eq hlarge, List.length_append, Rlp.length_header, hlength]
    rfl

theorem lt_of_uint64 (n : UInt64) : n.toNat < 256 ^ 8 := n.toNat_lt

theorem length_encode_uint64 (n : UInt64) :
    (encodeNat n.toNat).length = Rlp.natLength n.toNat :=
  Rlp.length_encodeNat (Nat.lt_trans (lt_of_uint64 n) (by decide))

theorem length_encode_word (w : Word) : (encodeNat w.toNat).length = Rlp.natLength w.toNat :=
  Rlp.length_encodeNat (Nat.lt_trans (Word.toNat_lt w) (by decide))

/-- The fields behind the data take as many bytes as is computed for them. -/
theorem length_bindingBytes (tx : Transaction) : tx.bindingBytes.length = tx.bindingLength := by
  unfold bindingBytes bindingLength
  split
  · have hzero : (encodeNat 0).length = Rlp.natLength 0 := Rlp.length_encodeNat (by decide)
    rw [List.length_append, List.length_append, length_encode_uint64, hzero]
    omega
  · rfl

/-- **The length in front is the length of what follows.** -/
theorem length_payload (tx : Transaction) : tx.payload.length = tx.payloadLength := by
  unfold payload payloadLength
  rw [List.length_append, List.length_append, List.length_append, List.length_append,
    List.length_append, List.length_append, length_encode_uint64, length_encode_word,
    length_encode_uint64, length_recipient, length_encode_word, Rlp.length_encodeString,
    length_bindingBytes]

/-- A transaction is encoded as a header and its payload. -/
theorem encode_eq_payload (tx : Transaction) :
    tx.encode = Rlp.header Rlp.listOffset tx.payloadLength ++ tx.payload := by
  unfold encode payload
  simp only [List.append_assoc]

/-- The fields behind the data are encoded one after the other. -/
theorem encodeItems_bindingItems (tx : Transaction) :
    Rlp.encodeItems tx.bindingItems = tx.bindingBytes := by
  have hzero : encodeNat 0 = encodeString [] := by rw [encodeNat, Bytes.minimal, if_pos rfl]
  unfold bindingItems bindingBytes
  split
  · rw [hzero]
    simp only [Rlp.encodeItems, Rlp.Item.encode, Rlp.Item.ofNat, encodeNat, List.append_nil,
      List.append_assoc]
  · rfl

/-- The item of a transaction is encoded as a list of its fields. -/
theorem item_encode (tx : Transaction) :
    tx.item.encode = Rlp.header Rlp.listOffset tx.payload.length ++ tx.payload := by
  have hfields : Rlp.encodeItems ([.ofNat tx.nonce.toNat, .ofNat tx.gasPrice.toNat,
      .ofNat tx.gasLimit.toNat, .string tx.recipient.bytes, .ofNat tx.value.toNat,
      .string tx.data] ++ tx.bindingItems) = tx.payload := by
    rw [Rlp.encodeItems_append, encodeItems_bindingItems]
    simp only [Rlp.encodeItems, Rlp.Item.encode, Rlp.Item.ofNat, encodeNat, payload,
      List.append_nil, List.append_assoc]
  rw [item, Rlp.Item.encode, hfields]

/-- **A transaction is written as the list of its fields.** -/
theorem encode_eq_item (tx : Transaction) : tx.encode = tx.item.encode := by
  rw [encode_eq_payload, item_encode, length_payload]

/-- The length of the encoding is computed without encoding. -/
theorem length_encode (tx : Transaction) : tx.encode.length = tx.length := by
  rw [encode_eq_payload, List.length_append, Rlp.length_header, length_payload, length]
  omega

/-- Data that fit into memory leave room for the headers. -/
theorem length_encode_lt {tx : Transaction} (h : tx.data.length < 2 ^ 63) :
    tx.encode.length < 2 ^ 64 := by
  -- All fields but the calldata, and all headers, take at most 134 bytes.
  have hnonce := Rlp.natLength_le (lt_of_uint64 tx.nonce)
  have hprice := Rlp.natLength_le (Word.toNat_lt tx.gasPrice)
  have hlimit := Rlp.natLength_le (lt_of_uint64 tx.gasLimit)
  have hvalue := Rlp.natLength_le (Word.toNat_lt tx.value)
  have hchain := Rlp.natLength_le (lt_of_uint64 tx.chainId)
  have hdata : Rlp.stringLength tx.data ≤ tx.data.length + 9 := Rlp.stringLength_le (by omega)
  have hto : recipientLength tx.recipient ≤ 21 := by
    unfold recipientLength
    split <;> omega
  have hzero : Rlp.natLength 0 = 1 := rfl
  have hbinding : tx.bindingLength ≤ 11 := by
    unfold bindingLength
    split <;> omega
  have hpayload : tx.payloadLength ≤ tx.data.length + 125 := by
    unfold payloadLength
    omega
  have hheader : Rlp.headerLength tx.payloadLength ≤ 9 := Rlp.headerLength_le (by omega)
  rw [length_encode, length]
  omega

/-! ## What the fields say -/

/-- An address has twenty bytes, so that none of them is a contract creation. -/
theorem recipient_eq_of_bytes_eq {a b : Recipient} (h : a.bytes = b.bytes) : a = b := by
  -- An address is never without bytes, so it is not taken for the creation of a contract.
  cases a with
  | create =>
    cases b with
    | create => rfl
    | call b =>
      have hb := b.length_bytes
      rw [← show [] = b.bytes from h] at hb
      cases hb
  | call a =>
    cases b with
    | create =>
      have ha := a.length_bytes
      rw [show a.bytes = [] from h] at ha
      cases ha
    | call b => rw [Address.bytes_injective h]

/-- The fields that bind a transaction to a chain are there exactly if there is a chain. -/
theorem chainId_eq_of_bindingItems_eq {a b : Transaction} (h : a.bindingItems = b.bindingItems) :
    a.chainId = b.chainId := by
  unfold bindingItems isBound at h
  by_cases ha : a.chainId = 0
  · by_cases hb : b.chainId = 0
    · rw [ha, hb]
    · simp [ha, hb] at h
  · by_cases hb : b.chainId = 0
    · simp [ha, hb] at h
    · simp only [ne_eq, ha, hb, not_false_eq_true, decide_true, if_true] at h
      exact UInt64.toNat_inj.mp (Rlp.Item.ofNat_inj (List.cons.inj h).1)

/-- A transaction can be told from its item. -/
theorem item_injective {a b : Transaction} (h : a.item = b.item) : a = b := by
  have hfields := Rlp.Item.list.inj h
  simp only [List.cons_append, List.nil_append, List.cons.injEq] at hfields
  -- Each item determines its field; the last three are the chain.
  obtain ⟨hnonce, hprice, hlimit, hto, hvalue, hdata, hbinding⟩ := hfields
  have hchain := chainId_eq_of_bindingItems_eq hbinding
  have hnonce := UInt64.toNat_inj.mp (Rlp.Item.ofNat_inj hnonce)
  have hprice := BitVec.eq_of_toNat_eq (Rlp.Item.ofNat_inj hprice)
  have hlimit := UInt64.toNat_inj.mp (Rlp.Item.ofNat_inj hlimit)
  have hto := recipient_eq_of_bytes_eq (Rlp.Item.string.inj hto)
  have hvalue := BitVec.eq_of_toNat_eq (Rlp.Item.ofNat_inj hvalue)
  have hdata := Rlp.Item.string.inj hdata
  cases a
  cases b
  simp only [mk.injEq]
  exact ⟨hnonce, hprice, hlimit, hto, hvalue, hdata, hchain⟩

/-! ## Canonical bytes -/

/-- A transaction is encoded as the grammar spells its item. -/
theorem spells_encode {tx : Transaction} (h : tx.data.length < 2 ^ 63) :
    Rlp.Spells tx.item tx.encode := by
  have hlt := length_encode_lt h
  rw [encode_eq_item] at hlt ⊢
  exact Rlp.spells_encode tx.item hlt

/-- **The bytes of a transaction are the canonical form of the list of its fields**, and the only
one. Different transactions have different bytes, and the bytes of one are not even the beginning of
those of another. -/
theorem encode_canonical {tx tx' : Transaction} (h : tx.data.length < 2 ^ 63)
    (h' : tx'.data.length < 2 ^ 63) :
    (∀ out, Rlp.Spells tx.item out ↔ out = tx.encode) ∧
    (tx.encode = tx'.encode → tx = tx') ∧
    (tx.encode <+: tx'.encode → tx = tx') := by
  have hunique : tx.encode <+: tx'.encode → tx = tx' := by
    rintro ⟨rest, hrest⟩
    have hread : tx.encode ++ rest = tx'.encode ++ [] := by rw [hrest, List.append_nil]
    exact item_injective ((spells_encode h).unique (spells_encode h') hread).1
  refine ⟨fun out => ⟨fun hout => ?_, ?_⟩, fun heq => hunique ?_, hunique⟩
  · rw [hout.eq_encode, encode_eq_item]
  · rintro rfl
    exact spells_encode h
  · exact heq ▸ List.prefix_refl tx.encode

/-- A call whose calldata and whose fields take long headers, on a chain. -/
def longCall : Transaction :=
  ⟨7, 1000000000, 21000, .call (.ofNat 0xDEAD), 0, List.replicate 60 0x80, 10⟩

/-- The same call on no chain. -/
def unboundCall : Transaction := { longCall with chainId := 0 }

/-- A call with more data than a short header can tell, bound to a chain and not bound. -/
theorem encode_canonical_longCall :
    longCall.data.length < 2 ^ 63 ∧ unboundCall.data.length < 2 ^ 63 ∧
      Rlp.Spells unboundCall.item unboundCall.encode ∧
      ¬ unboundCall.encode <+: longCall.encode := by
  have hlong : longCall.data.length < 2 ^ 63 := by decide
  have hunbound : unboundCall.data.length < 2 ^ 63 := by decide
  obtain ⟨hspells, -, hunique⟩ := encode_canonical hunbound hlong
  exact ⟨hlong, hunbound, (hspells _).mpr rfl, fun h => absurd (hunique h) (by decide)⟩

/-! ## The length in front -/

/-- **Lengths that are known before writing.** A transaction takes as many bytes as it says, which
64 bits can count; and the length that stands in its header is that of what stands behind the
header, which is the encoded fields. -/
theorem lengths_exact {tx : Transaction} (h : tx.data.length < 2 ^ 63) :
    tx.encode.length = tx.length ∧ tx.length < 2 ^ 64 ∧
    Rlp.readListHeader tx.encode = some (tx.payloadLength, tx.payload) ∧
    tx.payload.length = tx.payloadLength := by
  have hlength := length_encode tx
  have hlt := length_encode_lt h
  have hpayload := length_payload tx
  refine ⟨hlength, by omega, ?_, hpayload⟩
  have hle : tx.payloadLength ≤ tx.length := Nat.le_add_right _ _
  rw [encode_eq_payload]
  exact Rlp.readListHeader_header (by omega) tx.payload

/-- A length of one byte, behind one that tells it. -/
theorem lengths_exact_longCall :
    longCall.data.length < 2 ^ 63 ∧ longCall.encode.length = 98 ∧
    ∃ fields, Rlp.readListHeader longCall.encode = some (96, fields) ∧ fields.length = 96 := by
  have hdata : longCall.data.length < 2 ^ 63 := by decide
  obtain ⟨hlength, -, hheader, hfields⟩ := lengths_exact hdata
  have hall : longCall.length = 98 := by cbv
  have hpayload : longCall.payloadLength = 96 := by cbv
  rw [hall] at hlength
  rw [hpayload] at hheader hfields
  exact ⟨hdata, hlength, longCall.payload, hheader, hfields⟩

end Transaction

end Rollup
