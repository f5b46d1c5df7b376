/-
The canonical form of nested items, and why it can be read in one way only.

`Spells` has one rule for each shape of an item. A single small byte stands for itself, and
any other string and every list stands behind a header (`Framed`) that gives the length of
what follows, in its first byte or as a numeral behind it. A numeral has at most eight
bytes, so that a payload of `2 ^ 64` bytes or more has no canonical form.

`Item.encode` writes the canonical form (`spells_encode`, `Spells.eq_encode`). The first
byte of a canonical form tells which rule was used, and the header where its payload ends.
What begins with a canonical form therefore begins with one only: `Spells.unique`.

At the end, the lengths that are computed without writing a byte are those of what is written, and
a header in front of a list says how long the list is (`readListHeader_header`).
-/
import Rollup.Proofs.Bytes
import Rollup.Rlp

set_option autoImplicit false

namespace Rollup.Rlp

/-! ## Canonical forms -/

/-- A payload behind its header. -/
inductive Framed (offset : Nat) (payload : Bytes) : Bytes → Prop where
  /-- The first byte has the length. -/
  | short : payload.length ≤ 55 →
    Framed offset payload (UInt8.ofNat (offset + payload.length) :: payload)
  /-- The first byte has the length of the length. -/
  | long {size : Bytes} : 55 < payload.length → size.IsNumeral payload.length →
    size.length ≤ 8 →
    Framed offset payload (UInt8.ofNat (offset + 55 + size.length) :: (size ++ payload))

mutual

/-- The canonical form of an item. -/
inductive Spells : Item → Bytes → Prop where
  /-- A small byte is its own form. -/
  | byte {b : UInt8} : b < 0x80 → Spells (.string [b]) [b]
  /-- Any other string stands behind a header. -/
  | string {bytes out : Bytes} : (∀ b, bytes = [b] → 0x80 ≤ b) → Framed 0x80 bytes out →
    Spells (.string bytes) out
  /-- The forms of the items of a list stand behind a header, one behind the other. -/
  | list {items : List Item} {payload out : Bytes} : SpellsAll items payload →
    Framed 0xC0 payload out → Spells (.list items) out

/-- The canonical forms of items, one behind the other. -/
inductive SpellsAll : List Item → Bytes → Prop where
  | nil : SpellsAll [] []
  | cons {item : Item} {rest : List Item} {a b : Bytes} : Spells item a → SpellsAll rest b →
    SpellsAll (item :: rest) (a ++ b)

end

/-! ## What is written is canonical -/

/-- A number has at most `k` bytes if it is below the power of 256. -/
theorem byteCount_le_iff {n k : Nat} : byteCount n ≤ k ↔ n < 256 ^ k := by
  -- The induction follows the division by 256.
  induction n using Nat.strongRecOn generalizing k with
  | ind n ih =>
    rw [byteCount]
    by_cases hn : n = 0
    · rw [if_pos hn, hn]
      exact iff_of_true (Nat.zero_le k) (Nat.pow_pos (by omega))
    · rw [if_neg hn]
      cases k with
      | zero =>
        rw [Nat.pow_zero]
        omega
      | succ k =>
        have hrest := ih (n / 256) (by omega) (k := k)
        rw [Nat.pow_succ, Nat.add_le_add_iff_right, hrest]
        exact Nat.div_lt_iff_lt_mul (by omega)

/-- A payload stands behind the header that is written for its length. -/
theorem framed_iff {offset : Nat} {payload out : Bytes} :
    Framed offset payload out ↔
      payload.length < 2 ^ 64 ∧ out = header offset payload.length ++ payload := by
  have hsize : (Bytes.minimal payload.length).length ≤ 8 ↔ payload.length < 2 ^ 64 := by
    have hpow : 256 ^ 8 = 2 ^ 64 := by decide
    rw [length_minimal, byteCount_le_iff, hpow]
  constructor
  · intro h
    cases h with
    | short hshort =>
      refine ⟨by omega, ?_⟩
      rw [header, shortLimit, if_pos hshort]
      rfl
    -- The numeral of the length has no zeros in front, so it is the one that is written.
    | @long size hlong hnumeral hlength =>
      rw [Bytes.isNumeral_iff] at hnumeral
      subst hnumeral
      refine ⟨hsize.mp hlength, ?_⟩
      rw [header, shortLimit, if_neg (by omega)]
      rfl
  · rintro ⟨hlt, rfl⟩
    rw [header, shortLimit]
    by_cases hshort : payload.length ≤ 55
    · rw [if_pos hshort]
      exact .short hshort
    · rw [if_neg hshort]
      exact .long (by omega) (Bytes.isNumeral_minimal _) (hsize.mpr hlt)

/-- A string that is no small byte by itself has a header. -/
theorem encodeString_eq {bytes : Bytes} (h : ∀ b, bytes = [b] → 0x80 ≤ b) :
    encodeString bytes = header stringOffset bytes.length ++ bytes := by
  unfold encodeString
  split
  · next b =>
    rw [if_neg (UInt8.not_lt.mpr (h b rfl))]
    rfl
  · rfl

/-- Items are encoded one after the other. -/
theorem encodeItems_append (a b : List Item) :
    encodeItems (a ++ b) = encodeItems a ++ encodeItems b := by
  induction a with
  | nil => rw [List.nil_append, encodeItems, List.nil_append]
  | cons item rest ih => rw [List.cons_append, encodeItems, ih, encodeItems, List.append_assoc]

/-- Different numbers are different items. -/
theorem Item.ofNat_inj {m n : Nat} (h : Item.ofNat m = Item.ofNat n) : m = n := by
  have hbytes := congrArg Bytes.value (Item.string.inj h)
  rw [Bytes.value_minimal, Bytes.value_minimal] at hbytes
  exact hbytes

/-- A string is encoded as the grammar spells it. -/
theorem spells_string {bytes : Bytes} (h : bytes.length < 2 ^ 64) :
    Spells (.string bytes) (encodeString bytes) := by
  by_cases hsmall : ∃ b, bytes = [b] ∧ b < 0x80
  · obtain ⟨b, rfl, hb⟩ := hsmall
    rw [encodeString, if_pos hb]
    exact .byte hb
  · have hlarge : ∀ b, bytes = [b] → 0x80 ≤ b := by
      intro b hb
      by_contra hlt
      exact hsmall ⟨b, hb, UInt8.not_le.mp hlt⟩
    rw [encodeString_eq hlarge]
    exact .string hlarge (framed_iff.mpr ⟨h, rfl⟩)

mutual

/-- **What is written is canonical**, unless it is too long to have a canonical form. -/
theorem spells_encode (item : Item) (h : item.encode.length < 2 ^ 64) :
    Spells item item.encode := by
  match item with
  | .string bytes =>
    rw [Item.encode] at h ⊢
    have hle : bytes.length ≤ (encodeString bytes).length := by
      unfold encodeString
      split
      · split <;> simp
      · simp
    exact spells_string (by omega)
  | .list items =>
    rw [Item.encode] at h ⊢
    rw [List.length_append] at h
    exact .list (spellsAll_encodeItems items (by omega)) (framed_iff.mpr ⟨by omega, rfl⟩)

/-- So are items, if their encoding is not too long for a header. -/
theorem spellsAll_encodeItems (items : List Item) (h : (encodeItems items).length < 2 ^ 64) :
    SpellsAll items (encodeItems items) := by
  match items with
  | [] => exact .nil
  | item :: rest =>
    rw [encodeItems] at h ⊢
    rw [List.length_append] at h
    exact .cons (spells_encode item (by omega)) (spellsAll_encodeItems rest (by omega))

end

mutual

/-- **An item has at most one canonical form**, and it is the one that is written. -/
theorem Spells.eq_encode {item : Item} {out : Bytes} (h : Spells item out) :
    out = item.encode := by
  match h with
  | .byte hb => rw [Item.encode, encodeString, if_pos hb]
  | .string hlarge hframed =>
    rw [Item.encode, encodeString_eq hlarge]
    exact (framed_iff.mp hframed).2
  | .list hitems hframed =>
    rw [Item.encode, ← hitems.eq_encodeItems]
    exact (framed_iff.mp hframed).2

/-- What spells items is their encoding. -/
theorem SpellsAll.eq_encodeItems {items : List Item} {out : Bytes} (h : SpellsAll items out) :
    out = encodeItems items := by
  match h with
  | .nil => rw [encodeItems]
  | .cons hitem hrest => rw [encodeItems, ← hitem.eq_encode, ← hrest.eq_encodeItems]

end

/-! ## One way to read -/

theorem toNat_ofNat {n : Nat} (h : n < 256) : (UInt8.ofNat n).toNat = n :=
  UInt8.toNat_ofNat_of_lt' h

theorem eq_of_ofNat_eq {m n : Nat} (hm : m < 256) (hn : n < 256)
    (h : UInt8.ofNat m = UInt8.ofNat n) : m = n := by
  rw [← toNat_ofNat hm, h, toNat_ofNat hn]

/-- The first byte of a framed payload says which offset was used. -/
theorem Framed.head {offset : Nat} {payload out : Bytes} (hoffset : offset + 63 < 256)
    (h : Framed offset payload out) :
    ∃ c rest, out = c :: rest ∧ offset ≤ c.toNat ∧ c.toNat ≤ offset + 63 := by
  cases h with
  | short hshort =>
    refine ⟨_, _, rfl, ?_⟩
    rw [toNat_ofNat (by omega)]
    omega
  | long hlong hnumeral hlength =>
    refine ⟨_, _, rfl, ?_⟩
    rw [toNat_ofNat (by omega)]
    omega

/-- A header says where its payload ends. -/
theorem Framed.unique {offset : Nat} {p q a b r s : Bytes} (hoffset : offset + 63 < 256)
    (hp : Framed offset p a) (hq : Framed offset q b) (h : a ++ r = b ++ s) : p = q ∧ r = s := by
  cases hp with
  | short hpshort =>
    cases hq with
    | short hqshort =>
      rw [List.cons_append, List.cons_append] at h
      obtain ⟨hhead, htail⟩ := List.cons.inj h
      have hlength := eq_of_ofNat_eq (by omega) (by omega) hhead
      exact List.append_inj htail (by omega)
    | @long size hqlong hnumeral hlength =>
      -- The first byte of a long header is above that of every short one.
      obtain ⟨hhead, -⟩ := List.cons.inj h
      have hsize := hnumeral.length_pos (by omega)
      have heq := eq_of_ofNat_eq (by omega) (by omega) hhead
      omega
  | @long size hplong hpnumeral hplength =>
    cases hq with
    | short hqshort =>
      obtain ⟨hhead, -⟩ := List.cons.inj h
      have hsize := hpnumeral.length_pos (by omega)
      have heq := eq_of_ofNat_eq (by omega) (by omega) hhead
      omega
    | @long size' hqlong hqnumeral hqlength =>
      rw [List.cons_append, List.cons_append, List.append_assoc, List.append_assoc] at h
      obtain ⟨hhead, htail⟩ := List.cons.inj h
      have hlength := eq_of_ofNat_eq (by omega) (by omega) hhead
      obtain ⟨rfl, hrest⟩ := List.append_inj htail (by omega)
      -- One numeral spells one length.
      have hpq : p.length = q.length := hpnumeral.1.symm.trans hqnumeral.1
      exact List.append_inj hrest hpq

/-- The first byte of a canonical form tells which rule was used. -/
theorem Spells.head {item : Item} {out : Bytes} (h : Spells item out) :
    ∃ c rest, out = c :: rest ∧
      (c.toNat < 0xC0 ↔ ∃ bytes, item = .string bytes) := by
  -- Strings begin below 0xC0, be it with the byte itself, and lists begin there or above.
  cases h with
  | @byte b hb =>
    have hlt : b.toNat < 0x80 := UInt8.lt_iff_toNat_lt.mp hb
    exact ⟨_, _, rfl, iff_of_true (by omega) ⟨_, rfl⟩⟩
  | string hlarge hframed =>
    obtain ⟨c, rest, hout, hlo, hhi⟩ := hframed.head (by omega)
    exact ⟨c, rest, hout, iff_of_true (by omega) ⟨_, rfl⟩⟩
  | list hitems hframed =>
    obtain ⟨c, rest, hout, hlo, hhi⟩ := hframed.head (by omega)
    refine ⟨c, rest, hout, iff_of_false (by omega) ?_⟩
    rintro ⟨bytes, hbytes⟩
    cases hbytes

/-- A string can be read in one way only. -/
theorem Spells.string_unique {p q a b r s : Bytes} (ha : Spells (.string p) a)
    (hb : Spells (.string q) b) (h : a ++ r = b ++ s) : p = q ∧ r = s := by
  have hsmall : ∀ {c : UInt8} {p a r s : Bytes}, c < 0x80 → Framed 0x80 p a →
      [c] ++ r ≠ a ++ s := by
    intro c p a r s hc hframed heq
    obtain ⟨d, rest, rfl, hlo, -⟩ := hframed.head (by omega)
    obtain ⟨rfl, -⟩ := List.cons.inj heq
    have hlt : c.toNat < 0x80 := UInt8.lt_iff_toNat_lt.mp hc
    omega
  -- Each string is a byte by itself or has a header, and no byte by itself could begin a header.
  cases ha with
  | byte hc =>
    cases hb with
    | byte hd =>
      obtain ⟨rfl, hrest⟩ := List.cons.inj h
      exact ⟨rfl, hrest⟩
    | string _ hframed => exact absurd h (hsmall hc hframed)
  | string _ hframed =>
    cases hb with
    | byte hd => exact absurd h.symm (hsmall hd hframed)
    | string _ hframed' => exact hframed.unique (by omega) hframed' h

mutual

/-- **A canonical form can be read in one way only**: what begins with the forms of two items has
one item in front, and the same rest behind it. -/
theorem Spells.unique {x y : Item} {a b r s : Bytes} (ha : Spells x a) (hb : Spells y b)
    (h : a ++ r = b ++ s) : x = y ∧ r = s := by
  obtain ⟨c, c', rfl, hc⟩ := ha.head
  obtain ⟨d, d', rfl, hd⟩ := hb.head
  obtain ⟨rfl, -⟩ := List.cons.inj h
  -- The first byte is the same, so that both items are strings or both are lists.
  have hshape := hc.symm.trans hd
  match x, y with
  | .string p, .string q =>
    obtain ⟨rfl, hrest⟩ := ha.string_unique hb h
    exact ⟨rfl, hrest⟩
  | .string p, .list ys =>
    obtain ⟨_, hq⟩ := hshape.mp ⟨p, rfl⟩
    cases hq
  | .list xs, .string q =>
    obtain ⟨_, hp⟩ := hshape.mpr ⟨q, rfl⟩
    cases hp
  | .list xs, .list ys =>
    cases ha with
    | list hxs hp =>
      cases hb with
      | list hys hq =>
        obtain ⟨rfl, hrest⟩ := hp.unique (by omega) hq h
        rw [hxs.unique hys rfl]
        exact ⟨rfl, hrest⟩

/-- A text spells one sequence of items at most. -/
theorem SpellsAll.unique {xs ys : List Item} {a b : Bytes} (ha : SpellsAll xs a)
    (hb : SpellsAll ys b) (h : a = b) : xs = ys := by
  match xs with
  | [] =>
    cases ha
    cases hb with
    | nil => rfl
    -- Any item begins with a byte, so there is none in an empty text.
    | cons hy _ =>
      obtain ⟨c, c', rfl, -⟩ := hy.head
      cases h
  | x :: xs =>
    cases ha with
    | cons hx hxs =>
      cases hb with
      | nil =>
        obtain ⟨c, c', rfl, -⟩ := hx.head
        cases h
      | cons hy hys =>
        obtain ⟨rfl, hrest⟩ := hx.unique hy h
        rw [hxs.unique hys hrest]

end

/-! ## Lengths that are known before writing -/

/-- The length of an encoded string follows from the string. -/
theorem length_encodeString (bytes : Bytes) :
    (encodeString bytes).length = stringLength bytes := by
  unfold encodeString stringLength
  split
  · split
    · rfl
    · rfl
  · rw [List.length_append, length_header]

/-- A number is written behind a header of one byte, unless it is its own form. That is so as long
as its bytes fit behind a short header. -/
theorem length_encodeNat {n : Nat} (h : n < 256 ^ 55) : (encodeNat n).length = natLength n := by
  unfold natLength
  by_cases hsmall : n < 0x80
  · rw [if_pos hsmall]
    by_cases hzero : n = 0
    · rw [encodeNat, hzero, Bytes.minimal, if_pos rfl]
      rfl
    · have hdiv : n / 256 = 0 := by omega
      have hbyte : UInt8.ofNat n < 0x80 := by
        rw [UInt8.lt_iff_toNat_lt, toNat_ofNat (by omega)]
        exact hsmall
      rw [encodeNat, Bytes.minimal, if_neg hzero, hdiv, Bytes.minimal, if_pos rfl,
        List.nil_append, encodeString, if_pos hbyte]
      rfl
  · rw [if_neg hsmall]
    -- A single byte is the number itself, which is not small.
    have hlarge : ∀ b, Bytes.minimal n = [b] → 0x80 ≤ b := by
      intro b hb
      have hvalue := Bytes.value_minimal n
      rw [hb, ← List.nil_append [b], Bytes.value_append_singleton, Bytes.value_nil] at hvalue
      rw [UInt8.le_iff_toNat_le]
      change 0x80 ≤ b.toNat
      omega
    have hcount : byteCount n ≤ 55 := byteCount_le_iff.mpr h
    rw [encodeNat, encodeString_eq hlarge, List.length_append, length_header, length_minimal,
      headerLength, shortLimit, if_pos hcount]

/-- A header has nine bytes at most. -/
theorem headerLength_le {length : Nat} (h : length < 2 ^ 64) : headerLength length ≤ 9 := by
  have hpow : 256 ^ 8 = 2 ^ 64 := by decide
  have hcount : byteCount length ≤ 8 := byteCount_le_iff.mpr (by rw [hpow]; exact h)
  unfold headerLength
  split
  · omega
  · omega

/-- So an encoded string is at most nine bytes longer. -/
theorem stringLength_le {bytes : Bytes} (h : bytes.length < 2 ^ 64) :
    stringLength bytes ≤ bytes.length + 9 := by
  have hheader := headerLength_le h
  unfold stringLength
  split
  · split
    · simp
    · simp
  · omega

/-- A number is encoded in one byte more than it has, at most. -/
theorem natLength_le {n k : Nat} (h : n < 256 ^ k) : natLength n ≤ k + 1 := by
  have hcount : byteCount n ≤ k := byteCount_le_iff.mpr h
  unfold natLength
  split
  · omega
  · omega

/-! ## Headers that are read back -/

/-- Reads the header of a list: the length that it gives, and what stands behind it. -/
def readListHeader : Bytes → Option (Nat × Bytes)
  | [] => none
  | first :: rest =>
    if first.toNat < listOffset then none
    else if first.toNat ≤ listOffset + shortLimit then some (first.toNat - listOffset, rest)
    else
      let size := first.toNat - (listOffset + shortLimit)
      if size ≤ rest.length then some (Bytes.value (rest.take size), rest.drop size) else none

/-- A header that is written is read back, as long as its length has eight bytes at most. -/
theorem readListHeader_header {n : Nat} (h : n < 2 ^ 64) (rest : Bytes) :
    readListHeader (header listOffset n ++ rest) = some (n, rest) := by
  unfold header
  by_cases hshort : n ≤ shortLimit
  · have hfirst : (UInt8.ofNat (listOffset + n)).toNat = listOffset + n := by
      apply toNat_ofNat
      unfold shortLimit at hshort
      unfold listOffset
      omega
    rw [if_pos hshort, List.singleton_append, readListHeader, hfirst, if_neg (by omega),
      if_pos (by omega), Nat.add_sub_cancel_left]
  · have hsize : (Bytes.minimal n).length ≤ 8 := by
      have hpow : 256 ^ 8 = 2 ^ 64 := by decide
      rw [length_minimal, byteCount_le_iff, hpow]
      exact h
    -- The first byte says how many bytes the length has, and that is not none.
    have hpos : 0 < (Bytes.minimal n).length :=
      (Bytes.isNumeral_minimal n).length_pos (by omega)
    have hfirst : (UInt8.ofNat (listOffset + shortLimit + (Bytes.minimal n).length)).toNat =
        listOffset + shortLimit + (Bytes.minimal n).length := by
      apply toNat_ofNat
      unfold listOffset shortLimit
      omega
    rw [if_neg hshort]
    dsimp only
    rw [List.cons_append, readListHeader, hfirst, if_neg (by omega), if_neg (by omega),
      Nat.add_sub_cancel_left]
    dsimp only
    rw [if_pos (by rw [List.length_append]; omega), List.take_left, List.drop_left,
      Bytes.value_minimal]

end Rollup.Rlp
