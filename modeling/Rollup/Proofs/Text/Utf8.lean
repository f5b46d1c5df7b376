/-
Which text is read from bytes that need not be UTF-8.

Bytes fall into stretches in one way only (`Decodes.unique`). A stretch is a character in UTF-8; or
a byte that no character begins with; or the beginning of a character as far as it goes, if the byte
behind it is not how any such character goes on. `decodeLossy` reads this text (`decodes_iff`).

A byte below 128 is a stretch by itself wherever it stands. So the lines of the text are the lines
of the bytes, read one by one (`parts_decodeLossy`).
-/
import Rollup.Proofs.Bytes.Order
import Rollup.Proofs.Text.Parts
import Rollup.Text.Utf8

set_option autoImplicit false

namespace Rollup.Text

open Bytes (following least mark utf8_eq)
open String (utf8EncodeChar)

variable {bytes front rest w v : Bytes} {b : UInt8} {c d : Char} {s t text : List Char} {n : Nat}
  {behind : Option UInt8} {p : Pending}

/-! ## Stretches of bytes -/

/-- A character begins with these bytes in UTF-8, or is all of them. -/
def Opens (w : Bytes) : Prop := ∃ c, w <+: utf8EncodeChar c

/-- The bytes begin a character and do not end it. -/
def Unfinished (w : Bytes) : Prop := w ≠ [] ∧ ∃ c more, more ≠ [] ∧ utf8EncodeChar c = w ++ more

/-- The character that a stretch of bytes stands for, given the byte behind it. -/
inductive Stretch : Bytes → Option UInt8 → Char → Prop where
  | char (c : Char) (behind : Option UInt8) : Stretch (utf8EncodeChar c) behind c
  /-- A byte that no character begins with. -/
  | stray {b : UInt8} (behind : Option UInt8) : ¬ Opens [b] → Stretch [b] behind replacement
  /-- A character that is broken off. -/
  | cut {w : Bytes} {behind : Option UInt8} : Unfinished w → (∀ b ∈ behind, ¬ Opens (w ++ [b])) →
      Stretch w behind replacement

/-- The bytes in stretches, each with the character that it stands for. -/
inductive Decodes : Bytes → List Char → Prop where
  | nil : Decodes [] []
  | cons {w rest : Bytes} {c : Char} {text : List Char} : Stretch w rest.head? c →
      Decodes rest text → Decodes (w ++ rest) (c :: text)

/-! ## One way to read bytes -/

/-- Fewer bytes begin a character if more bytes do. -/
theorem Opens.of_longer (h : Opens v) (hw : w <+: v) : Opens w := by
  obtain ⟨c, hc⟩ := h
  exact ⟨c, hw.trans hc⟩

theorem opens_utf8 (c : Char) : Opens (utf8EncodeChar c) := ⟨c, List.prefix_rfl⟩

/-- Bytes that do not end a character begin one. -/
theorem Unfinished.opens (h : Unfinished w) : Opens w := by
  obtain ⟨-, c, more, -, hc⟩ := h
  exact ⟨c, more, hc.symm⟩

theorem utf8_ne_nil (c : Char) : utf8EncodeChar c ≠ [] := by
  obtain ⟨count, -, hc, -⟩ := utf8_eq c
  rw [hc]
  exact List.cons_ne_nil _ _

/-- **No character in UTF-8 begins with another one.** -/
theorem eq_of_prefix_utf8 (h : utf8EncodeChar c <+: utf8EncodeChar d) : c = d := by
  obtain ⟨more, hmore⟩ := h
  have hbytes : Function.Injective UInt8.toNat := fun _ _ => UInt8.toNat_inj.mp
  have hself := (not_before_iff hbytes).mpr (.inl (rfl : utf8EncodeChar d = utf8EncodeChar d))
  -- Characters that differ are in order, whatever stands behind them.
  rcases Nat.lt_trichotomy c.toNat d.toNat with hlt | heq | hgt
  · have hbefore := Bytes.utf8_precedes hlt more []
    rw [hmore, List.append_nil] at hbefore
    exact absurd hbefore hself
  · exact Char.toNat_inj.mp heq
  · have hbefore := Bytes.utf8_precedes hgt [] more
    rw [hmore, List.append_nil] at hbefore
    exact absurd hbefore hself

theorem utf8_injective : Function.Injective utf8EncodeChar := fun _ _ h =>
  eq_of_prefix_utf8 (h ▸ List.prefix_rfl)

/-- The bytes of a whole character are not the beginning of another one. -/
theorem not_unfinished_utf8 (c : Char) : ¬ Unfinished (utf8EncodeChar c) := by
  rintro ⟨-, d, more, hmore, hd⟩
  -- The longer character would be this one, and then nothing is left of it.
  obtain rfl := eq_of_prefix_utf8 ⟨more, hd.symm⟩
  exact hmore (List.self_eq_append_right.mp hd)

/-- A character is broken off by a byte that does not go on with it. -/
theorem Stretch.cut_cons (hw : Unfinished w) (hb : ¬ Opens (w ++ [b])) :
    Stretch w (b :: rest).head? replacement := by
  refine .cut hw ?_
  rintro b' hb'
  obtain rfl := Option.some.inj hb'
  exact hb

/-- A stretch takes at least one byte. -/
theorem Stretch.ne_nil (h : Stretch w behind c) : w ≠ [] := by
  cases h with
  | char => exact utf8_ne_nil c
  | stray => exact List.cons_ne_nil _ _
  | cut hw => exact hw.1

/-- A stretch of more than one byte begins a character. -/
theorem Stretch.opens (h : Stretch w behind c) (hlength : 1 < w.length) : Opens w := by
  cases h with
  | char => exact opens_utf8 c
  | stray => exact absurd hlength (by simp)
  | cut hw => exact hw.opens

/-- A stretch is as long as it can be. -/
theorem Stretch.not_opens (h : Stretch w behind c) (hb : b ∈ behind) : ¬ Opens (w ++ [b]) := by
  cases h with
  | char =>
    rintro ⟨d, hd⟩
    -- A character that goes on with the byte begins with this one, so that it is this one.
    obtain rfl := eq_of_prefix_utf8 ((List.prefix_append _ _).trans hd)
    have hlength := hd.length_le
    rw [List.length_append, List.length_singleton] at hlength
    exact absurd hlength (Nat.not_succ_le_self _)
  | stray _ hstray => exact fun hopens => hstray (hopens.of_longer (List.prefix_append _ _))
  | cut _ hnext => exact hnext b hb

/-- The bytes are the character, or no character at all. -/
theorem Stretch.eq_or (h : Stretch w behind c) :
    w = utf8EncodeChar c ∨ c = replacement ∧ ∀ d, w ≠ utf8EncodeChar d := by
  cases h with
  | char => exact .inl rfl
  | stray _ hstray => exact .inr ⟨rfl, fun d hd => hstray (hd ▸ opens_utf8 d)⟩
  | cut hw =>
    exact .inr ⟨rfl, fun d hd => not_unfinished_utf8 d (hd ▸ hw)⟩

/-- What a stretch stands for does not depend on what is behind it. -/
theorem Stretch.char_unique {behind' : Option UInt8} (h : Stretch w behind c)
    (h' : Stretch w behind' d) : c = d := by
  rcases h.eq_or with hc | ⟨rfl, hnone⟩
  · rcases h'.eq_or with hd | ⟨-, hnone⟩
    · exact utf8_injective (hc.symm.trans hd)
    · exact absurd hc (hnone c)
  · rcases h'.eq_or with hd | ⟨rfl, -⟩
    · exact absurd hd (hnone d)
    · rfl

/-- Of two stretches that the bytes open with, neither is longer. -/
theorem Stretch.not_longer {more : Bytes} (h : Stretch w (b :: rest).head? c)
    (h' : Stretch (w ++ b :: more) behind d) : False := by
  have hlength : 1 < (w ++ b :: more).length := by
    have hpos := List.length_pos_iff.mpr h.ne_nil
    rw [List.length_append, List.length_cons]
    omega
  -- The longer stretch begins a character, and the shorter one with its next byte would as well.
  refine h.not_opens rfl ((h'.opens hlength).of_longer ?_)
  rw [List.append_cons w b more]
  exact List.prefix_append _ _

/-- Bytes open with one stretch, which leaves one rest. -/
theorem Stretch.unique {other : Bytes} (h : Stretch w rest.head? c) (h' : Stretch v other.head? d)
    (heq : w ++ rest = v ++ other) : w = v ∧ c = d ∧ rest = other := by
  -- One of the two is the beginning of the other one.
  have hlength : w = v ∧ rest = other := by
    rcases List.append_eq_append_iff.mp heq with ⟨more, rfl, rfl⟩ | ⟨more, rfl, rfl⟩
    · cases more with
      | nil => exact ⟨(List.append_nil w).symm, rfl⟩
      | cons b more => exact (h.not_longer h').elim
    · cases more with
      | nil => exact ⟨List.append_nil v, rfl⟩
      | cons b more => exact (h'.not_longer h).elim
  obtain ⟨rfl, rfl⟩ := hlength
  exact ⟨rfl, h.char_unique h', rfl⟩

/-- **Bytes stand for one text.** -/
theorem Decodes.unique (hs : Decodes bytes s) (ht : Decodes bytes t) : s = t := by
  -- The two agree on the first stretch, and by induction on what is behind it.
  induction hs generalizing t with
  | nil =>
    generalize hbytes : ([] : Bytes) = bytes at ht
    cases ht with
    | nil => rfl
    | cons hstretch => exact absurd (List.append_eq_nil_iff.mp hbytes.symm).1 hstretch.ne_nil
  | @cons w rest c s hstretch _ ih =>
    generalize hbytes : w ++ rest = bytes at ht
    cases ht with
    | nil => exact absurd (List.append_eq_nil_iff.mp hbytes).1 hstretch.ne_nil
    | cons hstretch' ht =>
      obtain ⟨-, rfl, rfl⟩ := hstretch.unique hstretch' hbytes
      rw [ih ht]

/-! ## The machine -/

/-- A number that the bits read so far and the next byte allow. -/
def Pending.Admits (p : Pending) (n : Nat) : Prop :=
  n / 64 ^ p.owed = p.bits ∧ p.low ≤ n / 64 ^ (p.owed - 1) % 64 + 128 ∧
    n / 64 ^ (p.owed - 1) % 64 + 128 ≤ p.high

/-- What is owed says how the characters go on that begin with the bytes. -/
structure Begun (w : Bytes) (p : Pending) : Prop where
  ne_nil : w ≠ []
  owed_pos : 0 < p.owed
  le_low : 128 ≤ p.low
  low_le : p.low ≤ p.high
  high_lt : p.high < 192
  /-- Characters that begin with the bytes are allowed. -/
  admits : ∀ c, w <+: utf8EncodeChar c → p.Admits c.toNat
  /-- What is allowed is a character that begins with the bytes. -/
  spec : ∀ n, p.Admits n →
    ∃ c : Char, c.toNat = n ∧ utf8EncodeChar c = w ++ following p.owed n

/-- What the machine comes to with the bytes of a character so far. -/
def Agrees (w : Bytes) : Utf8Step → Prop
  | .done c => utf8EncodeChar c = w
  | .more p => Begun w p
  | .refused => ¬ Opens w

/-! ## The first byte -/

/-- The first byte of a character, by how many bytes follow it. -/
structure Heads (b : UInt8) (count n : Nat) : Prop where
  count_le : count ≤ 3
  toNat_eq : b.toNat = n / 64 ^ count + mark count
  least_le : least count ≤ n
  lt_least : n < least (count + 1)

/-- The bytes of a character are a first byte and those that follow it. -/
theorem exists_heads (c : Char) : ∃ b count, Heads b count c.toNat ∧
    utf8EncodeChar c = b :: following count c.toNat := by
  obtain ⟨count, hcount, hc, hleast, hmost⟩ := utf8_eq c
  refine ⟨_, count, ⟨hcount, ?_, hleast, hmost⟩, hc⟩
  have hbyte : ∀ k ≤ 3, mark (k + 1) < 256 := by decide
  exact UInt8.toNat_ofNat_of_lt (Nat.lt_trans (Bytes.first_lt hcount hmost) (hbyte count hcount))

/-- A byte that a character begins with is its first byte. -/
theorem heads_of_prefix_utf8 (h : [b] <+: utf8EncodeChar c) : ∃ count, Heads b count c.toNat := by
  obtain ⟨b', count, hheads, hc⟩ := exists_heads c
  rw [hc, List.cons_prefix_cons] at h
  exact ⟨count, h.1 ▸ hheads⟩

/-- The first byte tells how many bytes follow it. -/
theorem Heads.utf8_eq {count : Nat} (h : Heads b count c.toNat) :
    utf8EncodeChar c = b :: following count c.toNat := by
  obtain ⟨b', count', h', hc⟩ := exists_heads c
  -- The numbers that need so many bytes are apart from those that need more.
  have hcount : count' = count := by
    rcases Nat.lt_trichotomy count' count with hlt | heq | hgt
    · have hle := Bytes.least_le hlt h.count_le
      have hmost := h'.lt_least
      have hleast := h.least_le
      omega
    · exact heq
    · have hle := Bytes.least_le hgt h'.count_le
      have hmost := h.lt_least
      have hleast := h'.least_le
      omega
  subst hcount
  have hb : b' = b := UInt8.toNat_inj.mp (h'.toNat_eq.trans h.toNat_eq.symm)
  rw [hc, hb]

/-- The mark of a first byte says how many bytes follow it. -/
theorem Heads.count_eq {j k : Nat} (h : Heads b j n) (hk : k ≤ 3) (hmark : mark k ≤ b.toNat)
    (hmark' : b.toNat < mark (k + 1)) : j = k := by
  have hfirst := Bytes.first_lt h.count_le h.lt_least
  rw [← h.toNat_eq] at hfirst
  -- A first byte stays below the mark of any greater number.
  rcases Nat.lt_trichotomy j k with hlt | heq | hgt
  · have hle := Bytes.mark_le hlt hk
    omega
  · exact heq
  · have hle := Bytes.mark_le hgt h.count_le
    have hj : mark j ≤ b.toNat := h.toNat_eq ▸ Nat.le_add_left _ _
    omega

/-- A first byte, if those bytes may come second that make a character which needs so many bytes. -/
theorem begun_first (count : Nat) {low high : Nat} (hcount : 0 < count) (hle : count ≤ 3)
    (hlow : 128 ≤ low) (hlh : low ≤ high) (hhigh : high < 192)
    (hmark : mark count ≤ b.toNat) (hmark' : b.toNat < mark (count + 1))
    (hsecond : ∀ n, n / 64 ^ count = b.toNat - mark count →
      (low ≤ n / 64 ^ (count - 1) % 64 + 128 ∧ n / 64 ^ (count - 1) % 64 + 128 ≤ high ↔
        n.isValidChar ∧ least count ≤ n ∧ n < least (count + 1))) :
    Begun [b] ⟨b.toNat - mark count, count, low, high⟩ where
  ne_nil := List.cons_ne_nil _ _
  owed_pos := hcount
  le_low := hlow
  low_le := hlh
  high_lt := hhigh
  admits := by
    intro c hc
    obtain ⟨j, hheads⟩ := heads_of_prefix_utf8 hc
    -- Every character that begins with this byte has as many bytes as its mark says.
    obtain rfl := hheads.count_eq hle hmark hmark'
    have hbits : c.toNat / 64 ^ j = b.toNat - mark j := by
      rw [hheads.toNat_eq, Nat.add_sub_cancel]
    exact ⟨hbits, (hsecond _ hbits).mpr ⟨c.valid, hheads.least_le, hheads.lt_least⟩⟩
  spec := by
    rintro n ⟨hbits, hrange⟩
    -- A number that the range of the second byte allows is a character.
    obtain ⟨hvalid, hleast, hmost⟩ := (hsecond n hbits).mp hrange
    refine ⟨Char.ofNatAux n hvalid, rfl, Heads.utf8_eq (c := Char.ofNatAux n hvalid)
      ⟨hle, ?_, hleast, hmost⟩⟩
    change n / 64 ^ count = b.toNat - mark count at hbits
    change b.toNat = n / 64 ^ count + mark count
    omega

/-- Two bytes for a character from 128 on. -/
theorem begun_two (hlow : 0xC2 ≤ b.toNat) (hhigh : b.toNat < 0xE0) :
    Begun [b] ⟨b.toNat - 0xC0, 1, 0x80, 0xBF⟩ := by
  apply begun_first 1 (by decide) (by decide) (by decide) (by decide) (by decide)
  · exact Nat.le_trans (by decide) hlow
  · exact hhigh
  · intro n hn
    simp only [least, mark, Nat.isValidChar, Nat.reducePow, Nat.reduceSub, Nat.reduceAdd] at hn ⊢
    omega

/-- Three bytes for a character from 2048 on that is no surrogate. -/
theorem begun_three (hlow : 0xE0 ≤ b.toNat) (hhigh : b.toNat < 0xF0) :
    Begun [b] ⟨b.toNat - 0xE0, 2, if b.toNat = 0xE0 then 0xA0 else 0x80,
      if b.toNat = 0xED then 0x9F else 0xBF⟩ := by
  apply begun_first 2 (by decide) (by decide)
  · split <;> decide
  · -- The bound of 0xE0 keeps shorter numbers out, and that of 0xED the surrogates.
    split <;> split <;> omega
  · split <;> decide
  · exact hlow
  · exact hhigh
  · intro n hn
    simp only [least, mark, Nat.isValidChar, Nat.reducePow, Nat.reduceSub, Nat.reduceAdd] at hn ⊢
    split <;> split <;> omega

/-- Four bytes for a character from 65536 on that is not too great. -/
theorem begun_four (hlow : 0xF0 ≤ b.toNat) (hhigh : b.toNat < 0xF5) :
    Begun [b] ⟨b.toNat - 0xF0, 3, if b.toNat = 0xF0 then 0x90 else 0x80,
      if b.toNat = 0xF4 then 0x8F else 0xBF⟩ := by
  apply begun_first 3 (by decide) (by decide)
  · split <;> decide
  · -- The bound of 0xF0 keeps shorter numbers out, and that of 0xF4 too great ones.
    split <;> split <;> omega
  · split <;> decide
  · exact hlow
  · exact Nat.lt_trans hhigh (by decide)
  · intro n hn
    simp only [least, mark, Nat.isValidChar, Nat.reducePow, Nat.reduceSub, Nat.reduceAdd] at hn ⊢
    split <;> split <;> omega

/-- No character begins with a byte of the middle of one, nor with one whose numbers are too small
or too great. -/
theorem not_opens_first (h : 0x80 ≤ b.toNat ∧ b.toNat < 0xC2 ∨ 0xF5 ≤ b.toNat) : ¬ Opens [b] := by
  rintro ⟨c, hc⟩
  obtain ⟨count, hle, hb, hleast, hmost⟩ := heads_of_prefix_utf8 hc
  -- Each number of bytes has first bytes of its own, and these are between them.
  match count, hle with
  | 0, _ => simp only [least, mark] at hb hleast hmost; omega
  | 1, _ => simp only [least, mark] at hb hleast hmost; omega
  | 2, _ => simp only [least, mark] at hb hleast hmost; omega
  | 3, _ => simp only [least, mark] at hb hleast hmost; omega

theorem toNat_ofNat (hb : b.toNat < 128) : (Char.ofNat b.toNat).toNat = b.toNat := by
  rw [Char.ofNat, dif_pos (Or.inl (Nat.lt_trans hb (by decide)))]
  rfl

/-- The character of a byte below 128 is that byte in UTF-8. -/
theorem utf8_ofNat (hb : b.toNat < 128) : utf8EncodeChar (Char.ofNat b.toNat) = [b] := by
  have hcode := toNat_ofNat hb
  rw [Bytes.utf8_of_lt (hcode.symm ▸ hb), hcode, UInt8.ofNat_toNat]

/-- **The machine is right about a first byte.** -/
theorem agrees_first (b : UInt8) : Agrees [b] (utf8First b) := by
  -- The machine goes through the ranges of the first byte from below.
  unfold utf8First
  dsimp only
  split
  · next hone => exact utf8_ofNat hone
  split
  · next hone hstray => exact not_opens_first (.inl ⟨Nat.le_of_not_lt hone, hstray⟩)
  split
  · next hstray htwo => exact begun_two (Nat.le_of_not_lt hstray) htwo
  split
  · next htwo hthree => exact begun_three (Nat.le_of_not_lt htwo) hthree
  split
  · next hthree hfour => exact begun_four (Nat.le_of_not_lt hthree) hfour
  · next hfour => exact not_opens_first (.inr (Nat.le_of_not_lt hfour))

/-! ## A further byte -/

/-- What is allowed, with one byte less to come. -/
theorem Pending.admits_iff {owed : Nat} (howed : p.owed = owed + 1) :
    p.Admits n ↔ n / 64 ^ owed / 64 = p.bits ∧ p.low ≤ n / 64 ^ owed % 64 + 128 ∧
      n / 64 ^ owed % 64 + 128 ≤ p.high := by
  rw [Pending.Admits, howed, Nat.add_sub_cancel, Nat.pow_succ, Nat.div_div_eq_div_mul]

/-- The byte behind the bytes of a character is the next digit to the base 64. -/
theorem Begun.next_eq {owed : Nat} (h : Begun w p) (howed : p.owed = owed + 1)
    (hc : w ++ [b] <+: utf8EncodeChar c) :
    p.Admits c.toNat ∧ b.toNat = c.toNat / 64 ^ owed % 64 + 128 := by
  have hadmits := h.admits c ((List.prefix_append _ _).trans hc)
  obtain ⟨c', hnat, hutf8⟩ := h.spec _ hadmits
  obtain rfl := Char.toNat_inj.mp hnat
  rw [hutf8, List.prefix_append_right_inj, howed, following, List.cons_prefix_cons] at hc
  refine ⟨hadmits, ?_⟩
  rw [hc.1, UInt8.toNat_ofNat']
  omega

/-- A byte in the range is the next digit of the characters that it comes in. -/
theorem Begun.spec_next {owed : Nat} (h : Begun w p) (howed : p.owed = owed + 1)
    (hlow : p.low ≤ b.toNat) (hhigh : b.toNat ≤ p.high)
    (hn : n / 64 ^ owed = 64 * p.bits + (b.toNat - 0x80)) :
    ∃ c : Char, c.toNat = n ∧ utf8EncodeChar c = w ++ [b] ++ following owed n := by
  have hle := h.le_low
  have hlt := h.high_lt
  have hdigit : n / 64 ^ owed % 64 + 128 = b.toNat := by omega
  have hadmits : p.Admits n := by
    rw [Pending.admits_iff howed, hdigit]
    exact ⟨by omega, hlow, hhigh⟩
  obtain ⟨c, hnat, hutf8⟩ := h.spec n hadmits
  refine ⟨c, hnat, ?_⟩
  rw [hutf8, howed, following, hdigit, UInt8.ofNat_toNat, List.append_assoc, List.singleton_append]

/-- With a byte in the range, and others to come, the character is still on its way. -/
theorem Begun.append {owed : Nat} (h : Begun w p) (howed : p.owed = owed + 1) (hpos : 0 < owed)
    (hlow : p.low ≤ b.toNat) (hhigh : b.toNat ≤ p.high) :
    Begun (w ++ [b]) ⟨64 * p.bits + (b.toNat - 0x80), owed, 0x80, 0xBF⟩ where
  ne_nil := List.append_ne_nil_of_right_ne_nil _ (List.cons_ne_nil _ _)
  owed_pos := hpos
  le_low := Nat.le_refl 0x80
  low_le := Nat.le_add_right 0x80 0x3F
  high_lt := Nat.lt_add_one 0xBF
  admits := by
    intro c hc
    obtain ⟨hadmits, hb⟩ := h.next_eq howed hc
    -- The new byte holds the next six bits of the character.
    have hbits := ((Pending.admits_iff howed).mp hadmits).1
    refine ⟨?_, ?_, ?_⟩
    · change c.toNat / 64 ^ owed = 64 * p.bits + (b.toNat - 0x80)
      omega
    · exact Nat.le_add_left _ _
    · exact Nat.add_le_add_right (Nat.le_of_lt_succ (Nat.mod_lt _ (by decide))) 128
  spec := fun n hn => h.spec_next howed hlow hhigh hn.1

/-- **The machine is right about a further byte.** -/
theorem agrees_next (h : Begun w p) (b : UInt8) : Agrees (w ++ [b]) (utf8Next p b) := by
  obtain ⟨owed, howed⟩ := Nat.exists_eq_succ_of_ne_zero (Nat.ne_of_gt h.owed_pos)
  unfold utf8Next
  dsimp only
  split
  -- A byte outside of the range goes on with no character.
  · next hout =>
    rintro ⟨c, hc⟩
    obtain ⟨hadmits, hb⟩ := h.next_eq howed hc
    obtain ⟨-, hlow, hhigh⟩ := (Pending.admits_iff howed).mp hadmits
    omega
  next hin =>
  have hlow : p.low ≤ b.toNat := by omega
  have hhigh : b.toNat ≤ p.high := by omega
  split
  -- The last byte completes the character.
  · next hlast =>
    obtain rfl : owed = 0 := by omega
    obtain ⟨c, hnat, hutf8⟩ := h.spec_next howed hlow hhigh (Nat.div_one _)
    rw [← hnat, Char.ofNat_toNat]
    exact hutf8.trans (List.append_nil _)
  -- Any other byte leaves less to come.
  · next hmore =>
    rw [howed, Nat.succ_sub_one]
    exact h.append howed (by omega) hlow hhigh

/-- Bytes that wait for others begin a character. -/
theorem Begun.unfinished (h : Begun w p) : Unfinished w := by
  obtain ⟨owed, howed⟩ := Nat.exists_eq_succ_of_ne_zero (Nat.ne_of_gt h.owed_pos)
  have hle := h.le_low
  have hlh := h.low_le
  have hlt := h.high_lt
  have hlow : (UInt8.ofNat p.low).toNat = p.low := by
    rw [UInt8.toNat_ofNat']
    omega
  -- The least byte that may come next comes in a character.
  have hnumber : (64 * p.bits + (p.low - 0x80)) * 64 ^ owed / 64 ^ owed =
      64 * p.bits + ((UInt8.ofNat p.low).toNat - 0x80) := by
    rw [hlow, Nat.mul_div_cancel _ (Nat.pow_pos (by decide))]
  obtain ⟨c, -, hutf8⟩ := h.spec_next howed (Nat.le_of_eq hlow.symm) (hlow.symm ▸ hlh) hnumber
  rw [List.append_assoc] at hutf8
  exact ⟨h.ne_nil, c, _, List.cons_ne_nil _ _, hutf8⟩

/-! ## The decoder -/

/-- The text of a state, with a replacement character for a character that is not complete. -/
def lossyText : List Char × Option Pending → List Char
  | (out, none) => out.reverse
  | (out, some _) => (replacement :: out).reverse

/-- The decoder runs the machine from its beginning and finishes off its last state. -/
theorem decodeLossy_eq (bytes : Bytes) :
    decodeLossy bytes = lossyText (bytes.foldl lossyStep ([], none)) := by
  rw [decodeLossy]
  split <;> next h => rw [h, lossyText]

/-- The bytes that the machine holds back. -/
def Holds (w : Bytes) : Option Pending → Prop
  | none => w = []
  | some p => Begun w p

/-- What a byte does: characters are written, and bytes are held back, which together are as good as
the bytes before. -/
def Advances (w : Bytes) (b : UInt8) (out : List Char) (after : List Char × Option Pending) : Prop :=
  ∃ new v, after.1 = new.reverse ++ out ∧ Holds v after.2 ∧
    ∀ rest text, Decodes (v ++ rest) text → Decodes (w ++ b :: rest) (new ++ text)

/-- A byte with nothing held back is a character, the beginning of one, or a stray. -/
theorem advances_first (out : List Char) (b : UInt8) :
    Advances [] b out (lossyStep (out, none) b) := by
  have hagrees := agrees_first b
  rw [lossyStep]
  -- A first byte is a character, begins one, or is no first byte at all.
  cases hstep : utf8First b with
  | done c =>
    rw [hstep] at hagrees
    refine ⟨[c], [], rfl, rfl, fun rest text htext => ?_⟩
    have hcons := Decodes.cons (.char c rest.head?) htext
    rwa [hagrees] at hcons
  | more p =>
    rw [hstep] at hagrees
    exact ⟨[], [b], rfl, hagrees, fun rest text htext => htext⟩
  | refused =>
    rw [hstep] at hagrees
    refine ⟨[replacement], [], rfl, rfl, fun rest text htext => ?_⟩
    rw [List.nil_append, ← List.singleton_append]
    exact .cons (.stray rest.head? hagrees) htext

/-- A byte with something held back goes on with it, or breaks it off and is read anew. -/
theorem advances_next (out : List Char) (h : Begun w p) (b : UInt8) :
    Advances w b out (lossyStep (out, some p) b) := by
  have hagrees := agrees_next h b
  rw [lossyStep]
  cases hstep : utf8Next p b with
  | done c =>
    rw [hstep] at hagrees
    refine ⟨[c], [], rfl, rfl, fun rest text htext => ?_⟩
    have hcons := Decodes.cons (.char c rest.head?) htext
    rwa [hagrees, List.append_assoc] at hcons
  | more p' =>
    rw [hstep] at hagrees
    refine ⟨[], w ++ [b], rfl, hagrees, fun rest text htext => ?_⟩
    rwa [List.append_assoc] at htext
  | refused =>
    -- The character is broken off, and the byte is read as a first one.
    rw [hstep] at hagrees
    obtain ⟨new, v, hout, hholds, hdecodes⟩ := advances_first (replacement :: out) b
    refine ⟨replacement :: new, v, ?_, hholds, fun rest text htext => ?_⟩
    · rw [List.reverse_cons, List.append_assoc]
      exact hout
    · exact .cons (.cut_cons h.unfinished hagrees) (hdecodes rest text htext)

/-- **A step of the decoder advances**, whatever is held back. -/
theorem advances_lossyStep {pending : Option Pending} (out : List Char) (h : Holds w pending)
    (b : UInt8) : Advances w b out (lossyStep (out, pending) b) := by
  cases pending with
  | none =>
    obtain rfl : w = [] := h
    exact advances_first out b
  | some p => exact advances_next out h b

/-- At the end a character that is not complete is broken off. -/
theorem exists_lossyText {pending : Option Pending} (out : List Char) (h : Holds w pending) :
    ∃ text, lossyText (out, pending) = out.reverse ++ text ∧ Decodes w text := by
  cases pending with
  | none =>
    obtain rfl : w = [] := h
    exact ⟨[], (List.append_nil _).symm, .nil⟩
  | some p =>
    refine ⟨[replacement], List.reverse_cons, ?_⟩
    have hcut : Stretch w ([] : Bytes).head? replacement := .cut h.unfinished nofun
    have hcons := Decodes.cons hcut .nil
    rwa [List.append_nil] at hcons

/-- **A run of the decoder writes what the bytes stand for**, those that are held back included. -/
theorem exists_foldl_lossyStep {pending : Option Pending} (out : List Char) (h : Holds w pending)
    (bytes : Bytes) : ∃ text, lossyText (bytes.foldl lossyStep (out, pending)) =
      out.reverse ++ text ∧ Decodes (w ++ bytes) text := by
  -- What is held back goes in front of the bytes still to come.
  induction bytes generalizing out pending w with
  | nil =>
    rw [List.append_nil]
    exact exists_lossyText out h
  | cons b bytes ih =>
    obtain ⟨new, v, hout, hholds, hdecodes⟩ := advances_lossyStep out h b
    obtain ⟨text, htext, hrest⟩ := ih (lossyStep (out, pending) b).1 hholds
    refine ⟨new ++ text, ?_, hdecodes bytes text hrest⟩
    rw [List.foldl_cons, htext, hout, List.reverse_append, List.reverse_reverse, List.append_assoc]

/-- The decoder finds a text that the bytes stand for. -/
theorem decodes_decodeLossy (bytes : Bytes) : Decodes bytes (decodeLossy bytes) := by
  obtain ⟨text, htext, hdecodes⟩ := exists_foldl_lossyStep [] (show Holds [] none from rfl) bytes
  rw [decodeLossy_eq, htext]
  exact hdecodes

/-- **The decoder that never fails reads the one text that the bytes stand for.** -/
theorem decodes_iff : Decodes bytes text ↔ text = decodeLossy bytes :=
  ⟨fun h => h.unique (decodes_decodeLossy bytes), fun h => h ▸ decodes_decodeLossy bytes⟩

/-! ## Texts in UTF-8 -/

/-- A text is what its bytes in UTF-8 stand for. -/
theorem decodes_ofText (text : List Char) : Decodes (Bytes.ofText text) text := by
  induction text with
  | nil => exact .nil
  | cons c text ih =>
    rw [Bytes.ofText_cons]
    exact .cons (.char c _) ih

/-- Bytes that are read without a replacement character are UTF-8. -/
theorem Decodes.eq_ofText (h : Decodes bytes text) (hnot : replacement ∉ text) :
    bytes = Bytes.ofText text := by
  induction h with
  | nil => rfl
  | cons hstretch _ ih =>
    rw [List.mem_cons, not_or] at hnot
    rw [Bytes.ofText_cons, ih hnot.2]
    -- The first stretch is a character in full, because it is no replacement.
    rcases hstretch.eq_or with hw | ⟨rfl, -⟩
    · rw [hw]
    · exact absurd rfl hnot.1

/-! ## Lines -/

/-- All bytes of a character but the first one are at least 128. -/
theorem le_of_mem_following {count : Nat} (h : b ∈ following count n) : 128 ≤ b.toNat := by
  induction count with
  | zero => cases h
  | succ count ih =>
    rw [following, List.mem_cons] at h
    rcases h with rfl | h
    · rw [UInt8.toNat_ofNat']
      omega
    · exact ih h

/-- A byte below 128 does not go on with a character. -/
theorem not_opens_append (hw : w ≠ []) (hb : b.toNat < 128) : ¬ Opens (w ++ [b]) := by
  rintro ⟨c, hc⟩
  obtain ⟨first, w, rfl⟩ := List.exists_cons_of_ne_nil hw
  obtain ⟨b', count, -, hutf8⟩ := exists_heads c
  rw [hutf8, List.cons_append, List.cons_prefix_cons] at hc
  -- The byte would be one of those that follow the first one.
  have hmem : b ∈ following count c.toNat :=
    hc.2.subset (List.mem_append_right _ List.mem_cons_self)
  exact absurd (le_of_mem_following hmem) (Nat.not_le_of_lt hb)

/-- A byte below 128 is a character by itself, and it does not change what is read in front of
it. -/
theorem Decodes.append (hfront : Decodes front s) (hb : b.toNat < 128) (hrest : Decodes rest t) :
    Decodes (front ++ b :: rest) (s ++ Char.ofNat b.toNat :: t) := by
  induction hfront with
  | nil =>
    have hcons := Decodes.cons (.char (Char.ofNat b.toNat) rest.head?) hrest
    rwa [utf8_ofNat hb] at hcons
  | @cons w front c s hstretch _ ih =>
    rw [List.append_assoc]
    refine .cons ?_ ih
    cases front with
    | cons => exact hstretch
    | nil =>
      -- The byte ends what is not complete in front of it.
      cases hstretch with
      | char => exact .char c _
      | stray _ hstray => exact .stray _ hstray
      | cut hw => exact .cut_cons hw (not_opens_append hw.1 hb)

/-- Other characters than the replacement come from the bytes. -/
theorem Decodes.mem (h : Decodes bytes text) (hc : c ∈ text) (hne : c ≠ replacement) :
    ∀ b ∈ utf8EncodeChar c, b ∈ bytes := by
  induction h with
  | nil => cases hc
  | cons hstretch _ ih =>
    intro b hb
    rw [List.mem_append]
    rcases List.mem_cons.mp hc with rfl | hc
    · rcases hstretch.eq_or with hw | ⟨hreplacement, -⟩
      · exact .inl (hw ▸ hb)
      · exact absurd hreplacement hne
    · exact .inr (ih hc b hb)

/-- A byte below 128 that does not occur leaves its character out of the text. -/
theorem ofNat_not_mem_decodeLossy (hb : b.toNat < 128) (hnot : b ∉ bytes) :
    Char.ofNat b.toNat ∉ decodeLossy bytes := by
  intro hmem
  have hne : Char.ofNat b.toNat ≠ replacement := by
    intro heq
    have hcode : b.toNat = replacement.toNat := heq ▸ (toNat_ofNat hb).symm
    exact absurd (hcode ▸ hb) (by decide)
  refine hnot ((decodes_decodeLossy bytes).mem hmem hne b ?_)
  rw [utf8_ofNat hb]
  exact List.mem_singleton_self b

/-- A byte below 128 parts what is in front of it from what is behind it. -/
theorem decodeLossy_append (hb : b.toNat < 128) (front rest : Bytes) :
    decodeLossy (front ++ b :: rest) =
      decodeLossy front ++ Char.ofNat b.toNat :: decodeLossy rest :=
  (decodes_iff.mp ((decodes_decodeLossy front).append hb (decodes_decodeLossy rest))).symm

/-- **The parts of the text are the parts of the bytes, read one by one.** -/
theorem parts_decodeLossy (hb : b.toNat < 128) (bytes : Bytes) :
    parts (Char.ofNat b.toNat) (decodeLossy bytes) = (bytes.splitOn b).map decodeLossy := by
  by_cases hmem : b ∈ bytes
  · -- The first mark divides bytes and text alike, and what is behind it is shorter.
    obtain ⟨front, rest, hbytes, hnot⟩ := List.eq_append_cons_of_mem hmem
    have hshorter : rest.length < bytes.length := by
      rw [hbytes, List.length_append, List.length_cons]
      omega
    rw [hbytes, decodeLossy_append hb, parts_append_mark (ofNat_not_mem_decodeLossy hb hnot),
      parts_decodeLossy hb rest, List.splitOn_append_cons_self, List.splitOn_eq_singleton hnot,
      List.singleton_append, List.map_cons]
  · rw [parts_of_not_mem (ofNat_not_mem_decodeLossy hb hmem), List.splitOn_eq_singleton hmem,
      List.map_singleton]
termination_by bytes.length

end Rollup.Text
