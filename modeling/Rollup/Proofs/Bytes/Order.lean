/-
Strings of bytes are ordered like what they spell.

Fields of one width are ordered like the numbers in them, and texts in UTF-8 like the texts. For a
character this holds because its first byte tells how many bytes follow, a greater one more of them,
and because the bytes that follow are its digits to the base 64 (`utf8_eq`).
-/
import Mathlib.Data.List.Lex
import Rollup.Proofs.Bytes
import Rollup.Proofs.Bytes.Hex

set_option autoImplicit false

namespace Rollup

/-! ## Before and behind -/

section

variable {α : Type} {f : α → Nat} {l m : List α}

/-- A list stands before another one: it ends first, or the first difference decides. -/
def Before (f : α → Nat) (l m : List α) : Prop := List.Lex (fun a b => f a < f b) l m

/-- A text comes before another at the first place where they differ. -/
theorem before_cons_iff {a b : α} :
    Before f (a :: l) (b :: m) ↔ f a < f b ∨ a = b ∧ Before f l m := List.cons_lex_cons_iff

/-- Of two lists one stands before the other one, unless they are equal. -/
theorem not_before_iff (hf : Function.Injective f) : ¬ Before f m l ↔ l = m ∨ Before f l m := by
  induction l generalizing m with
  | nil =>
    refine iff_of_true List.not_lex_nil ?_
    cases m with
    | nil => exact .inl rfl
    | cons b m => exact .inr .nil
  | cons a l ih =>
    cases m with
    | nil =>
      refine iff_of_false (fun h => h .nil) ?_
      rintro (h | h)
      · cases h
      · exact List.not_lex_nil h
    | cons b m =>
      rw [before_cons_iff, before_cons_iff, List.cons.injEq]
      -- Only at characters that are the same the rest decides.
      rcases Nat.lt_trichotomy (f a) (f b) with hlt | heq | hgt
      · have hne : a ≠ b := fun h => Nat.lt_irrefl _ (h ▸ hlt)
        refine iff_of_true ?_ (.inr (.inl hlt))
        rintro (h | ⟨h, -⟩)
        · exact Nat.lt_asymm hlt h
        · exact hne h.symm
      · obtain rfl := hf heq
        simp only [Nat.lt_irrefl, true_and, false_or]
        exact ih
      · have hne : a ≠ b := fun h => Nat.lt_irrefl _ (h ▸ hgt)
        refine iff_of_false (fun h => h (.inl hgt)) ?_
        rintro (⟨h, -⟩ | h | ⟨h, -⟩)
        · exact hne h
        · exact Nat.lt_asymm hgt h
        · exact hne h

end

namespace Bytes

/-- Strings of bytes are compared byte by byte. -/
abbrev Precedes (a b : Bytes) : Prop := Before UInt8.toNat a b

/-- Bytes are compared as numbers, from the first one on. -/
theorem precedes_cons {m n : Nat} {a b : Bytes} (hn : n < 256) (h : m < n ∨ m = n ∧ Precedes a b) :
    Precedes (UInt8.ofNat m :: a) (UInt8.ofNat n :: b) := by
  rw [Precedes, before_cons_iff, UInt8.toNat_ofNat', UInt8.toNat_ofNat']
  rcases h with h | ⟨rfl, h⟩
  · left
    omega
  · exact .inr ⟨rfl, h⟩

/-! ## Fields of one width -/

/-- The first byte counts most. -/
theorem value_cons (b : UInt8) (bytes : Bytes) :
    value (b :: bytes) = b.toNat * 256 ^ bytes.length + value bytes := by
  induction bytes using List.reverseRecOn with
  | nil => simp [value]
  | append_singleton bytes c ih =>
    rw [← List.cons_append, value_append_singleton, ih, value_append_singleton, List.length_append,
      List.length_singleton, Nat.pow_succ, ← Nat.mul_assoc]
    omega

/-- **Fields of one width are ordered like the numbers in them.** -/
theorem precedes_iff_value_lt {a b : Bytes} (h : a.length = b.length) :
    Precedes a b ↔ value a < value b := by
  induction a generalizing b with
  | nil =>
    obtain rfl := List.length_eq_zero_iff.mp h.symm
    exact iff_of_false List.not_lex_nil (Nat.lt_irrefl _)
  | cons c a ih =>
    obtain ⟨d, b, rfl⟩ := List.exists_cons_of_length_eq_add_one h.symm
    have hlength : a.length = b.length := Nat.succ.inj h
    have ha := value_lt a
    have hb := value_lt b
    have hcons : Precedes (c :: a) (d :: b) ↔ c.toNat < d.toNat ∨ c = d ∧ Precedes a b :=
      before_cons_iff
    rw [hcons, ih hlength, value_cons, value_cons, ← UInt8.toNat_inj]
    rw [hlength] at ha ⊢
    generalize 256 ^ b.length = width at ha hb ⊢
    -- The first bytes decide unless they are equal.
    rcases Nat.lt_trichotomy c.toNat d.toNat with hlt | heq | hgt
    · have hmul := Nat.mul_le_mul_right width (Nat.succ_le_of_lt hlt)
      rw [Nat.succ_mul] at hmul
      exact iff_of_true (.inl hlt) (by omega)
    · rw [heq]
      constructor
      · rintro (hlt | ⟨-, hlt⟩)
        · exact absurd hlt (Nat.lt_irrefl _)
        · omega
      · intro hlt
        exact .inr ⟨rfl, by omega⟩
    · have hmul := Nat.mul_le_mul_right width (Nat.succ_le_of_lt hgt)
      rw [Nat.succ_mul] at hmul
      refine iff_of_false ?_ (by omega)
      rintro (hlt | ⟨heq, -⟩) <;> omega

/-! ## Texts -/

/-- The last `count` digits of a number to the base 64, as the bytes that follow the first one of a
character. -/
def following : (count : Nat) → (n : Nat) → Bytes
  | 0, _ => []
  | count + 1, n => UInt8.ofNat (n / 64 ^ count % 64 + 128) :: following count n

/-- Bytes that follow are in the order of the bits that they hold. -/
theorem following_precedes {count m n : Nat} (h : m % 64 ^ count < n % 64 ^ count) (s t : Bytes) :
    Precedes (following count m ++ s) (following count n ++ t) := by
  induction count with
  | zero => simp [Nat.mod_one] at h
  | succ count ih =>
    have hm : m / 64 ^ count % 64 < 64 := Nat.mod_lt _ (by decide)
    have hn : n / 64 ^ count % 64 < 64 := Nat.mod_lt _ (by decide)
    rw [Nat.pow_succ, Nat.mod_mul, Nat.mod_mul] at h
    rw [following, following, List.cons_append, List.cons_append]
    refine precedes_cons (by omega) ?_
    rcases Nat.lt_trichotomy (m / 64 ^ count % 64) (n / 64 ^ count % 64) with hlt | heq | hgt
    · exact .inl (by omega)
    · rw [heq] at h ⊢
      exact .inr ⟨rfl, ih (by omega)⟩
    · -- The digit in front outweighs all that follow.
      have hmul := Nat.mul_le_mul_left (64 ^ count) (Nat.succ_le_of_lt hgt)
      rw [Nat.mul_succ] at hmul
      have hlast := Nat.mod_lt n (Nat.pow_pos (by decide : 0 < 64) : 0 < 64 ^ count)
      omega

/-- What the first byte of a character has on top of its digit, by how many bytes follow. -/
def mark : (count : Nat) → Nat
  | 0 => 0
  | 1 => 192
  | 2 => 224
  | 3 => 240
  | _ => 248

/-- The least character of so many further bytes. -/
def least : (count : Nat) → Nat
  | 0 => 0
  | 1 => 0x80
  | 2 => 0x800
  | 3 => 0x10000
  | _ => 0x110000

/-- More bytes are needed for greater numbers. -/
theorem least_le {j k : Nat} (h : j < k) (hk : k ≤ 3) : least (j + 1) ≤ least k := by
  have hall : ∀ k ≤ 3, ∀ j < k, least (j + 1) ≤ least k := by decide
  exact hall k hk j h

/-- More bytes are told by a greater first one. -/
theorem mark_le {j k : Nat} (h : j < k) (hk : k ≤ 3) : mark (j + 1) ≤ mark k := by
  have hall : ∀ k ≤ 3, ∀ j < k, mark (j + 1) ≤ mark k := by decide
  exact hall k hk j h

/-- The first byte tells how many follow. -/
theorem first_lt {count n : Nat} (hcount : count ≤ 3) (h : n < least (count + 1)) :
    n / 64 ^ count + mark count < mark (count + 1) := by
  match count, hcount with
  | 0, _ => simp only [least, mark] at h ⊢; omega
  | 1, _ => simp only [least, mark] at h ⊢; omega
  | 2, _ => simp only [least, mark] at h ⊢; omega
  | 3, _ => simp only [least, mark] at h ⊢; omega

/-- **A character in UTF-8**: a first byte, and the digits of the character to the base 64. -/
theorem utf8_eq (c : Char) : ∃ count ≤ 3,
    String.utf8EncodeChar c =
      UInt8.ofNat (c.toNat / 64 ^ count + mark count) :: following count c.toNat ∧
    least count ≤ c.toNat ∧ c.toNat < least (count + 1) := by
  have hc : c.toNat < 0x110000 := by
    rcases c.valid with hvalid | hvalid
    · exact Nat.lt_trans hvalid (by decide)
    · exact hvalid.2
  rw [String.utf8EncodeChar]
  -- From here on it is a matter of numbers.
  change c.val.toNat < 0x110000 at hc
  change ∃ count ≤ 3, _ = UInt8.ofNat (c.val.toNat / 64 ^ count + mark count) ::
    following count c.val.toNat ∧ least count ≤ c.val.toNat ∧ c.val.toNat < least (count + 1)
  generalize c.val.toNat = n at hc ⊢
  split_ifs with hone htwo hthree
  · refine ⟨0, by decide, ?_, Nat.zero_le n, Nat.lt_succ_of_le hone⟩
    simp [following, mark]
  · refine ⟨1, by decide, ?_, Nat.lt_of_not_le hone, Nat.lt_succ_of_le htwo⟩
    have hfirst : n / 64 % 32 = n / 64 := Nat.mod_eq_of_lt (by omega)
    simp [following, mark, hfirst]
  · refine ⟨2, by decide, ?_, Nat.lt_of_not_le htwo, Nat.lt_succ_of_le hthree⟩
    have hfirst : n / 4096 % 16 = n / 4096 := Nat.mod_eq_of_lt (by omega)
    simp [following, mark, hfirst]
  · refine ⟨3, by decide, ?_, Nat.lt_of_not_le hthree, hc⟩
    have hfirst : n / 262144 % 8 = n / 262144 := Nat.mod_eq_of_lt (by omega)
    simp [following, mark, hfirst]

/-- The bytes of characters are in their order, whatever stands behind. -/
theorem utf8_precedes {c d : Char} (h : c.toNat < d.toNat) (s t : Bytes) :
    Precedes (String.utf8EncodeChar c ++ s) (String.utf8EncodeChar d ++ t) := by
  obtain ⟨j, hj, hc, hcleast, hcmost⟩ := utf8_eq c
  obtain ⟨k, hk, hd, hdleast, hdmost⟩ := utf8_eq d
  have hfirst := first_lt hj hcmost
  have hbyte : ∀ k ≤ 3, mark (k + 1) < 256 := by decide
  rw [hc, hd, List.cons_append, List.cons_append]
  refine precedes_cons (Nat.lt_trans (first_lt hk hdmost) (hbyte k hk)) ?_
  rcases Nat.lt_trichotomy j k with hlt | rfl | hgt
  · exact .inl (Nat.lt_of_lt_of_le hfirst
      (Nat.le_trans (mark_le hlt hk) (Nat.le_add_left (mark k) _)))
  · -- As many bytes follow, and the digits decide from the first to the last.
    have hle : c.toNat / 64 ^ j ≤ d.toNat / 64 ^ j := Nat.div_le_div_right (Nat.le_of_lt h)
    rcases Nat.lt_or_eq_of_le hle with hlt | heq
    · exact .inl (Nat.add_lt_add_right hlt _)
    · refine .inr ⟨by rw [heq], following_precedes ?_ s t⟩
      have hcdiv := Nat.div_add_mod c.toNat (64 ^ j)
      have hddiv := Nat.div_add_mod d.toNat (64 ^ j)
      rw [heq] at hcdiv
      omega
  · have hleast := least_le hgt hj
    omega

/-- The bytes of texts are in their order. -/
theorem ofText_precedes {s t : List Char} (h : Before Char.toNat s t) :
    Precedes (ofText s) (ofText t) := by
  induction s generalizing t with
  | nil =>
    cases t with
    | nil => exact absurd h List.not_lex_nil
    | cons d t =>
      obtain ⟨k, -, hd, -⟩ := utf8_eq d
      rw [ofText_cons, hd]
      exact .nil
  | cons c s ih =>
    cases t with
    | nil => exact absurd h List.not_lex_nil
    | cons d t =>
      rw [ofText_cons, ofText_cons]
      rcases before_cons_iff.mp h with hlt | ⟨rfl, hlt⟩
      · exact utf8_precedes hlt _ _
      · -- Characters that are the same have the same bytes, and the texts differ behind them.
        exact List.Lex.append_left _ (ih hlt) _

/-- **Texts in UTF-8 are ordered like the texts.** -/
theorem ofText_precedes_iff {s t : List Char} :
    Precedes (ofText s) (ofText t) ↔ Before Char.toNat s t := by
  have hbytes : Function.Injective UInt8.toNat := fun _ _ => UInt8.toNat_inj.mp
  have hchars : Function.Injective Char.toNat := fun _ _ => Char.toNat_inj.mp
  refine ⟨fun h => ?_, ofText_precedes⟩
  -- Otherwise the bytes would stand the other way round.
  by_contra hnot
  have hback : ¬ Precedes (ofText s) (ofText t) := by
    rw [Precedes, not_before_iff hbytes]
    rcases (not_before_iff hchars).mp hnot with rfl | hlt
    · exact .inl rfl
    · exact .inr (ofText_precedes hlt)
  exact hback h

end Bytes

end Rollup
