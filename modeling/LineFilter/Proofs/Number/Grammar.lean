import Mathlib.Data.List.Forall2
import Mathlib.Data.List.Induction
import Mathlib.Data.Nat.Digits.Defs
import Mathlib.Tactic.IntervalCases
import LineFilter.Proofs.Number.Readers
import LineFilter.Value.Basic

/-!
# The grammar of integer literals

A literal is a sign or none, the mark of a base or none, and digits of that
base; it denotes the number that the digits spell in the base, below zero behind
`-`. The reader takes exactly the literals whose numbers have 64 bits, whatever
separators stand in them. So it takes every such number in every base, and no
text with a sign behind its first character.
-/

namespace LineFilter

namespace Digits

variable {base d n : Nat} {c : Char} {text : Text} {worths : List Nat}

-- ---------------------------------------------------------------------------
-- Digits
-- ---------------------------------------------------------------------------

/-- A digit of a base and its worth; a letter may be of either case. -/
def IsDigit (base : Nat) (c : Char) (d : Nat) : Prop := d < base ∧ c.toLower = Nat.digitChar d

theorem le_iff_toNat_le {a b : Char} : a ≤ b ↔ a.toNat ≤ b.toNat := by
  rw [Char.le_def, UInt32.le_iff_toNat_le, Char.toNat_val, Char.toNat_val]

theorem toNat_toLower (c : Char) :
    c.toLower.toNat = if 65 ≤ c.toNat ∧ c.toNat ≤ 90 then c.toNat + 32 else c.toNat := by
  have hupper : (c.val ≥ 'A'.val ∧ c.val ≤ 'Z'.val) ↔ (65 ≤ c.toNat ∧ c.toNat ≤ 90) :=
    and_congr le_iff_toNat_le le_iff_toNat_le
  unfold Char.toLower
  split_ifs with h h' h'
  · have := hupper.mp h
    rw [← Char.toNat_val, UInt32.toNat_add]
    simp
    omega
  · exact absurd (hupper.mp h) h'
  · exact absurd (hupper.mpr h') h
  · rfl

theorem toNat_digitChar (h : d < 16) :
    (Nat.digitChar d).toNat = if d < 10 then d + 48 else d + 87 := by
  interval_cases d <;> rfl

theorem worth?_eq_some (h : d < 16) : worth? c = some d ↔ c.toLower = Nat.digitChar d := by
  rw [← Char.toNat_inj, toNat_toLower, toNat_digitChar h]
  simp only [worth?, le_iff_toNat_le, Bool.and_eq_true, decide_eq_true_eq, Char.reduceToNat]
  split_ifs <;> grind

theorem worthIn?_eq_some (hb : base ≤ 16) : worthIn? base c = some d ↔ IsDigit base c d := by
  rw [worthIn?, Option.filter_eq_some_iff, decide_eq_true_eq, and_comm]
  refine and_congr_right fun hd => ?_
  exact worth?_eq_some (Nat.lt_of_lt_of_le hd hb)

theorem mapM_eq_some (hb : base ≤ 16) :
    text.mapM (worthIn? base) = some worths ↔ List.Forall₂ (IsDigit base) text worths := by
  induction text generalizing worths with
  | nil => simp
  | cons c cs ih =>
    simp only [List.mapM_cons, Option.bind_eq_bind, Option.bind_eq_some_iff, Option.pure_def,
      Option.some.injEq, worthIn?_eq_some hb, ih]
    constructor
    · rintro ⟨d, hd, ds, hds, rfl⟩
      exact .cons hd hds
    · rintro (_ | ⟨hd, hds⟩)
      exact ⟨_, hd, _, hds, rfl⟩

theorem worthIn?_of_forall₂ (hb : base ≤ 16) (h : List.Forall₂ (IsDigit base) text worths)
    (hc : c ∈ text) : worthIn? base c ≠ none :=
  worthIn?_of_mapM ((mapM_eq_some hb).mpr h) hc

theorem extend_zero (base : Nat) (worths : List Nat) :
    extend base 0 worths = Nat.ofDigits base worths.reverse := by
  induction worths using List.reverseRecOn with
  | nil => rfl
  | append_singleton ds d ih =>
    rw [extend_append, ih, List.reverse_append, List.reverse_singleton, List.singleton_append,
      Nat.ofDigits_cons]
    show Nat.ofDigits base ds.reverse * base + d = d + base * Nat.ofDigits base ds.reverse
    ring

theorem read?_iff (hb : base ≤ 16) :
    read? base text = some n ↔ text ≠ [] ∧
      ∃ worths, List.Forall₂ (IsDigit base) text worths ∧ Nat.ofDigits base worths.reverse = n := by
  simp only [read?_eq_some, mapM_eq_some hb, extend_zero]

theorem IsDigit.toNat (h : IsDigit base c d) (hb : base ≤ 16) :
    d < 10 ∧ c.toNat = d + 48 ∨ 10 ≤ d ∧ d < 16 ∧ (c.toNat = d + 87 ∨ c.toNat = d + 55) := by
  have hd : d < 16 := Nat.lt_of_lt_of_le h.1 hb
  have hc := congrArg Char.toNat h.2
  rw [toNat_toLower, toNat_digitChar hd] at hc
  split_ifs at hc <;> omega

theorem isDigit_digitChar (h : d < base) (hb : base ≤ 16) : IsDigit base (Nat.digitChar d) d := by
  refine ⟨h, ?_⟩
  have hd : d < 16 := Nat.lt_of_lt_of_le h hb
  interval_cases d <;> rfl

/-- A number is read in every base where it is printed in that base. -/
theorem read?_toDigits (h : 1 < base) (hb : base ≤ 16) (n : Nat) :
    read? base (Nat.toDigits base n) = some n := by
  rw [read?_iff hb]
  refine ⟨Nat.toDigits_ne_nil, ?_⟩
  induction n using Nat.strongRecOn with
  | ind n ih =>
    by_cases hn : n < base
    · refine ⟨[n], ?_, Nat.ofDigits_singleton⟩
      rw [Nat.toDigits_of_lt_base hn]
      exact .cons (isDigit_digitChar hn hb) .nil
    · -- The last digit is the rest by the base, and the others are read by induction.
      have hlt : n % base < base := Nat.mod_lt n (by omega)
      have hpos : 0 < n / base := Nat.div_pos (by omega) (by omega)
      obtain ⟨worths, hw, hspelled⟩ := ih (n / base) (Nat.div_lt_self (by omega) h)
      refine ⟨worths ++ [n % base], ?_, ?_⟩
      · rw [← Nat.div_add_mod n base, ← Nat.toDigits_append_toDigits h hpos hlt,
          Nat.toDigits_of_lt_base hlt, Nat.div_add_mod]
        exact List.rel_append hw (.cons (isDigit_digitChar hlt hb) .nil)
      · rw [List.reverse_append, List.reverse_singleton, List.singleton_append, Nat.ofDigits_cons,
          hspelled, Nat.add_comm, Nat.div_add_mod]

end Digits

namespace IntegerLiteral

open Digits (IsDigit)

-- ---------------------------------------------------------------------------
-- Literals
-- ---------------------------------------------------------------------------

/-- A sign, or none, and the unit that it counts in. -/
inductive IsSign : Text → Int → Prop
  | none : IsSign [] 1
  | plus : IsSign ['+'] 1
  | minus : IsSign ['-'] (-1)

/-- The bases with their marks; base ten has none. -/
def bases : List (Text × Nat) := [([], 10), (['0', 'x'], 16), (['0', 'X'], 16), (['0', 'b'], 2),
  (['0', 'B'], 2), (['0', 'o'], 8), (['0', 'O'], 8)]

/-- A literal without separators, and the integer of any size that it denotes. -/
inductive Denotes : Text → Int → Prop
  | literal {sign mark digits unit base worths} : IsSign sign unit → (mark, base) ∈ bases →
      digits ≠ [] → List.Forall₂ (IsDigit base) digits worths →
      Denotes (sign ++ (mark ++ digits)) (unit * Nat.ofDigits base worths.reverse)

variable {text sign mark digits body : Text} {worths : List Nat} {unit n : Int} {base : Nat}

theorem bounds_of_mem_bases (h : (mark, base) ∈ bases) : 1 < base ∧ base ≤ 16 :=
  (by decide : ∀ b ∈ bases, 1 < b.2 ∧ b.2 ≤ 16) _ h

/-- Behind its sign a literal has only letters and digits. -/
theorem isAlphanum_of_literal (hb : (mark, base) ∈ bases)
    (hd : List.Forall₂ (IsDigit base) digits worths) : ∀ c ∈ mark ++ digits, c.isAlphanum := by
  intro c hc
  rcases List.mem_append.mp hc with hc | hc
  · exact List.all_eq_true.mp ((by decide : ∀ b ∈ bases, b.1.all Char.isAlphanum) _ hb) c hc
  · have h16 := (bounds_of_mem_bases hb).2
    obtain ⟨d, hworth⟩ := Option.ne_none_iff_exists'.mp (Digits.worthIn?_of_forall₂ h16 hd hc)
    have hrange := ((Digits.worthIn?_eq_some h16).mp hworth).toNat h16
    have hranges : (decide (65 ≤ c.val ∧ c.val ≤ 90) || (97 ≤ c.val && c.val ≤ 122)) ||
        (48 ≤ c.val && c.val ≤ 57) := by
      simp only [Bool.or_eq_true, Bool.and_eq_true, decide_eq_true_eq, UInt32.le_iff_toNat_le]
      simp
      omega
    exact hranges

-- ---------------------------------------------------------------------------
-- Taking literals apart
-- ---------------------------------------------------------------------------

theorem isSign_splitSign (text : Text) :
    ∃ sign, IsSign sign (if (splitSign text).1 then -1 else 1) ∧
      text = sign ++ (splitSign text).2 := by
  unfold splitSign
  split
  · exact ⟨['-'], .minus, rfl⟩
  · exact ⟨['+'], .plus, rfl⟩
  · exact ⟨[], .none, rfl⟩

theorem mark_splitBase (text : Text) :
    ∃ mark, (mark, (splitBase text).1) ∈ bases ∧ text = mark ++ (splitBase text).2 := by
  fun_cases splitBase text
  · exact ⟨['0', 'x'], by simp [bases], rfl⟩
  · exact ⟨['0', 'X'], by simp [bases], rfl⟩
  · exact ⟨['0', 'b'], by simp [bases], rfl⟩
  · exact ⟨['0', 'B'], by simp [bases], rfl⟩
  · exact ⟨['0', 'o'], by simp [bases], rfl⟩
  · exact ⟨['0', 'O'], by simp [bases], rfl⟩
  · exact ⟨[], by simp [bases], rfl⟩

theorem splitSign_of_isSign (h : IsSign sign unit) (hb : ∀ c ∈ body, c.isAlphanum) :
    splitSign (sign ++ body) = (decide (unit = -1), body) := by
  cases h with
  | none =>
    cases body with
    | nil => rfl
    | cons c cs =>
      have hc := hb c List.mem_cons_self
      rw [List.nil_append, splitSign_cons, if_neg, if_neg]
      · rfl
      · rintro rfl
        exact absurd hc (by decide)
      · rintro rfl
        exact absurd hc (by decide)
  | plus => rfl
  | minus => rfl

theorem splitBase_of_mem_bases (hb : (mark, base) ∈ bases)
    (hd : List.Forall₂ (IsDigit base) digits worths) :
    splitBase (mark ++ digits) = (base, digits) := by
  simp only [bases, List.mem_cons, List.not_mem_nil, or_false, Prod.mk.injEq] at hb
  obtain ⟨rfl, rfl⟩ | ⟨rfl, rfl⟩ | ⟨rfl, rfl⟩ | ⟨rfl, rfl⟩ | ⟨rfl, rfl⟩ | ⟨rfl, rfl⟩ |
    ⟨rfl, rfl⟩ := hb
  · -- The letter of a base is no digit of base ten.
    rcases splitBase_cases digits with hsplit | ⟨x, hx, hsplit⟩
    · exact hsplit
    · have hmem : x ∈ digits := by
        rw [hsplit]
        simp
      have hworth := Digits.worthIn?_of_forall₂ (by decide) hd hmem
      simp only [List.mem_cons, List.not_mem_nil, or_false] at hx
      rcases hx with rfl | rfl | rfl | rfl | rfl | rfl <;> exact absurd (by decide) hworth
  all_goals rfl

-- ---------------------------------------------------------------------------
-- Reading
-- ---------------------------------------------------------------------------

/-- A literal has the parts that the reader looks for. -/
theorem Denotes.parts (h : Denotes text n) :
    ∃ m : Nat, Digits.read? (splitBase (splitSign text).2).1 (splitBase (splitSign text).2).2 =
        some m ∧ (if (splitSign text).1 then -(m : Int) else m) = n := by
  obtain ⟨hsign, hmark, hne, hdigits⟩ := h
  have h16 := (bounds_of_mem_bases hmark).2
  rw [splitSign_of_isSign hsign (isAlphanum_of_literal hmark hdigits),
    splitBase_of_mem_bases hmark hdigits]
  refine ⟨_, (Digits.read?_iff h16).mpr ⟨hne, _, hdigits, rfl⟩, ?_⟩
  cases hsign <;> simp

theorem Denotes.of_parts {m : Nat}
    (h : Digits.read? (splitBase (splitSign text).2).1 (splitBase (splitSign text).2).2 = some m) :
    Denotes text (if (splitSign text).1 then -(m : Int) else m) := by
  obtain ⟨sign, hsign, htext⟩ := isSign_splitSign text
  obtain ⟨mark, hmark, hbody⟩ := mark_splitBase (splitSign text).2
  obtain ⟨hne, worths, hdigits, rfl⟩ := (Digits.read?_iff (bounds_of_mem_bases hmark).2).mp h
  have hliteral := Denotes.literal hsign hmark hne hdigits
  rw [← hbody, ← htext] at hliteral
  cases hs : (splitSign text).1 <;> simpa [hs] using hliteral

/-- The grammar is unambiguous. -/
theorem Denotes.unique {m : Int} (h : Denotes text n) (h' : Denotes text m) : n = m := by
  obtain ⟨k, hk, rfl⟩ := h.parts
  obtain ⟨k', hk', rfl⟩ := h'.parts
  rw [hk, Option.some.injEq] at hk'
  rw [hk']

theorem Denotes.isAlphanum_tail (h : Denotes text n) : ∀ c ∈ text.tail, c.isAlphanum := by
  obtain ⟨hsign, hmark, -, hdigits⟩ := h
  intro c hc
  refine isAlphanum_of_literal hmark hdigits c ?_
  cases hsign with
  | none => exact List.mem_of_mem_tail hc
  | plus => exact hc
  | minus => exact hc

theorem Denotes.withoutSeparators (h : Denotes text n) : withoutSeparators text = text := by
  obtain ⟨hsign, hmark, -, hdigits⟩ := h
  rw [IntegerLiteral.withoutSeparators, List.filter_eq_self]
  intro c hc
  rw [decide_eq_true_eq]
  rintro rfl
  rcases List.mem_append.mp hc with hc | hc
  · cases hsign <;> simp at hc
  · exact absurd (isAlphanum_of_literal hmark hdigits _ hc) (by decide)

-- ---------------------------------------------------------------------------
-- Literals of numbers
-- ---------------------------------------------------------------------------

/-- A number in a base, behind the mark of the base. -/
def spell (mark : Text) (base : Nat) (n : Int) : Text :=
  (if n < 0 then ['-'] else []) ++ (mark ++ Nat.toDigits base n.natAbs)

theorem denotes_spell (h : (mark, base) ∈ bases) (n : Int) : Denotes (spell mark base n) n := by
  obtain ⟨h1, h16⟩ := bounds_of_mem_bases h
  obtain ⟨hne, worths, hdigits, hspelled⟩ :=
    (Digits.read?_iff h16).mp (Digits.read?_toDigits h1 h16 n.natAbs)
  unfold spell
  split_ifs with hn
  · have hliteral := Denotes.literal .minus h hne hdigits
    rwa [hspelled, show (-1 : Int) * n.natAbs = n by omega] at hliteral
  · have hliteral := Denotes.literal .none h hne hdigits
    rwa [hspelled, show (1 : Int) * n.natAbs = n by omega] at hliteral

/-- A number of 64 bits. -/
def Word (n : Int) : Prop := -2 ^ 63 ≤ n ∧ n < 2 ^ 63

instance (n : Int) : Decidable (Word n) := inferInstanceAs (Decidable (_ ∧ _))

theorem fits_iff : fits n ↔ Word n := by
  rw [fits, Word, Bool.and_eq_true, decide_eq_true_eq, decide_eq_true_eq]
  omega

theorem read?_iff : read? text = some n ↔ Denotes (withoutSeparators text) n ∧ Word n := by
  rw [read?_eq_some, ← fits_iff]
  constructor
  · rintro ⟨m, hm, rfl, hfits⟩
    exact ⟨.of_parts hm, hfits⟩
  · rintro ⟨hn, hfits⟩
    obtain ⟨m, hm, heq⟩ := hn.parts
    exact ⟨m, hm, heq, hfits⟩

theorem read?_eq_none (h : Denotes (withoutSeparators text) n) (hn : ¬ Word n) :
    read? text = none := by
  refine Option.eq_none_iff_forall_ne_some.mpr fun m hm => ?_
  obtain ⟨hdenotes, hword⟩ := read?_iff.mp hm
  exact hn (h.unique hdenotes ▸ hword)

/-- A reader of integers takes the literals of the grammar that have 64 bits. -/
structure FollowsGrammar (read : Text → Option Int) : Prop where
  literals : ∀ text n, read text = some n ↔ Denotes (withoutSeparators text) n ∧ Word n
  outside : ∀ text n, Denotes (withoutSeparators text) n → ¬ Word n → read text = none
  everyBase : ∀ b ∈ bases, ∀ n, read (spell b.1 b.2 n) = if Word n then some n else none
  oneSign : ∀ text, ∀ c ∈ (withoutSeparators text).tail, c = '-' ∨ c = '+' → read text = none
  printed : ∀ n, Word n → read (Text.ofInt n) = some n
  values : ∀ raw v, Value.ofInteger raw = .ok v →
    ∃ n, v = .integer raw n ∧ read raw = some n ∧ read v.text = some n

theorem read?_followsGrammar : FollowsGrammar read? where
  literals _ _ := read?_iff
  outside _ _ := read?_eq_none
  everyBase := by
    rintro ⟨mark, base⟩ hb n
    have hdenotes := denotes_spell hb n
    rw [← hdenotes.withoutSeparators] at hdenotes
    split_ifs with hn
    · exact read?_iff.mpr ⟨hdenotes, hn⟩
    · exact read?_eq_none hdenotes hn
  oneSign := by
    intro text c hc hsign
    refine Option.eq_none_iff_forall_ne_some.mpr fun n hn => ?_
    have hc := (read?_iff.mp hn).1.isAlphanum_tail c hc
    rcases hsign with rfl | rfl <;> exact absurd hc (by decide)
  printed n hn := read?_ofInt (fits_iff.mpr hn)
  values := by
    intro raw v hv
    unfold Value.ofInteger at hv
    split at hv
    · rename_i n hn
      cases hv
      exact ⟨n, rfl, hn, read?_ofInt (fits_of_read? hn)⟩
    · cases hv

-- A sign may stand only in front, and the least number has no opposite.
example : read? "-0x8000_0000_0000_0000".toList = some (-2 ^ 63) := by decide
example : read? "0x-1".toList = none := by decide

end IntegerLiteral

end LineFilter
