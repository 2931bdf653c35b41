import LineFilter.Proofs.Number.Readers
import LineFilter.Time.Layout

/-!
# Pieces of layouts

What a piece of a layout takes from a text, whatever has been read before: a
field takes a run of digits up to its width, and every piece begins with one of
few characters or takes nothing.
-/

namespace LineFilter

-- ---------------------------------------------------------------------------
-- Runs of digits
-- ---------------------------------------------------------------------------

/-- One digit or more up to a width, and all there are if they are fewer. -/
structure IsRun (width : Nat) (digits rest : Text) : Prop where
  ne_nil : digits ≠ []
  digit : ∀ c ∈ digits, Text.isDigit c
  fits : digits.length ≤ width
  stops : digits.length < width → ∀ c ∈ rest.head?, ¬ Text.isDigit c

namespace IsRun

variable {width : Nat} {left right rest rest' : Text}

theorem of_digits {text : Text} {n : Nat} (h : NumberField.digits width text = some (n, rest)) :
    ∃ digits, IsRun width digits rest ∧ text = digits ++ rest := by
  simp only [NumberField.digits, Option.map_eq_some_iff, Prod.mk.injEq] at h
  obtain ⟨m, hm, rfl, hrest⟩ := h
  obtain ⟨hne, -⟩ := Digits.read?_eq_some.mp hm
  generalize hd : (text.take width).takeWhile Text.isDigit = digits at *
  have hlen : digits.length ≤ width := by
    rw [← hd]
    exact (List.takeWhile_prefix _).length_le.trans (List.length_take_le _ _)
  have htext : text = digits ++ rest := by
    obtain ⟨more, hmore⟩ := (hd ▸ List.takeWhile_prefix _).trans (List.take_prefix width text)
    rw [← hrest, ← hmore, List.drop_left]
  have hall : ∀ c ∈ digits, Text.isDigit c := by
    intro c hc
    rw [← hd] at hc
    exact List.mem_takeWhile_imp hc
  refine ⟨digits, ⟨hne, hall, hlen, ?_⟩, htext⟩
  intro hlt c hc hdigit
  obtain ⟨cs, rfl⟩ := List.head?_eq_some_iff.mp hc
  obtain ⟨k, hk⟩ := Nat.exists_eq_succ_of_ne_zero (Nat.sub_ne_zero_of_lt hlt)
  rw [htext, List.take_append, List.take_of_length_le hlen, List.takeWhile_append_of_pos hall, hk,
    List.take_succ_cons, List.takeWhile_cons_of_pos hdigit] at hd
  simp at hd

/-- A run in front of another text cannot go on. -/
theorem eq_nil_of_append {more : Text} {narrow : Nat} (hl : IsRun width left (more ++ rest))
    (hr : IsRun narrow (left ++ more) rest) (hw : narrow ≤ width) : more = [] := by
  cases more with
  | nil => rfl
  | cons c cs =>
    have hfits := hr.fits
    rw [List.length_append, List.length_cons] at hfits
    exact absurd (hr.digit c (by simp)) (hl.stops (by omega) c (by simp))

theorem unique (hl : IsRun width left rest) (hr : IsRun width right rest')
    (h : left ++ rest = right ++ rest') : rest = rest' := by
  rcases List.append_eq_append_iff.mp h with ⟨more, rfl, rfl⟩ | ⟨more, rfl, rfl⟩
  · rw [hl.eq_nil_of_append hr le_rfl, List.nil_append]
  · rw [hr.eq_nil_of_append hl le_rfl, List.nil_append]

/-- A year takes what another field does, or up to two digits more. -/
theorem lag (hl : IsRun 4 left rest) (hr : IsRun 2 right rest')
    (h : left ++ rest = right ++ rest') :
    rest = rest' ∨ ∃ more, IsRun 2 more rest ∧ rest' = more ++ rest := by
  rcases List.append_eq_append_iff.mp h with ⟨more, rfl, rfl⟩ | ⟨more, rfl, rfl⟩
  · rw [hl.eq_nil_of_append hr (by decide), List.nil_append]
    exact .inl rfl
  · by_cases hmore : more = []
    · rw [hmore, List.nil_append]
      exact .inl rfl
    · have hfull : right.length = 2 := by
        by_contra hlt
        obtain ⟨c, cs, rfl⟩ := List.exists_cons_of_ne_nil hmore
        have hfits := hr.fits
        exact absurd (hl.digit c (by simp)) (hr.stops (by omega) c (by simp))
      have hlength : (right ++ more).length = right.length + more.length := List.length_append
      refine .inr ⟨more, ⟨hmore, fun c hc => hl.digit c (by simp [hc]), ?_, ?_⟩, rfl⟩
      · have hfits := hl.fits
        omega
      · intro hlt
        exact hl.stops (by omega)

end IsRun

namespace LayoutItem

variable {item : LayoutItem} {items left right : List LayoutItem} {text rest rest' : Text}

-- ---------------------------------------------------------------------------
-- What a piece leaves
-- ---------------------------------------------------------------------------

/-- A piece takes the front of a text and leaves the rest. -/
def Leaves (item : LayoutItem) (text rest : Text) : Prop :=
  ∃ f g, item.read f text = some (g, rest)

/-- Pieces take a text to its end. -/
def Take (items : List LayoutItem) (text : Text) : Prop :=
  ∃ f g, readAll f text items = some g

@[simp] theorem take_nil : Take [] text ↔ text = [] := by
  constructor
  · rintro ⟨f, g, h⟩
    simp_all [readAll]
  · intro h
    exact ⟨.none, .none, by simp [readAll, h]⟩

theorem Take.cons (h : Take (item :: items) text) :
    ∃ rest, item.Leaves text rest ∧ Take items rest := by
  obtain ⟨f, g, h⟩ := h
  simp only [readAll, Option.bind_eq_bind, Option.bind_eq_some_iff] at h
  obtain ⟨⟨f', rest⟩, hitem, hitems⟩ := h
  exact ⟨rest, ⟨f, f', hitem⟩, ⟨f', g, hitems⟩⟩

/-- Whether a piece is a field of two digits. -/
def isPair : LayoutItem → Bool
  | .number field => field ≠ .year
  | _ => false

theorem leaves_pair (hp : item.isPair) (h : item.Leaves text rest) :
    ∃ run, IsRun 2 run rest ∧ text.dropBlanks = run ++ rest := by
  cases item with
  | number field =>
    have hf : field ≠ .year := by simpa [isPair] using hp
    have hwidth : field.width = 2 := by cases field <;> first | rfl | exact absurd rfl hf
    obtain ⟨f, g, h⟩ := h
    rw [read, NumberField.read] at h
    · simp only [Option.bind_eq_bind, Option.bind_eq_some_iff] at h
      obtain ⟨⟨n, rest'⟩, hn, h⟩ := h
      split_ifs at h
      cases h
      exact IsRun.of_digits (hwidth ▸ hn)
    · exact fun _ hy _ => hf hy
    · exact fun _ hy _ => hf hy
  | _ => simp [isPair] at hp

theorem leaves_year (h : (number .year).Leaves text rest) :
    (∃ c ∈ text.dropBlanks.head?, c = '-' ∨ c = '+') ∨
      ∃ digits, IsRun 4 digits rest ∧ text.dropBlanks = digits ++ rest := by
  obtain ⟨f, g, h⟩ := h
  rw [read] at h
  unfold NumberField.read at h
  split at h
  · rename_i hb
    exact .inl ⟨'-', by simp [hb], .inl rfl⟩
  · rename_i hb
    exact .inl ⟨'+', by simp [hb], .inr rfl⟩
  · simp only [Option.bind_eq_bind, Option.bind_eq_some_iff] at h
    obtain ⟨⟨n, rest'⟩, hn, h⟩ := h
    split_ifs at h
    cases h
    exact .inr (IsRun.of_digits hn)

theorem map_snd_readNumber (field : NumberField) (f g : DateFields) (text : Text) :
    (field.read f text).map Prod.snd = (field.read g text).map Prod.snd := by
  simp only [NumberField.read]
  split
  case h_1 => simp only [Option.map_map, Function.comp_def]
  case h_2 => simp only [Option.map_map, Function.comp_def]
  case h_3 =>
    simp only [Option.bind_eq_bind, Option.map_bind, Function.comp_def,
      apply_ite (Option.map Prod.snd), Option.map_some, Option.map_none]

/-- What is left does not depend on what has been read before. -/
theorem map_snd_read (item : LayoutItem) (f g : DateFields) (text : Text) :
    (item.read f text).map Prod.snd = (item.read g text).map Prod.snd := by
  cases item with
  | number field => exact map_snd_readNumber field f g text
  | literal c =>
    cases text with
    | nil => rfl
    | cons d rest =>
      simp only [read]
      split <;> rfl
  | space | zoneName => rfl
  | weekday | fullWeekday | month | fullMonth =>
    simp only [read, Option.map_map, Function.comp_def]
  | milliseconds =>
    simp only [read]
    split
    case h_1 => simp only [Option.map_map, Function.comp_def]
    case h_2 | h_3 => rfl

theorem Leaves.unique (h : item.Leaves text rest) (h' : item.Leaves text rest') :
    rest = rest' := by
  obtain ⟨f, f', h⟩ := h
  obtain ⟨g, g', h'⟩ := h'
  have hsame := map_snd_read item f g text
  rw [h, h'] at hsame
  exact Option.some.inj hsame

-- ---------------------------------------------------------------------------
-- What a piece begins with
-- ---------------------------------------------------------------------------

/-- A character is in one of some ranges, which need no order. -/
def Among (ranges : CodeRanges) (c : Char) : Prop := ∃ r ∈ ranges, r.1 ≤ c.toNat ∧ c.toNat ≤ r.2

theorem Among.append_left {more ranges : CodeRanges} {c : Char} (h : Among ranges c) :
    Among (ranges ++ more) c := by
  obtain ⟨r, hr, hc⟩ := h
  exact ⟨r, by simp [hr], hc⟩

theorem Among.append_right {more ranges : CodeRanges} {c : Char} (h : Among ranges c) :
    Among (more ++ ranges) c := by
  obtain ⟨r, hr, hc⟩ := h
  exact ⟨r, by simp [hr], hc⟩

theorem not_among_of_apart {a b : CodeRanges} (h : CodeRanges.apart a b) {c : Char}
    (ha : Among a c) : ¬ Among b c := by
  rintro ⟨r, hr, hr'⟩
  obtain ⟨s, hs, hs'⟩ := ha
  simp only [CodeRanges.apart, List.all_eq_true, Bool.or_eq_true, decide_eq_true_eq] at h
  have := h s hs r hr
  omega

def digitRange : CodeRanges := [(48, 57)]

def letterRanges : CodeRanges := [(65, 90), (97, 122)]

/-- One character as a range. -/
def exactly (c : Char) : CodeRanges := [(c.toNat, c.toNat)]

theorem among_digitRange {c : Char} (h : Text.isDigit c) : Among digitRange c :=
  ⟨(48, 57), by simp [digitRange], Text.toNat_of_isDigit h⟩

theorem among_exactly (c : Char) : Among (exactly c) c :=
  ⟨(c.toNat, c.toNat), by simp [exactly], le_rfl, le_rfl⟩

theorem among_whiteSpace {c : Char} (h : isBlank c) : Among whiteSpace c :=
  CodeRanges.exists_mem_of_has h

theorem among_letterRanges {c : Char} (h : c.toLower.isLower) : Among letterRanges c := by
  unfold Char.toLower at h
  split at h
  · rename_i hc
    refine ⟨(65, 90), by simp [letterRanges], ?_⟩
    simpa [UInt32.le_iff_toNat_le] using hc
  · have hlower : 97 ≤ c.val && c.val ≤ 122 := h
    refine ⟨(97, 122), by simp [letterRanges], ?_⟩
    simpa [UInt32.le_iff_toNat_le] using hlower

/-- The characters that a piece begins with, if it takes any. -/
def heads : LayoutItem → CodeRanges
  | .number .year => whiteSpace ++ (digitRange ++ (exactly '-' ++ exactly '+'))
  | .number _ => whiteSpace ++ digitRange
  | .literal c => exactly c
  | .space => whiteSpace
  | .weekday | .fullWeekday | .month | .fullMonth => letterRanges
  | .milliseconds => exactly '.'
  | .zoneName => [(0, 0x10ffff)]

/-- Whether a piece may take nothing. -/
def skips : LayoutItem → Bool
  | .space | .milliseconds | .zoneName => true
  | _ => false

theorem head_of_name {names : List Text} {full : Bool} {p : Nat × Text}
    (hnames : ∀ name ∈ names, name.head?.any Char.isLower) (h : readName names full text = some p) :
    ∃ c ∈ text.head?, Among letterRanges c := by
  obtain ⟨⟨name, index⟩, hmem, hread⟩ := List.exists_of_findSome?_eq_some h
  obtain ⟨rest, hrest, -⟩ := Option.map_eq_some_iff.mp hread
  have hname := hnames name (List.fst_mem_of_mem_zipIdx hmem)
  cases name with
  | nil => simp at hname
  | cons n ns =>
    rw [dropName] at hrest
    split_ifs at hrest with hfront
    cases text with
    | nil => simp at hfront
    | cons c cs =>
      refine ⟨c, rfl, among_letterRanges ?_⟩
      obtain ⟨hc, -⟩ : c.toLower = n ∧ _ := by simpa using hfront
      simpa [hc] using hname

theorem head_of_dropBlanks {ranges : CodeRanges}
    (h : ∃ c ∈ text.dropBlanks.head?, Among ranges c) :
    ∃ c ∈ text.head?, Among (whiteSpace ++ ranges) c := by
  obtain ⟨c, hc, hr⟩ := h
  cases text with
  | nil => simp [Text.dropBlanks] at hc
  | cons d ds =>
    refine ⟨d, rfl, ?_⟩
    by_cases hd : isBlank d
    · exact (among_whiteSpace hd).append_left
    · rw [Text.dropBlanks, List.dropWhile_cons_of_neg hd] at hc
      obtain rfl : d = c := by simpa using hc
      exact hr.append_right

theorem head_of_isRun {width : Nat} {run : Text} (h : IsRun width run rest) :
    ∃ c ∈ (run ++ rest).head?, Among digitRange c := by
  obtain ⟨c, cs, rfl⟩ := List.exists_cons_of_ne_nil h.ne_nil
  exact ⟨c, rfl, among_digitRange (h.digit c (by simp))⟩

/-- A piece begins with one of its characters, or it takes nothing. -/
theorem Leaves.head (h : item.Leaves text rest) :
    (∃ c ∈ text.head?, Among item.heads c) ∨ item.skips ∧ rest = text := by
  cases item with
  | number field =>
    left
    by_cases hf : field = .year
    · subst hf
      refine head_of_dropBlanks ?_
      rcases leaves_year h with ⟨c, hc, rfl | rfl⟩ | ⟨run, hrun, htext⟩
      · exact ⟨'-', hc, (among_exactly '-').append_left.append_right⟩
      · exact ⟨'+', hc, (among_exactly '+').append_right.append_right⟩
      · obtain ⟨c, hc, hr⟩ := htext ▸ head_of_isRun hrun
        exact ⟨c, hc, hr.append_left⟩
    · obtain ⟨run, hrun, htext⟩ := leaves_pair (by simpa [isPair] using hf) h
      have hheads : (number field).heads = whiteSpace ++ digitRange := by
        cases field <;> first | rfl | exact absurd rfl hf
      rw [hheads]
      exact head_of_dropBlanks (htext ▸ head_of_isRun hrun)
  | literal c =>
    obtain ⟨f, g, h⟩ := h
    cases text with
    | nil => simp [read] at h
    | cons d ds =>
      obtain ⟨rfl, -⟩ : d = c ∧ _ := by simpa [read] using h
      exact .inl ⟨d, rfl, among_exactly d⟩
  | space =>
    obtain ⟨f, g, h⟩ := h
    obtain ⟨-, rfl⟩ : f = g ∧ text.dropBlanks = rest := by simpa [read] using h
    cases text with
    | nil => exact .inr ⟨rfl, rfl⟩
    | cons d ds =>
      by_cases hd : isBlank d
      · exact .inl ⟨d, rfl, among_whiteSpace hd⟩
      · exact .inr ⟨rfl, List.dropWhile_cons_of_neg hd⟩
  | weekday | fullWeekday =>
    obtain ⟨f, g, h⟩ := h
    obtain ⟨p, hp, -⟩ := Option.map_eq_some_iff.mp h
    exact .inl (head_of_name (by decide) hp)
  | month | fullMonth =>
    obtain ⟨f, g, h⟩ := h
    obtain ⟨p, hp, -⟩ := Option.map_eq_some_iff.mp h
    exact .inl (head_of_name (by decide) hp)
  | milliseconds =>
    obtain ⟨f, g, h⟩ := h
    simp only [read] at h
    split at h
    · exact .inl ⟨'.', rfl, among_exactly '.'⟩
    · simp at h
    · exact .inr ⟨rfl, by simp_all⟩
  | zoneName =>
    obtain ⟨f, g, h⟩ := h
    obtain ⟨-, rfl⟩ : f = g ∧ text.dropWhile (!isBlank ·) = rest := by simpa [read] using h
    cases text with
    | nil => exact .inr ⟨rfl, rfl⟩
    | cons d ds =>
      refine .inl ⟨d, rfl, (0, 0x10ffff), by simp [heads], Nat.zero_le _, ?_⟩
      rcases d.valid with hd | ⟨-, hd⟩
      · exact (Nat.lt_trans hd (by decide)).le
      · exact Nat.le_of_lt_succ hd

/-- The characters that pieces begin with. -/
def allHeads : List LayoutItem → CodeRanges
  | [] => []
  | item :: items => item.heads ++ if item.skips then allHeads items else []

theorem Take.head (h : Take items text) :
    (∃ c ∈ text.head?, Among (allHeads items) c) ∨ items.all skips ∧ text = [] := by
  induction items generalizing text with
  | nil => exact .inr ⟨rfl, take_nil.mp h⟩
  | cons item items ih =>
    obtain ⟨rest, hitem, hitems⟩ := h.cons
    rcases hitem.head with ⟨c, hc, hr⟩ | ⟨hskips, rfl⟩
    · exact .inl ⟨c, hc, hr.append_left⟩
    · rcases ih hitems with ⟨c, hc, hr⟩ | ⟨hall, hnil⟩
      · refine .inl ⟨c, hc, ?_⟩
        rw [allHeads, if_pos hskips]
        exact hr.append_right
      · exact .inr ⟨by simpa [hskips] using hall, hnil⟩

end LayoutItem

end LineFilter
