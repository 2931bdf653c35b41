import LineFilter.Proofs.Time.Apart
import LineFilter.Time.LayoutTable

/-!
# Tables in any order

Of the layouts of a table the first that takes a text is the one that counts.
Which one that is makes no difference: two layouts of one table that take the
same text read the same date from it. Most pairs share no text at all. The
others differ only in a name that one of them also takes in full, and what is
left of a full name behind its first three letters fits no piece that follows.
-/

namespace LineFilter

-- ---------------------------------------------------------------------------
-- Names
-- ---------------------------------------------------------------------------

namespace LayoutItem

/-- The names that a piece takes. -/
def names : LayoutItem → List Text
  | .weekday | .fullWeekday => weekdayNames
  | .month | .fullMonth => monthNames
  | _ => []

/-- The piece that also takes the names in full. -/
def inFull : LayoutItem → LayoutItem
  | .weekday => .fullWeekday
  | .month => .fullMonth
  | item => item

variable {item : LayoutItem} {items left right : List LayoutItem} {text rest word : Text}

theorem dropName_eq_some {name : Text} (h : dropName name text = some rest) :
    (text.take name.length).map Char.toLower = name := by
  rw [dropName] at h
  split_ifs at h with hname
  exact hname

theorem length_abbreviation {name : Text} (h : name ∈ item.names) : (name.take 3).length = 3 := by
  have hweekdays : ∀ name ∈ weekdayNames, (name.take 3).length = 3 := by decide
  have hmonths : ∀ name ∈ monthNames, (name.take 3).length = 3 := by decide
  cases item with
  | weekday | fullWeekday => exact hweekdays name h
  | month | fullMonth => exact hmonths name h
  | _ => cases h

/-- A name is taken by its first three letters. -/
theorem Leaves.abbreviation (hn : item.names ≠ []) (h : item.Leaves text rest) :
    ∃ name ∈ item.names, (text.take 3).map Char.toLower = name.take 3 := by
  obtain ⟨f, g, h⟩ := h
  have hfind {full : Bool} {p : Nat × Text} (h : readName item.names full text = some p) :
      ∃ name ∈ item.names, (text.take 3).map Char.toLower = name.take 3 := by
    obtain ⟨⟨name, index⟩, hmem, hread⟩ := List.exists_of_findSome?_eq_some h
    obtain ⟨rest, hrest, -⟩ := Option.map_eq_some_iff.mp hread
    have hname : name ∈ item.names := List.fst_mem_of_mem_zipIdx hmem
    have htake := dropName_eq_some hrest
    rw [length_abbreviation hname] at htake
    exact ⟨name, hname, htake⟩
  cases item with
  | weekday | fullWeekday | month | fullMonth =>
    obtain ⟨p, hp, -⟩ := Option.map_eq_some_iff.mp h
    exact hfind hp
  | _ => exact absurd rfl hn

/-- A name read in full has the same place in its list, and what is left may be
shorter by the rest of the name. -/
theorem readName_full {names : List Text} {n : Nat}
    (h : readName names false text = some (n, rest)) :
    ∃ name ∈ names,
      readName names true text = some (n, (dropName (name.drop 3) rest).getD rest) := by
  obtain ⟨before, ⟨name, n⟩, after, hnames, hread, hbefore⟩ := List.findSome?_eq_some_iff.mp h
  obtain ⟨left, hleft, heq⟩ := Option.map_eq_some_iff.mp hread
  cases heq
  refine ⟨name, List.fst_mem_of_mem_zipIdx (hnames ▸ List.mem_append_cons_self), ?_⟩
  refine List.findSome?_eq_some_iff.mpr ⟨before, (name, n), after, hnames, ?_, ?_⟩
  · simp [hleft]
  · intro p hp
    have hnone := hbefore p hp
    rw [Option.map_eq_none_iff] at hnone ⊢
    exact hnone

/-- A piece that takes full names reads the same fields. What it leaves is the
same, or lacks the rest of a name. -/
theorem read_inFull {f g : DateFields} (h : item.read f text = some (g, rest)) :
    ∃ rest', item.inFull.read f text = some (g, rest') ∧
      (rest' = rest ∨ ∃ name ∈ item.names, dropName (name.drop 3) rest = some rest') := by
  have hfull {names : List Text} {n : Nat} (h : readName names false text = some (n, rest)) :
      ∃ rest', readName names true text = some (n, rest') ∧
        (rest' = rest ∨ ∃ name ∈ names, dropName (name.drop 3) rest = some rest') := by
    obtain ⟨name, hname, hread⟩ := readName_full h
    refine ⟨_, hread, ?_⟩
    cases hdrop : dropName (name.drop 3) rest with
    | none => exact .inl rfl
    | some rest' => exact .inr ⟨name, hname, hdrop⟩
  cases item with
  | weekday | month =>
    obtain ⟨⟨n, left⟩, hread, heq⟩ := Option.map_eq_some_iff.mp h
    cases heq
    obtain ⟨rest', hread', hrest⟩ := hfull hread
    exact ⟨rest', Option.map_eq_some_iff.mpr ⟨_, hread', rfl⟩, hrest⟩
  | _ => exact ⟨rest, h, .inl rfl⟩

-- ---------------------------------------------------------------------------
-- The rest of a name
-- ---------------------------------------------------------------------------

/-- Whether no name of a piece begins with the same three letters as a word. -/
def misses (item : LayoutItem) (word : Text) : Bool :=
  item.names ≠ [] && 3 ≤ word.length && item.names.all fun name => name.take 3 ≠ word.take 3

theorem not_leaves_of_misses (h : item.misses word)
    (hw : (text.take word.length).map Char.toLower = word) : ¬ item.Leaves text rest := by
  intro hitem
  simp only [misses, Bool.and_eq_true, decide_eq_true_eq, List.all_eq_true] at h
  obtain ⟨⟨hnames, hlength⟩, hother⟩ := h
  obtain ⟨name, hname, htake⟩ := hitem.abbreviation hnames
  refine hother name hname ?_
  rw [← htake, ← hw, ← List.map_take, List.take_take, Nat.min_eq_left hlength]

/-- Whether pieces take no text that begins with a word of letters. -/
def refuse (word : Text) : List LayoutItem → Bool
  | [] => true
  | .space :: items => refuse word items
  | item :: items => item.misses word || CodeRanges.apart letterRanges (allHeads (item :: items))

theorem not_take_of_letter {c : Char} (hc : c ∈ text.head?) (hletter : Among letterRanges c)
    (h : CodeRanges.apart letterRanges (allHeads items)) : ¬ Take items text := by
  intro ht
  rcases ht.head with ⟨d, hd, hheads⟩ | ⟨-, hnil⟩
  · obtain rfl := Option.mem_unique hc hd
    exact not_among_of_apart h hletter hheads
  · simp [hnil] at hc

theorem not_take_of_refuse (h : refuse word items) (hletter : word.head?.any Char.isLower)
    (hw : (text.take word.length).map Char.toLower = word) : ¬ Take items text := by
  obtain ⟨c, cs, rfl, hc⟩ : ∃ c cs, text = c :: cs ∧ Among letterRanges c := by
    cases word with
    | nil => simp at hletter
    | cons w ws =>
      cases text with
      | nil => simp at hw
      | cons c cs =>
        obtain ⟨hcw, -⟩ : c.toLower = w ∧ _ := by simpa using hw
        exact ⟨c, cs, rfl, among_letterRanges (by simpa [hcw] using hletter)⟩
  have hblank : ¬ isBlank c := fun hb =>
    not_among_of_apart (by decide) hc (among_whiteSpace hb)
  induction items with
  | nil => simp
  | cons item items ih =>
    intro ht
    obtain ⟨rest, hitem, hitems⟩ := ht.cons
    by_cases hspace : item = .space
    · subst hspace
      obtain ⟨f, g, hread⟩ := hitem
      obtain ⟨-, rfl⟩ : f = g ∧ Text.dropBlanks (c :: cs) = rest := by simpa [read] using hread
      rw [Text.dropBlanks, List.dropWhile_cons_of_neg hblank] at hitems
      exact ih h hitems
    · have h : item.misses word || CodeRanges.apart letterRanges (allHeads (item :: items)) := by
        cases item <;> first | exact h | exact absurd rfl hspace
      rcases Bool.or_eq_true_iff.mp h with hmisses | hapart
      · exact not_leaves_of_misses hmisses hw hitem
      · exact not_take_of_letter rfl hc hapart ht

/-- Whether pieces take no text that begins with the rest of a name. -/
def closes (item : LayoutItem) (items : List LayoutItem) : Bool :=
  item.names.all fun name =>
    name.drop 3 = [] || (name.drop 3).head?.any Char.isLower && refuse (name.drop 3) items

/-- Where nothing goes on with the rest of a name, full names read as short ones. -/
theorem readAll_inFull {f g g' : DateFields} (hc : closes item left)
    (hl : readAll f text (item :: left) = some g)
    (hr : readAll f text (item.inFull :: right) = some g') :
    ∃ f' rest, readAll f' rest left = some g ∧ readAll f' rest right = some g' := by
  simp only [readAll, Option.bind_eq_bind, Option.bind_eq_some_iff] at hl hr
  obtain ⟨⟨f', rest⟩, hitem, hl⟩ := hl
  obtain ⟨⟨f'', rest''⟩, hfull, hr⟩ := hr
  obtain ⟨rest', hread, hrest⟩ := read_inFull hitem
  obtain ⟨rfl, rfl⟩ := Prod.mk.inj (Option.some.inj (hread.symm.trans hfull))
  rcases hrest with rfl | ⟨name, hname, hdrop⟩
  · exact ⟨f', rest', hl, hr⟩
  · have hcase := List.all_eq_true.mp hc name hname
    simp only [Bool.or_eq_true, Bool.and_eq_true, decide_eq_true_eq] at hcase
    rcases hcase with hnil | ⟨hletter, hrefuse⟩
    · -- The name is no longer than three letters.
      rw [hnil] at hdrop
      obtain rfl : rest = rest' := by simpa [dropName] using hdrop
      exact ⟨f', rest, hl, hr⟩
    · exact absurd ⟨f', g, hl⟩ (not_take_of_refuse hrefuse hletter (dropName_eq_some hdrop))

-- ---------------------------------------------------------------------------
-- Pieces that read the same
-- ---------------------------------------------------------------------------

/-- Whether two pieces take names, and none of the same three letters. -/
def unnamed (left right : LayoutItem) : Bool :=
  left.names ≠ [] && left.names.all right.misses

theorem not_take_of_unnamed {x y : LayoutItem} (h : unnamed x y) (hl : Take (x :: left) text) :
    ¬ Take (y :: right) text := by
  intro hr
  obtain ⟨hnames, hall⟩ := Bool.and_eq_true_iff.mp h
  obtain ⟨rest, hx, -⟩ := hl.cons
  obtain ⟨rest', hy, -⟩ := hr.cons
  obtain ⟨name, hname, htake⟩ := hx.abbreviation (of_decide_eq_true hnames)
  obtain ⟨name', hname', htake'⟩ := hy.abbreviation (by
    have := List.all_eq_true.mp hall name hname
    simp only [misses, Bool.and_eq_true, decide_eq_true_eq] at this
    exact this.1.1)
  have hmisses := List.all_eq_true.mp hall name hname
  simp only [misses, Bool.and_eq_true, decide_eq_true_eq, List.all_eq_true] at hmisses
  exact hmisses.2 name' hname' (htake'.symm.trans htake)

/-- Whether lists of pieces that take the same text read the same fields, and
then whether `same` holds. -/
def agree (same : Bool) : List LayoutItem → List LayoutItem → Bool
  | x :: left, y :: right =>
    apart (x :: left) (y :: right) || apart (y :: right) (x :: left) || unnamed x y ||
      unnamed y x ||
      (x = y || x.inFull = y && closes x left || y.inFull = x && closes y right) &&
        agree same left right
  | [], [] => same
  | left, right => apart left right

theorem eq_of_agree {same : Bool} {f g g' : DateFields} (h : agree same left right)
    (hl : readAll f text left = some g) (hr : readAll f text right = some g') :
    same ∧ g = g' := by
  induction left generalizing right f text with
  | nil =>
    cases right with
    | nil => exact ⟨h, Option.some.inj (hl.symm.trans hr)⟩
    | cons y right => exact absurd ⟨f, g', hr⟩ (not_take_of_apart h ⟨f, g, hl⟩)
  | cons x left ih =>
    cases right with
    | nil => exact absurd ⟨f, g', hr⟩ (not_take_of_apart h ⟨f, g, hl⟩)
    | cons y right =>
      have htl : Take (x :: left) text := ⟨f, g, hl⟩
      have htr : Take (y :: right) text := ⟨f, g', hr⟩
      simp only [agree, Bool.or_eq_true, Bool.and_eq_true, decide_eq_true_eq] at h
      rcases h with (((hapart | hapart) | hnames) | hnames) | ⟨hstep, hrest⟩
      · exact absurd htr (not_take_of_apart hapart htl)
      · exact absurd htl (not_take_of_apart hapart htr)
      · exact absurd htr (not_take_of_unnamed hnames htl)
      · exact absurd htl (not_take_of_unnamed hnames htr)
      · rcases hstep with (rfl | ⟨rfl, hcloses⟩) | ⟨rfl, hcloses⟩
        · simp only [readAll, Option.bind_eq_bind, Option.bind_eq_some_iff] at hl hr
          obtain ⟨⟨f', rest⟩, hitem, hl⟩ := hl
          obtain ⟨_, hitem', hr⟩ := hr
          obtain rfl := Option.some.inj (hitem.symm.trans hitem')
          exact ih hrest hl hr
        · obtain ⟨f', rest, hl, hr⟩ := readAll_inFull hcloses hl hr
          exact ih hrest hl hr
        · obtain ⟨f', rest, hr, hl⟩ := readAll_inFull hcloses hr hl
          exact ih hrest hl hr

end LayoutItem

-- ---------------------------------------------------------------------------
-- Tables
-- ---------------------------------------------------------------------------

namespace Layout

variable {a b : Layout} {table shuffled : List Layout}

/-- Whether two layouts that take the same text read the same date from it. -/
def agree (a b : Layout) : Bool :=
  LayoutItem.agree
    (a.precision = b.precision && a.assumed = b.assumed && a.isLocal = b.isLocal) a.items b.items

theorem same_of_agree (h : agree a b) {text : Text} {f g : DateFields}
    (ha : LayoutItem.readAll .none text a.items = some f)
    (hb : LayoutItem.readAll .none text b.items = some g) :
    (∀ today, a.wall? today text = b.wall? today text) ∧ a.isLocal = b.isLocal := by
  obtain ⟨hsame, rfl⟩ := LayoutItem.eq_of_agree h ha hb
  simp only [Bool.and_eq_true, decide_eq_true_eq] at hsame
  obtain ⟨⟨hprecision, hassumed⟩, hlocal⟩ := hsame
  exact ⟨fun today => by rw [wall?, wall?, ha, hb, hprecision, hassumed], hlocal⟩

theorem readAll_of_wall? {today : Date} {text : Text} {w : WallTime}
    (h : a.wall? today text = some w) : ∃ f, LayoutItem.readAll .none text a.items = some f := by
  simp only [wall?, Option.bind_eq_bind, Option.bind_eq_some_iff] at h
  obtain ⟨f, hf, -⟩ := h
  exact ⟨f, hf⟩

theorem wall?_eq_of_agree (h : agree a b) {today : Date} {text : Text} {v w : WallTime}
    (ha : a.wall? today text = some v) (hb : b.wall? today text = some w) :
    v = w ∧ a.isLocal = b.isLocal := by
  obtain ⟨f, hf⟩ := readAll_of_wall? ha
  obtain ⟨g, hg⟩ := readAll_of_wall? hb
  obtain ⟨hwall, hlocal⟩ := same_of_agree h hf hg
  exact ⟨Option.some.inj (ha.symm.trans ((hwall today).trans hb)), hlocal⟩

theorem read?_eq_of_agree (h : agree a b) {clock : Clock} {text : Text} {i j : Instant}
    (ha : a.read? clock text = some i) (hb : b.read? clock text = some j) : i = j := by
  simp only [read?, Option.bind_eq_bind, Option.bind_eq_some_iff] at ha hb
  obtain ⟨v, hv, hi⟩ := ha
  obtain ⟨w, hw, hj⟩ := hb
  obtain ⟨rfl, hlocal⟩ := wall?_eq_of_agree h hv hw
  rw [hlocal] at hi
  exact Option.some.inj (hi.symm.trans hj)

/-- The first result is the only one, so the order of the table is of no account. -/
theorem findSome?_perm {read : Layout → Option Instant} (hp : shuffled.Perm table)
    (h : ∀ a ∈ table, ∀ b ∈ table, ∀ i j, read a = some i → read b = some j → i = j) :
    shuffled.findSome? read = table.findSome? read := by
  cases hs : shuffled.findSome? read with
  | none =>
    rw [List.findSome?_eq_none_iff] at hs
    exact (List.findSome?_eq_none_iff.mpr fun a ha => hs a (hp.mem_iff.mpr ha)).symm
  | some i =>
    obtain ⟨a, ha, hi⟩ := List.exists_of_findSome?_eq_some hs
    have ha := hp.mem_iff.mp ha
    cases ht : table.findSome? read with
    | none =>
      rw [List.findSome?_eq_none_iff.mp ht a ha] at hi
      cases hi
    | some j =>
      obtain ⟨b, hb, hj⟩ := List.exists_of_findSome?_eq_some ht
      rw [h a ha b hb i j hi hj]

/-- Layouts that never differ on a text, whatever the date, the moment and the
zone are; so any order of them reads the same. -/
structure Unordered (table : List Layout) : Prop where
  wall : ∀ a ∈ table, ∀ b ∈ table, ∀ today text v w,
    a.wall? today text = some v → b.wall? today text = some w → v = w ∧ a.isLocal = b.isLocal
  instant : ∀ a ∈ table, ∀ b ∈ table, ∀ clock text i j,
    a.read? clock text = some i → b.read? clock text = some j → i = j
  first : ∀ shuffled, shuffled.Perm table → ∀ clock text,
    readFirst? shuffled clock text = readFirst? table clock text

theorem unordered_of_agree (h : ∀ a ∈ table, ∀ b ∈ table, agree a b) : Unordered table where
  wall a ha b hb _ _ _ _ := wall?_eq_of_agree (h a ha b hb)
  instant a ha b hb _ _ _ _ := read?_eq_of_agree (h a ha b hb)
  first _ hp _ _ := findSome?_perm hp fun a ha b hb _ _ => read?_eq_of_agree (h a ha b hb)

theorem agree_literals : ∀ a ∈ literals, ∀ b ∈ literals, agree a b := by
  decide +kernel

theorem agree_columns : ∀ a ∈ columns, ∀ b ∈ columns, agree a b := by
  decide +kernel

/-- Neither of the tables depends on its order. -/
theorem literals_columns_unordered : Unordered literals ∧ Unordered columns :=
  ⟨unordered_of_agree agree_literals, unordered_of_agree agree_columns⟩

/-- Two layouts take a day of the week in three letters. -/
example : columns.filterMap (·.read? ⟨0, 0, .utc⟩ "Mon Jan 5 15:04:05".toList) =
    [⟨399845, 0, 0⟩, ⟨399845, 0, 0⟩] := by
  decide +kernel

end Layout

end LineFilter
