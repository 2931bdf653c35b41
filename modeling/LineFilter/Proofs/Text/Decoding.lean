import LineFilter.Run.Input

/-!
# Lines of octets and lines of text

Decoding does not move line ends. An octet below 0x80 ends whatever character
is still open and stands for itself, and no character below U+0080 comes from
any other octet; so octets may be cut into lines before or after they are read
as text, faulty ones included. Octets without faults, the UTF-8 of a text, are
read as that text.
-/

namespace LineFilter

-- ---------------------------------------------------------------------------
-- Pieces
-- ---------------------------------------------------------------------------

namespace Lines

variable {α : Type} [DecidableEq α] {lineFeed item : α} {items front first : List α}
  {others : List (List α)}

theorem pieces_cons_lineFeed :
    pieces lineFeed (lineFeed :: items) = [] :: pieces lineFeed items := by
  rw [pieces_cons]
  exact if_pos rfl

theorem pieces_cons_of_ne (h : item ≠ lineFeed) (hp : pieces lineFeed items = first :: others) :
    pieces lineFeed (item :: items) = (item :: first) :: others := by
  rw [pieces_cons, hp]
  exact if_neg h

theorem pieces_append (h : lineFeed ∉ front) (hp : pieces lineFeed items = first :: others) :
    pieces lineFeed (front ++ items) = (front ++ first) :: others := by
  induction front with
  | nil => exact hp
  | cons item front ih =>
    have hne : item ≠ lineFeed := Ne.symm (List.ne_of_not_mem_cons h)
    exact pieces_cons_of_ne hne (ih (List.not_mem_of_not_mem_cons h))

theorem pieces_of_not_mem (h : lineFeed ∉ items) : pieces lineFeed items = [items] := by
  have hp := pieces_append h (rfl : pieces lineFeed [] = [[]])
  rwa [List.append_nil] at hp

theorem pieces_append_lineFeed (h : lineFeed ∉ front) :
    pieces lineFeed (front ++ lineFeed :: items) = front :: pieces lineFeed items := by
  have hp := pieces_append h (pieces_cons_lineFeed : pieces lineFeed (lineFeed :: items) = _)
  rwa [List.append_nil] at hp

theorem exists_pieces (lineFeed : α) (items : List α) :
    ∃ first others, pieces lineFeed items = first :: others :=
  List.exists_cons_of_ne_nil (pieces_ne_nil lineFeed items)

theorem pieces_eq_splitOn (lineFeed : α) (items : List α) :
    pieces lineFeed items = items.splitOn lineFeed := by
  induction items with
  | nil => rw [List.splitOn_nil]; rfl
  | cons item items ih =>
    obtain ⟨first, others, hp⟩ := exists_pieces lineFeed items
    rw [List.splitOn_cons_eq_if_modifyHead, ← ih, hp]
    by_cases h : item = lineFeed
    · subst h
      rw [pieces_cons_lineFeed, hp, if_pos (beq_self_eq_true item)]
    · rw [pieces_cons_of_ne h hp, if_neg (by simpa using h), List.modifyHead_cons]

end Lines

-- ---------------------------------------------------------------------------
-- Octets below 0x80
-- ---------------------------------------------------------------------------

namespace Utf8

/-- The text that octets spell from a state on. -/
def decodeFrom (state : State) (octets : Octets) : Text :=
  (readFrom state octets).map (·.getD '\ufffd')

/-- No character below U+0080 can come out of a state: the next octet is none of
those, and the bits so far are too many. -/
def State.Sound : State → Prop
  | .start => True
  | .within bits low _ more =>
    0x80 ≤ low ∧ 2 ≤ bits * 64 + (low - 0x80) ∧ (more = 0 → 2 ≤ bits)

variable {state : State} {octet bits low high : Nat} {x : Char}

theorem step_last (h : low ≤ octet ∧ octet ≤ high) :
    step (.within bits low high 0) octet =
      ([some (Char.ofNat (bits * 64 + (octet - 0x80)))], .start) := if_pos h

theorem step_more (h : low ≤ octet ∧ octet ≤ high) (more : Nat) :
    step (.within bits low high (more + 1)) octet =
      ([], .within (bits * 64 + (octet - 0x80)) 0x80 0xBF more) := if_pos h

theorem step_broken (h : ¬ (low ≤ octet ∧ octet ≤ high)) (more : Nat) :
    step (.within bits low high more) octet = (none :: (lead octet).1, (lead octet).2) := if_neg h

theorem sound_start : State.start.Sound := True.intro

theorem sound_lead (octet : Nat) : (lead octet).2.Sound := by
  unfold lead
  repeat' split
  all_goals first | exact sound_start | (dsimp only [State.Sound]; omega)

theorem sound_step (h : state.Sound) : (step state octet).2.Sound := by
  cases state with
  | start => exact sound_lead octet
  | within bits low high more =>
    obtain ⟨hlow, hbits, -⟩ := h
    by_cases hin : low ≤ octet ∧ octet ≤ high
    · cases more with
      | zero => rw [step_last hin]; exact sound_start
      | succ more =>
        rw [step_more hin]
        refine ⟨Nat.le_refl _, ?_, fun _ => ?_⟩ <;> omega
    · rw [step_broken hin]
      exact sound_lead octet

theorem eq_of_ofNat_eq {n : Nat} (h : Char.ofNat n = x) (hx : x ≠ '\x00') : n = x.toNat := by
  by_cases hn : n.isValidChar
  · rw [← h, Char.ofNat, dif_pos hn]
    rfl
  · refine absurd ?_ hx
    rw [← h, Char.ofNat, dif_neg hn]
    rfl

theorem eq_of_mem_lead (h : some x ∈ (lead octet).1) (hx : x ≠ '\x00') : octet = x.toNat := by
  unfold lead at h
  repeat' split at h
  all_goals simp only [List.mem_cons, List.not_mem_nil, or_false, reduceCtorEq,
    Option.some.injEq] at h
  exact eq_of_ofNat_eq h.symm hx

/-- A character below U+0080 is the octet that ends there. -/
theorem eq_of_mem_step (hs : state.Sound) (h : some x ∈ (step state octet).1) (hx : x ≠ '\x00')
    (hascii : x.toNat < 0x80) : octet = x.toNat := by
  cases state with
  | start => exact eq_of_mem_lead h hx
  | within bits low high more =>
    obtain ⟨hlow, -, hmore⟩ := hs
    by_cases hin : low ≤ octet ∧ octet ≤ high
    · cases more with
      | zero =>
        rw [step_last hin, List.mem_singleton, Option.some.injEq] at h
        have hbits := eq_of_ofNat_eq h.symm hx
        have := hmore rfl
        omega
      | succ more =>
        rw [step_more hin] at h
        cases h
    · rw [step_broken hin] at h
      rcases List.mem_cons.mp h with ⟨⟨⟩⟩ | h
      exact eq_of_mem_lead h hx

theorem step_ascii (hs : state.Sound) (h : octet < 0x80) :
    step state octet = (finish state ++ [some (Char.ofNat octet)], .start) := by
  have hlead : lead octet = ([some (Char.ofNat octet)], .start) := by rw [lead, if_pos h]
  cases state with
  | start => exact hlead
  | within bits low high more =>
    obtain ⟨hlow, -⟩ := hs
    rw [step_broken (by omega), hlead]
    rfl

theorem next_ne_start (h : (step state octet).1 = []) : (step state octet).2 ≠ .start := by
  cases state with
  | start =>
    change (lead octet).1 = [] at h
    change (lead octet).2 ≠ .start
    revert h
    unfold lead
    repeat' split
    all_goals simp
  | within bits low high more =>
    by_cases hin : low ≤ octet ∧ octet ≤ high
    · cases more with
      | zero => rw [step_last hin] at h; cases h
      | succ more => rw [step_more hin]; exact nofun
    · rw [step_broken hin] at h
      cases h

-- ---------------------------------------------------------------------------
-- Texts from octets
-- ---------------------------------------------------------------------------

theorem decodeFrom_cons (state : State) (octet : UInt8) (rest : Octets) :
    decodeFrom state (octet :: rest) =
      (step state octet.toNat).1.map (·.getD '\ufffd') ++
        decodeFrom (step state octet.toNat).2 rest := by
  rw [decodeFrom, readFrom, List.map_append]
  rfl

theorem decodeFrom_ascii (hs : state.Sound) {octet : UInt8} (h : octet.toNat < 0x80)
    (rest : Octets) :
    decodeFrom state (octet :: rest) =
      decodeFrom state [] ++ Char.ofNat octet.toNat :: decode rest := by
  rw [decodeFrom_cons, step_ascii hs h, List.map_append, List.append_assoc]
  rfl

theorem decodeFrom_append_ascii (hs : state.Sound) {octet : UInt8} (h : octet.toNat < 0x80)
    (front rest : Octets) :
    decodeFrom state (front ++ octet :: rest) =
      decodeFrom state front ++ Char.ofNat octet.toNat :: decode rest := by
  induction front generalizing state with
  | nil => exact decodeFrom_ascii hs h rest
  | cons first front ih =>
    rw [List.cons_append, decodeFrom_cons, decodeFrom_cons, ih (sound_step hs), List.append_assoc]

theorem eq_nil_of_decodeFrom {octets : Octets} (h : decodeFrom state octets = []) :
    state = .start ∧ octets = [] := by
  induction octets generalizing state with
  | nil =>
    cases state with
    | start => exact ⟨rfl, rfl⟩
    | within => cases h
  | cons octet rest ih =>
    rw [decodeFrom_cons, List.append_eq_nil_iff, List.map_eq_nil_iff] at h
    obtain ⟨hfound, hrest⟩ := h
    exact absurd (ih hrest).1 (next_ne_start hfound)

theorem decode_eq_nil {octets : Octets} : decode octets = [] ↔ octets = [] :=
  ⟨fun h => (eq_nil_of_decodeFrom h).2, fun h => h ▸ rfl⟩

theorem not_mem_found (hs : state.Sound) (hx : x ≠ '\x00') (hascii : x.toNat < 0x80)
    (h : octet ≠ x.toNat) : x ∉ (step state octet).1.map (·.getD '\ufffd') := by
  intro hmem
  obtain ⟨found, hfound, hget⟩ := List.mem_map.mp hmem
  cases found with
  | none =>
    rw [← hget] at hascii
    exact absurd hascii (by decide)
  | some c =>
    cases hget
    exact h (eq_of_mem_step hs hfound hx hascii)

theorem not_mem_decodeFrom_nil (state : State) (hascii : x.toNat < 0x80) :
    x ∉ decodeFrom state [] := by
  cases state with
  | start => exact List.not_mem_nil
  | within =>
    intro hmem
    rw [List.mem_singleton.mp hmem] at hascii
    exact absurd hascii (by decide)

/-- The pieces between line feeds, from a state on: only the first piece sees
that state. -/
theorem pieces_decodeFrom (hs : state.Sound) (octets : Octets) :
    ∃ first others, Lines.pieces 10 octets = first :: others ∧
      Lines.pieces '\n' (decodeFrom state octets) =
        decodeFrom state first :: others.map decode := by
  induction octets generalizing state with
  | nil => exact ⟨[], [], rfl, Lines.pieces_of_not_mem (not_mem_decodeFrom_nil state (by decide))⟩
  | cons octet rest ih =>
    by_cases hfeed : octet = 10
    · subst hfeed
      obtain ⟨first, others, hpieces, htext⟩ := ih sound_start
      refine ⟨[], first :: others, by rw [Lines.pieces_cons_lineFeed, hpieces], ?_⟩
      have hend : '\n' ∉ decodeFrom state [] := not_mem_decodeFrom_nil state (by decide)
      rw [decodeFrom_ascii hs (by decide)]
      exact (Lines.pieces_append_lineFeed hend).trans (congrArg _ htext)
    · obtain ⟨first, others, hpieces, htext⟩ := ih (@sound_step _ octet.toNat hs)
      refine ⟨octet :: first, others, Lines.pieces_cons_of_ne hfeed hpieces, ?_⟩
      have hne : octet.toNat ≠ '\n'.toNat := fun h => hfeed (UInt8.toNat_inj.mp h)
      have hfound := not_mem_found hs (x := '\n') (by decide) (by decide) hne
      rw [decodeFrom_cons, decodeFrom_cons]
      exact Lines.pieces_append hfound htext

theorem pieces_decode (octets : Octets) :
    Lines.pieces '\n' (decode octets) = (Lines.pieces 10 octets).map decode := by
  obtain ⟨first, others, hpieces, htext⟩ := pieces_decodeFrom sound_start octets
  rw [hpieces]
  exact htext

theorem getLast?_decodeFrom (hs : state.Sound) {octets : Octets}
    (h : (decodeFrom state octets).getLast? = some '\r') : octets.getLast? = some 13 := by
  induction octets generalizing state with
  | nil => exact absurd (List.mem_of_getLast? h) (not_mem_decodeFrom_nil state (by decide))
  | cons octet rest ih =>
    have hnext : (step state octet.toNat).2.Sound := sound_step hs
    rw [decodeFrom_cons, List.getLast?_append] at h
    cases hlast : (decodeFrom (step state octet.toNat).2 rest).getLast? with
    | some c =>
      rw [hlast, Option.some_or] at h
      rw [List.getLast?_cons, ih hnext (hlast.trans h)]
      rfl
    | none =>
      -- The last octet: what it ends is the last character.
      rw [hlast, Option.none_or] at h
      obtain ⟨-, rfl⟩ := eq_nil_of_decodeFrom (List.getLast?_eq_none_iff.mp hlast)
      by_cases hreturn : octet = 13
      · rw [hreturn]; rfl
      · have hne : octet.toNat ≠ '\r'.toNat := fun heq => hreturn (UInt8.toNat_inj.mp heq)
        exact absurd (List.mem_of_getLast? h) (not_mem_found hs (by decide) (by decide) hne)

theorem decode_withoutReturn (octets : Octets) :
    decode (Lines.withoutReturn 13 octets) = Lines.withoutReturn '\r' (decode octets) := by
  unfold Lines.withoutReturn
  by_cases h : octets.getLast? = some 13
  · obtain ⟨front, rfl⟩ := List.getLast?_eq_some_iff.mp h
    have hdecode : decode (front ++ [13]) = decode front ++ ['\r'] :=
      decodeFrom_append_ascii sound_start (by decide) front []
    rw [if_pos h, hdecode, if_pos (by simp), List.dropLast_concat, List.dropLast_concat]
  · have htext : (decode octets).getLast? ≠ some '\r' :=
      fun htext => h (getLast?_decodeFrom sound_start htext)
    rw [if_neg h, if_neg htext]

/-- Octets cut into lines and decoded are their text cut into lines. -/
theorem cut_decode (octets : Octets) :
    Lines.cut '\n' '\r' (decode octets) = (Lines.cut 10 13 octets).map decode := by
  dsimp only [Lines.cut]
  rw [pieces_decode, List.map_append, ← List.map_dropLast, List.map_map, List.map_map]
  congr 1
  · refine List.map_congr_left ?_
    intro piece _
    exact (decode_withoutReturn piece).symm
  · rw [List.getLast?_map]
    cases (Lines.pieces 10 octets).getLast? with
    | none => rfl
    | some piece =>
      by_cases hp : piece = []
      · simp [hp, decode_eq_nil]
      · simp [hp, decode_eq_nil]

-- ---------------------------------------------------------------------------
-- Octets that spell a character
-- ---------------------------------------------------------------------------

variable {more b c n : Nat}

theorem toNat_ofNat (hn : n < 256) : (UInt8.ofNat n).toNat = n := by
  rw [UInt8.toNat_ofNat', Nat.mod_eq_of_lt hn]

theorem readFrom_last (hlow : low ≤ n + 0x80) (hhigh : n + 0x80 ≤ high) (hn : n < 64)
    (rest : Octets) :
    readFrom (.within bits low high 0) (UInt8.ofNat (n + 0x80) :: rest) =
      some (Char.ofNat (bits * 64 + n)) :: readFrom .start rest := by
  rw [readFrom, toNat_ofNat (by omega), step_last ⟨hlow, hhigh⟩, Nat.add_sub_cancel]
  rfl

theorem readFrom_more (hlow : low ≤ n + 0x80) (hhigh : n + 0x80 ≤ high) (hn : n < 64)
    (rest : Octets) :
    readFrom (.within bits low high (more + 1)) (UInt8.ofNat (n + 0x80) :: rest) =
      readFrom (.within (bits * 64 + n) 0x80 0xBF more) rest := by
  rw [readFrom, toNat_ofNat (by omega), step_more ⟨hlow, hhigh⟩, Nat.add_sub_cancel]
  rfl

theorem readFrom_lead {state : State} (hn : n < 256) (h : lead n = ([], state)) (rest : Octets) :
    readFrom .start (UInt8.ofNat n :: rest) = readFrom state rest := by
  rw [readFrom, toNat_ofNat hn, step, h]
  rfl

theorem lead_two (hb : 2 ≤ b) (hb' : b < 32) :
    lead (b + 0xC0) = ([], .within b 0x80 0xBF 0) := by
  rw [lead, if_neg (by omega), if_neg (by omega), if_pos (by omega), Nat.add_sub_cancel]

/-- The next octet is in range if the character is not below U+0800 and no surrogate. -/
theorem lead_three (hb : b < 16) (hc : c < 64) (hfirst : b = 0 → 0x20 ≤ c)
    (hsurrogate : b = 13 → c < 0x20) :
    ∃ low high, lead (b + 0xE0) = ([], .within b low high 1) ∧
      low ≤ c + 0x80 ∧ c + 0x80 ≤ high := by
  by_cases h : b = 0
  · subst h
    exact ⟨0xA0, 0xBF, rfl, by omega, by omega⟩
  by_cases h' : b = 13
  · subst h'
    exact ⟨0x80, 0x9F, rfl, by omega, by omega⟩
  · refine ⟨0x80, 0xBF, ?_, by omega, by omega⟩
    rw [lead, if_neg (by omega), if_neg (by omega), if_neg (by omega), if_neg (by omega),
      if_neg (by omega), if_pos (by omega), Nat.add_sub_cancel]

/-- The next octet is in range if the character is not below U+10000 nor above U+10FFFF. -/
theorem lead_four (hb : b ≤ 4) (hc : c < 64) (hfirst : b = 0 → 0x10 ≤ c)
    (hlast : b = 4 → c < 0x10) :
    ∃ low high, lead (b + 0xF0) = ([], .within b low high 2) ∧
      low ≤ c + 0x80 ∧ c + 0x80 ≤ high := by
  by_cases h : b = 0
  · subst h
    exact ⟨0x90, 0xBF, rfl, by omega, by omega⟩
  by_cases h' : b = 4
  · subst h'
    exact ⟨0x80, 0x8F, rfl, by omega, by omega⟩
  · refine ⟨0x80, 0xBF, ?_, by omega, by omega⟩
    rw [lead, if_neg (by omega), if_neg (by omega), if_neg (by omega), if_neg (by omega),
      if_neg (by omega), if_neg (by omega), if_neg (by omega), if_pos (by omega),
      Nat.add_sub_cancel]

theorem readFrom_encode (x : Char) (rest : Octets) :
    readFrom .start (String.utf8EncodeChar x ++ rest) = some x :: readFrom .start rest := by
  have hx : Char.ofNat x.val.toNat = x := Char.ofNat_toNat x
  have hvalid : x.val.toNat < 0xD800 ∨ 0xDFFF < x.val.toNat ∧ x.val.toNat < 0x110000 := x.valid
  unfold String.utf8EncodeChar
  dsimp only
  generalize x.val.toNat = v at hx hvalid ⊢
  -- One octet up to four: each is in the range that the ones before it leave, and
  -- the bits of all of them are the character's.
  split
  · rename_i h
    have hlead : lead v = ([some (Char.ofNat v)], .start) := by rw [lead, if_pos (by omega)]
    rw [List.singleton_append, readFrom, toNat_ofNat (by omega), step, hlead, hx]
    rfl
  split
  · rename_i h h'
    rw [List.cons_append, List.singleton_append,
      readFrom_lead (by omega) (lead_two (by omega) (by omega)),
      readFrom_last (by omega) (by omega) (by omega),
      show v / 64 % 32 * 64 + v % 64 = v by omega, hx]
  split
  · rename_i h h' h''
    obtain ⟨low, high, hlead, hlow, hhigh⟩ :=
      @lead_three (v / 4096 % 16) (v / 64 % 64) (by omega) (by omega) (by omega) (by omega)
    rw [List.cons_append, List.cons_append, List.singleton_append,
      readFrom_lead (by omega) hlead, readFrom_more hlow hhigh (by omega),
      readFrom_last (by omega) (by omega) (by omega),
      show (v / 4096 % 16 * 64 + v / 64 % 64) * 64 + v % 64 = v by omega, hx]
  · rename_i h h' h''
    obtain ⟨low, high, hlead, hlow, hhigh⟩ :=
      @lead_four (v / 262144 % 8) (v / 4096 % 64) (by omega) (by omega) (by omega) (by omega)
    rw [List.cons_append, List.cons_append, List.cons_append, List.singleton_append,
      readFrom_lead (by omega) hlead, readFrom_more hlow hhigh (by omega),
      readFrom_more (by omega) (by omega) (by omega),
      readFrom_last (by omega) (by omega) (by omega),
      show ((v / 262144 % 8 * 64 + v / 4096 % 64) * 64 + v / 64 % 64) * 64 + v % 64 = v by omega,
      hx]

theorem read_encode (text : Text) : read (text.flatMap String.utf8EncodeChar) = text.map some := by
  induction text with
  | nil => rfl
  | cons x rest ih =>
    rw [List.flatMap_cons, read, readFrom_encode, List.map_cons]
    exact congrArg _ ih

/-- The UTF-8 of a text decodes to that text. -/
theorem decode_encode (text : Text) : decode (text.flatMap String.utf8EncodeChar) = text := by
  rw [decode, read_encode, List.map_map]
  exact List.map_id text

end Utf8

end LineFilter
