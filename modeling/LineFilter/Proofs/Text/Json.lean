import LineFilter.Proofs.Number.Readers
import LineFilter.Run.Line

/-!
# Reading JSON

A reader of JSON texts, to say what is in a report. Values nest, and reading
goes as deep as it is told to, which is deep enough if it is the length of the
text. The entry of a row is read as an object with three fields, its number,
the rules that select it and its text, and stands on one line.
-/

namespace LineFilter

inductive Json
  | null
  | truth (holds : Bool)
  /-- `mantissa * 10 ^ exponent` -/
  | number (mantissa exponent : Int)
  | string (text : Text)
  | array (items : List Json)
  | object (fields : List (Text × Json))

namespace Json

def ofNat (n : Nat) : Json := .number n 0

def isSpace (c : Char) : Bool := c = ' ' || c = '\t' || c = '\n' || c = '\r'

def skip (cs : Text) : Text := cs.dropWhile isSpace

-- ---------------------------------------------------------------------------
-- Strings
-- ---------------------------------------------------------------------------

/-- What a letter behind a backslash stands for. -/
def escaped? : Char → Option Nat
  | '"' => some 0x22
  | '\\' => some 0x5C
  | '/' => some 0x2F
  | 'b' => some 0x08
  | 'f' => some 0x0C
  | 'n' => some 0x0A
  | 'r' => some 0x0D
  | 't' => some 0x09
  | _ => none

/-- The code units up to a quotation mark, and the text behind it. -/
def readUnits : Text → Option (List Nat × Text)
  | [] => none
  | '"' :: rest => some ([], rest)
  | '\\' :: 'u' :: a :: b :: c :: d :: rest => do
    let unit ← Digits.read? 16 [a, b, c, d]
    let (units, rest) ← readUnits rest
    return (unit :: units, rest)
  | '\\' :: c :: rest => do
    let unit ← escaped? c
    let (units, rest) ← readUnits rest
    return (unit :: units, rest)
  | c :: rest =>
    if c.toNat < 0x20 then none
    else do
      let (units, rest) ← readUnits rest
      return (c.toNat :: units, rest)

/-- The characters that code units spell; two surrogates spell one. -/
def joinUnits : List Nat → Option Text
  | [] => some []
  | [unit] => if unit.isValidChar then some [Char.ofNat unit] else none
  | unit :: next :: rest =>
    if unit.isValidChar then (joinUnits (next :: rest)).map (Char.ofNat unit :: ·)
    else if 0xD800 ≤ unit ∧ unit < 0xDC00 ∧ 0xDC00 ≤ next ∧ next < 0xE000 then
      (joinUnits rest).map (Char.ofNat (0x10000 + (unit - 0xD800) * 0x400 + (next - 0xDC00)) :: ·)
    else none

/-- A string behind its first quotation mark. -/
def readString (cs : Text) : Option (Text × Text) := do
  let (units, rest) ← readUnits cs
  return (← joinUnits units, rest)

-- ---------------------------------------------------------------------------
-- Numbers
-- ---------------------------------------------------------------------------

def readDigits (cs : Text) : Option (Text × Text) :=
  if cs.takeWhile Text.isDigit = [] then none
  else some (cs.takeWhile Text.isDigit, cs.dropWhile Text.isDigit)

def readSign : Text → Int × Text
  | '-' :: rest => (-1, rest)
  | cs => (1, cs)

def readFraction : Text → Option (Text × Text)
  | '.' :: rest => readDigits rest
  | cs => some ([], cs)

def readExponent (cs : Text) : Option (Int × Text) :=
  match cs with
  | 'e' :: rest | 'E' :: rest => do
    let (sign, rest) := match rest with
      | '+' :: rest => (1, rest)
      | rest => readSign rest
    let (digits, rest) ← readDigits rest
    return (sign * (← Digits.read? 10 digits), rest)
  | cs => some (0, cs)

/-- A number, without zeros in front of it. -/
def readNumber (cs : Text) : Option (Json × Text) := do
  let (sign, rest) := readSign cs
  let (whole, rest) ← readDigits rest
  if whole.head? = some '0' ∧ whole ≠ ['0'] then none
  else
    let (fraction, rest) ← readFraction rest
    let (exponent, rest) ← readExponent rest
    let digits ← Digits.read? 10 (whole ++ fraction)
    return (.number (sign * digits) (exponent - fraction.length), rest)

-- ---------------------------------------------------------------------------
-- Values
-- ---------------------------------------------------------------------------

/-- Items with commas between them, at least one, up to a closing mark. An item
takes some text, so what is left grows shorter. -/
def separated {α : Type} (item : Text → Option (α × Text)) (close : Char) (cs : Text) :
    Option (List α × Text) :=
  match item cs with
  | none => none
  | some (a, rest) =>
    match skip rest with
    | [] => none
    | c :: more =>
      if c = close then some ([a], more)
      else if _h : c = ',' ∧ more.length < cs.length then
        (separated item close more).map fun (as, rest) => (a :: as, rest)
      else none
termination_by cs.length

/-- A name, a colon and a value. -/
def field (value : Text → Option (Json × Text)) (cs : Text) : Option ((Text × Json) × Text) := do
  match skip cs with
  | '"' :: rest =>
    let (name, rest) ← readString rest
    match skip rest with
    | ':' :: rest =>
      let (json, rest) ← value rest
      return ((name, json), rest)
    | _ => none
  | _ => none

def words : List (Text × Json) :=
  [("null".toList, .null), ("true".toList, .truth true), ("false".toList, .truth false)]

def readWord (cs : Text) : Option (Json × Text) :=
  words.findSome? fun (word, json) =>
    if word.isPrefixOf cs then some (json, cs.drop word.length) else none

/-- An object behind its brace. -/
def readObject (value : Text → Option (Json × Text)) (cs : Text) : Option (Json × Text) :=
  match skip cs with
  | '\x7d' :: rest => some (.object [], rest)
  | cs => (separated (field value) '\x7d' cs).map fun (fields, rest) => (.object fields, rest)

/-- An array behind its bracket. -/
def readArray (value : Text → Option (Json × Text)) (cs : Text) : Option (Json × Text) :=
  match skip cs with
  | ']' :: rest => some (.array [], rest)
  | cs => (separated value ']' cs).map fun (items, rest) => (.array items, rest)

/-- A value that is nested no deeper than so much. -/
def value : Nat → Text → Option (Json × Text)
  | 0, _ => none
  | depth + 1, cs =>
    match skip cs with
    | '\x7b' :: rest => readObject (value depth) rest
    | '[' :: rest => readArray (value depth) rest
    | '"' :: rest => (readString rest).map fun (text, rest) => (.string text, rest)
    | cs => readWord cs <|> readNumber cs

/-- The value that a whole text spells. -/
def read? (text : Text) : Option Json :=
  (value text.length text).bind fun (json, rest) => if skip rest = [] then some json else none

-- ---------------------------------------------------------------------------
-- Strings are read where they are written
-- ---------------------------------------------------------------------------

theorem skip_cons {c : Char} (h : isSpace c = false) (cs : Text) : skip (c :: cs) = c :: cs :=
  List.dropWhile_cons_of_neg (by rw [h]; exact Bool.false_ne_true)

theorem read?_control :
    ∀ n < 0x20, Digits.read? 16 ['0', '0', Text.hexDigit (n / 16), Text.hexDigit n] = some n := by
  decide

theorem readUnits_plain {c : Char} (hquote : c ≠ '"') (hslash : c ≠ '\\') (hc : ¬ c.toNat < 0x20)
    (rest : Text) :
    readUnits (c :: rest) = (readUnits rest).map fun (units, rest) => (c.toNat :: units, rest) := by
  rw [readUnits]
  · rw [if_neg hc]
    cases readUnits rest <;> rfl
  · exact hquote
  · exact fun _ _ _ _ _ h _ => hslash h
  · exact fun _ _ h _ => hslash h

theorem readUnits_escape (c : Char) (rest : Text) :
    readUnits (Text.jsonEscape c ++ rest) =
      (readUnits rest).map fun (units, rest) => (c.toNat :: units, rest) := by
  unfold Text.jsonEscape
  split
  case h_8 hquote hslash _ _ _ _ _ =>
    split
    · rename_i hcontrol
      have hread := read?_control c.toNat hcontrol
      show readUnits ('\\' :: 'u' :: '0' :: '0' :: Text.hexDigit (c.toNat / 16) ::
        Text.hexDigit c.toNat :: rest) = _
      rw [readUnits, hread]
      cases readUnits rest <;> rfl
    · rename_i hcontrol
      exact readUnits_plain hquote hslash hcontrol rest
  all_goals
    cases h : readUnits rest <;> simp [readUnits, escaped?, h]

theorem readUnits_json (text rest : Text) :
    readUnits (text.flatMap Text.jsonEscape ++ '"' :: rest) = some (text.map Char.toNat, rest) := by
  induction text with
  | nil => rfl
  | cons c cs ih =>
    rw [List.flatMap_cons, List.append_assoc, readUnits_escape, ih]
    rfl

theorem joinUnits_toNat (text : Text) : joinUnits (text.map Char.toNat) = some text := by
  induction text with
  | nil => rfl
  | cons c cs ih =>
    have hc : c.toNat.isValidChar := c.valid
    cases cs with
    | nil =>
      rw [List.map_cons, List.map_nil, joinUnits, if_pos hc, Char.ofNat_toNat]
    | cons d ds =>
      rw [List.map_cons, List.map_cons, joinUnits, if_pos hc, Char.ofNat_toNat,
        ← List.map_cons, ih]
      rfl

theorem readString_json (text rest : Text) :
    readString (text.flatMap Text.jsonEscape ++ '"' :: rest) = some (text, rest) := by
  simp only [readString, readUnits_json, Option.bind_eq_bind, Option.bind_some, joinUnits_toNat]
  rfl

-- ---------------------------------------------------------------------------
-- Numbers are read where they are written
-- ---------------------------------------------------------------------------

theorem digitChar_ne_zero : ∀ n < 10, Nat.digitChar n = '0' → n = 0 := by decide

theorem head?_ofNat {n : Nat} (h : (Text.ofNat n).head? = some '0') : n = 0 := by
  induction n using Nat.strongRecOn with
  | ind n ih =>
    by_cases hn : n < 10
    · rw [Text.ofNat, Nat.toDigits_of_lt_base hn] at h
      exact digitChar_ne_zero n hn (Option.some.inj h)
    · -- The first digit is that of the tenth part, which is not zero.
      rw [Text.ofNat, Nat.toDigits_of_base_le (by decide) (by omega), List.head?_append] at h
      obtain ⟨d, ds, hds, -⟩ := Text.exists_ofNat (n / 10)
      have htenth : (Text.ofNat (n / 10)).head? = some '0' := by
        rw [Text.ofNat] at hds ⊢
        rw [hds] at h ⊢
        exact h
      have := ih (n / 10) (by omega) htenth
      omega

theorem readDigits_ofNat (n : Nat) {rest : Text} (h : !rest.head?.any Text.isDigit) :
    readDigits (Text.ofNat n ++ rest) = some (Text.ofNat n, rest) := by
  obtain ⟨d, ds, hds, hall⟩ := Text.exists_ofNat n
  obtain ⟨htake, hdrop⟩ := Text.span_append (hds ▸ hall) h
  rw [readDigits, htake, hdrop, if_neg (by simp [hds])]

/-- A number ends in front of a comma or a bracket. -/
theorem readNumber_ofNat (n : Nat) {c : Char} (hc : c = ',' ∨ c = ']') (rest : Text) :
    readNumber (Text.ofNat n ++ c :: rest) = some (ofNat n, c :: rest) := by
  obtain ⟨d, ds, hds, hall⟩ := Text.exists_ofNat n
  have hd : d ≠ '-' := by
    rintro rfl
    exact absurd (hall _ List.mem_cons_self) (by decide)
  have hsign : readSign (Text.ofNat n ++ c :: rest) = (1, Text.ofNat n ++ c :: rest) := by
    rw [hds, List.cons_append, readSign]
    rintro _ ⟨⟩
    exact hd rfl
  have hdigits : readDigits (Text.ofNat n ++ c :: rest) = some (Text.ofNat n, c :: rest) := by
    refine readDigits_ofNat n ?_
    rcases hc with rfl | rfl <;> rfl
  have hzero : ¬ ((Text.ofNat n).head? = some '0' ∧ Text.ofNat n ≠ ['0']) := by
    rintro ⟨hhead, hne⟩
    rw [head?_ofNat hhead] at hne
    exact hne (by decide)
  have hfraction : readFraction (c :: rest) = some ([], c :: rest) := by
    rcases hc with rfl | rfl <;> rfl
  have hexponent : readExponent (c :: rest) = some (0, c :: rest) := by
    rcases hc with rfl | rfl <;> rfl
  simp only [readNumber, hsign, hdigits, Option.bind_eq_bind, Option.bind_some, if_neg hzero,
    hfraction, hexponent, List.append_nil, Digits.read?_ofNat]
  simp [ofNat]

-- ---------------------------------------------------------------------------
-- Entries are read where they are written
-- ---------------------------------------------------------------------------

section
variable {α : Type} {item : Text → Option (α × Text)} {close : Char} {cs rest more : Text} {a : α}

theorem separated_last (h : item cs = some (a, close :: rest)) (hclose : isSpace close = false) :
    separated item close cs = some ([a], rest) := by
  rw [separated, h]
  simp only [skip_cons hclose, if_true]

theorem separated_more {as : List α} (h : item cs = some (a, ',' :: more)) (hclose : ',' ≠ close)
    (hlength : more.length < cs.length) (hmore : separated item close more = some (as, rest)) :
    separated item close cs = some (a :: as, rest) := by
  rw [separated, h]
  simp only [skip_cons (by decide : isSpace ',' = false), if_neg hclose, hlength, and_self,
    dite_true, hmore, Option.map_some]

end

theorem isSpace_of_isDigit {c : Char} (h : Text.isDigit c) : isSpace c = false := by
  have hc := Text.toNat_of_isDigit h
  have hne : ∀ d : Char, d.toNat < 48 → c ≠ d := by
    rintro _ hd rfl
    omega
  simp [isSpace, hne _ (by decide : ' '.toNat < 48), hne _ (by decide : '\t'.toNat < 48),
    hne _ (by decide : '\n'.toNat < 48), hne _ (by decide : '\r'.toNat < 48)]

theorem value_digit {d : Char} (hd : Text.isDigit d) (depth : Nat) (cs : Text) :
    value (depth + 1) (d :: cs) = readNumber (d :: cs) := by
  have hrange := Text.toNat_of_isDigit hd
  have hne : ∀ c : Char, c.toNat < 48 ∨ 57 < c.toNat → c ≠ d := by
    rintro _ hc rfl
    omega
  -- A digit begins none of the words and none of the other values.
  have hword : readWord (d :: cs) = none := by
    simp [readWord, words, hne _ (by decide : 'n'.toNat < 48 ∨ 57 < 'n'.toNat),
      hne _ (by decide : 't'.toNat < 48 ∨ 57 < 't'.toNat),
      hne _ (by decide : 'f'.toNat < 48 ∨ 57 < 'f'.toNat)]
  rw [value, skip_cons (isSpace_of_isDigit hd)]
  split
  · rename_i heq
    exact absurd (List.cons.inj heq).1.symm (hne _ (by decide))
  · rename_i heq
    exact absurd (List.cons.inj heq).1.symm (hne _ (by decide))
  · rename_i heq
    exact absurd (List.cons.inj heq).1.symm (hne _ (by decide))
  · rw [hword]
    rfl

theorem value_ofNat (depth n : Nat) {c : Char} (hc : c = ',' ∨ c = ']') (rest : Text) :
    value (depth + 1) (Text.ofNat n ++ c :: rest) = some (ofNat n, c :: rest) := by
  obtain ⟨d, ds, hds, hall⟩ := Text.exists_ofNat n
  have hread := readNumber_ofNat n hc rest
  rw [hds, List.cons_append] at hread ⊢
  rw [value_digit (hall d List.mem_cons_self), hread]

theorem separated_ofNat (depth n : Nat) (ns : List Nat) (rest : Text) :
    separated (value (depth + 1)) ']'
        (Text.join [','] ((n :: ns).map Text.ofNat) ++ ']' :: rest) =
      some ((n :: ns).map ofNat, rest) := by
  induction ns generalizing n with
  | nil =>
    rw [List.map_cons, List.map_nil, Text.join, List.intercalate_singleton]
    exact separated_last (value_ofNat depth n (.inr rfl) rest) (by decide)
  | cons m ns ih =>
    rw [List.map_cons, Text.join_cons (by simp), List.append_assoc, List.append_assoc]
    show separated (value (depth + 1)) ']'
      (Text.ofNat n ++ ',' :: (Text.join [','] ((m :: ns).map Text.ofNat) ++ ']' :: rest)) = _
    refine separated_more (value_ofNat depth n (.inl rfl) _) (by decide) ?_ (ih m)
    simp only [List.length_append, List.length_cons]
    omega

theorem value_array (depth : Nat) (ns : List Nat) (rest : Text) :
    value (depth + 2) ('[' :: (Text.join [','] (ns.map Text.ofNat) ++ ']' :: rest)) =
      some (.array (ns.map ofNat), rest) := by
  show readArray (value (depth + 1)) _ = _
  cases ns with
  | nil => rfl
  | cons n ns =>
    have hitems := separated_ofNat depth n ns rest
    obtain ⟨d, ds, hds, hall⟩ := Text.exists_ofNat n
    have hd : Text.isDigit d := hall d List.mem_cons_self
    obtain ⟨cs, hcs⟩ : ∃ cs, Text.join [','] ((n :: ns).map Text.ofNat) = d :: cs := by
      cases ns with
      | nil =>
        rw [List.map_cons, List.map_nil, Text.join, List.intercalate_singleton]
        exact ⟨ds, hds⟩
      | cons m ns =>
        rw [List.map_cons, Text.join_cons (by simp), hds]
        exact ⟨_, rfl⟩
    rw [hcs, List.cons_append] at hitems ⊢
    rw [readArray, skip_cons (isSpace_of_isDigit hd)]
    split
    · rename_i heq
      rw [(List.cons.inj heq).1] at hd
      exact absurd hd (by decide)
    · rw [hitems]
      rfl

theorem value_string (depth : Nat) (text rest : Text) :
    value (depth + 1) ('"' :: (text.flatMap Text.jsonEscape ++ '"' :: rest)) =
      some (.string text, rest) := by
  show (readString (text.flatMap Text.jsonEscape ++ '"' :: rest)).map _ = _
  rw [readString_json]
  rfl

theorem value_object (depth : Nat) {cs rest : Text} {fields : List (Text × Json)}
    (h : separated (field (value depth)) '\x7d' ('"' :: cs) = some (fields, rest)) :
    value (depth + 1) ('\x7b' :: '"' :: cs) = some (.object fields, rest) := by
  show (separated (field (value depth)) '\x7d' ('"' :: cs)).map _ = _
  rw [h]
  rfl

theorem field_plain {value : Text → Option (Json × Text)} {name rest behind : Text} {json : Json}
    (hname : name.flatMap Text.jsonEscape = name) (h : value rest = some (json, behind)) :
    field value ('"' :: (name ++ '"' :: ':' :: rest)) = some ((name, json), behind) := by
  have hstring := readString_json name (':' :: rest)
  rw [hname] at hstring
  simp only [field, skip_cons (by decide : isSpace '"' = false), hstring, Option.bind_eq_bind,
    Option.bind_some, skip_cons (by decide : isSpace ':' = false), h]
  rfl

theorem report_eq (row : Row) (rules : List Nat) :
    row.report rules =
      '\x7b' :: '"' :: ("line".toList ++ '"' :: ':' :: (Text.ofNat row.number ++
        ',' :: '"' :: ("matched".toList ++ '"' :: ':' ::
          '[' :: (Text.join [','] (rules.map Text.ofNat) ++ ']' ::
            ',' :: '"' :: ("text".toList ++ '"' :: ':' ::
              '"' :: (row.line.flatMap Text.jsonEscape ++ '"' :: '\x7d' :: [])))))) := by
  have hline : "\x7b\"line\":".toList = '\x7b' :: '"' :: ("line".toList ++ ['"', ':']) := rfl
  have hmatched : ",\"matched\":[".toList =
      ',' :: '"' :: ("matched".toList ++ ['"', ':', '[']) := rfl
  have htext : "],\"text\":".toList = ']' :: ',' :: '"' :: ("text".toList ++ ['"', ':']) := rfl
  unfold Row.report Text.json
  rw [hline, hmatched, htext]
  generalize "line".toList = line, "matched".toList = matched, "text".toList = text
  simp only [List.append_assoc, List.cons_append, List.nil_append]

/-- The entry of a row means its number, the rules that select it and its text. -/
theorem read?_report (row : Row) (rules : List Nat) :
    read? (row.report rules) =
      some (.object [("line".toList, ofNat row.number),
        ("matched".toList, .array (rules.map ofNat)), ("text".toList, .string row.line)]) := by
  -- Reading goes three levels down, to the numbers in the array.
  obtain ⟨depth, hdepth⟩ : ∃ depth, (row.report rules).length = depth + 3 := by
    refine ⟨(row.report rules).length - 3, ?_⟩
    rw [report_eq]
    simp only [List.length_cons, List.length_append]
    omega
  rw [read?, hdepth, report_eq]
  have hline : "line".toList.flatMap Text.jsonEscape = "line".toList := rfl
  have hmatched : "matched".toList.flatMap Text.jsonEscape = "matched".toList := rfl
  have htext : "text".toList.flatMap Text.jsonEscape = "text".toList := rfl
  -- From here on only the escapes of the names matter, and not their letters.
  generalize "line".toList = line, "matched".toList = matched, "text".toList = text at *
  have hbrace : isSpace '\x7d' = false := rfl
  have hthird := separated_last
    (field_plain htext (value_string (depth + 1) row.line ['\x7d'])) hbrace
  have hsecond := separated_more
    (field_plain hmatched (value_array depth rules _)) (by decide) ?_ hthird
  have hfirst := separated_more
    (field_plain hline (value_ofNat (depth + 1) row.number (.inl rfl) _)) (by decide) ?_ hsecond
  rw [value_object (depth + 2) hfirst]
  · rfl
  · simp only [List.length_cons, List.length_append]
    omega
  · simp only [List.length_cons, List.length_append]
    omega

-- ---------------------------------------------------------------------------
-- Entries stand on one line
-- ---------------------------------------------------------------------------

theorem lineFeed_not_mem_ofNat (n : Nat) : '\n' ∉ Text.ofNat n := by
  obtain ⟨d, ds, hds, hall⟩ := Text.exists_ofNat n
  intro hmem
  rw [hds] at hmem
  exact absurd (hall _ hmem) (by decide)

theorem lineFeed_ne_digitChar : ∀ n < 16, '\n' ≠ Nat.digitChar n := by decide

theorem lineFeed_not_mem_jsonEscape (c : Char) : '\n' ∉ Text.jsonEscape c := by
  have hdigit : ∀ n, '\n' ≠ Text.hexDigit n := fun n =>
    lineFeed_ne_digitChar (n % 16) (Nat.mod_lt n (by decide))
  unfold Text.jsonEscape
  split
  case h_8 hfeed _ _ =>
    split
    · simp [hdigit]
    · simpa using Ne.symm hfeed
  all_goals decide

theorem mem_join {c : Char} {separator : Text} {parts : List Text}
    (h : c ∈ Text.join separator parts) : c ∈ separator ∨ ∃ part ∈ parts, c ∈ part := by
  induction parts with
  | nil => cases h
  | cons part rest ih =>
    cases rest with
    | nil =>
      rw [Text.join, List.intercalate_singleton] at h
      exact .inr ⟨part, List.mem_cons_self, h⟩
    | cons next rest =>
      rw [Text.join_cons (List.cons_ne_nil next rest), List.mem_append, List.mem_append] at h
      rcases h with h | h | h
      · exact .inr ⟨part, List.mem_cons_self, h⟩
      · exact .inl h
      · obtain hs | ⟨other, hother, hc⟩ := ih h
        · exact .inl hs
        · exact .inr ⟨other, List.mem_cons_of_mem part hother, hc⟩

theorem lineFeed_not_mem_report (row : Row) (rules : List Nat) : '\n' ∉ row.report rules := by
  have hrules : '\n' ∉ Text.join [','] (rules.map Text.ofNat) := by
    intro hmem
    obtain hcomma | ⟨part, hpart, hfeed⟩ := mem_join hmem
    · exact absurd hcomma (by decide)
    · obtain ⟨rule, -, rfl⟩ := List.mem_map.mp hpart
      exact lineFeed_not_mem_ofNat rule hfeed
  have hline : '\n' ∉ row.line.flatMap Text.jsonEscape := by
    intro hmem
    obtain ⟨c, -, hfeed⟩ := List.mem_flatMap.mp hmem
    exact lineFeed_not_mem_jsonEscape c hfeed
  rw [report_eq]
  simp [lineFeed_not_mem_ofNat, hrules, hline]

end Json

end LineFilter
