import LineFilter.Proofs.Comparison.Sides
import LineFilter.Proofs.Number.Readers

/-!
# Orders across types

A text without a type is read once for each type that it meets, and the readers
give it the same place among values that have an order with each other. So the
orders of three values fit together where only one of them has no type, or
where all three are text.
-/

namespace LineFilter

/-- In a total preorder two rising steps make one, which stays level only if
both do. -/
theorem then_of_isLE {α : Type} {order : α → α → Ordering} [Std.TransCmp order] {x y z : α}
    (hxy : (order x y).isLE) (hyz : (order y z).isLE) :
    order x z = (order x y).then (order y z) := by
  cases hx : order x y with
  | lt => exact Std.TransCmp.lt_of_lt_of_isLE hx hyz
  | eq => exact Std.TransCmp.congr_left hx
  | gt => simp [hx] at hxy

-- ---------------------------------------------------------------------------
-- Typed sides
-- ---------------------------------------------------------------------------

namespace Typed

variable {clock : Clock} {x y z u : Typed} {o o' : Ordering} {t : Text}

/-- The decimal that a number is compared as. -/
def decimal? : Typed → Option Decimal
  | .integer n => some (.ofInt n)
  | .decimal d => some d
  | .text _ | .instant _ => none

/-- Values with an order are two texts, two numbers or two instants. -/
theorem order_cases (h : x.order y = some o) :
    (∃ s t, x = .text s ∧ y = .text t ∧ Text.order s t = o) ∨
    (∃ d e, x.decimal? = some d ∧ y.decimal? = some e ∧ d.order e = o) ∨
    (∃ i j, x = .instant i ∧ y = .instant j ∧ i.order j = o) := by
  cases x <;> cases y <;> simp_all [order, decimal?]

theorem order_of_decimal? {d e : Decimal} (hx : x.decimal? = some d) (hy : y.decimal? = some e) :
    x.order y = some (d.order e) := by
  cases x <;> cases hx <;> cases y <;> cases hy <;> simp [order]

/-- Two rising steps between typed values make one. -/
theorem order_then (hxy : x.order y = some o) (hyz : y.order z = some o') (ho : o.isLE)
    (ho' : o'.isLE) : x.order z = some (o.then o') := by
  rcases order_cases hxy with ⟨s, t, rfl, rfl, rfl⟩ | ⟨d, e, hd, he, rfl⟩ | ⟨i, j, rfl, rfl, rfl⟩
  · rcases order_cases hyz with ⟨t, r, ht, rfl, rfl⟩ | ⟨_, _, ht, -⟩ | ⟨_, _, ht, -⟩
    · cases ht
      exact congrArg some (then_of_isLE ho ho')
    · cases ht
    · cases ht
  · rcases order_cases hyz with ⟨_, _, rfl, -⟩ | ⟨e, f, hy, hf, rfl⟩ | ⟨_, _, rfl, -⟩
    · cases he
    · cases he.symm.trans hy
      rw [order_of_decimal? hd hf, then_of_isLE ho ho']
    · cases he
  · rcases order_cases hyz with ⟨_, _, hj, -⟩ | ⟨_, _, hj, -⟩ | ⟨j, k, hj, rfl, rfl⟩
    · cases hj
    · cases hj
    · cases hj
      exact congrArg some (then_of_isLE ho ho')

/-- What a text is as a decimal where an integer can be read of it. -/
theorem adopt_decimal {n : Int} {d : Decimal} (h : IntegerLiteral.read? t = some n) :
    (Typed.decimal d).adopt clock t = some (.decimal (.ofInt n)) := by
  cases hd : DecimalLiteral.read t with
  | error cause => simp [adopt, h, hd, Except.toOption]
  | ok e => simp [adopt, hd, DecimalLiteral.read_eq_ofInt h hd, Except.toOption]

/-- A text that is read as two types is in one place, if they have an order. -/
theorem adopt_agree (hx : y.adopt clock t = some x) (hu : z.adopt clock t = some u)
    (h : y.order z ≠ none) : x.order u = some .eq := by
  cases y <;> cases z <;> try exact absurd rfl h
  case text.text | integer.integer | decimal.decimal | instant.instant =>
    simp only [adopt] at hx hu
    cases hx.symm.trans hu
    exact order_self x
  case integer.decimal m e =>
    obtain ⟨n, hn, rfl⟩ := Option.map_eq_some_iff.mp hx
    cases (adopt_decimal hn).symm.trans hu
    simp [order, Std.ReflCmp.compare_self]
  case decimal.integer e m =>
    obtain ⟨n, hn, rfl⟩ := Option.map_eq_some_iff.mp hu
    cases (adopt_decimal hn).symm.trans hx
    simp [order, Std.ReflCmp.compare_self]

end Typed

-- ---------------------------------------------------------------------------
-- Values
-- ---------------------------------------------------------------------------

namespace Value

variable {clock : Clock} {a b c : Value} {x y z u : Typed} {o o' o'' : Ordering}

/-- Whether a value is text without a type. -/
def isUntyped : Value → Bool
  | .untyped _ => true
  | _ => false

/-- Whether a value is text, with or without a type. -/
def isText : Value → Bool
  | .untyped _ | .string _ _ => true
  | _ => false

/-- What a value is compared by when it meets something with a type. -/
def against (clock : Clock) (y : Typed) : Value → Option Typed
  | .untyped t => y.adopt clock t
  | a => a.typed?

theorem against_of_typed (h : a.isUntyped = false) : a.against clock y = a.typed? := by
  cases a with
  | untyped => simp [isUntyped] at h
  | _ => rfl

theorem sides_right (hb : b.isUntyped = false) :
    a.sides clock b = b.typed?.bind fun y => (a.against clock y).map (·, y) := by
  fun_cases sides clock a b with
  | case1 s t => simp [isUntyped] at hb
  | case2 s b _ => rfl
  | case3 a t _ => simp [isUntyped] at hb
  | case4 a b _ ha _ =>
    have ha' : ∀ y, a.against clock y = a.typed? := by
      intro y
      cases a with
      | untyped s => exact absurd rfl (ha s)
      | _ => rfl
    simp only [ha']
    cases a.typed? <;> cases b.typed? <;> rfl

/-- A comparison whose right side has a type. -/
theorem order_right (hb : b.isUntyped = false) (h : a.order clock b = some o) :
    ∃ x y, b.typed? = some y ∧ a.against clock y = some x ∧ x.order y = some o := by
  rw [order_eq_sides, sides_right hb] at h
  simp only [Option.bind_eq_some_iff, Option.map_eq_some_iff] at h
  obtain ⟨_, ⟨y, hy, x, hx, rfl⟩, ho⟩ := h
  exact ⟨x, y, hy, hx, ho⟩

/-- A comparison whose left side has a type. -/
theorem order_left (ha : a.isUntyped = false) (h : a.order clock b = some o) :
    ∃ x y, a.typed? = some x ∧ b.against clock x = some y ∧ x.order y = some o := by
  rw [order_swap, Option.map_eq_some_iff] at h
  obtain ⟨o, h, rfl⟩ := h
  obtain ⟨y, x, hx, hy, ho⟩ := order_right ha h
  refine ⟨x, y, hx, hy, ?_⟩
  rw [Typed.order_swap, ho]
  rfl

/-- A value is in one place, whichever of two types it meets. -/
theorem against_agree (hx : a.against clock y = some x) (hu : a.against clock z = some u)
    (h : y.order z ≠ none) : x.order u = some .eq := by
  cases a with
  | untyped t => exact Typed.adopt_agree hx hu h
  | _ =>
    cases hx.symm.trans hu
    exact Typed.order_self x

/-- Two rising steps make one where only the first value may have no type. -/
theorem order_then_of_typed_tail (hb : b.isUntyped = false) (hc : c.isUntyped = false)
    (hab : a.order clock b = some o) (hbc : b.order clock c = some o')
    (hac : a.order clock c = some o'') (ho : o.isLE) (ho' : o'.isLE) : o'' = o.then o' := by
  obtain ⟨x, y, hy, hx, hxy⟩ := order_right hb hab
  obtain ⟨y', z, hz, hy', hyz⟩ := order_right hc hbc
  obtain ⟨u, z', hz', hu, huz⟩ := order_right hc hac
  rw [against_of_typed hb] at hy'
  cases hy.symm.trans hy'
  cases hz.symm.trans hz'
  have hux : u.order x = some .eq := by
    rw [Typed.order_swap, against_agree hx hu (by simp [hyz])]
    rfl
  have huy : u.order y = some o := Typed.order_then hux hxy rfl ho
  exact Option.some.inj (huz.symm.trans (Typed.order_then huy hyz ho ho'))

/-- Two rising steps make one where only the middle value may have no type. -/
theorem order_then_of_typed_ends (ha : a.isUntyped = false) (hc : c.isUntyped = false)
    (hab : a.order clock b = some o) (hbc : b.order clock c = some o')
    (hac : a.order clock c = some o'') (ho : o.isLE) (ho' : o'.isLE) : o'' = o.then o' := by
  obtain ⟨x, y, hx, hy, hxy⟩ := order_left ha hab
  obtain ⟨v, z, hz, hv, hvz⟩ := order_right hc hbc
  obtain ⟨x', z', hz', hx', hxz⟩ := order_right hc hac
  rw [against_of_typed ha] at hx'
  cases hx.symm.trans hx'
  cases hz.symm.trans hz'
  have hyv : y.order v = some .eq := against_agree hy hv (by simp [hxz])
  have hyz : y.order z = some o' := Typed.order_then hyv hvz rfl ho'
  exact Option.some.inj (hxz.symm.trans (Typed.order_then hxy hyz ho ho'))

/-- Two rising steps make one where only the last value may have no type. -/
theorem order_then_of_typed_init (ha : a.isUntyped = false) (hb : b.isUntyped = false)
    (hab : a.order clock b = some o) (hbc : b.order clock c = some o')
    (hac : a.order clock c = some o'') (ho : o.isLE) (ho' : o'.isLE) : o'' = o.then o' := by
  obtain ⟨x, y, hx, hy, hxy⟩ := order_left ha hab
  obtain ⟨y', z, hy', hz, hyz⟩ := order_left hb hbc
  obtain ⟨x', w, hx', hw, hxw⟩ := order_left ha hac
  rw [against_of_typed hb] at hy
  cases hy.symm.trans hy'
  cases hx.symm.trans hx'
  have hzw : z.order w = some .eq := by
    refine against_agree hz hw ?_
    rw [Typed.order_swap, hxy]
    simp
  have hyw : y.order w = some o' := by
    rw [Typed.order_then hyz hzw ho' rfl]
    cases o' <;> rfl
  exact Option.some.inj (hxw.symm.trans (Typed.order_then hxy hyw ho ho'))

theorem order_of_isText (ha : a.isText) (hb : b.isText) :
    a.order clock b = some (Text.order a.text b.text) := by
  cases a <;> simp [isText] at ha <;> cases b <;> simp [isText] at hb <;> rfl

/-- Two rising steps make one where at most one value has no type, or all are
text. -/
theorem order_then (h : [a, b, c].countP isUntyped ≤ 1 ∨ [a, b, c].all isText)
    (hab : a.order clock b = some o) (hbc : b.order clock c = some o')
    (hac : a.order clock c = some o'') (ho : o.isLE) (ho' : o'.isLE) : o'' = o.then o' := by
  rcases h with h | h
  · cases ha : a.isUntyped with
    | false =>
      cases hb : b.isUntyped with
      | false => exact order_then_of_typed_init ha hb hab hbc hac ho ho'
      | true =>
        refine order_then_of_typed_ends ha ?_ hab hbc hac ho ho'
        simpa [List.countP_cons, ha, hb] using h
    | true =>
      have ⟨hb, hc⟩ : b.isUntyped = false ∧ c.isUntyped = false := by
        simpa [List.countP_cons, ha, and_comm] using h
      exact order_then_of_typed_tail hb hc hab hbc hac ho ho'
  · obtain ⟨ha, hb, hc⟩ : a.isText ∧ b.isText ∧ c.isText := by simpa using h
    rw [order_of_isText ha hb, Option.some.injEq] at hab
    rw [order_of_isText hb hc, Option.some.injEq] at hbc
    rw [order_of_isText ha hc, Option.some.injEq] at hac
    subst hab hbc hac
    exact then_of_isLE ho ho'

/-- Where a text compares with an integer it compares with every decimal. -/
theorem order_decimal_of_integer {t raw : Text} {n : Int} (raw' : Text) (d : Decimal)
    (h : (untyped t).order clock (.integer raw n) ≠ none) :
    ∃ m, (untyped t).order clock (.integer raw n) = some (compare m n) ∧
      (untyped t).order clock (.decimal raw' d) = some ((Decimal.ofInt m).order d) := by
  cases hm : IntegerLiteral.read? t with
  | none => simp [order, typed?, Typed.adopt, hm] at h
  | some m =>
    refine ⟨m, ?_, ?_⟩
    · simp [order, typed?, Typed.adopt, Typed.order, hm]
    · simp [order, typed?, Typed.adopt_decimal hm, Typed.order]

theorem order_self {x : Typed} (h : a.typed? = some x) : a.order clock a = some .eq := by
  have hx : a.order clock a = x.order x := by
    cases a <;> cases h <;> rfl
  rw [hx, Typed.order_self]

/-- The orders of values contradict each other nowhere. -/
structure Coherent (clock : Clock) : Prop where
  /-- Two rising steps never make one that falls, nor a strict one that stays
  level. -/
  rising : ∀ a b c : Value, [a, b, c].countP isUntyped ≤ 1 ∨ [a, b, c].all isText →
    ∀ o o', a.order clock b = some o → b.order clock c = some o' → o.isLE → o'.isLE →
      a.order clock c = none ∨
        ∃ o'', a.order clock c = some o'' ∧ o''.isLE ∧ (o = .lt ∨ o' = .lt → o'' = .lt)
  /-- A text that compares with an integer compares with a decimal. -/
  comparable : ∀ (t raw raw' : Text) (n : Int) (d : Decimal),
    (untyped t).order clock (.integer raw n) ≠ none →
      (untyped t).order clock (.decimal raw' d) ≠ none
  /-- It compares alike with an integer and with the same number as a decimal. -/
  sameNumber : ∀ (t raw raw' : Text) (n : Int) (d : Decimal),
    (untyped t).order clock (.integer raw n) ≠ none →
      (integer raw n).order clock (.decimal raw' d) = some .eq →
        (untyped t).order clock (.decimal raw' d) = (untyped t).order clock (.integer raw n)
  /-- What has an order is level with itself. -/
  level : ∀ a : Value, a.typed? ≠ none → a.order clock a = some .eq

theorem coherent (clock : Clock) : Coherent clock where
  rising a b c h o o' hab hbc ho ho' := by
    cases hac : a.order clock c with
    | none => exact .inl rfl
    | some o'' =>
      obtain rfl := order_then h hab hbc hac ho ho'
      refine .inr ⟨_, rfl, ?_, ?_⟩ <;> cases o <;> cases o' <;> simp_all
  comparable t raw raw' n d h := by
    obtain ⟨m, -, hd⟩ := order_decimal_of_integer raw' d h
    simp [hd]
  sameNumber t raw raw' n d h heq := by
    obtain ⟨m, hm, hd⟩ := order_decimal_of_integer raw' d h
    have hnd : (Decimal.ofInt n).order d = .eq := Option.some.inj heq
    rw [hm, hd, ← Decimal.order_ofInt, Std.TransCmp.congr_right hnd]
  level a h := by
    obtain ⟨x, hx⟩ := Option.ne_none_iff_exists'.mp h
    exact order_self hx

end Value

end LineFilter
