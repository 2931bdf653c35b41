import LineFilter.Text.Gap

/-!
# What a gap is

White space and comments, said without the reader: a comment goes up to the end
of its line. The reader splits off such a gap whole, and nothing else.
-/

namespace LineFilter

/-- White space, and comments with the line feeds that end them. -/
inductive IsGap : Text → Prop
  | nil : IsGap []
  | blank {c gap} : isBlank c → IsGap gap → IsGap (c :: gap)
  | comment {body gap} : '\n' ∉ body → IsGap gap → IsGap ('#' :: (body ++ '\n' :: gap))

/-- A gap at the end of a script, where a comment needs no line feed. -/
inductive IsLastGap : Text → Prop
  | closed {gap} : IsGap gap → IsLastGap gap
  | comment {gap body} : IsGap gap → '\n' ∉ body → IsLastGap (gap ++ '#' :: body)

theorem IsGap.append {left right : Text} (hl : IsGap left) (hr : IsGap right) :
    IsGap (left ++ right) := by
  induction hl with
  | nil => exact hr
  | blank hc _ ih => exact .blank hc ih
  | comment hbody _ ih => simpa using IsGap.comment hbody ih

theorem IsGap.last {gap last : Text} (h : IsGap gap) (hl : IsLastGap last) :
    IsLastGap (gap ++ last) := by
  cases hl with
  | closed hl => exact .closed (h.append hl)
  | comment hl hbody =>
    rw [← List.append_assoc]
    exact .comment (h.append hl) hbody

/-- A gap begins with white space or with a comment. -/
theorem IsGap.head {c : Char} {gap : Text} (h : IsGap (c :: gap)) : isBlank c ∨ c = '#' := by
  cases h with
  | blank hc => exact .inl hc
  | comment => exact .inr rfl

theorem IsLastGap.head {c : Char} {gap : Text} (h : IsLastGap (c :: gap)) :
    isBlank c ∨ c = '#' := by
  generalize htext : c :: gap = text at h
  cases h with
  | closed h => exact (htext ▸ h).head
  | @comment front body h =>
    cases front with
    | nil => exact .inr (List.cons.inj htext).1
    | cons d front =>
      obtain ⟨rfl, -⟩ := List.cons.inj htext
      exact h.head

namespace Text

variable {c : Char} {gap body cs : Text}

theorem splitGap_blank (hc : isBlank c) :
    splitGap false (c :: cs) = (c :: (splitGap false cs).1, (splitGap false cs).2) := by
  have hsharp : c ≠ '#' := by
    rintro rfl
    exact absurd hc (by decide)
  simp [splitGap, hc, hsharp]

theorem splitGap_sharp :
    splitGap false ('#' :: cs) = ('#' :: (splitGap true cs).1, (splitGap true cs).2) := by
  simp [splitGap]

theorem splitGap_of_head (hb : isBlank c = false) (hc : c ≠ '#') :
    splitGap false (c :: cs) = ([], c :: cs) := by
  simp [splitGap, hb, hc]

theorem splitGap_inComment (hc : c ≠ '\n') :
    splitGap true (c :: cs) = (c :: (splitGap true cs).1, (splitGap true cs).2) := by
  have hline : (c != '\n') = true := by simpa using hc
  simp [splitGap, hline]

theorem splitGap_comment (h : '\n' ∉ body) : splitGap true body = (body, []) := by
  induction body with
  | nil => rfl
  | cons c body ih =>
    simp only [List.mem_cons, not_or] at h
    rw [splitGap_inComment (Ne.symm h.1), ih h.2]

theorem splitGap_comment_append (h : '\n' ∉ body) :
    splitGap true (body ++ '\n' :: cs) =
      (body ++ '\n' :: (splitGap false cs).1, (splitGap false cs).2) := by
  induction body with
  | nil => simp [splitGap]
  | cons c body ih =>
    simp only [List.mem_cons, not_or] at h
    rw [List.cons_append, splitGap_inComment (Ne.symm h.1), ih h.2]
    rfl

/-- A gap is split off whole, with the gap behind it. -/
theorem splitGap_append_of_isGap (h : IsGap gap) (rest : Text) :
    splitGap false (gap ++ rest) = (gap ++ (splitGap false rest).1, (splitGap false rest).2) := by
  induction h with
  | nil => rfl
  | blank hc _ ih => simp [splitGap_blank hc, ih]
  | comment hbody _ ih => simp [splitGap_sharp, splitGap_comment_append hbody, ih]

theorem splitGap_of_isLastGap (h : IsLastGap gap) : splitGap false gap = (gap, []) := by
  cases h with
  | closed h => simpa [splitGap] using splitGap_append_of_isGap h []
  | comment h hbody => rw [splitGap_append_of_isGap h, splitGap_sharp, splitGap_comment hbody]

/-- What is split off is a gap; only at the end of the text may its last comment
be open. -/
theorem isGap_splitGap (text : Text) :
    IsLastGap (splitGap false text).1 ∧
      ((splitGap false text).2 ≠ [] → IsGap (splitGap false text).1) := by
  match text with
  | [] => exact ⟨.closed .nil, fun _ => .nil⟩
  | c :: cs =>
    by_cases hb : isBlank c
    · obtain ⟨hlast, hgap⟩ := isGap_splitGap cs
      rw [splitGap_blank hb]
      exact ⟨(IsGap.blank hb .nil).last hlast, fun hr => .blank hb (hgap hr)⟩
    by_cases hc : c = '#'
    · subst hc
      rw [splitGap_sharp]
      by_cases hline : '\n' ∈ cs
      · obtain ⟨body, tail, hcs, hbody⟩ := List.eq_append_cons_of_mem hline
        have hshorter : tail.length < cs.length := by
          simp only [hcs, List.length_append, List.length_cons]
          omega
        obtain ⟨hlast, hgap⟩ := isGap_splitGap tail
        rw [hcs, splitGap_comment_append hbody]
        have hopen : IsLastGap (('#' :: (body ++ ['\n'])) ++ (splitGap false tail).1) :=
          (IsGap.comment hbody .nil).last hlast
        exact ⟨by simpa using hopen, fun hr => .comment hbody (hgap hr)⟩
      · rw [splitGap_comment hline]
        exact ⟨.comment .nil hline, fun hr => absurd rfl hr⟩
    · rw [splitGap_of_head (by simpa using hb) hc]
      exact ⟨.closed .nil, fun _ => .nil⟩
termination_by text.length
decreasing_by
  · simp
  · exact Nat.lt_succ_of_lt hshorter

end Text

end LineFilter
