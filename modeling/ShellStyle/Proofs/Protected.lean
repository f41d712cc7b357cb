import ShellStyle.Proofs.Margin

/-!
# Protected lines

A line is closed to the fixers when it stands in a protected context or quotes an operator. That
does not depend on its margin, so what holds the fixers for text back holds back line breaking too,
although it looks at the line only once it is indented. A closed line can get another margin and
nothing else.
-/

namespace ShellStyle.Fix

open Text Line

/-- Indenting changes the margin only. -/
theorem trimLeft_indentation [Machine] {s : Settings} {level : Int} {line u : Text}
    (h : indentation s level false line = .ok u) : trimLeft u = trimLeft line := by
  rcases indentation_spec h with rfl | ⟨-, margin, hmargin, rfl⟩
  · rfl
  · rw [trimLeft_blanks_append hmargin, trimLeft_trimLeft]

/-- Whether a line is closed does not depend on its margin. -/
theorem isClosed_trimLeft (t : Text) : isClosed (trimLeft t) = isClosed t := by
  have hindent : ∀ c ∈ Text.indent t, isBlank c = true := fun c hc => isBlank_of_mem_indent hc
  conv => rhs; rw [← indent_append_trimLeft t, isClosed_blanks_append hindent]

theorem isClosed_indentation [Machine] {s : Settings} {level : Int} {line u : Text}
    (h : indentation s level false line = .ok u) : isClosed u = isClosed line := by
  rw [← isClosed_trimLeft, trimLeft_indentation h, isClosed_trimLeft]

/-- Indenting fails only if there is no indent size or the margin cannot be written. -/
theorem indentation_cases [Machine] (s : Settings) (level : Int) (line : Text) :
    (∃ u, indentation s level false line = .ok u) ∨
      ∃ e, indentation s level false line = .error e ∧
        (s.indentSize = .error e ∨ ∃ size, s.indentSize = .ok size ∧
          spaces (level * size) = .error e) := by
  unfold indentation
  split
  · exact .inl ⟨line, rfl⟩
  · cases hsize : s.indentSize with
    | error e => exact .inr ⟨e, rfl, .inl rfl⟩
    | ok size =>
      cases hmargin : spaces (level * size) with
      | error e => exact .inr ⟨e, by simp [hmargin, bind, Except.bind], .inr ⟨size, rfl, hmargin⟩⟩
      | ok margin =>
        exact .inl ⟨margin ++ trimLeft line,
          by simp [hmargin, bind, Except.bind, pure, Except.pure]⟩

/-- A closed line is not broken; only its length is looked at. -/
theorem wrap_of_isClosed [Machine] (s : Settings) {line : Text} (h : isClosed line = true) :
    wrap s line = .ok [line] ∨ ∃ e, wrap s line = .error e ∧ s.maxLineLength = .error e := by
  have hguarded : isGuarded s .lineLength line = true := by rw [isGuarded_eq, h, Bool.or_true]
  rw [wrap]
  cases hlimit : s.maxLineLength with
  | error e => exact .inr ⟨e, rfl, rfl⟩
  | ok limit =>
    left
    simp [hguarded, bind, Except.bind, pure, Except.pure]

/-- A protected line is at most indented anew. It comes out as one line that differs from it in the
margin only, and not even there if it is a comment or if lines are not indented; or else one of the
two numbers in the settings is missing or the margin cannot be written. -/
theorem line_of_isProtected [Machine] {t : Text}
    (ht : isProtected t = true ∨ quotesOperator t = true) (s : Settings) (level : Int)
    (inHeredoc mayWrap : Bool) :
    (∃ u, line s level inHeredoc mayWrap t = .ok [u] ∧ trimLeft u = trimLeft t ∧
        (context t = .shebang ∨ context t = .comment ∨ s.isEnabled .indentation = false → u = t)) ∨
      ∃ e, line s level inHeredoc mayWrap t = .error e ∧
        (s.indentSize = .error e ∨ (∃ size, s.indentSize = .ok size ∧
          spaces (level * size) = .error e) ∨
          s.maxLineLength = .error e) := by
  have hclosed : isClosed t = true := by rwa [isClosed, Bool.or_eq_true]
  rw [line]
  by_cases hpassed : (inHeredoc || (context t).isInert) = true
  · rw [if_pos hpassed]
    exact .inl ⟨t, rfl, rfl, fun _ => rfl⟩
  rw [if_neg hpassed, content_of_isClosed s hclosed]
  rw [Bool.or_eq_true, not_or] at hpassed
  rcases indentation_cases s level t with ⟨u, hu⟩ | ⟨e, he, hcause⟩
  · have hsame : context t = .shebang ∨ context t = .comment ∨
        s.isEnabled .indentation = false → u = t := by
      rintro (hcontext | hcontext | hoff)
      · exact absurd (by rw [hcontext]; rfl) hpassed.2
      · exact absurd (by rw [hcontext]; rfl) hpassed.2
      · rw [indentation, hoff] at hu
        exact (Except.ok.inj hu).symm
    have hout := trimLeft_indentation hu
    rw [hu]
    cases mayWrap with
    | false => exact .inl ⟨u, rfl, hout, hsame⟩
    | true =>
      -- the guard is asked again, about the indented line
      rcases wrap_of_isClosed s ((isClosed_indentation hu).trans hclosed) with hwrap
        | ⟨e, hwrap, hlimit⟩
      · exact .inl ⟨u, hwrap, hout, hsame⟩
      · exact .inr ⟨e, hwrap, .inr (.inr hlimit)⟩
  · rw [he]
    exact .inr ⟨e, rfl, hcause.imp_right .inl⟩

/-- A command substitution keeps all fixers from its line, also when the line is too long once it is
indented. -/
theorem line_of_isProtected_substitution :
    isProtected "\tx=$(a,b) && [ c ]&&d".toList = true ∧
      line ⟨[("max_line_length", .int 12)], []⟩ 2 false true "\tx=$(a,b) && [ c ]&&d".toList =
        .ok ["    x=$(a,b) && [ c ]&&d".toList] ∧
      trimLeft "    x=$(a,b) && [ c ]&&d".toList = trimLeft "\tx=$(a,b) && [ c ]&&d".toList := by
  have hprotected : isProtected "\tx=$(a,b) && [ c ]&&d".toList = true := rfl
  have hline : line ⟨[("max_line_length", .int 12)], []⟩ 2 false true
      "\tx=$(a,b) && [ c ]&&d".toList =
      .ok ["    x=$(a,b) && [ c ]&&d".toList] := rfl
  rcases line_of_isProtected (.inl hprotected) ⟨[("max_line_length", .int 12)], []⟩ 2
    false true with
    ⟨u, hu, htrim, -⟩ | ⟨e, he, -⟩
  · obtain rfl : u = "    x=$(a,b) && [ c ]&&d".toList := by simpa using hu.symm.trans hline
    exact ⟨hprotected, hline, htrim⟩
  · rw [hline] at he
    simp at he

end ShellStyle.Fix
