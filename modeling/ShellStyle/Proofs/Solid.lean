import ShellStyle.Proofs.Margin

/-!
# Characters and blanks of a formatted line

Formatting a line moves blanks about. The one fixer that changes anything else is the one for
brackets: what it makes of the line and what the line comes out as have the same characters but for
blanks, in the same order. A line that is broken has a backslash more, at the end of its first part.
-/

namespace ShellStyle.Fix

open Text Line

/-- The fixer for brackets passes over empty lines and comments too. -/
theorem brackets_of_isInert (s : Settings) {t : Text} (h : (context t).isInert = true) :
    brackets s t = t := by
  rw [isInert_context, Bool.or_eq_true] at h
  rcases h with hempty | hcomment
  · rw [List.isEmpty_iff] at hempty
    have hblank : isBlankText (brackets s t) = true :=
      (brackets_isKept s t).isBlankText.trans (by rw [hempty]; rfl)
    rcases brackets_eq_or_lt s t with heq | hlt
    · exact heq
    · rw [bracketCount_blanks (List.all_eq_true.mp hblank)] at hlt
      omega
  · have hguarded : isGuarded s .bracketStyle t = true := by
      rw [isGuarded_eq, isClosed, isProtected_eq, hcomment]
      simp
    rw [brackets, if_pos hguarded]

/-- The parts of a broken line, without the backslash between them, are the line but for blanks. -/
theorem solid_wrap [Machine] {s : Settings} {line : Text} {written : List Text}
    (h : wrap s line = .ok written) :
    written = [line] ∨ ∃ head tail, written = [head ++ ['\\'], tail] ∧
      solid (head ++ tail) = solid line := by
  rcases wrap_spec h with rfl | ⟨-, -, -, hit, step, hhit, hstep, -, -, rfl⟩
  · exact .inl rfl
  · obtain ⟨-, -, -, c, d, hc, hd, htake⟩ := breakPoint?_spec hhit
    have hblank : ∀ {e : Char}, isBlank e = true → solid [e] = [] :=
      fun he => solid_blanks (by simpa using he)
    have hindent : solid (Text.indent line) = [] :=
      solid_blanks fun e he => isBlank_of_mem_indent he
    have hline : solid line =
        solid (line.take hit.span.start) ++ solid hit.value ++ solid (line.drop hit.span.stop) := by
      conv => lhs; rw [← List.take_append_drop hit.span.stop line, htake, ← List.singleton_append]
      simp only [solid_append, hblank hc, hblank hd, List.append_nil, List.nil_append]
    refine .inr ⟨trimRight (line.take hit.span.start) ++ [' '] ++ hit.value ++ [' '],
      Text.indent line ++ step ++ trim (line.drop hit.span.stop), by simp, ?_⟩
    simp only [solid_append, solid_trimRight, solid_trim, hindent, solid_blanks hstep,
      hblank (show isBlank ' ' = true from rfl), List.append_nil, List.nil_append, hline]

/-- Apart from brackets, formatting a line changes only blanks. The line comes out as one line or as
two, of which the first ends in a backslash; without that backslash, and but for blanks, they are
together what the fixer for brackets makes of the line. -/
theorem line_solid [Machine] {s : Settings} {level : Int} {mayWrap : Bool} {t : Text}
    {written : List Text} (h : line s level false mayWrap t = .ok written) :
    (∃ u, written = [u] ∧ solid u = solid (brackets s t)) ∨
      ∃ head tail, written = [head ++ ['\\'], tail] ∧
        solid (head ++ tail) = solid (brackets s t) := by
  rcases line_spec h with ⟨hinert, rfl⟩ | ⟨-, fixed, hfixed, hlast⟩
  · exact .inl ⟨t, rfl, by rw [brackets_of_isInert s hinert]⟩
  · have hsolid : solid fixed = solid (brackets s t) :=
      (solid_indentation hfixed).trans (solid_content s t)
    rcases hlast with ⟨-, rfl⟩ | ⟨-, hwrap⟩
    · exact .inl ⟨fixed, rfl, hsolid⟩
    · rcases solid_wrap hwrap with rfl | ⟨head, tail, rfl, hparts⟩
      · exact .inl ⟨fixed, rfl, hsolid⟩
      · exact .inr ⟨head, tail, rfl, hparts.trans hsolid⟩

/-- A test gets double brackets, and its line is spaced, indented and broken. -/
theorem line_solid_broken :
    ∃ s written, line s 1 false true "\t[ a ]&&b,c  || d".toList = .ok written ∧
      ∃ head tail, written = [head ++ ['\\'], tail] ∧
        solid (head ++ tail) = "[[a]]&&b,c||d".toList := by
  have h : line ⟨[("max_line_length", .int 12)], []⟩ 1 false true "\t[ a ]&&b,c  || d".toList =
      .ok ["  [[ a ]] &&b, c || \\".toList, "    d".toList] := rfl
  rcases line_solid h with ⟨u, hone, -⟩ | ⟨head, tail, htwo, hsolid⟩
  · simp at hone
  · exact ⟨_, _, h, head, tail, htwo, hsolid⟩

end ShellStyle.Fix
