import ShellStyle.Check

/-!
# What the checks report

A check reports an issue of its own rule and says by that what is wrong with the line; the check for
brackets has two rules. The issues of a line are what the checks of their rules find.
-/

namespace ShellStyle

/-- Where all went well, the first step did. -/
theorem exists_of_bind_ok {α β : Type} {x : Except StyleError α} {f : α → Except StyleError β}
    {b : β} (h : x >>= f = .ok b) : ∃ a, x = .ok a ∧ f a = .ok b := by
  cases x with
  | error e => simp [bind, Except.bind] at h
  | ok a => exact ⟨a, rfl, h⟩

namespace Check

open Text Line ShellStyle.Fix

variable {s : Settings} {number : Int} {t : Text} {i : Issue}

/-! ## One check -/

/-- An issue names the rule that it was made for. -/
theorem rule_of_issue {rule : Rule} {message : String}
    (h : issue s rule number message = .ok (some i)) :
    i.rule = rule := by
  unfold issue at h
  split at h
  · simp at h
  · obtain rfl := Option.some.inj (Except.ok.inj h)
    rfl

/-- The check of the length reports under its own rule. -/
theorem rule_of_length (h : length s number t = .ok (some i)) : i.rule = .lineLength := by
  unfold length at h
  obtain ⟨limit, -, h⟩ := exists_of_bind_ok h
  split at h
  · exact rule_of_issue h
  · simp [pure, Except.pure] at h

/-- The check for brackets reports single brackets outside of strings, or else `test` commands. -/
theorem bracketStyle_cases (h : bracketStyle s number t = .ok (some i)) :
    isGuarded s .bracketStyle t = false ∧
      (i.rule = .bracketStyle ∧ bareBrackets t ≠ [] ∨
        i.rule = .deprecatedSyntax ∧ bareBrackets t = []) := by
  unfold bracketStyle at h
  split at h
  · simp at h
  · next hguarded =>
    refine ⟨by simpa using hguarded, ?_⟩
    split at h
    · next hbare => exact .inl ⟨rule_of_issue h, by simpa using hbare⟩
    · next hbare =>
      split at h
      · exact .inr ⟨rule_of_issue h, by simpa using hbare⟩
      · simp at h

theorem rule_of_operatorSpacing (h : operatorSpacing s number t = .ok (some i)) :
    i.rule = .spacingIssues := by
  unfold operatorSpacing at h
  split at h
  · simp at h
  · split at h
    · exact rule_of_issue h
    · split at h
      · exact rule_of_issue h
      · simp at h

theorem rule_of_variableQuoting (h : variableQuoting s number t = .ok (some i)) :
    i.rule = .missingQuotes := by
  unfold variableQuoting at h
  split at h
  · simp at h
  · split at h
    · simp at h
    · split at h
      · simp at h
      · exact rule_of_issue h

theorem rule_of_indentation (h : indentation s number t = .ok (some i)) :
    i.rule = .indentation := by
  unfold indentation at h
  split at h
  · exact rule_of_issue h
  · simp at h

/-- The check for indentation reports tabs in the margin of a line that is no comment. -/
theorem indentation_isSome_iff {found : Option Issue} (h : indentation s number t = .ok found) :
    found.isSome = true ↔ s.isEnabled .indentation = true ∧ context t ≠ .comment ∧
      '\t' ∈ indent t := by
  have hcond : (s.isEnabled .indentation && context t != .comment && (indent t).elem '\t') = true ↔
      s.isEnabled .indentation = true ∧ context t ≠ .comment ∧ '\t' ∈ indent t := by
    simp [and_assoc]
  rw [← hcond]
  unfold indentation issue at h
  split at h
  · next htabs =>
    split at h
    · simp at h
    · obtain rfl := Except.ok.inj h
      exact iff_of_true rfl htabs
  · next htabs =>
    obtain rfl := Except.ok.inj h
    exact iff_of_false Bool.false_ne_true htabs

/-! ## All checks -/

/-- The check that reports issues of a rule. -/
def ofRule : Rule → Settings → Int → Text → Except StyleError (Option Issue)
  | .lineLength => length
  | .bracketStyle => bracketStyle
  | .deprecatedSyntax => bracketStyle
  | .spacingIssues => operatorSpacing
  | .missingQuotes => variableQuoting
  | .indentation => indentation
  | .braceSpacing => fun _ _ _ => .ok none
  | .commaSpacing => fun _ _ _ => .ok none

/-- A line is not checked, or all checks are made. -/
theorem line_cases {issues : List Issue} (h : line s number t = .ok issues) :
    (context t = .empty ∨ context t = .shebang) ∧ issues = [] ∨
      (context t ≠ .empty ∧ context t ≠ .shebang) ∧ ∃ tooLong brackets operators quoting tabs,
        length s number t = .ok tooLong ∧ bracketStyle s number t = .ok brackets ∧
        operatorSpacing s number t = .ok operators ∧ variableQuoting s number t = .ok quoting ∧
        indentation s number t = .ok tabs ∧
        issues = [tooLong, brackets, operators, quoting, tabs].filterMap id := by
  unfold line at h
  split at h
  · next hcontext => exact .inl ⟨.inl hcontext, (Except.ok.inj h).symm⟩
  · next hcontext => exact .inl ⟨.inr hcontext, (Except.ok.inj h).symm⟩
  · next hempty hshebang =>
    refine .inr ⟨⟨hempty, hshebang⟩, ?_⟩
    obtain ⟨tooLong, hlength, h⟩ := exists_of_bind_ok h
    obtain ⟨brackets, hbrackets, h⟩ := exists_of_bind_ok h
    obtain ⟨operators, hoperators, h⟩ := exists_of_bind_ok h
    obtain ⟨quoting, hquoting, h⟩ := exists_of_bind_ok h
    obtain ⟨tabs, htabs, h⟩ := exists_of_bind_ok h
    exact ⟨tooLong, brackets, operators, quoting, tabs, hlength, hbrackets, hoperators,
      hquoting, htabs, (Except.ok.inj h).symm⟩

/-- The issues of a line that is checked are what the checks of their rules find. -/
theorem mem_line_iff {issues : List Issue} (h : line s number t = .ok issues) :
    i ∈ issues ↔ (context t ≠ .empty ∧ context t ≠ .shebang) ∧
      ofRule i.rule s number t = .ok (some i) := by
  rcases line_cases h with ⟨hcontext, rfl⟩ | ⟨hcontext, a, b, c, d, e, ha, hb, hc, hd, he, rfl⟩
  · refine iff_of_false List.not_mem_nil fun hi => ?_
    rcases hcontext with hempty | hshebang
    · exact hi.1.1 hempty
    · exact hi.1.2 hshebang
  · have hmem : i ∈ [a, b, c, d, e].filterMap id ↔
        a = some i ∨ b = some i ∨ c = some i ∨ d = some i ∨ e = some i := by
      simp [List.mem_filterMap, eq_comm]
    rw [hmem]
    constructor
    · rintro (rfl | rfl | rfl | rfl | rfl)
      · exact ⟨hcontext, by rwa [rule_of_length ha]⟩
      · refine ⟨hcontext, ?_⟩
        rcases (bracketStyle_cases hb).2 with ⟨hrule, -⟩ | ⟨hrule, -⟩ <;> rwa [hrule]
      · exact ⟨hcontext, by rwa [rule_of_operatorSpacing hc]⟩
      · exact ⟨hcontext, by rwa [rule_of_variableQuoting hd]⟩
      · exact ⟨hcontext, by rwa [rule_of_indentation he]⟩
    · rintro ⟨-, hfound⟩
      -- the rule tells which of the five checks has made the issue
      generalize i.rule = rule at hfound
      cases rule with
      | lineLength => exact .inl (Except.ok.inj (ha.symm.trans hfound))
      | bracketStyle => exact .inr (.inl (Except.ok.inj (hb.symm.trans hfound)))
      | deprecatedSyntax => exact .inr (.inl (Except.ok.inj (hb.symm.trans hfound)))
      | spacingIssues => exact .inr (.inr (.inl (Except.ok.inj (hc.symm.trans hfound))))
      | missingQuotes => exact .inr (.inr (.inr (.inl (Except.ok.inj (hd.symm.trans hfound)))))
      | indentation => exact .inr (.inr (.inr (.inr (Except.ok.inj (he.symm.trans hfound)))))
      | braceSpacing => simp [ofRule] at hfound
      | commaSpacing => simp [ofRule] at hfound

theorem isInert_eq_false_iff (c : Context) :
    c.isInert = false ↔ (c ≠ .empty ∧ c ≠ .shebang) ∧ c ≠ .comment := by
  cases c <;> decide

/-- A line is reported for its indentation if it is no comment and its margin has tabs. -/
theorem indentation_reported_iff {issues : List Issue} (h : line s number t = .ok issues) :
    (∃ i ∈ issues, i.rule = .indentation) ↔
      (context t).isInert = false ∧ s.isEnabled .indentation = true ∧ '\t' ∈ indent t := by
  rw [isInert_eq_false_iff]
  constructor
  · rintro ⟨i, hi, hrule⟩
    obtain ⟨hcontext, hfound⟩ := (mem_line_iff h).mp hi
    rw [hrule] at hfound
    obtain ⟨hs, hcomment, htab⟩ := (indentation_isSome_iff hfound).mp rfl
    exact ⟨⟨hcontext, hcomment⟩, hs, htab⟩
  · rintro ⟨⟨hcontext, hcomment⟩, hs, htab⟩
    rcases line_cases h with ⟨hexempt, -⟩ | ⟨-, _, _, _, _, tabs, -, -, -, -, htabs, -⟩
    · exact absurd hexempt (not_or.mpr hcontext)
    · obtain ⟨i, rfl⟩ :=
        Option.isSome_iff_exists.mp ((indentation_isSome_iff htabs).mpr ⟨hs, hcomment, htab⟩)
      have hrule := rule_of_indentation htabs
      exact ⟨i, (mem_line_iff h).mpr ⟨hcontext, by rwa [hrule]⟩, hrule⟩

end Check

end ShellStyle
