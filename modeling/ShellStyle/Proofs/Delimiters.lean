import ShellStyle.Proofs.HeredocBlock
import ShellStyle.Proofs.LineBreak
import ShellStyle.Proofs.Operators

/-!
# Heredocs that no line ends

The blanks around a line are taken away before it is compared with the delimiter, those of the
delimiter are not. A word in quotes may begin or end with a blank, or have nothing but quote
characters in it; no line ends a heredoc with such a delimiter, and all lines behind it belong to
it.
-/

namespace ShellStyle

open Text

/-! ## Texts without blanks around them -/

/-- Whether a text begins and ends with characters that are not blank. -/
def isTrimmed (t : Text) : Bool :=
  t.head?.any (fun c => !isBlank c) && t.getLast?.any fun c => !isBlank c

theorem isTrimmed_of_ends {t : Text} (hne : t ≠ []) (hhead : ∀ c ∈ t.head?, isBlank c = false)
    (hlast : ∀ c ∈ t.getLast?, isBlank c = false) : isTrimmed t = true := by
  have hfirst : isBlank (t.head hne) = false := hhead _ (List.head?_eq_some_head hne)
  have hfinal : isBlank (t.getLast hne) = false := hlast _ (List.getLast?_eq_some_getLast hne)
  simp [isTrimmed, List.head?_eq_some_head hne, List.getLast?_eq_some_getLast hne, hfirst, hfinal]

theorem trim_of_isTrimmed {t : Text} (h : isTrimmed t = true) : t ≠ [] ∧ trim t = t := by
  obtain ⟨hhead, hlast⟩ := Bool.and_eq_true_iff.mp h
  constructor
  · rintro rfl
    simp at hhead
  · apply trim_eq_self
    · intro c hc
      simpa [Option.mem_def.mp hc] using hhead
    · intro c hc
      simpa [Option.mem_def.mp hc] using hlast

theorem isTrimmed_trim {t : Text} (h : trim t ≠ []) : isTrimmed (trim t) = true := by
  have hhead := isBlank_head?_trim t
  have hlast : ∀ c ∈ (trim t).getLast?, isBlank c = false := by
    intro c hc
    rw [trim, trimRight_eq_reverse, List.getLast?_reverse] at hc
    exact isBlank_head?_trimLeft _ c hc
  exact isTrimmed_of_ends h hhead hlast

namespace Line

/-- A line that ends a heredoc is the delimiter with blanks around it, so the delimiter has none. -/
theorem isTrimmed_of_endsHeredoc {text delimiter : Text} (h : endsHeredoc text delimiter = true) :
    isTrimmed delimiter = true := by
  simp only [endsHeredoc, Bool.and_eq_true, Bool.not_eq_true', List.isEmpty_eq_false_iff,
    beq_iff_eq] at h
  obtain ⟨hne, rfl⟩ := h
  exact isTrimmed_trim hne

/-- The delimiter on a line of its own ends the heredoc exactly if it has no blanks around it. -/
theorem endsHeredoc_delimiter_iff {delimiter : Text} :
    endsHeredoc delimiter delimiter = true ↔ isTrimmed delimiter = true := by
  constructor
  · exact isTrimmed_of_endsHeredoc
  · intro h
    obtain ⟨hne, htrim⟩ := trim_of_isTrimmed h
    simp [endsHeredoc, htrim, hne]

/-- A name is a delimiter without blanks around it. -/
theorem isTrimmed_of_name {word : Text} (hne : word ≠ [])
    (hname : ∀ c ∈ word, isNameChar c = true) :
    isTrimmed (word.filter fun c => !QuoteState.isMark c) = true := by
  have hmark : ∀ c ∈ word, QuoteState.isMark c = false := by
    intro c hc
    rw [← Bool.not_eq_true]
    intro hmark
    have hnot : isNameChar c = false := by
      rcases QuoteState.eq_of_isMark hmark with rfl | rfl <;> rfl
    simp [hname c hc] at hnot
  have hblank : ∀ c ∈ word, isBlank c = false := by
    intro c hc
    rw [← Bool.not_eq_true]
    intro hblank
    have hnot := Fix.isNameChar_of_isBlank hblank
    simp [hname c hc] at hnot
  rw [List.filter_eq_self.mpr fun c hc => by simp [hmark c hc]]
  exact isTrimmed_of_ends hne (fun c hc => hblank c (List.mem_of_head? hc)) fun c hc =>
    hblank c (List.mem_of_getLast? hc)

/-- A delimiter with blanks around it, or none at all, comes from a word in quotes. -/
theorem isQuotedWord_of_not_isTrimmed {line : Text} {hit : Hit Text}
    (hopener : heredocOpener? line = some hit) (h : isTrimmed (heredocDelimiter line) = false) :
    isQuotedWord hit.value = true := by
  have hspec := Matcher.hits_spec (List.mem_of_find?_eq_some hopener)
  obtain ⟨gap, rest, -, -, -, -, hword⟩ := heredocOperator_shape hspec
  rcases delimiterWord?_shape hword with hname | ⟨m, x, hm, -, -, hquotes⟩
  · have htrimmed := isTrimmed_of_name (isPrefix_of_delimiterWord? hword).1 hname
    rw [heredocDelimiter, hopener] at h
    simp [htrimmed] at h
  · simp [isQuotedWord, hquotes, hm]

end Line

namespace Script

open Line

/-! ## The memory of a run in a heredoc -/

namespace Tracker

/-- A heredoc that no line ends goes on to the end of the script, and every line of it is copied. -/
theorem after_of_endless {delimiter : Text} (h : isTrimmed delimiter = false) (level : Int)
    (lines : List NumberedLine) :
    after ⟨true, delimiter, level, []⟩ lines = ⟨true, delimiter, level, []⟩ ∧
      plan ⟨true, delimiter, level, []⟩ lines = lines.map .copy := by
  have hnone : ∀ text, endsHeredoc text delimiter = false := by
    intro text
    rw [← Bool.not_eq_true]
    intro hends
    simp [isTrimmed_of_endsHeredoc hends] at h
  induction lines with
  | nil => exact ⟨rfl, rfl⟩
  | cons line lines ih =>
    have hnext : next ⟨true, delimiter, level, []⟩ line = ⟨true, delimiter, level, []⟩ := by
      simp [next, hnone]
    rw [after, plan, hnext, ih.1, ih.2]
    exact ⟨rfl, rfl⟩

end Tracker

/-- Which heredocs can be ended. The line that is the delimiter ends the heredoc exactly if the
delimiter has no blanks around it, and then formatting goes on at the same level. Otherwise the word
of the operator is in quotes, and no lines whatsoever end the heredoc: formatting copies all that
follow. -/
theorem heredoc_ends_iff {line : Text} (hopens : opensHeredoc line = true) :
    (endsHeredoc (heredocDelimiter line) (heredocDelimiter line) = true ↔
        isTrimmed (heredocDelimiter line) = true) ∧
      (isTrimmed (heredocDelimiter line) = true → ∀ level n,
        Tracker.next ⟨true, heredocDelimiter line, level, []⟩ ⟨n, heredocDelimiter line⟩ =
          ⟨false, [], level, []⟩) ∧
      (isTrimmed (heredocDelimiter line) = false →
        (heredocOpener? line).any (fun hit => isQuotedWord hit.value) = true ∧ ∀ level lines,
          (Tracker.after ⟨true, heredocDelimiter line, level, []⟩ lines).phase = .heredoc ∧
            Tracker.plan ⟨true, heredocDelimiter line, level, []⟩ lines = lines.map .copy) := by
  refine ⟨endsHeredoc_delimiter_iff, fun htrimmed level n => ?_,
    fun hblanks => ⟨?_, fun level lines => ?_⟩⟩
  · simp [Tracker.next, endsHeredoc_delimiter_iff.mpr htrimmed, Tracker.leave]
  · rw [opensHeredoc, Option.isSome_iff_exists] at hopens
    obtain ⟨hit, hopener⟩ := hopens
    rw [hopener, Option.any_some]
    exact isQuotedWord_of_not_isTrimmed hopener hblanks
  · obtain ⟨hafter, hplan⟩ := Tracker.after_of_endless hblanks level lines
    rw [hafter]
    exact ⟨rfl, hplan⟩

/-- A delimiter with blanks in the middle. -/
theorem heredoc_ends_phrase :
    opensHeredoc "cat <<'THE END'".toList = true ∧
      endsHeredoc "THE END".toList "THE END".toList = true := by
  have hopens : opensHeredoc "cat <<'THE END'".toList = true := by decide +kernel
  have hdelimiter : heredocDelimiter "cat <<'THE END'".toList = "THE END".toList := by
    decide +kernel
  have hends := (heredoc_ends_iff hopens).1.mpr (by decide +kernel)
  rw [hdelimiter] at hends
  exact ⟨hopens, hends⟩

/-- A delimiter that begins with a blank, and one that is empty without its quotes. -/
theorem heredoc_never_ends :
    opensHeredoc "cat <<' EOF'".toList = true ∧
      heredocDelimiter "cat <<' EOF'".toList = " EOF".toList ∧
      endsHeredoc " EOF".toList " EOF".toList = false ∧
      opensHeredoc "cat <<\"'\"".toList = true ∧ heredocDelimiter "cat <<\"'\"".toList = [] ∧
      endsHeredoc [] [] = false :=
  ⟨by decide +kernel, by decide +kernel, by decide +kernel, by decide +kernel, by decide +kernel,
    by decide +kernel⟩

end Script

end ShellStyle
