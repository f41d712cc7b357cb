import ShellStyle.Text.Search

/-!
# Trimming and searching

Trimming at the end of a text mirrors trimming at its start, and neither touches characters that are
not blank. The text behind a word is what makes the text together with the word.
-/

namespace ShellStyle.Text

/-! ## Blanks -/

theorem ne_of_isBlank {c d : Char} (hc : isBlank c = true) (hd : isBlank d = false) : c ≠ d := by
  rintro rfl
  simp [hc] at hd

/-- Blanks hold nothing else. -/
theorem not_mem_of_isBlank {gap : Text} (h : ∀ c ∈ gap, isBlank c = true) {d : Char}
    (hd : isBlank d = false) :
    d ∉ gap :=
  fun hmem => ne_of_isBlank (h d hmem) hd rfl

/-- Among blanks there is nothing else to count. -/
theorem count_blanks {gap : Text} (h : ∀ c ∈ gap, isBlank c = true) {d : Char}
    (hd : isBlank d = false) :
    gap.count d = 0 :=
  List.count_eq_zero.mpr (not_mem_of_isBlank h hd)

/-! ## Trimming -/

/-- A character before something that is not blank stays. -/
theorem trimRight_cons_of_ne_nil {t : Text} (c : Char) (h : trimRight t ≠ []) :
    trimRight (c :: t) = c :: trimRight t := by
  rw [trimRight]
  split
  · next heq => exact absurd heq h
  · rfl

/-- A text before something that is not blank stays. -/
theorem trimRight_append_of_ne_nil {t : Text} (a : Text) (h : trimRight t ≠ []) :
    trimRight (a ++ t) = a ++ trimRight t := by
  induction a with
  | nil => rfl
  | cons c a ih =>
    rw [List.cons_append, trimRight_cons_of_ne_nil c (by simp [ih, h]), ih]
    rfl

/-- A text that ends with no blank stays as it is. -/
theorem trimRight_concat {c : Char} (t : Text) (h : isBlank c = false) :
    trimRight (t ++ [c]) = t ++ [c] := by
  have hc : trimRight [c] = [c] := by simp [trimRight, h]
  rw [trimRight_append_of_ne_nil t (by simp [hc]), hc]

/-- Of blanks nothing is left. -/
theorem trimRight_of_all_isBlank {t : Text} (h : ∀ c ∈ t, isBlank c = true) : trimRight t = [] := by
  induction t with
  | nil => rfl
  | cons c t ih =>
    have hc := h c List.mem_cons_self
    rw [trimRight, ih fun d hd => h d (List.mem_cons_of_mem c hd)]
    simp [hc]

/-- Blanks at the end go. -/
theorem trimRight_append_blanks (t : Text) {gap : Text} (h : ∀ c ∈ gap, isBlank c = true) :
    trimRight (t ++ gap) = trimRight t := by
  induction t with
  | nil => exact trimRight_of_all_isBlank h
  | cons c t ih => rw [List.cons_append, trimRight, trimRight, ih]

/-- Trimming the end is trimming the start of the mirrored text. -/
theorem trimRight_eq_reverse (t : Text) : trimRight t = (trimLeft t.reverse).reverse := by
  induction h : t.reverse generalizing t with
  | nil =>
    rw [List.reverse_eq_nil_iff.mp h]
    rfl
  | cons c r ih =>
    have ht : t = r.reverse ++ [c] := by rw [← List.reverse_cons, ← h, List.reverse_reverse]
    subst ht
    by_cases hc : isBlank c = true
    · rw [trimRight_append_blanks _ (by simpa using hc), ih r.reverse (List.reverse_reverse r)]
      simp [trimLeft, hc]
    · rw [trimRight_concat _ (by simpa using hc)]
      simp [trimLeft, hc]

theorem isBlankText_append (a b : Text) : isBlankText (a ++ b) = (isBlankText a && isBlankText b) :=
  List.all_append

/-- A margin has only blanks. -/
theorem isBlank_of_mem_indent {t : Text} {c : Char} (h : c ∈ indent t) : isBlank c = true :=
  List.all_eq_true.mp List.all_takeWhile c h

/-- Blanks put in front are taken away again. -/
theorem trimLeft_blanks_append {gap : Text} (h : ∀ c ∈ gap, isBlank c = true) (t : Text) :
    trimLeft (gap ++ t) = trimLeft t :=
  List.dropWhile_append_of_pos h

theorem trimLeft_trimLeft (t : Text) : trimLeft (trimLeft t) = trimLeft t := by
  have hindent : ∀ c ∈ indent t, isBlank c = true := fun c hc => isBlank_of_mem_indent hc
  conv => rhs; rw [← indent_append_trimLeft t, trimLeft_blanks_append hindent]

/-- A text is what trimming its end leaves, and blanks. -/
theorem exists_trimRight_append (t : Text) :
    ∃ gap, t = trimRight t ++ gap ∧ ∀ c ∈ gap, isBlank c = true := by
  refine ⟨(indent t.reverse).reverse, ?_, ?_⟩
  · rw [trimRight_eq_reverse, ← List.reverse_append, indent_append_trimLeft, List.reverse_reverse]
  · exact fun c hc => isBlank_of_mem_indent (List.mem_reverse.mp hc)

/-- The characters of a text that are no blanks, in order. -/
def solid (t : Text) : Text :=
  t.filter fun c => !isBlank c

@[simp] theorem solid_append (a b : Text) : solid (a ++ b) = solid a ++ solid b :=
  List.filter_append a b

theorem solid_blanks {gap : Text} (h : ∀ c ∈ gap, isBlank c = true) : solid gap = [] := by
  rw [solid, List.filter_eq_nil_iff]
  intro c hc
  simp [h c hc]

theorem solid_trimLeft (t : Text) : solid (trimLeft t) = solid t := by
  conv => rhs; rw [← indent_append_trimLeft t, solid_append,
    solid_blanks fun c hc => isBlank_of_mem_indent hc]
  rfl

theorem solid_trimRight (t : Text) : solid (trimRight t) = solid t := by
  obtain ⟨gap, ht, hgap⟩ := exists_trimRight_append t
  conv => rhs; rw [ht, solid_append, solid_blanks hgap, List.append_nil]

/-- Trimming takes blanks away and nothing else. -/
theorem solid_trim (t : Text) : solid (trim t) = solid t := by
  rw [trim, solid_trimRight, solid_trimLeft]

/-- Characters other than blanks are counted in the solid part. -/
theorem count_solid (t : Text) {d : Char} (hd : isBlank d = false) :
    (solid t).count d = t.count d :=
  List.count_filter (by simp [hd])

/-- Trimming takes away blanks only. -/
theorem count_trim (t : Text) {d : Char} (hd : isBlank d = false) :
    (trim t).count d = t.count d := by
  rw [← count_solid _ hd, solid_trim, count_solid t hd]

/-- What trimming the end of the start of a text leaves is the start of the text. -/
theorem trimRight_take_isPrefix (t : Text) (n : Nat) : trimRight (t.take n) <+: t := by
  obtain ⟨gap, htake, -⟩ := exists_trimRight_append (t.take n)
  refine ⟨gap ++ t.drop n, ?_⟩
  rw [← List.append_assoc, ← htake, List.take_append_drop]

theorem trimRight_trimRight (t : Text) : trimRight (trimRight t) = trimRight t := by
  obtain ⟨gap, ht, hgap⟩ := exists_trimRight_append t
  conv => rhs; rw [ht, trimRight_append_blanks _ hgap]

/-- Trimming the end stops at a character that is not blank. -/
theorem trimRight_append_cons {c : Char} (a t : Text) (h : isBlank c = false) :
    trimRight (a ++ c :: t) = a ++ c :: trimRight t := by
  by_cases ht : trimRight t = []
  · obtain ⟨gap, hgap, hblank⟩ := exists_trimRight_append t
    rw [ht, List.nil_append] at hgap
    subst hgap
    rw [ht, List.append_cons, trimRight_append_blanks _ hblank, trimRight_concat a h]
  · rw [List.append_cons, trimRight_append_of_ne_nil _ ht, List.append_assoc, List.singleton_append]

/-- A text is blank if nothing is left without the blanks at its end. -/
theorem isBlankText_iff_trimRight {t : Text} : isBlankText t = true ↔ trimRight t = [] := by
  rw [isBlankText, List.all_eq_true]
  constructor
  · exact trimRight_of_all_isBlank
  · intro h
    obtain ⟨gap, ht, hgap⟩ := exists_trimRight_append t
    rw [h, List.nil_append] at ht
    exact ht ▸ hgap

/-- A text is blank if nothing is left without its margin. -/
theorem isBlankText_iff_trimLeft {t : Text} : isBlankText t = true ↔ trimLeft t = [] := by
  constructor
  · intro h
    rw [isBlankText, List.all_eq_true] at h
    have hdrop : (t ++ []).dropWhile isBlank = [] := List.dropWhile_append_of_pos h
    rwa [List.append_nil] at hdrop
  · intro h
    have ht := indent_append_trimLeft t
    rw [h, List.append_nil] at ht
    rw [isBlankText, List.all_eq_true, ← ht]
    exact fun c hc => isBlank_of_mem_indent hc

theorem isBlankText_trimLeft (t : Text) : isBlankText (trimLeft t) = isBlankText t := by
  have happend := congrArg isBlankText (indent_append_trimLeft t)
  have hindent : isBlankText (indent t) = true :=
    List.all_eq_true.mpr fun c hc => isBlank_of_mem_indent hc
  rwa [isBlankText_append, hindent, Bool.true_and] at happend

/-- Behind something that is not blank everything stays. -/
theorem trimLeft_append {a : Text} (h : isBlankText a = false) (t : Text) :
    trimLeft (a ++ t) = trimLeft a ++ t := by
  have hne : a.dropWhile isBlank ≠ [] := fun hnil => by
    simp [isBlankText_iff_trimLeft.mpr hnil] at h
  rw [trimLeft, List.dropWhile_append]
  simp [trimLeft, hne]

/-- A text that is trimmed on the left begins with no blank. -/
theorem isBlank_head?_trimLeft (t : Text) : ∀ c ∈ (trimLeft t).head?, isBlank c = false := by
  intro c hc
  have hhead := List.head?_dropWhile_not isBlank t
  rw [Option.mem_def] at hc
  rw [← trimLeft, hc] at hhead
  exact hhead

/-- Trimming leaves a text alone that has no blank at its start and none at its end. -/
theorem trim_eq_self {t : Text} (hhead : ∀ c ∈ t.head?, isBlank c = false)
    (hlast : ∀ c ∈ t.getLast?, isBlank c = false) : trim t = t := by
  have hleft : ∀ u : Text, (∀ c ∈ u.head?, isBlank c = false) → trimLeft u = u := by
    intro u hu
    cases u with
    | nil => rfl
    | cons c u => simp [trimLeft, hu c rfl]
  rw [trim, hleft t hhead, trimRight_eq_reverse, hleft t.reverse (by simpa using hlast),
    List.reverse_reverse]

/-! ## Pieces put together -/

/-- Every piece but the last is followed by the separator. -/
theorem joinWith_concat (sep : Text) (ts : List Text) (t : Text) :
    joinWith sep (ts ++ [t]) = ts.flatMap (· ++ sep) ++ t := by
  induction ts with
  | nil => rfl
  | cons a ts ih =>
    have hne : ts ++ [t] ≠ [] := by simp
    obtain ⟨b, rest, hcons⟩ := List.exists_cons_of_ne_nil hne
    rw [hcons] at ih
    rw [List.cons_append, hcons, joinWith, ih]
    · simp
    · simp

/-- Texts put together begin with the first of them. -/
theorem exists_joinWith_cons (sep t : Text) (ts : List Text) :
    ∃ u, joinWith sep (t :: ts) = t ++ u := by
  cases ts with
  | nil => exact ⟨[], (List.append_nil t).symm⟩
  | cons a ts => exact ⟨sep ++ joinWith sep (a :: ts), by rw [joinWith, List.append_assoc]; simp⟩

/-- Where the separator does not have a character, it is counted in the pieces. -/
theorem count_joinWith {sep : Text} {d : Char} (h : sep.count d = 0) (ts : List Text) :
    (joinWith sep ts).count d = ts.flatten.count d := by
  rcases List.eq_nil_or_concat ts with rfl | ⟨front, last, rfl⟩
  · rfl
  · rw [List.concat_eq_append, joinWith_concat, List.count_append, List.flatten_append,
      List.count_append, List.count_flatMap, List.count_flatten]
    simp [Function.comp_def, h]

/-- The last character so far, one character further. -/
theorem getLast?_cons_or (c : Char) (t : Text) (before : Option Char) :
    (c :: t).getLast?.or before = t.getLast?.or (some c) := by
  cases t <;> simp [List.getLast?_cons]

/-! ## Words in a text -/

/-- A text is the run of a kind that it begins with, and what is left when that is dropped. -/
theorem takeWhile_append_drop (kind : Char → Bool) (t : Text) :
    t.takeWhile kind ++ t.drop (t.takeWhile kind).length = t := by
  have hspan := List.takeWhile_append_dropWhile (p := kind) (l := t)
  have hdrop : t.drop (t.takeWhile kind).length = t.dropWhile kind :=
    calc t.drop (t.takeWhile kind).length
      _ = (t.takeWhile kind ++ t.dropWhile kind).drop (t.takeWhile kind).length := by rw [hspan]
      _ = t.dropWhile kind := List.drop_left
  rw [hdrop, hspan]

/-- What is behind a word is the rest of a text that begins with it. -/
theorem after?_eq_some {w t r : Text} : after? w t = some r ↔ t = w ++ r := by
  induction w generalizing t with
  | nil => simp [after?, eq_comm]
  | cons a w ih =>
    cases t with
    | nil => simp [after?]
    | cons c t =>
      rw [after?]
      by_cases hac : a = c
      · subst hac
        simp [ih]
      · simp [hac, Ne.symm hac]

theorem startsWith_iff {w t : Text} : startsWith w t = true ↔ w <+: t := by
  rw [startsWith, Option.isSome_iff_exists]
  simp only [after?_eq_some]
  exact ⟨fun ⟨r, h⟩ => ⟨r, h.symm⟩, fun ⟨r, h⟩ => ⟨r, h.symm⟩⟩

/-- A text contains a word if the word stands somewhere in it. -/
theorem contains_iff {w t : Text} (hw : w ≠ []) : contains w t = true ↔ w <:+: t := by
  induction t with
  | nil =>
    obtain ⟨a, w, rfl⟩ := List.exists_cons_of_ne_nil hw
    simp [contains, behind?, after?]
  | cons c t ih =>
    rw [List.infix_cons_iff, ← startsWith_iff, ← ih, contains, behind?, startsWith]
    cases after? w (c :: t) <;> simp [contains]

/-- A character other than the separator belongs to the first piece. -/
theorem splitAt_cons {sep c : Char} (hc : c ≠ sep) {t piece : Text} {rest : List Text}
    (h : splitAt sep t = piece :: rest) : splitAt sep (c :: t) = (c :: piece) :: rest := by
  rw [splitAt, if_neg hc, h]

end ShellStyle.Text
