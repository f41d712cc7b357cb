import ShellStyle.Proofs.Solid
import ShellStyle.Script.Pipe

/-!
# Pipes come and go

No fixer puts a pipe in or takes one out, and neither does indenting or breaking a line. A command
that meets in a doubled pipe loses at least one pipe when it is joined, since its joined lines have
a doubled pipe and every such pipe becomes a single one.
-/

namespace ShellStyle

open Text Line

/-- The number of pipes in some lines. -/
def pipes (lines : List Text) : Nat :=
  lines.flatten.count '|'

@[simp] theorem pipes_nil : pipes [] = 0 := rfl

@[simp] theorem pipes_cons (t : Text) (lines : List Text) :
    pipes (t :: lines) = t.count '|' + pipes lines := by
  rw [pipes, List.flatten_cons, List.count_append, pipes]

@[simp] theorem pipes_append (xs ys : List Text) : pipes (xs ++ ys) = pipes xs + pipes ys := by
  rw [pipes, List.flatten_append, List.count_append, pipes, pipes]

theorem pipes_le_of_sublist {xs ys : List Text} (h : xs.Sublist ys) : pipes xs ≤ pipes ys := by
  induction h with
  | slnil => exact Nat.le_refl _
  | cons t _ ih => exact Nat.le_trans ih (by simp)
  | cons_cons t _ ih => simpa using ih

namespace Fix

/-! ## Pipes of a line -/

/-- Edits that each keep the number of a character keep it. -/
theorem count_of_rewritten {P : Text → Text → Text → Prop} {d : Char}
    (hP : ∀ p a b, P p a b → b.count d = a.count d) {p t u : Text} (h : Rewritten P p t u) :
    u.count d = t.count d := by
  induction h with
  | nil p => rfl
  | keep c _ ih => rw [List.count_cons, List.count_cons, ih]
  | edit hab _ ih => rw [List.count_append, List.count_append, hP _ _ _ hab, ih]

/-- The fixer for brackets keeps the pipes of a line. -/
theorem count_brackets (s : Settings) (line : Text) :
    (brackets s line).count '|' = line.count '|' := by
  have hdoubled : ∀ {t u : Text}, Rewritten IsDoubling [] t u → u.count '|' = t.count '|' :=
    fun h => count_of_rewritten (fun _ _ _ hab => hab.pipes) h
  unfold brackets
  split
  · rfl
  · dsimp only
    rw [hdoubled (replaceUnquoted_mixedBracket _), hdoubled (replaceUnquoted_singleBracket _),
      hdoubled (convertTestCommands_rewritten line)]

/-- What a line comes out as has the pipes of the line. -/
theorem pipes_line [Machine] {s : Settings} {level : Int} {mayWrap : Bool} {t : Text}
    {written : List Text} (h : line s level false mayWrap t = .ok written) :
    pipes written = t.count '|' := by
  have hsolid : ∀ {u v : Text}, solid u = solid v → u.count '|' = v.count '|' := fun heq => by
    rw [← count_solid _ (show isBlank '|' = false from rfl), heq, count_solid _ rfl]
  rcases line_spec h with ⟨-, rfl⟩ | ⟨-, fixed, hfixed, hlast⟩
  · simp
  · have hcount : fixed.count '|' = t.count '|' := by
      rw [hsolid ((solid_indentation hfixed).trans (solid_content s t)), count_brackets]
    rcases hlast with ⟨-, rfl⟩ | ⟨-, hwrap⟩
    · simp [hcount]
    · rcases solid_wrap hwrap with rfl | ⟨head, tail, rfl, hparts⟩
      · simp [hcount]
      · rw [← hcount, ← hsolid hparts]
        simp [pipes]

end Fix

namespace Line

/-! ## Continued lines -/

/-- A line that goes on ends in a backslash, blanks apart. -/
theorem exists_of_isContinued {line : Text} (h : isContinued line = true) :
    ∃ t, trimRight line = t ++ ['\\'] := by
  have hodd : (((trimRight line).reverse).takeWhile (· == '\\')).length % 2 = 1 := by
    simpa [isContinued, trailingBackslashes] using h
  cases hrev : (trimRight line).reverse with
  | nil => simp [hrev] at hodd
  | cons c r =>
    by_cases hc : c = '\\'
    · refine ⟨r.reverse, ?_⟩
      rw [← List.reverse_reverse (trimRight line), hrev, hc, List.reverse_cons]
    · simp [hrev, hc] at hodd

/-- What is dropped from a continued line is blanks and a backslash. -/
theorem exists_dropContinuation_append (line : Text) :
    ∃ tail, line = dropContinuation line ++ tail ∧ ∀ c ∈ tail, isBlank c = true ∨ c = '\\' := by
  obtain ⟨gap, hline, hgap⟩ := exists_trimRight_append line
  rw [dropContinuation]
  split
  · next hcontinued =>
    obtain ⟨t, ht⟩ := exists_of_isContinued hcontinued
    rw [trimRight_trimRight] at ht
    obtain ⟨gap', ht', hgap'⟩ := exists_trimRight_append t
    refine ⟨gap' ++ '\\' :: gap, ?_, ?_⟩
    · rw [ht, List.dropLast_concat]
      conv => lhs; rw [hline, ht, ht']
      simp
    · simp only [List.mem_append, List.mem_cons]
      rintro c (hc | rfl | hc)
      · exact .inl (hgap' c hc)
      · exact .inr rfl
      · exact .inl (hgap c hc)
  · exact ⟨gap, hline, fun c hc => .inl (hgap c hc)⟩

/-- Dropping the backslash at the end drops no pipe. -/
theorem count_dropContinuation (line : Text) :
    (dropContinuation line).count '|' = line.count '|' := by
  obtain ⟨tail, hline, htail⟩ := exists_dropContinuation_append line
  have hnone : tail.count '|' = 0 := by
    rw [List.count_eq_zero]
    intro hmem
    rcases htail _ hmem with h | h
    · exact absurd h (by decide)
    · exact absurd h (by decide)
  conv => rhs; rw [hline, List.count_append, hnone, Nat.add_zero]

end Line

namespace Script

/-! ## Doubled pipes -/

/-- Somewhere in a text two single pipes have nothing but blanks between them. -/
def HasDoubledPipe (t : Text) : Prop :=
  ∃ x gap y, t = x ++ '|' :: (gap ++ '|' :: y) ∧ gap ≠ [] ∧ (∀ c ∈ gap, isBlank c = true) ∧
    x.getLast? ≠ some '|' ∧ y.head? ≠ some '|'

/-- A doubled pipe is two pipes with blanks between them, and no third one on either side. -/
theorem doubledPipe_eq_some {before : Option Char} {t : Text} {a : Unit} {n : Nat} :
    doubledPipe before t = some (a, n) ↔
      ∃ gap y, t = '|' :: (gap ++ '|' :: y) ∧ gap ≠ [] ∧ (∀ c ∈ gap, isBlank c = true) ∧
        before ≠ some '|' ∧
        y.head? ≠ some '|' ∧ n = (['|'] ++ gap ++ ['|'] ++ Text.indent y).length := by
  constructor
  · intro h
    unfold doubledPipe at h
    split at h
    · next rest =>
      dsimp only at h
      split at h
      · next y hy =>
        split at h
        · simp at h
        · next hcond =>
          obtain ⟨-, rfl⟩ := Prod.mk.inj (Option.some.inj h)
          simp only [Bool.or_eq_true, beq_iff_eq, List.isEmpty_iff, not_or] at hcond
          refine ⟨Text.indent rest, y, ?_, hcond.1.2, fun c hc => isBlank_of_mem_indent hc,
            hcond.1.1, hcond.2, ?_⟩
          · rw [← hy, indent_append_trimLeft]
          · simp [Text.indent]
            omega
      · simp at h
    · simp at h
  · rintro ⟨gap, y, rfl, hne, hgap, hbefore, hhead, rfl⟩
    have htake : (gap ++ '|' :: y).takeWhile isBlank = gap := by
      rw [List.takeWhile_append_of_pos hgap]
      simp [show isBlank '|' = false from rfl]
    have hdrop : trimLeft (gap ++ '|' :: y) = '|' :: y := by
      rw [trimLeft, List.dropWhile_append_of_pos hgap]
      simp [show isBlank '|' = false from rfl]
    simp only [doubledPipe, htake, hdrop]
    rw [if_neg]
    · simp [Text.indent]
      omega
    · simp [hbefore, hne, hhead]

theorem doubledPipe_isBounded : doubledPipe.IsBounded := by
  intro before t a n h
  obtain ⟨gap, y, rfl, -, -, -, -, rfl⟩ := doubledPipe_eq_some.mp h
  have hy := congrArg List.length (indent_append_trimLeft y)
  simp only [List.length_append, List.length_cons, List.length_nil] at hy ⊢
  omega

/-- A doubled pipe is read with the blanks behind it. -/
theorem exists_piece_of_doubledPipe {before : Option Char} {a t : Text} {v : Unit}
    (h : doubledPipe before (a ++ t) = some (v, a.length)) :
    ∃ gap gap', a = ['|'] ++ gap ++ ['|'] ++ gap' ∧ (∀ c ∈ gap, isBlank c = true) ∧
      ∀ c ∈ gap', isBlank c = true := by
  obtain ⟨gap, y, hcut, -, hgap, -, -, hlength⟩ := doubledPipe_eq_some.mp h
  refine ⟨gap, Text.indent y, ?_, hgap, fun c hc => isBlank_of_mem_indent hc⟩
  have hpre : ['|'] ++ gap ++ ['|'] ++ Text.indent y <+: a ++ t :=
    ⟨trimLeft y, by rw [List.append_assoc, indent_append_trimLeft, hcut]; simp⟩
  exact (List.prefix_of_prefix_length_le (List.prefix_append a t) hpre
    (Nat.le_of_eq hlength)).eq_of_length hlength

/-- A doubled pipe has plain characters only. -/
theorem isPlain_of_doubledPipe {before : Option Char} {a t : Text} {v : Unit}
    (h : doubledPipe before (a ++ t) = some (v, a.length)) : ∀ c ∈ a, isPlain c = true := by
  obtain ⟨gap, gap', rfl, hgap, hgap'⟩ := exists_piece_of_doubledPipe h
  simp only [List.mem_append, List.mem_singleton]
  rintro c (((rfl | hc) | rfl) | hc)
  · rfl
  · exact Fix.isPlain_of_isBlank (hgap c hc)
  · rfl
  · exact Fix.isPlain_of_isBlank (hgap' c hc)

/-- What the matcher finds is a doubled pipe. -/
theorem hasDoubledPipe_of_occurs {t : Text} (h : doubledPipe.occurs t = true) :
    HasDoubledPipe t := by
  rw [Matcher.occurs, Matcher.first?, Option.isSome_iff_exists] at h
  obtain ⟨hit, hhit⟩ := h
  have hspec := Matcher.hits_spec (List.mem_of_head? hhit)
  obtain ⟨gap, y, hdrop, hne, hgap, hbefore, hhead, -⟩ := doubledPipe_eq_some.mp hspec
  refine ⟨t.take hit.span.start, gap, y, ?_, hne, hgap, hbefore, hhead⟩
  rw [← hdrop, List.take_append_drop]

theorem HasDoubledPipe.two_le_count {t : Text} (h : HasDoubledPipe t) : 2 ≤ t.count '|' := by
  obtain ⟨x, gap, y, rfl, -⟩ := h
  simp only [List.count_append, List.count_cons_self]
  omega

/-- A doubled pipe stays one behind a text that does not end in a pipe. -/
theorem HasDoubledPipe.append_left {p t : Text} (h : HasDoubledPipe t)
    (hp : p.getLast? ≠ some '|') :
    HasDoubledPipe (p ++ t) := by
  obtain ⟨x, gap, y, rfl, hne, hgap, hbefore, hhead⟩ := h
  refine ⟨p ++ x, gap, y, by simp, hne, hgap, ?_, hhead⟩
  cases x with
  | nil => simpa using hp
  | cons c x => simpa [List.getLast?_append, List.getLast?_cons] using hbefore

/-- Taking blanks from the end brings no other character to the front. -/
theorem head?_trimRight_ne {t : Text} {c : Char} (h : t.head? ≠ some c) :
    (trimRight t).head? ≠ some c := by
  obtain ⟨gap, ht, -⟩ := exists_trimRight_append t
  intro hhead
  apply h
  rw [ht, List.head?_append, hhead]
  rfl

/-- A doubled pipe does not reach into the blanks at the end. -/
theorem HasDoubledPipe.trimRight {t : Text} (h : HasDoubledPipe t) :
    HasDoubledPipe (trimRight t) := by
  obtain ⟨x, gap, y, rfl, hne, hgap, hbefore, hhead⟩ := h
  refine ⟨x, gap, Text.trimRight y, ?_, hne, hgap, hbefore, head?_trimRight_ne hhead⟩
  have hcut : x ++ '|' :: (gap ++ '|' :: y) = (x ++ '|' :: gap) ++ '|' :: y := by simp
  rw [hcut, trimRight_append_cons _ y rfl]
  simp

/-- A pipe at the end of one text and a pipe at the start of the next, with a space between them. -/
theorem hasDoubledPipe_of_meeting {a b : Text} (ha : a.getLast? ≠ some '|')
    (hb : b.head? ≠ some '|') :
    HasDoubledPipe (a ++ ['|'] ++ [' '] ++ '|' :: b) :=
  ⟨a, [' '], b, by simp, by simp, by simp; rfl, ha, hb⟩

/-- What a text becomes when its doubled pipes are made single. -/
def singlePipes (t : Text) : Text :=
  Fix.replaceAll doubledPipe (fun _ => ['|', ' ']) t

/-- Making doubled pipes single takes pipes out wherever there are doubled ones, and changes nothing
elsewhere. -/
theorem count_singlePipes (t : Text) :
    (singlePipes t).count '|' < t.count '|' ∨ singlePipes t = t ∧ ¬ HasDoubledPipe t := by
  -- along the scan: a hit takes a pipe away, and without hits there is no doubled pipe
  suffices hbehind : ∀ {p t u : Text}, Scanned doubledPipe (fun _ _ _ b => b = ['|', ' ']) p t u →
      u.count '|' < t.count '|' ∨
        u = t ∧ ∀ x y, t = x ++ '|' :: y → doubledPipe (p ++ x).getLast? ('|' :: y) = none by
    refine (hbehind (Fix.replaceAll_scanned doubledPipe_isBounded _ t)).imp_right fun hnone =>
      ⟨hnone.1, ?_⟩
    rintro ⟨x, gap, y, ht, hne, hgap, hbefore, hhead⟩
    have hfound := doubledPipe_eq_some (a := ()).mpr ⟨gap, y, rfl, hne, hgap, hbefore, hhead, rfl⟩
    rw [← List.nil_append x, hnone.2 x _ ht] at hfound
    simp at hfound
  intro p t u h
  induction h with
  | nil p => exact .inr ⟨rfl, by simp⟩
  | @keep p t u c hm h ih =>
    rcases ih with hlt | ⟨rfl, hnone⟩
    · left
      rw [List.count_cons, List.count_cons]
      omega
    · refine .inr ⟨rfl, fun x y ht => ?_⟩
      cases x with
      | nil =>
        obtain ⟨rfl, rfl⟩ := List.cons.inj ht
        simpa using hm
      | cons d x =>
        obtain ⟨rfl, hu⟩ := List.cons.inj ht
        simpa using hnone x y hu
  | @hit p a b t u v hm hb h ih =>
    left
    subst hb
    obtain ⟨gap, gap', ha, hgap, hgap'⟩ := exists_piece_of_doubledPipe hm
    have hle : u.count '|' ≤ t.count '|' := by
      rcases ih with hlt | ⟨rfl, -⟩
      · exact Nat.le_of_lt hlt
      · exact Nat.le_refl _
    have hcount : a.count '|' = 2 := by
      rw [ha, List.count_append, List.count_append, List.count_append, count_blanks hgap rfl,
        count_blanks hgap' rfl]
      rfl
    rw [List.count_append, List.count_append, hcount]
    have hb : (['|', ' '] : Text).count '|' = 1 := rfl
    omega

/-! ## Joined commands -/

/-- The lines of a command without margins, backslashes and line ends. -/
def commandPieces (pending : List NumberedLine) (terminal : Text) : List Text :=
  pending.map (fun line => trim (dropContinuation line.text)) ++ [trim terminal]

/-- The lines of a command in one, before its pipes are made single. -/
def joinedLines (pending : List NumberedLine) (terminal : Text) : Text :=
  joinWith [' '] ((commandPieces pending terminal).filter fun piece => !piece.isEmpty)

/-- A joined command is a margin and the joined lines with single pipes. -/
theorem exists_joinCommand_eq (pending : List NumberedLine) (terminal : Text) :
    ∃ margin, (∀ c ∈ margin, isBlank c = true) ∧
      joinCommand pending terminal = margin ++ singlePipes (joinedLines pending terminal) := by
  cases pending with
  | nil => exact ⟨[], by simp, rfl⟩
  | cons first rest => exact ⟨Text.indent first.text, fun c hc => isBlank_of_mem_indent hc, rfl⟩

/-- Lines that are stripped for joining keep their pipes. -/
theorem pipes_map_dropContinuation (lines : List NumberedLine) :
    pipes (lines.map fun line => trim (dropContinuation line.text)) =
      pipes (lines.map NumberedLine.text) := by
  induction lines with
  | nil => rfl
  | cons line lines ih =>
    rw [List.map_cons, List.map_cons, pipes_cons, pipes_cons, ih, count_trim _ rfl,
      count_dropContinuation]

/-- Joining keeps the pipes of the lines, as long as they are not made single. -/
theorem count_joinedLines (pending : List NumberedLine) (terminal : Text) :
    (joinedLines pending terminal).count '|' =
      pipes (pending.map NumberedLine.text ++ [terminal]) := by
  rw [joinedLines, count_joinWith rfl, List.flatten_filter_not_isEmpty, ← pipes,
    commandPieces, pipes_append, pipes_map_dropContinuation, pipes_append, pipes_cons,
    count_trim terminal rfl, pipes_cons]

/-- A line ends in a pipe if it ends in one and not in two. -/
theorem endsWithPipe_iff {t : Text} :
    endsWithPipe t = true ↔ ∃ r, t = r ++ ['|'] ∧ r.getLast? ≠ some '|' := by
  unfold endsWithPipe
  split
  · next rest hrev =>
    have ht : t = rest.reverse ++ ['|'] := by rw [← List.reverse_reverse t, hrev, List.reverse_cons]
    subst ht
    simp
  · next hne =>
    constructor
    · simp
    · rintro ⟨r, rfl, -⟩
      exact absurd (by simp) (hne r.reverse)

/-- A line starts with a pipe if a blank follows it. -/
theorem startsWithPipe_iff {t : Text} :
    startsWithPipe t = true ↔ ∃ c rest, t = '|' :: c :: rest ∧ isBlank c = true := by
  unfold startsWithPipe
  split
  · next rest => cases rest <;> simp
  · next hne => simpa using fun c rest heq => absurd heq (hne (c :: rest))

/-- Pieces with spaces behind them do not end in a pipe. -/
theorem getLast?_flatMap_space_ne (pieces : List Text) :
    (pieces.flatMap (· ++ [' '])).getLast? ≠ some '|' := by
  rcases List.eq_nil_or_concat pieces with rfl | ⟨front, last, rfl⟩
  · simp
  · simp

/-- The last line of a command stands at the end of its joined lines, behind nothing or a space. -/
theorem joinedLines_eq {terminal : Text} (h : trim terminal ≠ []) (pending : List NumberedLine) :
    joinedLines pending terminal =
      ((pending.map fun line => trim (dropContinuation line.text)).filter fun piece =>
        !piece.isEmpty).flatMap
        (· ++ [' ']) ++ trim terminal := by
  have hlast : [trim terminal].filter (fun piece => !piece.isEmpty) = [trim terminal] := by
    simpa using h
  rw [joinedLines, commandPieces, List.filter_append, hlast, joinWith_concat]

/-- The last line of a command that meets in a doubled pipe is not blank. -/
theorem trim_ne_nil_of_meetsInPipes {pending : List NumberedLine} {terminal : Text}
    (h : meetsInPipes pending terminal = true) : trim terminal ≠ [] := by
  have hpipe : '|' ∈ trimLeft terminal := by
    rw [meetsInPipes, Bool.or_eq_true] at h
    rcases h with hmeet | hoccurs
    · obtain ⟨last, -, hpipe⟩ := (Option.any_eq_true _ _).mp hmeet
      rw [Bool.and_eq_true, startsWithPipe_iff] at hpipe
      obtain ⟨-, c, rest, hclosing, -⟩ := hpipe
      simp [hclosing]
    · obtain ⟨x, gap, y, heq, -⟩ := hasDoubledPipe_of_occurs hoccurs
      simp [heq]
  intro hnil
  have hblank : isBlankText (trimLeft terminal) = true := isBlankText_iff_trimRight.mpr hnil
  exact absurd (List.all_eq_true.mp hblank '|' hpipe) (by decide)

/-- Lines that meet in a doubled pipe have one when they are joined. -/
theorem hasDoubledPipe_joinedLines {pending : List NumberedLine} {terminal : Text}
    (h : meetsInPipes pending terminal = true) : HasDoubledPipe (joinedLines pending terminal) := by
  have hne := trim_ne_nil_of_meetsInPipes h
  rw [meetsInPipes, Bool.or_eq_true] at h
  rcases h with hmeet | hoccurs
  · obtain ⟨last, hlast, hpipe⟩ := (Option.any_eq_true _ _).mp hmeet
    rw [Bool.and_eq_true, endsWithPipe_iff, startsWithPipe_iff] at hpipe
    obtain ⟨⟨r, hr, hbefore⟩, c, rest, hclosing, hc⟩ := hpipe
    obtain ⟨front, rfl⟩ := List.getLast?_eq_some_iff.mp hlast
    -- both pieces that meet begin and end with a pipe once they are trimmed
    have hpiece : trim (dropContinuation last.text) = trimLeft r ++ ['|'] := by
      have hleft : trimLeft (r ++ ['|']) = trimLeft r ++ ['|'] := by
        rw [trimLeft, List.dropWhile_append, trimLeft]
        split
        · next hnil =>
          rw [List.isEmpty_iff] at hnil
          rw [hnil]
          rfl
        · rfl
      rw [hr, trim, hleft, trimRight_concat _ rfl]
    have hterminal : trim terminal = '|' :: trimRight (c :: rest) := by
      rw [trim, hclosing]
      exact trimRight_append_cons [] (c :: rest) rfl
    have hfirst : (trimLeft r).getLast? ≠ some '|' := by
      intro hgetLast
      apply hbefore
      rw [← indent_append_trimLeft r, List.getLast?_append, hgetLast]
      rfl
    have hsecond : (trimRight (c :: rest)).head? ≠ some '|' := by
      refine head?_trimRight_ne ?_
      simpa using ne_of_isBlank hc rfl
    rw [joinedLines_eq hne, List.map_append, List.filter_append, List.flatMap_append,
      List.append_assoc]
    refine HasDoubledPipe.append_left ?_ (getLast?_flatMap_space_ne _)
    rw [hterminal]
    simpa [hpiece] using hasDoubledPipe_of_meeting hfirst hsecond
  · have hdoubled : HasDoubledPipe (trim terminal) := (hasDoubledPipe_of_occurs hoccurs).trimRight
    rw [joinedLines_eq hne]
    exact hdoubled.append_left (getLast?_flatMap_space_ne _)

/-- Joining a command that meets in a doubled pipe takes a pipe out. -/
theorem count_joinCommand_lt {pending : List NumberedLine} {terminal : Text}
    (h : meetsInPipes pending terminal = true) :
    (joinCommand pending terminal).count '|' <
      pipes (pending.map NumberedLine.text ++ [terminal]) := by
  obtain ⟨margin, hmargin, heq⟩ := exists_joinCommand_eq pending terminal
  rw [heq, List.count_append, count_blanks hmargin rfl, Nat.zero_add, ← count_joinedLines]
  exact (count_singlePipes _).resolve_right fun hnone => hnone.2 (hasDoubledPipe_joinedLines h)

end Script

end ShellStyle
