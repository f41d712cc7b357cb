import ShellStyle.Proofs.Strings

/-!
# Doubled pipes in strings

Doubled pipes are made single without a look at strings, so a string that holds one loses
characters. It holds one in the joined line exactly if it holds one in its own line: a doubled pipe
has no quote characters, so it does not reach over the end of a string, and lines that end outside
of strings can be looked at one by one.
-/

namespace ShellStyle

open Text Line

/-! ## What is inside a string -/

/-- Up to the next quote character all characters of an open string stand in it. -/
theorem quotedFrom_eq_self {q : QuoteState} (hq : q.IsProper) (hopen : q.isOpen = true) {t : Text}
    (h : ∀ c ∈ t, QuoteState.isMark c = false) : quotedFrom q t = t := by
  induction t generalizing q with
  | nil => rfl
  | cons c t ih =>
    have hc : (q.step c).isOpen = true := by
      rw [QuoteState.isOpen, QuoteState.quote_step hq (h c List.mem_cons_self),
        ← QuoteState.isOpen, hopen]
    rw [quotedFrom, if_pos hopen, ih (hq.step c) hc fun d hd => h d (List.mem_cons_of_mem c hd)]

/-- Where a string is open and is closed later, a quote character comes in between. -/
theorem exists_mark_of_closed {x y : Text} (hopen : (QuoteState.start.run x).isOpen = true)
    (hclosed : endsQuoted (x ++ y) = false) :
    ∃ y₁ m y₂, y = y₁ ++ m :: y₂ ∧ QuoteState.isMark m = true := by
  by_cases hmark : ∀ c ∈ y, QuoteState.isMark c = false
  · rw [endsQuoted_append hmark, endsQuoted, hopen] at hclosed
    simp at hclosed
  · push Not at hmark
    obtain ⟨m, hmem, hm⟩ := hmark
    obtain ⟨y₁, y₂, hy⟩ := List.append_of_mem hmem
    exact ⟨y₁, m, y₂, hy, by simpa using hm⟩

theorem endsQuoted_trim {t : Text} (ht : endsQuoted t = false) : endsQuoted (trim t) = false := by
  have hnone : ∀ c ∈ ([] : Text), QuoteState.isMark c = false := by simp
  have hfeed : isPlain '\n' = true := rfl
  exact (sameStrings_trim ht hnone hfeed hfeed).2

/-- The strings of lines that each end outside of strings are the strings of one after another. -/
theorem quoted_paragraph {lines : List Text} (h : ∀ line ∈ lines, endsQuoted line = false) :
    quoted (paragraph lines) = lines.flatMap quoted := by
  induction lines with
  | nil => rfl
  | cons line lines ih =>
    have hline : endsQuoted line = false := h line List.mem_cons_self
    have hfeed : isPlain '\n' = true := rfl
    have hlast : quoted (line ++ ['\n']) = quoted line :=
      quoted_append_of_closed hline (by simpa using isMark_of_isPlain hfeed)
    rw [paragraph_cons, quoted, quotedFrom_append, run_concat_of_closed hline hfeed, ← quoted,
      ← quoted, hlast, ih fun line' hmem => h line' (List.mem_cons_of_mem line hmem),
      List.flatMap_cons]

namespace Script

/-! ## Strings that hold a doubled pipe -/

/-- A string of the text holds a doubled pipe. -/
def HoldsPipe (t : Text) : Prop :=
  ∃ x y, t = x ++ y ∧ (QuoteState.start.run x).isOpen = true ∧
    (doubledPipe x.getLast? y).isSome = true

theorem quotesDoubledPipe_iff {t : Text} : quotesDoubledPipe t = true ↔ HoldsPipe t := by
  rw [quotesDoubledPipe, List.any_eq_true]
  constructor
  · rintro ⟨i, -, hi⟩
    rw [Bool.and_eq_true] at hi
    exact ⟨t.take i, t.drop i, (List.take_append_drop i t).symm, hi.1, hi.2⟩
  · rintro ⟨x, y, rfl, hopen, hpipe⟩
    have hne : y ≠ [] := by
      rintro rfl
      simp [doubledPipe] at hpipe
    have hlength := List.length_pos_iff.mpr hne
    refine ⟨x.length, ?_, ?_⟩
    · rw [List.mem_range, List.length_append]
      omega
    · rw [isQuotedAt, List.take_left, List.drop_left, hopen, hpipe]
      rfl

/-- What stands behind a quote character does not make a doubled pipe in front of it. -/
theorem doubledPipe_mark {before : Option Char} {x y : Text} {m : Char}
    (hm : QuoteState.isMark m = true) (y' : Text)
    (h : (doubledPipe before (x ++ m :: y)).isSome = true) :
    (doubledPipe before (x ++ m :: y')).isSome = true := by
  obtain ⟨⟨a, n⟩, hfound⟩ := Option.isSome_iff_exists.mp h
  obtain ⟨gap, z, hcut, hne, hgap, hbefore, hhead, -⟩ := doubledPipe_eq_some.mp hfound
  have hpiece : m ∉ '|' :: (gap ++ ['|']) := by
    intro hmem
    have hplain : isPlain m = true := by
      simp only [List.mem_cons, List.mem_append, List.not_mem_nil, or_false] at hmem
      rcases hmem with rfl | hmem | rfl
      · rfl
      · exact Fix.isPlain_of_isBlank (hgap m hmem)
      · rfl
    simp [isMark_of_isPlain hplain] at hm
  -- the doubled pipe ends before the quote character
  obtain ⟨w, rfl, rfl⟩ : ∃ w, x = '|' :: (gap ++ ['|']) ++ w ∧ z = w ++ m :: y := by
    have hcut' : x ++ m :: y = '|' :: (gap ++ ['|']) ++ z := by simpa using hcut
    rcases List.append_eq_append_iff.mp hcut' with ⟨w, hw, hz⟩ | ⟨w, hw, hz⟩
    · cases w with
      | nil => exact ⟨[], by simpa using hw.symm, by simpa using hz.symm⟩
      | cons c w =>
        obtain ⟨rfl, -⟩ := List.cons.inj hz
        exact absurd (by simp [hw]) hpiece
    · exact ⟨w, hw, hz⟩
  have hhead' : (w ++ m :: y').head? ≠ some '|' := by
    cases w with
    | nil => simpa using hhead
    | cons c w => simpa using hhead
  have hfound' := doubledPipe_eq_some (a := ()).mpr
    ⟨gap, w ++ m :: y', rfl, hne, hgap, hbefore, hhead', rfl⟩
  rw [Option.isSome_iff_exists]
  exact ⟨_, by simpa using hfound'⟩

/-- Behind a text that ends outside of strings the strings of the next text come on their own. -/
theorem holdsPipe_append {a : Text} (ha : endsQuoted a = false) (b : Text) :
    HoldsPipe (a ++ b) ↔ HoldsPipe a ∨
      ∃ x y, b = x ++ y ∧ ((QuoteState.start.run a).run x).isOpen = true ∧
        (doubledPipe (a ++ x).getLast? y).isSome = true := by
  constructor
  · rintro ⟨x, y, hcut, hopen, hpipe⟩
    rcases List.append_eq_append_iff.mp hcut with ⟨x', rfl, rfl⟩ | ⟨y', rfl, rfl⟩
    · rw [QuoteState.run_append] at hopen
      exact .inr ⟨x', y, rfl, hopen, hpipe⟩
    · obtain ⟨y₁, m, y₂, rfl, hm⟩ := exists_mark_of_closed hopen ha
      rw [List.append_assoc, List.cons_append] at hpipe
      exact .inl ⟨x, y₁ ++ m :: y₂, rfl, hopen, doubledPipe_mark hm y₂ hpipe⟩
  · rintro (⟨x, y, rfl, hopen, hpipe⟩ | ⟨x, y, rfl, hopen, hpipe⟩)
    · obtain ⟨y₁, m, y₂, rfl, hm⟩ := exists_mark_of_closed hopen ha
      have hlonger := doubledPipe_mark hm (y₂ ++ b) hpipe
      exact ⟨x, y₁ ++ m :: (y₂ ++ b), by simp, hopen, hlonger⟩
    · rw [← QuoteState.run_append] at hopen
      exact ⟨a ++ x, y, by simp, hopen, hpipe⟩

/-- What follows the last string does not matter if it has no quote characters. -/
theorem holdsPipe_append_bare {a b : Text} (ha : endsQuoted a = false)
    (hb : ∀ c ∈ b, QuoteState.isMark c = false) :
    HoldsPipe (a ++ b) ↔ HoldsPipe a := by
  rw [holdsPipe_append ha, or_iff_left]
  rintro ⟨x, y, rfl, hopen, -⟩
  have hproper : (QuoteState.start.run a).IsProper := QuoteState.isProper_start.run a
  have hx : ∀ c ∈ x, QuoteState.isMark c = false := fun c hc => hb c (List.mem_append_left y hc)
  rw [QuoteState.isOpen_run hproper hx, ← endsQuoted, ha] at hopen
  simp at hopen

/-- Two texts of which the first leads the quote automaton back to its start. -/
theorem holdsPipe_append_of_run {a : Text} (ha : QuoteState.start.run a = .start) (b : Text) :
    HoldsPipe (a ++ b) ↔ HoldsPipe a ∨ HoldsPipe b := by
  have hclosed : endsQuoted a = false := by rw [endsQuoted, ha]; rfl
  rw [holdsPipe_append hclosed, ha]
  refine or_congr_right ?_
  -- the place in `b` is inside a string, so it is not the first one
  have hlast : ∀ x : Text, (QuoteState.start.run x).isOpen = true →
      (a ++ x).getLast? = x.getLast? := by
    intro x hopen
    cases x with
    | nil => simp [QuoteState.run, QuoteState.start, QuoteState.isOpen] at hopen
    | cons c x => simp [List.getLast?_append, List.getLast?_cons]
  constructor
  · rintro ⟨x, y, hb, hopen, hpipe⟩
    exact ⟨x, y, hb, hopen, hlast x hopen ▸ hpipe⟩
  · rintro ⟨x, y, hb, hopen, hpipe⟩
    exact ⟨x, y, hb, hopen, (hlast x hopen).symm ▸ hpipe⟩

theorem not_holdsPipe_bare {t : Text} (h : ∀ c ∈ t, QuoteState.isMark c = false) :
    ¬ HoldsPipe t := by
  have hnil : ¬ HoldsPipe [] := by
    rintro ⟨x, y, hcut, hopen, -⟩
    obtain ⟨rfl, rfl⟩ : x = [] ∧ y = [] := by simpa using hcut
    simp [QuoteState.run, QuoteState.start, QuoteState.isOpen] at hopen
  have happend := holdsPipe_append_bare (a := []) rfl h
  rw [List.nil_append] at happend
  rwa [happend]

/-- Blanks around a line that ends outside of strings are no part of them. -/
theorem holdsPipe_trim {t : Text} (ht : endsQuoted t = false) :
    HoldsPipe (trim t) ↔ HoldsPipe t := by
  have hindent : ∀ c ∈ Text.indent t, isBlank c = true := fun c hc => isBlank_of_mem_indent hc
  have hleft : HoldsPipe t ↔ HoldsPipe (trimLeft t) := by
    have happend := holdsPipe_append_of_run (Fix.run_blanks hindent) (trimLeft t)
    rw [indent_append_trimLeft] at happend
    rw [happend, or_iff_right (not_holdsPipe_bare (isMark_of_mem_blanks hindent))]
  obtain ⟨gap, hgap, hblank⟩ := exists_trimRight_append (trimLeft t)
  have hright := holdsPipe_append_bare (endsQuoted_trim ht) (isMark_of_mem_blanks hblank)
  rw [trim, ← hgap] at hright
  rw [hleft, hright, trim]

/-! ## Making pipes single -/

/-- What became of the strings of `t` behind the prefix `p`: they have lost characters, or they are
the same and none of them holds a doubled pipe. -/
def Thinned (p t u : Text) : Prop :=
  (quotedFrom (QuoteState.start.run p) u).length < (quotedFrom (QuoteState.start.run p) t).length ∨
    quotedFrom (QuoteState.start.run p) u = quotedFrom (QuoteState.start.run p) t ∧
      ∀ x y, t = x ++ y → (QuoteState.start.run (p ++ x)).isOpen = true →
        doubledPipe (p ++ x).getLast? y = none

theorem Thinned.length_le {p t u : Text} (h : Thinned p t u) :
    (quotedFrom (QuoteState.start.run p) u).length ≤
      (quotedFrom (QuoteState.start.run p) t).length := by
  rcases h with hlt | ⟨heq, -⟩
  · exact Nat.le_of_lt hlt
  · rw [heq]

/-- A character that is kept where no doubled pipe begins. -/
theorem Thinned.keep {p t u : Text} {c : Char} (hm : doubledPipe p.getLast? (c :: t) = none)
    (h : Thinned (p ++ [c]) t u) : Thinned p (c :: t) (c :: u) := by
  have hstep : QuoteState.start.run (p ++ [c]) = (QuoteState.start.run p).step c := by
    rw [QuoteState.run_append]
    rfl
  rw [Thinned, hstep] at h
  rcases h with hlt | ⟨heq, hnone⟩
  · left
    rw [quotedFrom, quotedFrom]
    split
    · simpa using hlt
    · exact hlt
  · right
    constructor
    · rw [quotedFrom, quotedFrom, heq]
    · intro x y hcut hopen
      cases x with
      | nil =>
        rw [List.nil_append] at hcut
        rw [List.append_nil, ← hcut]
        exact hm
      | cons d x =>
        obtain ⟨rfl, hcut'⟩ := List.cons.inj hcut
        rw [List.append_cons] at hopen ⊢
        exact hnone x y hcut' hopen

/-- A doubled pipe that is made single: inside a string that takes characters out, and the quote
automaton goes on as it would, since pipes and blanks mean nothing to it. -/
theorem Thinned.hit {p a t u : Text} {v : Unit}
    (hm : doubledPipe p.getLast? (a ++ t) = some (v, a.length)) (h : Thinned (p ++ a) t u) :
    Thinned p (a ++ t) (['|', ' '] ++ u) := by
  have hproper : (QuoteState.start.run p).IsProper := QuoteState.isProper_start.run p
  have hplain : ∀ c ∈ a, isPlain c = true := isPlain_of_doubledPipe hm
  have hmark : ∀ c ∈ a, QuoteState.isMark c = false := fun c hc => isMark_of_isPlain (hplain c hc)
  have hmark' : ∀ c ∈ ['|', ' '], QuoteState.isMark c = false := Fix.isMark_eq_false_of_all rfl
  -- in a string this costs a character, because a doubled pipe is longer than what replaces it
  have hlonger : ['|', ' '].length < a.length := by
    obtain ⟨gap, y, -, hgap, -, -, -, hlength⟩ := doubledPipe_eq_some.mp hm
    have hpos := List.length_pos_iff.mpr hgap
    simp only [List.length_append, List.length_cons, List.length_nil] at hlength ⊢
    omega
  have hrun : (QuoteState.start.run p).run ['|', ' '] = QuoteState.start.run (p ++ a) := by
    have hne : a ≠ [] := by
      rintro rfl
      simp at hlonger
    rw [QuoteState.run_append, run_of_isPlain hproper hne hplain,
      run_of_isPlain hproper (by simp) (List.all_eq_true.mp rfl)]
  rw [Thinned, quotedFrom_append, quotedFrom_append, hrun, ← QuoteState.run_append]
  cases hopen : (QuoteState.start.run p).isOpen with
  | true =>
    left
    have hle := h.length_le
    rw [quotedFrom_eq_self hproper hopen hmark, quotedFrom_eq_self hproper hopen hmark',
      List.length_append, List.length_append]
    omega
  | false =>
    rw [quotedFrom_eq_nil hproper hopen hmark, quotedFrom_eq_nil hproper hopen hmark']
    refine h.imp id fun ⟨heq, hnone⟩ => ⟨heq, fun x y hcut hinside => ?_⟩
    rcases Nat.lt_or_ge x.length a.length with hlt | hle
    · -- the place is in the doubled pipe, outside of strings
      have hpre : x <+: a :=
        List.prefix_of_prefix_length_le ⟨y, hcut.symm⟩ (List.prefix_append a t) (Nat.le_of_lt hlt)
      rw [QuoteState.run_append, QuoteState.isOpen_run hproper fun c hc => hmark c (hpre.subset hc),
        hopen] at hinside
      simp at hinside
    · obtain ⟨x', rfl, hcut'⟩ := Fix.exists_of_append_eq hcut hle
      rw [← List.append_assoc] at hinside ⊢
      exact hnone x' y hcut' hinside

theorem thinned_singlePipes (t : Text) : Thinned [] t (singlePipes t) := by
  suffices hbehind : ∀ {p t u : Text}, Scanned doubledPipe (fun _ _ _ b => b = ['|', ' ']) p t u →
      Thinned p t u from
    hbehind (Fix.replaceAll_scanned doubledPipe_isBounded _ t)
  intro p t u h
  induction h with
  | nil p =>
    refine .inr ⟨rfl, fun x y hcut _ => ?_⟩
    obtain ⟨rfl, rfl⟩ : x = [] ∧ y = [] := by simpa using hcut
    rfl
  | keep c hm _ ih => exact ih.keep hm
  | hit hm hb _ ih =>
    subst hb
    exact ih.hit hm

/-- Making pipes single keeps the strings of a text exactly if none of them holds a doubled pipe. -/
theorem quoted_singlePipes_iff {t : Text} : quoted (singlePipes t) = quoted t ↔ ¬ HoldsPipe t := by
  constructor
  · rintro heq ⟨x, y, ht, hopen, hpipe⟩
    rcases thinned_singlePipes t with hlt | ⟨-, hnone⟩
    · have hsame : (quoted (singlePipes t)).length < (quoted t).length := hlt
      rw [heq] at hsame
      exact Nat.lt_irrefl _ hsame
    · rw [← List.nil_append x, hnone x y ht hopen] at hpipe
      simp at hpipe
  · intro hnone
    have hquotes : quotesDoubledPipe t = false := by
      rw [Bool.eq_false_iff]
      exact mt quotesDoubledPipe_iff.mp hnone
    exact (SameStrings.of_rewritten (singlePipes_silent hquotes)).1

/-! ## Joined commands -/

/-- Pieces that end outside of strings, with spaces between them. -/
theorem holdsPipe_flatMap {pieces : List Text} (h : ∀ piece ∈ pieces, endsQuoted piece = false)
    (t : Text) :
    HoldsPipe (pieces.flatMap (· ++ [' ']) ++ t) ↔
      (∃ piece ∈ pieces, HoldsPipe piece) ∨ HoldsPipe t := by
  induction pieces with
  | nil => simp
  | cons piece pieces ih =>
    have hpiece : endsQuoted piece = false := h piece List.mem_cons_self
    have hspace : isPlain ' ' = true := rfl
    have hbare :=
      holdsPipe_append_bare hpiece (b := [' ']) (by simpa using isMark_of_isPlain hspace)
    rw [List.flatMap_cons, List.append_assoc,
      holdsPipe_append_of_run (run_concat_of_closed hpiece hspace), hbare,
      ih fun piece' hmem => h piece' (List.mem_cons_of_mem piece hmem)]
    simp [or_assoc]

/-- A line holds a doubled pipe in a string exactly if what is joined of it does. -/
theorem holdsPipe_trim_dropContinuation {line : Text} (h : endsQuoted line = false) :
    HoldsPipe (trim (dropContinuation line)) ↔ HoldsPipe line := by
  have hclosed : endsQuoted (dropContinuation line) = false := by
    rw [endsQuoted_dropContinuation, h]
  obtain ⟨tail, htail, hmark⟩ := exists_dropContinuation_bare line
  have hbare := holdsPipe_append_bare hclosed hmark
  rw [← htail] at hbare
  rw [holdsPipe_trim hclosed, hbare]

/-- Lines that end outside of strings hold a doubled pipe in a string, once they are joined, exactly
if one of them does. -/
theorem holdsPipe_joinedLines {pending : List NumberedLine} {terminal : Text}
    (h : ∀ line ∈ pending.map NumberedLine.text ++ [terminal], endsQuoted line = false)
    (hne : trim terminal ≠ []) :
    HoldsPipe (joinedLines pending terminal) ↔
      ∃ line ∈ pending.map NumberedLine.text ++ [terminal], HoldsPipe line := by
  have hpending : ∀ line ∈ pending, endsQuoted line.text = false :=
    fun line hline => h line.text (List.mem_append_left _ (List.mem_map_of_mem hline))
  have hterminal : endsQuoted terminal = false := h terminal (by simp)
  have hpieces : ∀ piece ∈ (pending.map fun line => trim (dropContinuation line.text)).filter
      fun piece => !piece.isEmpty, endsQuoted piece = false := by
    intro piece hpiece
    obtain ⟨line, hline, rfl⟩ := List.mem_map.mp (List.mem_of_mem_filter hpiece)
    apply endsQuoted_trim
    rw [endsQuoted_dropContinuation]
    exact hpending line hline
  -- a piece is its line without the backslash and the blanks around, all of them outside of strings
  rw [joinedLines_eq hne, holdsPipe_flatMap hpieces, holdsPipe_trim hterminal]
  constructor
  · rintro (⟨piece, hpiece, hholds⟩ | hholds)
    · obtain ⟨line, hline, rfl⟩ := List.mem_map.mp (List.mem_of_mem_filter hpiece)
      rw [holdsPipe_trim_dropContinuation (hpending line hline)] at hholds
      exact ⟨line.text, List.mem_append_left _ (List.mem_map_of_mem hline), hholds⟩
    · exact ⟨terminal, by simp, hholds⟩
  · rintro ⟨text, htext, hholds⟩
    rcases List.mem_append.mp htext with htext | htext
    · left
      obtain ⟨line, hline, rfl⟩ := List.mem_map.mp htext
      rw [← holdsPipe_trim_dropContinuation (hpending line hline)] at hholds
      refine ⟨_, List.mem_filter.mpr ⟨List.mem_map_of_mem hline, ?_⟩, hholds⟩
      rw [Bool.not_eq_true', List.isEmpty_eq_false_iff]
      intro hnil
      rw [hnil] at hholds
      exact not_holdsPipe_bare (by simp) hholds
    · right
      rwa [List.mem_singleton.mp htext] at hholds

/-- Joining, before pipes are made single, puts the strings of the lines one behind another. -/
theorem quoted_joinedLines {pending : List NumberedLine} {terminal : Text}
    (h : ∀ line ∈ pending.map NumberedLine.text ++ [terminal], endsQuoted line = false)
    (hne : trim terminal ≠ []) :
    quoted (joinedLines pending terminal) =
      (pending.map NumberedLine.text ++ [terminal]).flatMap quoted := by
  have hfeed : ∀ c ∈ ['\n'], QuoteState.isMark c = false := Fix.isMark_eq_false_of_all rfl
  calc quoted (joinedLines pending terminal)
    _ = quoted (joinedLines pending terminal ++ ['\n']) :=
      (quoted_append_of_closed (endsQuoted_joinedLines h hne) hfeed).symm
    _ = quoted (paragraph (pending.map NumberedLine.text ++ [terminal])) :=
      (joinedLines_sameStrings h hne).1
    _ = (pending.map NumberedLine.text ++ [terminal]).flatMap quoted := quoted_paragraph h

/-- A command that is joined because of a doubled pipe, and whose lines, without the backslashes
that continue them, end outside of strings, keeps the characters in the strings of its lines exactly
if no line has a doubled pipe in a string. Where a line has one, the string loses characters,
whether or not it is the reason for joining. -/
theorem stringCharacters_joinCommand_iff {pending : List NumberedLine} {terminal : Text}
    (hpipes : meetsInPipes pending terminal = true)
    (hclosed : ∀ line ∈ pending.map NumberedLine.text ++ [terminal],
      endsQuoted (dropContinuation line) = false) :
    stringCharacters (joinCommand pending terminal) =
        (pending.map NumberedLine.text ++ [terminal]).flatMap stringCharacters ↔
      ∀ line ∈ pending.map NumberedLine.text ++ [terminal], quotesDoubledPipe line = false := by
  have hne := trim_ne_nil_of_meetsInPipes hpipes
  have hends : ∀ line ∈ pending.map NumberedLine.text ++ [terminal], endsQuoted line = false :=
    fun line hline => endsQuoted_dropContinuation line ▸ hclosed line hline
  obtain ⟨margin, hmargin, hjoin⟩ := exists_joinCommand_eq pending terminal
  have hsingle : quoted (joinCommand pending terminal) =
      quoted (singlePipes (joinedLines pending terminal)) := by
    rw [hjoin, (SameStrings.blanks_append hmargin _).1]
  have hcharacters : stringCharacters = quoted := funext stringCharacters_eq_quoted
  rw [hcharacters, hsingle, ← quoted_joinedLines hends hne, quoted_singlePipes_iff,
    holdsPipe_joinedLines hends hne]
  simp only [← quotesDoubledPipe_iff, not_exists, not_and, Bool.not_eq_true]

/-- Strings with single pipes and with pipes that are not apart, in a command of three lines. -/
theorem stringCharacters_joinCommand_kept :
    meetsInPipes [⟨1, "a \"x | y\" \\".toList⟩, ⟨2, "'||' | \\".toList⟩] "| b".toList = true ∧
      stringCharacters (joinCommand [⟨1, "a \"x | y\" \\".toList⟩, ⟨2, "'||' | \\".toList⟩]
        "| b".toList) =
        "x | y\"||'".toList := by
  have hpipes : meetsInPipes [⟨1, "a \"x | y\" \\".toList⟩, ⟨2, "'||' | \\".toList⟩] "| b".toList =
      true := by
    decide +kernel
  exact ⟨hpipes, (stringCharacters_joinCommand_iff hpipes (by decide +kernel)).mpr
    (by decide +kernel)⟩

/-- A doubled pipe in a string is made single when the command is joined because of another one. -/
theorem stringCharacters_joinCommand_changed :
    meetsInPipes [⟨1, "a \"x | | y\" | \\".toList⟩] "| b".toList = true ∧
      (∀ line ∈ ["a \"x | | y\" | \\".toList, "| b".toList],
        endsQuoted (dropContinuation line) = false) ∧
      joinCommand [⟨1, "a \"x | | y\" | \\".toList⟩] "| b".toList = "a \"x | y\" | b".toList ∧
      stringCharacters (joinCommand [⟨1, "a \"x | | y\" | \\".toList⟩] "| b".toList) ≠
        ["a \"x | | y\" | \\".toList, "| b".toList].flatMap stringCharacters :=
  ⟨by decide +kernel, by decide +kernel, by decide +kernel, by decide +kernel⟩

end Script

end ShellStyle
