import ShellStyle.Line.Context
import ShellStyle.Proofs.Edits
import ShellStyle.Proofs.Text

/-!
# Heredoc operators in edited lines

A line opens a heredoc if a scan over it meets an operator outside all strings. Edits that touch
neither `<` nor quotes nor backslashes, and that do not put a word behind an operator or take one
away, leave the outcome of the scan as it is.
-/

namespace ShellStyle

open Text

/-! ## The quote automaton -/

namespace QuoteState

/-- Only a quote character opens a string. -/
def IsProper (q : QuoteState) : Prop :=
  ∀ m ∈ q.quote, isMark m = true

/-- A quote mark is double or single. -/
theorem eq_of_isMark {c : Char} (h : isMark c = true) : c = '"' ∨ c = '\'' := by
  simpa [isMark] using h

theorem isProper_start : start.IsProper := by
  simp [IsProper, start]

/-- Whatever character comes, a proper state stays proper. -/
theorem IsProper.step {q : QuoteState} (h : q.IsProper) (c : Char) : (q.step c).IsProper := by
  unfold QuoteState.step
  split
  · exact h
  · split
    · exact h
    · split
      · split
        · simpa [IsProper]
        · exact h
      · split
        · simp [IsProper]
        · exact h

theorem run_cons (q : QuoteState) (c : Char) (t : Text) : q.run (c :: t) = (q.step c).run t := rfl

theorem run_append (q : QuoteState) (a t : Text) : q.run (a ++ t) = (q.run a).run t :=
  List.foldl_append

/-- Whatever text comes, a proper state stays proper. -/
theorem IsProper.run {q : QuoteState} (h : q.IsProper) (t : Text) : (q.run t).IsProper := by
  induction t generalizing q with
  | nil => exact h
  | cons c t ih => exact ih (h.step c)

/-- Only quote marks open and close strings. -/
theorem quote_step {q : QuoteState} (hq : q.IsProper) {c : Char} (hc : isMark c = false) :
    (q.step c).quote = q.quote := by
  unfold QuoteState.step
  split
  · rfl
  · split
    · rfl
    · split
      · next hquote => simp [hc, hquote]
      · next m hquote =>
        have hm : isMark m = true := hq m hquote
        have hne : c ≠ m := by
          rintro rfl
          simp [hm] at hc
        simp [hne]

/-- Only quote characters open and close strings. -/
theorem quote_run {q : QuoteState} (hq : q.IsProper) {t : Text} (h : ∀ c ∈ t, isMark c = false) :
    (q.run t).quote = q.quote := by
  induction t generalizing q with
  | nil => rfl
  | cons c t ih =>
    have hrest := ih (hq.step c) fun d hd => h d (List.mem_cons_of_mem c hd)
    rw [run_cons, hrest, quote_step hq (h c List.mem_cons_self)]

/-- Text without quote marks opens and closes no string. -/
theorem isOpen_run {q : QuoteState} (hq : q.IsProper) {t : Text} (h : ∀ c ∈ t, isMark c = false) :
    (q.run t).isOpen = q.isOpen := by
  rw [isOpen, quote_run hq h, isOpen]

end QuoteState

namespace Line

/-- A character that begins no comment and no heredoc operator and means nothing to the quote
automaton. -/
def isPlain (c : Char) : Bool :=
  c != '#' && c != '<' && c != '\\' && !QuoteState.isMark c

theorem isMark_of_isPlain {c : Char} (h : isPlain c = true) : QuoteState.isMark c = false := by
  simp only [isPlain, Bool.and_eq_true, Bool.not_eq_true'] at h
  exact h.2

/-- A plain character undoes an escape and changes nothing else. -/
theorem step_of_isPlain {q : QuoteState} (hq : q.IsProper) {c : Char} (h : isPlain c = true) :
    q.step c = ⟨q.quote, false⟩ := by
  obtain ⟨quote, escaped⟩ := q
  simp only [isPlain, Bool.and_eq_true, bne_iff_ne, Bool.not_eq_true'] at h
  obtain ⟨⟨-, hslash⟩, hmark⟩ := h
  cases escaped with
  | true => rfl
  | false =>
    cases quote with
    | none => simp [QuoteState.step, hslash, hmark]
    | some m =>
      have hm : QuoteState.isMark m = true := hq m rfl
      have hne : c ≠ m := by
        rintro rfl
        simp [hmark] at hm
      simp [QuoteState.step, hslash, hne]

/-- Plain characters end an escape and do nothing else. -/
theorem run_of_isPlain {q : QuoteState} (hq : q.IsProper) {a : Text} (hne : a ≠ [])
    (h : ∀ c ∈ a, isPlain c = true) : q.run a = ⟨q.quote, false⟩ := by
  induction a generalizing q with
  | nil => exact absurd rfl hne
  | cons c a ih =>
    have hc := h c List.mem_cons_self
    rw [QuoteState.run_cons, step_of_isPlain hq hc]
    cases a with
    | nil => rfl
    | cons d a =>
      exact ih (q := ⟨q.quote, false⟩) hq (List.cons_ne_nil d a) fun e he =>
        h e (List.mem_cons_of_mem c he)

/-! ## Operators and the text behind them -/

/-- The blanks that may stand between an operator and its word. -/
def isGap (c : Char) : Bool :=
  c == ' ' || c == '\t'

/-- The text behind the word that a text begins with. -/
def behindWord? (t : Text) : Option Text :=
  (delimiterWord? t).map fun word => t.drop word.length

/-- The text behind `<<` without the `-` that may follow. -/
def behindDash : Text → Text
  | '-' :: t => t
  | t => t

/-- The text behind the heredoc operator that a text begins with. -/
def behindOperator? (before : Option Char) (t : Text) : Option Text :=
  match t with
  | '<' :: '<' :: rest =>
    if before = some '<' ∨ (behindDash rest).head? = some '<' then none
    else behindWord? ((behindDash rest).dropWhile isGap)
  | _ => none

/-- A run of characters of a kind ends where another kind begins. -/
theorem span_append {kind : Char → Bool} {x r : Text} (hx : ∀ c ∈ x, kind c = true)
    (hr : ∀ c ∈ r.head?, kind c = false) :
    (x ++ r).takeWhile kind = x ∧ (x ++ r).dropWhile kind = r := by
  rw [List.takeWhile_append_of_pos hx, List.dropWhile_append_of_pos hx]
  cases r with
  | nil => simp
  | cons c r =>
    have hc : kind c = false := hr c rfl
    simp [hc]

/-- A name is a word as far as its characters go. -/
theorem behindWord?_name {c : Char} {x r : Text} (hc : isNameStart c = true)
    (hx : ∀ d ∈ x, isNameChar d = true) (hr : ∀ d ∈ r.head?, isNameChar d = false) :
    behindWord? (c :: (x ++ r)) = some r := by
  simp [behindWord?, delimiterWord?, hc, span_append hx hr]

theorem isNameStart_of_isMark {m : Char} (hm : QuoteState.isMark m = true) :
    isNameStart m = false := by
  rcases QuoteState.eq_of_isMark hm with rfl | rfl <;> rfl

/-- A word in quotes goes up to the next mark of the same kind. -/
theorem behindWord?_mark {m : Char} {x r : Text} (hm : QuoteState.isMark m = true)
    (hx : ∀ d ∈ x, d ≠ m) (hne : x ≠ []) : behindWord? (m :: (x ++ m :: r)) = some r := by
  have hspan := @span_append (· != m) x (m :: r) (by simpa using hx) (by simp)
  simp [behindWord?, delimiterWord?, isNameStart_of_isMark hm, hm, hspan, hne]

/-- Without a second quote character there is no word. -/
theorem behindWord?_unclosed {m : Char} {t : Text} (hm : QuoteState.isMark m = true)
    (ht : ∀ d ∈ t, d ≠ m) :
    behindWord? (m :: t) = none := by
  have hspan := @span_append (· != m) t [] (by simpa using ht) (by simp)
  rw [List.append_nil] at hspan
  simp [behindWord?, delimiterWord?, isNameStart_of_isMark hm, hm, hspan]

/-- Two quote characters in a row are no word. -/
theorem behindWord?_empty {m : Char} {t : Text} (hm : QuoteState.isMark m = true) :
    behindWord? (m :: m :: t) = none := by
  simp [behindWord?, delimiterWord?, isNameStart_of_isMark hm, hm]

/-- Where neither a name nor a string begins there is no word. -/
theorem behindWord?_other {c : Char} {t : Text} (hname : isNameStart c = false)
    (hmark : QuoteState.isMark c = false) : behindWord? (c :: t) = none := by
  simp [behindWord?, delimiterWord?, hname, hmark]

/-- A word is what its text begins with. -/
theorem isPrefix_of_delimiterWord? {t word : Text} (h : delimiterWord? t = some word) :
    word ≠ [] ∧ word <+: t := by
  cases t with
  | nil => simp [delimiterWord?] at h
  | cons c t =>
    rw [delimiterWord?] at h
    split at h
    · obtain rfl := Option.some.inj h
      exact ⟨by simp, by simpa using List.takeWhile_prefix isNameChar⟩
    · split at h
      · dsimp only at h
        split at h
        · simp at h
        · next hbody =>
          obtain rfl := Option.some.inj h
          simp only [Bool.or_eq_true, beq_iff_eq, not_or] at hbody
          have hspan := List.takeWhile_append_dropWhile (p := (· != c)) (l := t)
          have hhead := List.head?_dropWhile_not (· != c) t
          refine ⟨by simp, ?_⟩
          -- what stands between the quotes ends at the second one, which is there
          cases hrest : t.dropWhile (· != c) with
          | nil =>
            rw [hrest, List.append_nil] at hspan
            exact absurd (congrArg List.length hspan) hbody.2
          | cons d rest =>
            rw [hrest] at hhead hspan
            obtain rfl : d = c := by simpa using hhead
            refine ⟨rest, ?_⟩
            conv => rhs; rw [← hspan]
            simp
      · simp at h

theorem behindDash_of_ne {t : Text} (h : t.head? ≠ some '-') : behindDash t = t := by
  unfold behindDash
  split
  · simp at h
  · rfl

theorem behindDash_suffix (t : Text) : behindDash t <:+ t := by
  unfold behindDash
  split
  · exact List.suffix_cons _ _
  · exact List.suffix_refl t

/-- Two angle brackets are an operator if they are not part of three and a word follows. -/
theorem heredocOperator_cons_cons (before : Option Char) (rest : Text) :
    heredocOperator before ('<' :: '<' :: rest) =
      if before = some '<' ∨ (behindDash rest).head? = some '<' then none
      else (delimiterWord? ((behindDash rest).dropWhile isGap)).map fun word =>
        (word, (rest.length + 2) - ((behindDash rest).dropWhile isGap).length + word.length) := by
  change (if before = some '<' then none else
    if (behindDash rest).head? = some '<' then none
    else (delimiterWord? ((behindDash rest).dropWhile isGap)).map fun word =>
      (word, (rest.length + 2) - ((behindDash rest).dropWhile isGap).length + word.length)) = _
  by_cases hbefore : before = some '<'
  · simp [hbefore]
  · by_cases hthird : (behindDash rest).head? = some '<' <;> simp [hbefore, hthird]

/-- An operator begins with two angle brackets. -/
theorem heredocOperator_of_ne {t : Text} (h : ∀ rest, t ≠ '<' :: '<' :: rest)
    (before : Option Char) :
    heredocOperator before t = none := by
  unfold heredocOperator
  split
  · next rest => exact absurd rfl (h rest)
  · rfl

/-- Without two angle brackets there is no operator to get behind. -/
theorem behindOperator?_of_ne {t : Text} (h : ∀ rest, t ≠ '<' :: '<' :: rest)
    (before : Option Char) :
    behindOperator? before t = none := by
  unfold behindOperator?
  split
  · next rest => exact absurd rfl (h rest)
  · rfl

theorem behindOperator?_cons_cons (before : Option Char) (rest : Text) :
    behindOperator? before ('<' :: '<' :: rest) =
      if before = some '<' ∨ (behindDash rest).head? = some '<' then none
      else behindWord? ((behindDash rest).dropWhile isGap) := rfl

/-- What an operator reads ends where the text behind it begins. -/
theorem heredocOperator_eq (before : Option Char) (t : Text) :
    (heredocOperator before t).map (fun hit => t.drop hit.2) = behindOperator? before t := by
  by_cases ht : ∃ rest, t = '<' :: '<' :: rest
  · obtain ⟨rest, rfl⟩ := ht
    have hsuffix : (behindDash rest).dropWhile isGap <:+ '<' :: '<' :: rest :=
      ((List.dropWhile_suffix isGap).trans (behindDash_suffix rest)).trans
        ((List.suffix_cons '<' rest).trans (List.suffix_cons '<' _))
    rw [heredocOperator_cons_cons, behindOperator?_cons_cons]
    split
    · rfl
    · rw [behindWord?, Option.map_map]
      congr 1
      funext word
      obtain ⟨front, hfront⟩ := hsuffix
      have hlength := congrArg List.length hfront
      simp only [List.length_append, List.length_cons] at hlength
      rw [Function.comp_apply, ← hfront, ← hlength, Nat.add_sub_cancel]
      simp [List.drop_append]
  · have hne : ∀ rest, t ≠ '<' :: '<' :: rest := fun rest h => ht ⟨rest, h⟩
    rw [heredocOperator_of_ne hne, behindOperator?_of_ne hne]
    rfl

/-- An operator reads something, and it is there. -/
theorem heredocOperator_isBounded : heredocOperator.IsBounded := by
  intro before t word n h
  by_cases ht : ∃ rest, t = '<' :: '<' :: rest
  · obtain ⟨rest, rfl⟩ := ht
    rw [heredocOperator_cons_cons] at h
    split at h
    · simp at h
    · obtain ⟨word', hword, heq⟩ := Option.map_eq_some_iff.mp h
      obtain ⟨rfl, rfl⟩ := Prod.mk.inj heq
      obtain ⟨hne, hpre⟩ := isPrefix_of_delimiterWord? hword
      have hpos := List.length_pos_iff.mpr hne
      have hle := hpre.length_le
      have hgap := (List.dropWhile_sublist isGap (l := behindDash rest)).length_le
      have hdash := (behindDash_suffix rest).length_le
      simp only [List.length_cons]
      omega
  · rw [heredocOperator_of_ne (fun rest h => ht ⟨rest, h⟩)] at h
    simp at h

/-- An operator stands in its line with its word. -/
theorem heredocOperator_sublist {before : Option Char} {t word : Text} {n : Nat}
    (h : heredocOperator before t = some (word, n)) : ('<' :: '<' :: word).Sublist t := by
  by_cases ht : ∃ rest, t = '<' :: '<' :: rest
  · obtain ⟨rest, rfl⟩ := ht
    rw [heredocOperator_cons_cons] at h
    split at h
    · simp at h
    · obtain ⟨word', hword, heq⟩ := Option.map_eq_some_iff.mp h
      obtain ⟨rfl, -⟩ := Prod.mk.inj heq
      have hsuffix := (List.dropWhile_suffix isGap).trans (behindDash_suffix rest)
      exact (((isPrefix_of_delimiterWord? hword).2.sublist.trans hsuffix.sublist).cons_cons
        '<').cons_cons '<'
  · rw [heredocOperator_of_ne (fun rest h => ht ⟨rest, h⟩)] at h
    simp at h

/-! ## The scan for an opener -/

/-- Whether the scan meets an operator outside all strings, where the next `skip` characters belong
to the last operator. -/
def opensFrom (q : QuoteState) (before : Option Char) (skip : Nat) : Text → Bool
  | [] => false
  | c :: t =>
    match skip with
    | k + 1 => opensFrom (q.step c) (some c) k t
    | 0 =>
      match heredocOperator before (c :: t) with
      | some (_, n) => !q.isOpen || opensFrom (q.step c) (some c) (n - 1) t
      | none => opensFrom (q.step c) (some c) 0 t

/-- Looking for an operator outside of strings is one scan that keeps the state of the quotes. -/
theorem any_hitsFrom_eq_opensFrom (p : Text) (before : Option Char) (skip : Nat) (t : Text) :
    ((heredocOperator.hitsFrom before p.length skip t).any fun hit =>
      !isQuotedAt (p ++ t) hit.span.start) =
      opensFrom (QuoteState.start.run p) before skip t := by
  induction t generalizing p before skip with
  | nil => rfl
  | cons c t ih =>
    have hlater : ∀ k, ((heredocOperator.hitsFrom (some c) (p.length + 1) k t).any fun hit =>
        !isQuotedAt (p ++ c :: t) hit.span.start) =
          opensFrom ((QuoteState.start.run p).step c) (some c) k t := by
      intro k
      have key := ih (p ++ [c]) (some c) k
      rw [QuoteState.run_append, List.append_assoc, List.length_append] at key
      exact key
    cases skip with
    | succ k => exact hlater k
    | zero =>
      rw [Matcher.hitsFrom, opensFrom]
      cases heredocOperator before (c :: t) with
      | none => exact hlater 0
      | some hit =>
        dsimp only
        rw [List.any_cons, hlater]
        simp [isQuotedAt]

/-- A line opens a heredoc if the scan from its start says so. -/
theorem opensHeredoc_eq (line : Text) : opensHeredoc line = opensFrom .start none 0 line := by
  have key := any_hitsFrom_eq_opensFrom [] none 0 line
  rw [opensHeredoc, heredocOpener?, List.isSome_find?]
  exact key

/-- What belongs to an operator is skipped, with its quote marks. -/
theorem opensFrom_skip (q : QuoteState) (before : Option Char) (a t : Text) :
    opensFrom q before a.length (a ++ t) = opensFrom (q.run a) (a.getLast?.or before) 0 t := by
  induction a generalizing q before with
  | nil => rfl
  | cons c a ih =>
    rw [List.cons_append, List.length_cons, opensFrom, ih, QuoteState.run_cons, getLast?_cons_or]

/-- Behind an operator the scan goes on with the rest. -/
theorem opensFrom_operator {q : QuoteState} {before : Option Char} {a r : Text} (ha : a ≠ [])
    (h : behindOperator? before (a ++ r) = some r) :
    opensFrom q before 0 (a ++ r) = (!q.isOpen || opensFrom (q.run a) a.getLast? 0 r) := by
  obtain ⟨c, a, rfl⟩ := List.exists_cons_of_ne_nil ha
  rw [← heredocOperator_eq] at h
  obtain ⟨⟨word, n⟩, hop, hdrop⟩ := Option.map_eq_some_iff.mp h
  have hbound := heredocOperator_isBounded _ _ _ _ hop
  have hn : n - 1 = a.length := by
    have := congrArg List.length hdrop
    simp only [List.cons_append, List.length_drop, List.length_cons,
      List.length_append] at this hbound
    omega
  rw [List.cons_append] at hop ⊢
  rw [opensFrom, hop]
  dsimp only
  rw [hn, opensFrom_skip, QuoteState.run_cons]
  congr 2
  cases a <;> simp [List.getLast?_cons]

/-- Where no operator begins the scan takes one character. -/
theorem opensFrom_of_none {q : QuoteState} {before : Option Char} {c : Char} {t : Text}
    (h : behindOperator? before (c :: t) = none) :
    opensFrom q before 0 (c :: t) = opensFrom (q.step c) (some c) 0 t := by
  rw [← heredocOperator_eq, Option.map_eq_none_iff] at h
  rw [opensFrom, h]

/-! ## Edits that leave operators alone -/

/-- A piece before which an operator finds no word, wherever the piece stands. -/
def isStopper (a : Text) : Bool :=
  a.head? != some '-' && (a.dropWhile isGap).head?.any fun c => !isNameChar c

/-- A place where a word can neither be the word of an operator nor go on in it. -/
def isLoose (p : Text) : Bool :=
  p.getLast?.all (fun c => !isNameChar c) && (trimRight p).getLast?.all fun c =>
    c != '<' && c != '-'

/-- An edit of plain characters that gives no operator a word and takes none away. -/
structure IsHarmless (p a b : Text) : Prop where
  solid : isBlankText a = false ∧ isBlankText b = false
  plain : (∀ c ∈ a, isPlain c = true) ∧ ∀ c ∈ b, isPlain c = true
  apart : isStopper a = true ∧ isStopper b = true ∨ isLoose p = true

theorem IsHarmless.ne_nil {p a b : Text} (h : IsHarmless p a b) : a ≠ [] ∧ b ≠ [] := by
  obtain ⟨⟨ha, hb⟩, -, -⟩ := h
  constructor <;> rintro rfl <;> simp [isBlankText] at ha hb

/-- The place behind an operator, up to its word. -/
def IsArmed (p : Text) : Prop :=
  ∃ c ∈ (trimRight p).getLast?, c = '<' ∨ c = '-'

/-- Behind an operator that waits for its word no place is loose. -/
theorem IsArmed.not_isLoose {p : Text} (h : IsArmed p) : isLoose p = false := by
  obtain ⟨c, hc, hlast⟩ := h
  rw [Option.mem_def] at hc
  rcases hlast with rfl | rfl <;> simp [isLoose, hc]

/-- Blanks behind an operator do not disarm it. -/
theorem IsArmed.concat {p : Text} (h : IsArmed p) {c : Char} (hc : isGap c = true) :
    IsArmed (p ++ [c]) := by
  have hblank : isBlank c = true := by
    rcases (by simpa [isGap] using hc : c = ' ' ∨ c = '\t') with rfl | rfl <;> rfl
  rwa [IsArmed, trimRight_append_blanks p (by simpa using hblank)]

/-- A bracket or a dash arms the place behind it. -/
theorem isArmed_concat (p : Text) {c : Char} (hc : c = '<' ∨ c = '-') : IsArmed (p ++ [c]) := by
  have hblank : isBlank c = false := by rcases hc with rfl | rfl <;> rfl
  refine ⟨c, ?_, hc⟩
  rw [trimRight_concat p hblank]
  simp

/-- The word that an operator finds in a stopper is none. -/
theorem behindWord?_of_isStopper {a : Text} (h : isStopper a = true)
    (hplain : ∀ c ∈ a, isPlain c = true) (t : Text) :
    behindWord? ((a ++ t).dropWhile isGap) = none := by
  rw [isStopper, Bool.and_eq_true] at h
  cases hd : a.dropWhile isGap with
  | nil => simp [hd] at h
  | cons c r =>
    have hname : isNameChar c = false := by simpa [hd] using h.2
    have hmem : c ∈ a := (List.dropWhile_sublist isGap).mem (hd ▸ List.mem_cons_self)
    have hmark : QuoteState.isMark c = false := isMark_of_isPlain (hplain c hmem)
    rw [List.dropWhile_append, hd]
    exact behindWord?_other (by simp [isNameChar] at hname; simpa using hname.1) hmark

/-- Behind an operator both lines have no word, or both have one that begins with the same
character. -/
theorem gap_of_rewritten {p t u : Text} (h : Rewritten IsHarmless p t u) (harmed : IsArmed p) :
    behindWord? (t.dropWhile isGap) = none ∧ behindWord? (u.dropWhile isGap) = none ∨
      ∃ gap c t' u', t = gap ++ c :: t' ∧ u = gap ++ c :: u' ∧ (∀ d ∈ gap, isGap d = true) ∧
        isGap c = false ∧
        Rewritten IsHarmless (p ++ gap ++ [c]) t' u' := by
  induction h with
  | nil p => exact .inl ⟨rfl, rfl⟩
  | @keep p t u c h ih =>
    by_cases hc : isGap c = true
    · rcases ih (harmed.concat hc) with ⟨ht, hu⟩ | ⟨gap, d, t', u', rfl, rfl, hgap, hd, hrest⟩
      · left
        rw [List.dropWhile_cons_of_pos hc, List.dropWhile_cons_of_pos hc]
        exact ⟨ht, hu⟩
      · refine .inr ⟨c :: gap, d, t', u', rfl, rfl, by simpa [hc] using hgap, hd, ?_⟩
        simpa using hrest
    · exact .inr ⟨[], c, t, u, rfl, rfl, by simp, by simpa using hc, by simpa using h⟩
  | @edit p a b t u hP h ih =>
    rcases hP.apart with ⟨ha, hb⟩ | hloose
    · exact .inl ⟨behindWord?_of_isStopper ha hP.plain.1 t,
        behindWord?_of_isStopper hb hP.plain.2 u⟩
    · simp [harmed.not_isLoose] at hloose

/-- A stopper does not begin with a dash. -/
theorem head?_ne_dash_of_isStopper {a : Text} (h : isStopper a = true) (t : Text) :
    (a ++ t).head? ≠ some '-' := by
  cases a with
  | nil => simp [isStopper] at h
  | cons c a =>
    rw [isStopper, Bool.and_eq_true] at h
    simpa using h.1

/-- No name goes on into a stopper. -/
theorem isNameChar_head?_of_isStopper {a : Text} (h : isStopper a = true) (t : Text) :
    ∀ c ∈ (a ++ t).head?, isNameChar c = false := by
  intro c hc
  cases a with
  | nil => simp [isStopper] at h
  | cons d a =>
    obtain rfl : d = c := by simpa using hc
    by_cases hd : isGap d = true
    · rcases (by simpa [isGap] using hd : d = ' ' ∨ d = '\t') with rfl | rfl <;> rfl
    · rw [isStopper, Bool.and_eq_true] at h
      simpa [hd] using h.2

/-- A name goes on in both lines alike. -/
theorem name_of_rewritten {p t u : Text} (h : Rewritten IsHarmless p t u)
    (hname : ∃ c ∈ p.getLast?, isNameChar c = true) :
    ∃ x t' u', t = x ++ t' ∧ u = x ++ u' ∧ (∀ c ∈ x, isNameChar c = true) ∧
      (∀ c ∈ t'.head?, isNameChar c = false) ∧ (∀ c ∈ u'.head?, isNameChar c = false) ∧
      Rewritten IsHarmless (p ++ x) t' u' := by
  induction h with
  | nil p => exact ⟨[], [], [], rfl, rfl, by simp, by simp, by simp, .nil _⟩
  | @keep p t u c h ih =>
    by_cases hc : isNameChar c = true
    · obtain ⟨x, t', u', rfl, rfl, hx, ht, hu, hrest⟩ := ih ⟨c, by simp, hc⟩
      exact ⟨c :: x, t', u', rfl, rfl, by simpa [hc] using hx, ht, hu, by simpa using hrest⟩
    · exact ⟨[], c :: t, c :: u, rfl, rfl, by simp, by simpa using hc, by simpa using hc,
        by simpa using Rewritten.keep c h⟩
  | @edit p a b t u hP h ih =>
    rcases hP.apart with ⟨ha, hb⟩ | hloose
    · exact ⟨[], a ++ t, b ++ u, rfl, rfl, by simp, isNameChar_head?_of_isStopper ha t,
        isNameChar_head?_of_isStopper hb u, by simpa using Rewritten.edit hP h⟩
    · obtain ⟨c, hc, hname⟩ := hname
      rw [Option.mem_def] at hc
      simp [isLoose, hc, hname] at hloose

/-- A quote character comes next in both lines or in neither, and what stands before it is alike to
the quote automaton. -/
theorem mark_of_rewritten {p t u : Text} (h : Rewritten IsHarmless p t u) {m : Char}
    (hm : QuoteState.isMark m = true) :
    (∀ c ∈ t, c ≠ m) ∧ (∀ c ∈ u, c ≠ m) ∨
      ∃ x y t' u', t = x ++ m :: t' ∧ u = y ++ m :: u' ∧ (∀ c ∈ x, c ≠ m) ∧ (∀ c ∈ y, c ≠ m) ∧
        (x = [] ↔ y = []) ∧ (∀ q : QuoteState, q.IsProper → q.run x = q.run y) ∧
        Rewritten IsHarmless (p ++ x ++ [m]) t' u' := by
  induction h with
  | nil p => exact .inl ⟨by simp, by simp⟩
  | @keep p t u c h ih =>
    by_cases hc : c = m
    · subst hc
      exact .inr ⟨[], [], t, u, rfl, rfl, by simp, by simp, .rfl, fun q _ => rfl, by simpa using h⟩
    · rcases ih with ⟨ht, hu⟩ | ⟨x, y, t', u', rfl, rfl, hx, hy, -, hrun, hrest⟩
      · exact .inl ⟨by simpa [hc] using ht, by simpa [hc] using hu⟩
      · refine .inr ⟨c :: x, c :: y, t', u', rfl, rfl, by simpa [hc] using hx,
          by simpa [hc] using hy, by simp, fun q hq => hrun (q.step c) (hq.step c), by
            simpa using hrest⟩
  | @edit p a b t u hP h ih =>
    -- edits are plain, so that they bring in no quote mark and take none away
    have hpiece : ∀ {a x : Text}, (∀ c ∈ a, isPlain c = true) → (∀ c ∈ x, c ≠ m) →
        ∀ c ∈ a ++ x, c ≠ m := by
      intro a x ha hx c hc
      rcases List.mem_append.mp hc with hc | hc
      · rintro rfl
        simpa [isPlain, hm] using ha c hc
      · exact hx c hc
    rcases ih with ⟨ht, hu⟩ | ⟨x, y, t', u', rfl, rfl, hx, hy, -, hrun, hrest⟩
    · exact .inl ⟨hpiece hP.plain.1 ht, hpiece hP.plain.2 hu⟩
    · refine .inr ⟨a ++ x, b ++ y, t', u', by simp, by simp, hpiece hP.plain.1 hx,
        hpiece hP.plain.2 hy, by simp [hP.ne_nil], fun q hq => ?_, by simpa using hrest⟩
      rw [QuoteState.run_append, QuoteState.run_append, run_of_isPlain hq hP.ne_nil.1 hP.plain.1,
        run_of_isPlain hq hP.ne_nil.2 hP.plain.2]
      exact hrun _ hq

/-- An angle bracket comes first in both lines or in neither. -/
theorem angle_of_rewritten {p t u : Text} (h : Rewritten IsHarmless p t u) :
    t.head? ≠ some '<' ∧ u.head? ≠ some '<' ∨
      ∃ t' u', t = '<' :: t' ∧ u = '<' :: u' ∧ Rewritten IsHarmless (p ++ ['<']) t' u' := by
  cases h with
  | nil => exact .inl ⟨by simp, by simp⟩
  | @keep p t u c h =>
    by_cases hc : c = '<'
    · subst hc
      exact .inr ⟨t, u, rfl, rfl, h⟩
    · exact .inl ⟨by simpa using hc, by simpa using hc⟩
  | @edit p a b t u hP h =>
    have hhead : ∀ {a : Text} (t : Text), a ≠ [] → (∀ c ∈ a, isPlain c = true) →
        (a ++ t).head? ≠ some '<' := by
      intro a t hne ha
      obtain ⟨c, a, rfl⟩ := List.exists_cons_of_ne_nil hne
      have hc := ha c List.mem_cons_self
      rintro heq
      obtain rfl : c = '<' := by simpa using heq
      simp [isPlain] at hc
    exact .inl ⟨hhead t hP.ne_nil.1 hP.plain.1, hhead u hP.ne_nil.2 hP.plain.2⟩

/-- A dash behind `<<` stands in both lines or in neither. -/
theorem dash_of_rewritten {p t u : Text} (h : Rewritten IsHarmless p t u) (harmed : IsArmed p) :
    ∃ d, t = d ++ behindDash t ∧ u = d ++ behindDash u ∧ IsArmed (p ++ d) ∧
      Rewritten IsHarmless (p ++ d) (behindDash t) (behindDash u) := by
  cases h with
  | nil => exact ⟨[], rfl, rfl, by simpa using harmed, .nil _⟩
  | @keep p t u c h =>
    by_cases hc : c = '-'
    · subst hc
      exact ⟨['-'], rfl, rfl, isArmed_concat p (.inr rfl), h⟩
    · have hdash : ∀ r, behindDash (c :: r) = c :: r :=
        fun r => behindDash_of_ne (by simpa using hc)
      rw [hdash, hdash]
      exact ⟨[], rfl, rfl, by simpa using harmed, by simpa using Rewritten.keep c h⟩
  | @edit p a b t u hP h =>
    rcases hP.apart with ⟨ha, hb⟩ | hloose
    · rw [behindDash_of_ne (head?_ne_dash_of_isStopper ha t),
        behindDash_of_ne (head?_ne_dash_of_isStopper hb u)]
      exact ⟨[], rfl, rfl, by simpa using harmed, by simpa using Rewritten.edit hP h⟩
    · simp [harmed.not_isLoose] at hloose

/-- Two pieces that the scan cannot tell apart: they leave the quote automaton in one state, and
neither ends with an angle bracket. -/
structure IsAlike (a b : Text) : Prop where
  ne_nil : a ≠ [] ∧ b ≠ []
  getLast?_ne : a.getLast? ≠ some '<' ∧ b.getLast? ≠ some '<'
  run_eq : ∀ q : QuoteState, q.IsProper → q.run a = q.run b

/-- Pieces that cannot be told apart cannot be told apart behind the same text either. -/
theorem IsAlike.append_left {a b : Text} (h : IsAlike a b) (x : Text) :
    IsAlike (x ++ a) (x ++ b) := by
  obtain ⟨⟨ha, hb⟩, ⟨hla, hlb⟩, hrun⟩ := h
  refine ⟨by simp [ha, hb], ?_, fun q hq => ?_⟩
  · rw [List.getLast?_append, List.getLast?_append, List.getLast?_eq_some_getLast ha,
      List.getLast?_eq_some_getLast hb]
    rw [List.getLast?_eq_some_getLast ha] at hla
    rw [List.getLast?_eq_some_getLast hb] at hlb
    exact ⟨hla, hlb⟩
  · rw [QuoteState.run_append, QuoteState.run_append, hrun _ (hq.run x)]

/-- Behind an operator both lines have a word or neither has one. -/
theorem word_of_rewritten {p t u : Text} (h : Rewritten IsHarmless p t u) (harmed : IsArmed p) :
    behindWord? (t.dropWhile isGap) = none ∧ behindWord? (u.dropWhile isGap) = none ∨
      ∃ a b t' u', t = a ++ t' ∧ u = b ++ u' ∧ IsAlike a b ∧
        behindWord? (t.dropWhile isGap) = some t' ∧
        behindWord? (u.dropWhile isGap) = some u' ∧ Rewritten IsHarmless (p ++ a) t' u' := by
  rcases gap_of_rewritten h harmed with hnone | ⟨gap, c, t, u, rfl, rfl, hgap, hc, h⟩
  · exact .inl hnone
  have hdrop : ∀ r, (gap ++ c :: r).dropWhile isGap = c :: r :=
    fun r => (span_append hgap (by simpa using hc)).2
  rw [hdrop, hdrop]
  -- the word begins with a letter, with a quote character, or not at all
  by_cases hname : isNameStart c = true
  · have hchar : isNameChar c = true := by simp [isNameChar, hname]
    obtain ⟨x, t, u, rfl, rfl, hx, ht, hu, h⟩ := name_of_rewritten h ⟨c, by simp, hchar⟩
    refine .inr ⟨gap ++ c :: x, gap ++ c :: x, t, u, by simp, by simp, ?_,
      behindWord?_name hname hx ht, behindWord?_name hname hx hu, by simpa using h⟩
    have hlast : (c :: x).getLast? ≠ some '<' := by
      intro heq
      have hmem : '<' ∈ c :: x := List.mem_of_getLast? heq
      rcases List.mem_cons.mp hmem with rfl | hmem
      · simp [isNameChar, isNameStart] at hchar
      · have := hx '<' hmem
        simp [isNameChar, isNameStart] at this
    exact IsAlike.append_left ⟨by simp, ⟨hlast, hlast⟩, fun q _ => rfl⟩ gap
  · by_cases hmark : QuoteState.isMark c = true
    · rcases mark_of_rewritten h hmark with ⟨ht, hu⟩ | ⟨x, y, t, u, rfl, rfl, hx, hy, hnil, hrun, h⟩
      · exact .inl ⟨behindWord?_unclosed hmark ht, behindWord?_unclosed hmark hu⟩
      · by_cases hempty : x = []
        · obtain rfl := hempty
          obtain rfl := hnil.mp rfl
          exact .inl ⟨behindWord?_empty hmark, behindWord?_empty hmark⟩
        · have hlast : ∀ x : Text, (c :: (x ++ [c])).getLast? ≠ some '<' := by
            intro x heq
            obtain rfl : c = '<' := by simpa [List.getLast?_cons] using heq
            simp [QuoteState.isMark] at hmark
          refine .inr ⟨gap ++ c :: (x ++ [c]), gap ++ c :: (y ++ [c]), t, u, by simp, by simp, ?_,
            behindWord?_mark hmark hx hempty, behindWord?_mark hmark hy (mt hnil.mpr hempty), by
              simpa using h⟩
          refine IsAlike.append_left ⟨by simp, ⟨hlast x, hlast y⟩, fun q hq => ?_⟩ gap
          rw [QuoteState.run_cons, QuoteState.run_cons, QuoteState.run_append,
            QuoteState.run_append, hrun _ (hq.step c)]
    · exact .inl ⟨behindWord?_other (by simpa using hname) (by simpa using hmark),
        behindWord?_other (by simpa using hname) (by simpa using hmark)⟩

/-- Both lines have an operator here or neither has one, and the scan passes both operators
alike. -/
theorem operator_of_rewritten {p t u : Text} (h : Rewritten IsHarmless p t u)
    {before before' : Option Char} (hbefore : before = some '<' ↔ before' = some '<') :
    behindOperator? before t = none ∧ behindOperator? before' u = none ∨
      ∃ a b t' u', t = a ++ t' ∧ u = b ++ u' ∧ IsAlike a b ∧ behindOperator? before t = some t' ∧
        behindOperator? before' u = some u' ∧ Rewritten IsHarmless (p ++ a) t' u' := by
  rcases angle_of_rewritten h with ⟨ht, hu⟩ | ⟨t₁, u₁, rfl, rfl, h₁⟩
  · left
    constructor <;> exact behindOperator?_of_ne (by rintro rest rfl; simp at ht hu) _
  rcases angle_of_rewritten h₁ with ⟨ht, hu⟩ | ⟨t₂, u₂, rfl, rfl, h₂⟩
  · left
    constructor <;> refine behindOperator?_of_ne (fun rest heq => ?_) _
    · obtain rfl : t₁ = '<' :: rest := by simpa using heq
      simp at ht
    · obtain rfl : u₁ = '<' :: rest := by simpa using heq
      simp at hu
  obtain ⟨d, ht, hu, harmed, h₃⟩ := dash_of_rewritten h₂ (isArmed_concat _ (.inl rfl))
  rw [behindOperator?_cons_cons, behindOperator?_cons_cons]
  -- a third angle bracket makes it a here-string in both lines
  rcases angle_of_rewritten h₃ with ⟨ht₃, hu₃⟩ | ⟨_, _, ht₃, hu₃, -⟩
  · by_cases hb : before = some '<'
    · exact .inl ⟨if_pos (.inl hb), if_pos (.inl (hbefore.mp hb))⟩
    · rw [if_neg (by simp [hb, ht₃]), if_neg (by simp [mt hbefore.mpr hb, hu₃])]
      rcases word_of_rewritten h₃ harmed with hnone | ⟨a, b, t', u', hta, hub, halike, ht', hu', h₄⟩
      · exact .inl hnone
      · refine .inr ⟨'<' :: '<' :: (d ++ a), '<' :: '<' :: (d ++ b), t', u', ?_, ?_,
          ?_, ht', hu', ?_⟩
        · rw [ht, hta]; simp
        · rw [hu, hub]; simp
        · simpa using halike.append_left (['<', '<'] ++ d)
        · simpa using h₄
  · exact .inl ⟨if_pos (.inr (by simp [ht₃])), if_pos (.inr (by simp [hu₃]))⟩

theorem getLast?_ne_of_isPlain {a : Text} (h : ∀ c ∈ a, isPlain c = true) :
    a.getLast? ≠ some '<' := by
  intro heq
  simpa [isPlain] using h '<' (List.mem_of_getLast? heq)

/-- No operator begins at a plain character. -/
theorem opensFrom_plain {q : QuoteState} (hq : q.IsProper) {a : Text} (hne : a ≠ [])
    (h : ∀ c ∈ a, isPlain c = true) (before : Option Char) (t : Text) :
    opensFrom q before 0 (a ++ t) = opensFrom ⟨q.quote, false⟩ a.getLast? 0 t := by
  induction a generalizing q before with
  | nil => exact absurd rfl hne
  | cons c a ih =>
    have hc := h c List.mem_cons_self
    have hangle : behindOperator? before (c :: (a ++ t)) = none := by
      refine behindOperator?_of_ne (fun rest heq => ?_) before
      obtain rfl : c = '<' := (List.cons.inj heq).1
      simp [isPlain] at hc
    rw [List.cons_append, opensFrom_of_none hangle, step_of_isPlain hq hc]
    cases a with
    | nil => rfl
    | cons d a =>
      have hrest := ih (q := ⟨q.quote, false⟩) hq (List.cons_ne_nil d a)
        (fun e he => h e (List.mem_cons_of_mem c he)) (some c)
      rw [hrest, List.getLast?_cons_cons]

/-- Edits that leave operators alone leave the outcome of the scan as it is. -/
theorem opensFrom_of_rewritten {p t u : Text} (h : Rewritten IsHarmless p t u) {q : QuoteState}
    (hq : q.IsProper) {before before' : Option Char}
    (hbefore : before = some '<' ↔ before' = some '<') :
    opensFrom q before 0 t = opensFrom q before' 0 u := by
  -- the scan jumps over whole operators, so the induction is on the length of what is left
  induction hn : t.length using Nat.strongRecOn generalizing p t u q before before' with
  | ind n ih =>
    subst hn
    rcases operator_of_rewritten h hbefore with ⟨ht, hu⟩
      | ⟨a, b, t', u', rfl, rfl, halike, ht, hu, h'⟩
    -- no operator here: the next character or the next piece is passed
    · cases h with
      | nil => rfl
      | @keep p t u c h =>
        rw [opensFrom_of_none ht, opensFrom_of_none hu]
        exact ih t.length (by simp) h (hq.step c) .rfl rfl
      | @edit p a b t u hP h =>
        rw [opensFrom_plain hq hP.ne_nil.1 hP.plain.1, opensFrom_plain hq hP.ne_nil.2 hP.plain.2]
        have hshort : t.length < (a ++ t).length := by
          rw [List.length_append]
          exact Nat.lt_add_of_pos_left (List.length_pos_iff.mpr hP.ne_nil.1)
        have hq' : QuoteState.IsProper ⟨q.quote, false⟩ := hq
        refine ih t.length hshort h hq' ?_ rfl
        simp [getLast?_ne_of_isPlain hP.plain.1, getLast?_ne_of_isPlain hP.plain.2]
    · rw [opensFrom_operator halike.ne_nil.1 ht, opensFrom_operator halike.ne_nil.2 hu,
        ← halike.run_eq q hq]
      have hshort : t'.length < (a ++ t').length := by
        rw [List.length_append]
        exact Nat.lt_add_of_pos_left (List.length_pos_iff.mpr halike.ne_nil.1)
      have hlast : a.getLast? = some '<' ↔ b.getLast? = some '<' := by simp [halike.getLast?_ne]
      rw [ih t'.length hshort h' (hq.run a) hlast rfl]

/-! ## The context of a line that opens a heredoc -/

/-- The contexts in the order in which they are tried, for any answers to the tests. -/
def contextOf (empty shebang comment opens regex arithmetic substitution expansion brace : Bool) :
    Context :=
  if empty then .empty
  else if shebang then .shebang
  else if comment then .comment
  else if opens then .heredocStart
  else if regex then .regex
  else if arithmetic then .arithmetic
  else if substitution then .substitution
  else if expansion then .expansion
  else if brace then .braceExpansion
  else .normal

/-- The context of a line is decided by nine questions. -/
theorem context_eq_contextOf (line : Text) :
    context line = contextOf line.isEmpty (startsWith ['#', '!'] line) (isComment line)
      (opensHeredoc line)
      (hasRegexTest line) (hasArithmetic line) (hasSubstitution line) (hasExpansion line)
        (hasBraceExpansion line) :=
  rfl

/-- Only a line that opens a heredoc has the context of one. -/
theorem opensHeredoc_of_context {line : Text} (h : context line = .heredocStart) :
    opensHeredoc line = true := by
  have key : ∀ e s c r a x p b, contextOf e s c false r a x p b ≠ .heredocStart := by decide
  rw [← Bool.not_eq_false]
  intro hnone
  rw [context_eq_contextOf, hnone] at h
  exact key _ _ _ _ _ _ _ _ h

/-- A line that opens a heredoc and is not left alone has the context of one. -/
theorem context_of_opensHeredoc {line : Text} (hinert : (context line).isInert = false)
    (h : opensHeredoc line = true) : context line = .heredocStart := by
  have key : ∀ e s c r a x p b, (contextOf e s c true r a x p b).isInert = false →
      contextOf e s c true r a x p b = .heredocStart := by
    decide
  rw [context_eq_contextOf, h] at hinert ⊢
  exact key _ _ _ _ _ _ _ _ hinert

/-- A line that is not left alone is no comment. -/
theorem isComment_eq_false {line : Text} (hinert : (context line).isInert = false) :
    isComment line = false := by
  have key : ∀ e s o r a x p b, (contextOf e s true o r a x p b).isInert = true := by decide
  rw [← Bool.not_eq_true]
  intro hcomment
  rw [context_eq_contextOf, hcomment, key] at hinert
  simp at hinert

/-- A line is protected if it is a comment or has one of the forms that must not be touched. -/
theorem isProtected_eq (line : Text) :
    isProtected line = (isComment line || opensHeredoc line || hasRegexTest line ||
      hasArithmetic line || hasSubstitution line || hasExpansion line ||
        hasBraceExpansion line) := by
  have key : ∀ s c o r a x p b, (s = true → c = true) →
      (contextOf false s c o r a x p b).isProtected = (c || o || r || a || x || p || b) := by
    decide
  cases line with
  | nil => rfl
  | cons d line =>
    rw [isProtected, context_eq_contextOf]
    refine key _ _ _ _ _ _ _ _ fun hshebang => ?_
    obtain ⟨rest, hrest⟩ := startsWith_iff.mp hshebang
    obtain ⟨rfl, -⟩ := List.cons.inj hrest
    rfl

end Line

end ShellStyle
