import ShellStyle.Proofs.Fixers
import ShellStyle.Proofs.Segments
import ShellStyle.Script.Safety

/-!
# The heredocs of a formatted script

The safety check reads the heredocs of a script and of its formatted lines. The lines of the
script's heredocs come out as they are, so both readings agree unless a line outside of them opens
one after formatting; and then they cannot agree. Fixing and indenting a line never makes it open a
heredoc; joining and breaking may.
-/

namespace ShellStyle.Script

open Text Line

/-! ## Blocks -/

/-- A heredoc with this delimiter ends with the last line of `body`, or it has no end and nothing is
left behind. -/
def EndsAt (delimiter : Text) (body rest : List Text) : Prop :=
  (∃ inner last, body = inner ++ [last] ∧ endsHeredoc last delimiter = true ∧
    ∀ text ∈ inner, endsHeredoc text delimiter = false) ∨
  rest = [] ∧ ∀ text ∈ body, endsHeredoc text delimiter = false

/-- One line more before the end. -/
theorem EndsAt.cons {delimiter text : Text} {body rest : List Text} (h : EndsAt delimiter body rest)
    (htext : endsHeredoc text delimiter = false) : EndsAt delimiter (text :: body) rest := by
  rcases h with ⟨inner, last, rfl, hlast, hinner⟩ | ⟨hrest, hbody⟩
  · exact .inl ⟨text :: inner, last, rfl, hlast, by simpa [htext] using hinner⟩
  · exact .inr ⟨hrest, by simpa [htext] using hbody⟩

theorem EndsAt.singleton {delimiter text : Text} (htext : endsHeredoc text delimiter = true)
    (rest : List Text) :
    EndsAt delimiter [text] rest :=
  .inl ⟨[], text, rfl, htext, by simp⟩

/-- Every heredoc ends somewhere. -/
theorem exists_endsAt (delimiter : Text) (lines : List Text) :
    ∃ body rest, lines = body ++ rest ∧ EndsAt delimiter body rest := by
  induction lines with
  | nil => exact ⟨[], [], rfl, .inr ⟨rfl, by simp⟩⟩
  | cons text lines ih =>
    by_cases htext : endsHeredoc text delimiter = true
    · exact ⟨[text], lines, rfl, .singleton htext lines⟩
    · obtain ⟨body, rest, rfl, hends⟩ := ih
      exact ⟨text :: body, rest, rfl, hends.cons (by simpa using htext)⟩

/-- Reading goes on behind the end of a heredoc. -/
theorem heredocsFrom_append {delimiter : Text} {body rest : List Text}
    (h : EndsAt delimiter body rest) (block : List Text) :
    heredocsFrom (some (delimiter, block)) (body ++ rest) = (block ++ body) :: heredocs rest := by
  have hopen : ∀ (inner tail block : List Text),
      (∀ text ∈ inner, endsHeredoc text delimiter = false) →
      heredocsFrom (some (delimiter, block)) (inner ++ tail) =
        heredocsFrom (some (delimiter, block ++ inner)) tail := by
    intro inner tail block hinner
    induction inner generalizing block with
    | nil => simp
    | cons text inner ih =>
      have htext := hinner text List.mem_cons_self
      rw [List.cons_append, heredocsFrom, htext, if_neg Bool.false_ne_true,
        ih (block ++ [text]) fun t ht => hinner t (List.mem_cons_of_mem text ht)]
      simp
  rcases h with ⟨inner, last, rfl, hlast, hinner⟩ | ⟨rfl, hbody⟩
  · rw [List.append_assoc, hopen inner _ block hinner, List.singleton_append,
      heredocsFrom, if_pos hlast]
    simp [heredocs]
  · rw [hopen body [] block hbody]
    rfl

/-- A line that opens no heredoc is passed over. -/
theorem heredocs_cons_of_ne {text : Text} (h : context text ≠ .heredocStart) (rest : List Text) :
    heredocs (text :: rest) = heredocs rest := by
  rw [heredocs, heredocsFrom, if_neg h]
  rfl

/-- A line that opens a heredoc begins a block. -/
theorem heredocs_cons_of_opener {opener : Text} (h : context opener = .heredocStart)
    {body rest : List Text} (hends : EndsAt (heredocDelimiter opener) body rest) :
    heredocs (opener :: (body ++ rest)) = (opener :: body) :: heredocs rest := by
  rw [heredocs, heredocsFrom, if_pos h, heredocsFrom_append hends]
  rfl

/-- A line that opens a heredoc begins one. -/
theorem heredocs_cons_ne_nil {opener : Text} (h : context opener = .heredocStart)
    (lines : List Text) :
    heredocs (opener :: lines) ≠ [] := by
  obtain ⟨body, rest, rfl, hends⟩ := exists_endsAt (heredocDelimiter opener) lines
  rw [heredocs_cons_of_opener h hends]
  exact List.cons_ne_nil _ _

/-! ## No heredoc is ended by the line that opens it -/

/-- The line has the brackets of the operator besides the delimiter, so it is not the delimiter. -/
theorem endsHeredoc_self {line : Text} (h : context line = .heredocStart) :
    endsHeredoc line (heredocDelimiter line) = false := by
  have hopens := opensHeredoc_of_context h
  rw [opensHeredoc, Option.isSome_iff_exists] at hopens
  obtain ⟨hit, hhit⟩ := hopens
  have hspec := Matcher.hits_spec (List.mem_of_find?_eq_some hhit)
  have hcount := ((heredocOperator_sublist hspec).trans (List.drop_sublist _ _)).count_le '<'
  have hdelimiter : heredocDelimiter line = hit.value.filter fun c => !QuoteState.isMark c := by
    rw [heredocDelimiter, hhit]
  rw [Bool.eq_false_iff]
  intro hends
  have htrim : trim line = heredocDelimiter line := by
    simp only [endsHeredoc, Bool.and_eq_true, beq_iff_eq] at hends
    exact hends.2
  have hle :=
    (List.filter_sublist (p := fun c => !QuoteState.isMark c) (l := hit.value)).count_le '<'
  rw [← hdelimiter, ← htrim, count_trim line rfl] at hle
  simp only [List.count_cons_self] at hcount
  omega

/-! ## Blocks among other lines -/

/-- The blocks stand among the lines in this order, each with its own end; between them there may be
anything. -/
def Embeds (lines : List Text) : List (List Text) → Prop
  | [] => True
  | block :: blocks => ∃ front opener body rest, lines = front ++ opener :: (body ++ rest) ∧
      block = opener :: body ∧ context opener = .heredocStart ∧
        EndsAt (heredocDelimiter opener) body rest ∧
      Embeds rest blocks

/-- Lines in front do no harm to the blocks behind them. -/
theorem Embeds.append {lines : List Text} {blocks : List (List Text)} (h : Embeds lines blocks)
    (front : List Text) : Embeds (front ++ lines) blocks := by
  cases blocks with
  | nil => trivial
  | cons block blocks =>
    obtain ⟨front', opener, body, rest, rfl, hblock⟩ := h
    exact ⟨front ++ front', opener, body, rest, by simp, hblock⟩

/-- Behind the first opener among the lines all of `rest` is still to come. -/
theorem exists_first_opener (front : List Text) {opener : Text} (h : context opener = .heredocStart)
    (rest : List Text) :
    ∃ first middle, context first = .heredocStart ∧
      heredocs (front ++ opener :: rest) = heredocs (first :: (middle ++ rest)) := by
  induction front with
  | nil => exact ⟨opener, [], h, rfl⟩
  | cons text front ih =>
    by_cases htext : context text = .heredocStart
    · exact ⟨text, front ++ [opener], htext, by simp⟩
    · obtain ⟨first, middle, hfirst, heq⟩ := ih
      exact ⟨first, middle, hfirst, by rw [List.cons_append, heredocs_cons_of_ne htext, heq]⟩

/-- A block that is the first of the blocks among the lines behind its opener ends before that one
begins. -/
theorem embeds_of_eq {opener : Text} {body rest : List Text} {blocks : List (List Text)}
    (hends : EndsAt (heredocDelimiter opener) body rest)
    (h : Embeds (body ++ rest) ((opener :: body) :: blocks)) :
    Embeds rest ((opener :: body) :: blocks) := by
  obtain ⟨front, opener', body', rest', hlines, hblock, hopener, hends', hblocks⟩ := h
  obtain ⟨rfl, rfl⟩ := List.cons.inj hblock
  rcases List.append_eq_append_iff.mp hlines with ⟨later, hfront, hrest⟩ | ⟨overlap, hbody, hrest⟩
  · exact ⟨later, opener, body, rest', hrest, rfl, hopener, hends', hblocks⟩
  · cases overlap with
    | nil =>
      exact ⟨[], opener, body, rest', by simpa using hrest.symm, rfl, hopener, hends', hblocks⟩
    | cons text short =>
      -- otherwise the heredoc would go on up to the end of the block it runs into
      obtain ⟨rfl, hshort⟩ := List.cons.inj hrest
      exfalso
      have hlength : short.length < body.length := by
        rw [hbody]
        simp only [List.length_append, List.length_cons]
        omega
      rcases hends with ⟨inner, last, hinner, hlast, hnone⟩ | ⟨rfl, -⟩
      · have hpre : short <+: inner := by
          have hle : short.length ≤ inner.length := by
            rw [hinner, List.length_append, List.length_singleton] at hlength
            omega
          have hbody' : short <+: body ++ rest' := ⟨rest, hshort.symm⟩
          have hinner' : inner <+: body ++ rest' := ⟨[last] ++ rest', by rw [hinner]; simp⟩
          exact List.prefix_of_prefix_length_le hbody' hinner' hle
        have hmem : last ∈ opener :: short := by
          have heq : (inner ++ [last]).getLast? = (front ++ opener :: short).getLast? := by
            rw [← hinner, hbody]
          have hlast : (opener :: short).getLast? = some last := by
            simpa using heq.symm
          exact List.mem_of_getLast? hlast
        rcases List.mem_cons.mp hmem with rfl | hmem
        · simp [endsHeredoc_self hopener] at hlast
        · simp [hnone last (hpre.subset hmem)] at hlast
      · have hlength' : body.length + rest'.length = short.length := by
          simpa using congrArg List.length hshort
        omega

/-- An opener too many in front of the lines that hold the blocks shows in what is read. -/
theorem heredocs_cons_ne {opener : Text} (hopener : context opener = .heredocStart)
    {lines block : List Text} {blocks : List (List Text)} (h : Embeds lines (block :: blocks))
    (hlater : ∀ rest, Embeds rest (block :: blocks) → heredocs rest ≠ blocks) :
    heredocs (opener :: lines) ≠ block :: blocks := by
  intro heq
  obtain ⟨body, rest, rfl, hends⟩ := exists_endsAt (heredocDelimiter opener) lines
  rw [heredocs_cons_of_opener hopener hends] at heq
  obtain ⟨rfl, hrest⟩ := List.cons.inj heq
  exact hlater rest (embeds_of_eq hends h) hrest

/-- Lines that hold a block more than `blocks` are not read as `blocks`. -/
theorem heredocs_ne {lines block : List Text} {blocks : List (List Text)}
    (h : Embeds lines (block :: blocks)) :
    heredocs lines ≠ blocks := by
  induction blocks generalizing lines block with
  | nil =>
    obtain ⟨front, opener, body, rest, rfl, -, hopener, -, -⟩ := h
    obtain ⟨first, middle, hfirst, heq⟩ := exists_first_opener front hopener (body ++ rest)
    rw [heq]
    exact heredocs_cons_ne_nil hfirst _
  | cons next blocks ih =>
    obtain ⟨front, opener, body, rest, rfl, -, hopener, -, hblocks⟩ := h
    obtain ⟨first, middle, hfirst, heq⟩ := exists_first_opener front hopener (body ++ rest)
    rw [heq, ← List.append_assoc]
    exact heredocs_cons_ne hfirst (hblocks.append (middle ++ body)) fun rest hrest => ih hrest

/-! ## Lines with marks -/

/-- Lines with marks for those of heredocs, where `heredoc` is the delimiter of the one that is
open: each marked line opens a heredoc or stands in one, and no other line stands in one. -/
def Aligned (heredoc : Option Text) : List (Text × Bool) → Prop
  | [] => True
  | (text, true) :: rest =>
    (heredoc.isSome ∨ context text = .heredocStart) ∧ Aligned (heredocBehind heredoc text) rest
  | (_, false) :: rest => heredoc = none ∧ Aligned none rest

/-- The marked lines. -/
def markedLines (lines : List (Text × Bool)) : List Text :=
  (lines.filter Prod.snd).map Prod.fst

@[simp] theorem markedLines_cons_true (text : Text) (lines : List (Text × Bool)) :
    markedLines ((text, true) :: lines) = text :: markedLines lines := rfl

@[simp] theorem markedLines_cons_false (text : Text) (lines : List (Text × Bool)) :
    markedLines ((text, false) :: lines) = markedLines lines := rfl

theorem markedLines_append (xs ys : List (Text × Bool)) :
    markedLines (xs ++ ys) = markedLines xs ++ markedLines ys := by
  simp [markedLines]

/-- The marked lines of an open heredoc come first, up to its end. -/
theorem Aligned.exists_endsAt {delimiter : Text} {lines : List (Text × Bool)}
    (h : Aligned (some delimiter) lines) :
    ∃ body rest, lines = body.map (fun text => (text, true)) ++ rest ∧
      EndsAt delimiter body (rest.map Prod.fst) ∧ Aligned none rest := by
  induction lines with
  | nil => exact ⟨[], [], rfl, .inr ⟨rfl, by simp⟩, trivial⟩
  | cons p lines ih =>
    obtain ⟨text, mark⟩ := p
    cases mark with
    | false => simp [Aligned] at h
    | true =>
      obtain ⟨-, hrest⟩ := h
      rw [heredocBehind] at hrest
      split at hrest
      · next hends => exact ⟨[text], lines, rfl, .singleton hends _, hrest⟩
      · next hends =>
        obtain ⟨body, rest, rfl, hbody, haligned⟩ := ih hrest
        exact ⟨text :: body, rest, rfl, hbody.cons (by simpa using hends), haligned⟩

/-- A heredoc ends at the same line when only marked lines are kept. -/
theorem EndsAt.markedLines {delimiter : Text} {body : List Text} {rest : List (Text × Bool)}
    (h : EndsAt delimiter body (rest.map Prod.fst)) : EndsAt delimiter body (markedLines rest) := by
  rcases h with hclosed | ⟨hrest, hbody⟩
  · exact .inl hclosed
  · rw [List.map_eq_nil_iff] at hrest
    subst hrest
    exact .inr ⟨rfl, hbody⟩

/-- The blocks that the marked lines make stand among all the lines. -/
theorem Aligned.embeds {lines : List (Text × Bool)} (h : Aligned none lines) :
    Embeds (lines.map Prod.fst) (heredocs (markedLines lines)) := by
  -- a heredoc is passed as a whole, so the induction is on the number of lines that are left
  induction hn : lines.length using Nat.strongRecOn generalizing lines with
  | ind n ih =>
    subst hn
    cases lines with
    | nil => trivial
    | cons p lines =>
      obtain ⟨text, mark⟩ := p
      cases mark with
      | false =>
        have hrest := ih lines.length (by simp) h.2 rfl
        simpa using hrest.append [text]
      | true =>
        obtain ⟨hopener, hrest⟩ := h
        replace hopener : context text = .heredocStart := by simpa using hopener
        rw [heredocBehind, if_pos hopener] at hrest
        obtain ⟨body, rest, rfl, hends, haligned⟩ := hrest.exists_endsAt
        have hmarked : Script.markedLines (body.map (fun text => (text, true)) ++ rest) =
            body ++ markedLines rest := by
          rw [markedLines_append]
          congr 1
          simp [Script.markedLines, List.filter_map, Function.comp_def]
        rw [markedLines_cons_true, hmarked, heredocs_cons_of_opener hopener hends.markedLines]
        refine ⟨[], text, body, rest.map Prod.fst, by simp [Function.comp_def], rfl,
          hopener, hends, ?_⟩
        refine ih rest.length ?_ haligned rfl
        rw [List.length_cons, List.length_append]
        omega

/-- An opener too many makes a difference: what is read behind it cannot make up for it. -/
theorem Aligned.heredocs_cons_ne {lines : List (Text × Bool)} (h : Aligned none lines) {text : Text}
    (hopener : context text = .heredocStart) :
    heredocs (text :: lines.map Prod.fst) ≠ heredocs (markedLines lines) := by
  have hembeds := h.embeds
  cases hblocks : heredocs (markedLines lines) with
  | nil => exact Script.heredocs_cons_ne_nil hopener _
  | cons block blocks =>
    rw [hblocks] at hembeds
    exact Script.heredocs_cons_ne hopener hembeds fun rest hlater => heredocs_ne hlater

/-- The lines are read as the marked lines are exactly if no other line opens a heredoc. -/
theorem Aligned.heredocsFrom_eq_iff {current : Option (Text × List Text)}
    {lines : List (Text × Bool)} (h : Aligned (current.map Prod.fst) lines) :
    heredocsFrom current (lines.map Prod.fst) = heredocsFrom current (markedLines lines) ↔
      ∀ p ∈ lines, p.2 = false → context p.1 ≠ .heredocStart := by
  induction lines generalizing current with
  | nil => simp [markedLines]
  | cons p lines ih =>
    obtain ⟨text, mark⟩ := p
    cases mark with
    | true =>
      obtain ⟨hopener, hrest⟩ := h
      rw [markedLines_cons_true, List.map_cons]
      simp only [List.mem_cons, forall_eq_or_imp, Bool.true_eq_false, false_imp_iff, true_and]
      cases current with
      | some current =>
        obtain ⟨delimiter, block⟩ := current
        rw [Option.map_some, heredocBehind] at hrest
        rw [heredocsFrom, heredocsFrom]
        split
        · next hends =>
          rw [if_pos hends] at hrest
          rw [List.cons.injEq, eq_self_iff_true, true_and]
          exact ih hrest
        · next hends =>
          rw [if_neg hends] at hrest
          exact ih hrest
      | none =>
        replace hopener : context text = .heredocStart := by simpa using hopener
        rw [Option.map_none, heredocBehind, if_pos hopener] at hrest
        rw [heredocsFrom, heredocsFrom, if_pos hopener, if_pos hopener]
        exact ih hrest
    | false =>
      obtain ⟨hcurrent, hrest⟩ := h
      obtain rfl : current = none := by simpa using hcurrent
      rw [markedLines_cons_false, List.map_cons]
      simp only [List.mem_cons, forall_eq_or_imp, forall_const]
      by_cases hopener : context text = .heredocStart
      · have hne : heredocsFrom none (text :: lines.map Prod.fst) ≠
            heredocsFrom none (markedLines lines) := hrest.heredocs_cons_ne hopener
        simp [hne, hopener]
      · rw [heredocsFrom, if_neg hopener]
        simpa [hopener] using @ih none hrest

/-- Where no other line opens a heredoc, the marks are those of the heredocs. -/
theorem Aligned.zip_heredocMarks {heredoc : Option Text} {lines : List (Text × Bool)}
    (h : Aligned heredoc lines) (hplain : ∀ p ∈ lines, p.2 = false → context p.1 ≠ .heredocStart) :
    (lines.map Prod.fst).zip (heredocMarks heredoc (lines.map Prod.fst)) = lines := by
  induction lines generalizing heredoc with
  | nil => rfl
  | cons p lines ih =>
    have hlater := fun {heredoc} h => @ih heredoc h fun q hq => hplain q (List.mem_cons_of_mem p hq)
    obtain ⟨text, mark⟩ := p
    rw [List.map_cons, heredocMarks, List.zip_cons_cons]
    cases mark with
    | true =>
      have hmark : (heredoc.isSome || context text == .heredocStart) = true := by simpa using h.1
      rw [hlater h.2, hmark]
    | false =>
      obtain ⟨rfl, hrest⟩ := h
      have hopener : context text ≠ .heredocStart := hplain (text, false) List.mem_cons_self rfl
      have hbehind : heredocBehind none text = none := if_neg hopener
      rw [hbehind, hlater hrest]
      simpa using hopener

/-! ## The plan of a script and its marks -/

/-- The lines of tasks, with marks for those of heredocs. -/
def markedSource (steps : List (Task × List Text)) : List (Text × Bool) :=
  steps.flatMap fun p => (p.1.source.map NumberedLine.text).map fun text => (text, p.1.isCopy)

/-- The lines that tasks write, with marks for those of heredocs. -/
def markedOutput (steps : List (Task × List Text)) : List (Text × Bool) :=
  steps.flatMap fun p => p.2.map fun text => (text, p.1.isCopy)

/-- The lines of a script are aligned with the marks of its own heredocs, and no other line opens
one. -/
theorem aligned_zip_heredocMarks (heredoc : Option Text) (lines : List Text) :
    Aligned heredoc (lines.zip (heredocMarks heredoc lines)) ∧
      ∀ p ∈ lines.zip (heredocMarks heredoc lines), p.2 = false → context p.1 ≠ .heredocStart := by
  induction lines generalizing heredoc with
  | nil => exact ⟨trivial, by simp⟩
  | cons text lines ih =>
    obtain ⟨haligned, hplain⟩ := ih (heredocBehind heredoc text)
    rw [heredocMarks, List.zip_cons_cons]
    cases hmark : heredoc.isSome || context text == .heredocStart with
    | true =>
      refine ⟨⟨by simpa using hmark, haligned⟩, ?_⟩
      simpa using hplain
    | false =>
      obtain ⟨hheredoc, hopener⟩ : heredoc = none ∧ context text ≠ .heredocStart := by
        simpa using hmark
      subst hheredoc
      rw [heredocBehind, if_neg hopener] at haligned hplain
      rw [heredocBehind, if_neg hopener]
      refine ⟨⟨rfl, haligned⟩, ?_⟩
      simpa [hopener] using hplain

theorem aligned_map_false_append {texts : List Text} {rest : List (Text × Bool)} :
    Aligned none (texts.map (fun text => (text, false)) ++ rest) ↔ Aligned none rest := by
  induction texts with
  | nil => rfl
  | cons text texts ih => simpa [Aligned] using ih

theorem markedLines_map_false_append (texts : List Text) (rest : List (Text × Bool)) :
    markedLines (texts.map (fun text => (text, false)) ++ rest) = markedLines rest := by
  induction texts with
  | nil => rfl
  | cons text texts ih => exact ih

/-- What tasks write is aligned if their lines are, with the same marked lines. -/
theorem aligned_markedOutput [Machine] {s : Settings} {steps : List (Task × List Text)}
    (hwrite : ∀ p ∈ steps, p.1.write s = .ok p.2) {heredoc : Option Text}
    (h : Aligned heredoc (markedSource steps)) :
    Aligned heredoc (markedOutput steps) ∧
      markedLines (markedOutput steps) = markedLines (markedSource steps) := by
  induction steps generalizing heredoc with
  | nil => exact ⟨trivial, rfl⟩
  | cons p steps ih =>
    obtain ⟨task, written⟩ := p
    have hnow := hwrite (task, written) List.mem_cons_self
    have hrest :=
      fun {heredoc} h => @ih (fun q hq => hwrite q (List.mem_cons_of_mem _ hq)) heredoc h
    -- a task that copies nothing stands where no heredoc is open
    have hplain : ∀ first more, task.source = first :: more → task.isCopy = false →
        Aligned heredoc (markedOutput ((task, written) :: steps)) ∧
          markedLines (markedOutput ((task, written) :: steps)) =
            markedLines (markedSource ((task, written) :: steps)) := by
      intro first more hsource hcopy
      rw [markedOutput, markedSource, List.flatMap_cons, List.flatMap_cons, ← markedOutput,
        ← markedSource]
      rw [markedSource, List.flatMap_cons, ← markedSource] at h
      simp only [hcopy] at h ⊢
      have hnone : heredoc = none := by
        rw [hsource] at h
        exact h.1
      subst hnone
      obtain ⟨haligned, hmarked⟩ := hrest (aligned_map_false_append.mp h)
      exact ⟨aligned_map_false_append.mpr haligned, by
        rw [markedLines_map_false_append, markedLines_map_false_append, hmarked]⟩
    cases task with
    | copy line =>
      obtain rfl : [line.text] = written := Except.ok.inj hnow
      obtain ⟨haligned, hmarked⟩ := hrest h.2
      exact ⟨⟨h.1, haligned⟩, congrArg (line.text :: ·) hmarked⟩
    | format level mayWrap line => exact hplain line [] rfl rfl
    | join level pending terminal =>
      cases pending with
      | nil => exact hplain terminal [] rfl rfl
      | cons first pending => exact hplain first (pending ++ [terminal]) rfl rfl

/-- A plan takes care of the lines of its script, with the marks of its heredocs. -/
theorem plan_marked_texts (lines : List Text) :
    ((plan lines).flatMap Task.marked).map (Prod.map NumberedLine.text id) =
      lines.zip (heredocMarks none lines) := by
  have hmarked := Tracker.plan_marked Tracker.coherent_start (numberedFrom 1 lines)
  rw [map_text_numberedFrom] at hmarked
  calc ((plan lines).flatMap Task.marked).map (Prod.map NumberedLine.text id)
    _ = ((numberedFrom 1 lines).zip (heredocMarks none lines)).map
        (Prod.map NumberedLine.text id) := by
      rw [plan, hmarked]
      rfl
    _ = lines.zip (heredocMarks none lines) := by
      rw [← List.zip_map_left, map_text_numberedFrom]

/-- A formatted script is written by tasks whose lines are those of the script, with the marks of
its heredocs. -/
theorem exists_marked_steps [Machine] {s : Settings} {lines : List Text} {f : Formatted}
    (h : format s lines = .ok f) :
    ∃ steps : List (Task × List Text), steps.map Prod.fst = plan lines ∧
      (∀ p ∈ steps, p.1.write s = .ok p.2) ∧
      markedSource steps = lines.zip (heredocMarks none lines) ∧
        (markedOutput steps).map Prod.fst = f.lines := by
  rw [format_eq] at h
  obtain ⟨steps, hfst, hwrite, hlines⟩ := exists_written h
  refine ⟨steps, hfst, hwrite, ?_, ?_⟩
  · rw [← plan_marked_texts, ← hfst]
    simp [markedSource, Task.marked, List.map_flatMap, List.flatMap_map, Function.comp_def]
  · simpa [markedOutput, List.map_flatMap, Function.comp_def] using hlines

/-- The heredocs come out as they were exactly if no line that is written outside of them opens
one. -/
theorem heredocs_eq_iff_of_steps [Machine] {s : Settings} {lines : List Text} {f : Formatted}
    {steps : List (Task × List Text)} (hwrite : ∀ p ∈ steps, p.1.write s = .ok p.2)
    (hsource : markedSource steps = lines.zip (heredocMarks none lines))
    (hlines : (markedOutput steps).map Prod.fst = f.lines) :
    heredocs f.lines = heredocs lines ↔
      ∀ p ∈ steps, p.1.isCopy = false → ∀ text ∈ p.2, context text ≠ .heredocStart := by
  obtain ⟨haligned, hplain⟩ := aligned_zip_heredocMarks none lines
  have hbefore : heredocs lines = heredocs (markedLines (markedSource steps)) := by
    have hread := (@Aligned.heredocsFrom_eq_iff none _ haligned).mpr hplain
    rw [List.map_fst_zip (length_heredocMarks none lines).ge] at hread
    rw [hsource]
    exact hread
  obtain ⟨haligned', hmarked⟩ := aligned_markedOutput hwrite (hsource ▸ haligned)
  have hafter := @Aligned.heredocsFrom_eq_iff none _ haligned'
  rw [hlines, hmarked] at hafter
  rw [hbefore]
  refine hafter.trans ⟨fun h p hp hcopy text htext => ?_, fun h q hq hcopy => ?_⟩
  · exact h (text, p.1.isCopy) (List.mem_flatMap.mpr ⟨p, hp, List.mem_map_of_mem htext⟩) hcopy
  · obtain ⟨p, hp, hq⟩ := List.mem_flatMap.mp hq
    obtain ⟨text, htext, rfl⟩ := List.mem_map.mp hq
    exact h p hp hcopy text htext

/-- If the heredocs come out as they were, then so do their marks. -/
theorem zip_heredocMarks_of_steps [Machine] {s : Settings} {lines : List Text} {f : Formatted}
    {steps : List (Task × List Text)} (hwrite : ∀ p ∈ steps, p.1.write s = .ok p.2)
    (hsource : markedSource steps = lines.zip (heredocMarks none lines))
    (hlines : (markedOutput steps).map Prod.fst = f.lines)
    (hsame : heredocs f.lines = heredocs lines) :
    f.lines.zip (heredocMarks none f.lines) = markedOutput steps := by
  have haligned : Aligned none (markedOutput steps) :=
    (aligned_markedOutput hwrite (hsource ▸ (aligned_zip_heredocMarks none lines).1)).1
  rw [← hlines]
  refine haligned.zip_heredocMarks fun q hq hcopy => ?_
  obtain ⟨p, hp, hq⟩ := List.mem_flatMap.mp hq
  obtain ⟨text, htext, rfl⟩ := List.mem_map.mp hq
  exact (heredocs_eq_iff_of_steps hwrite hsource hlines).mp hsame p hp hcopy text htext

/-! ## The safety check -/

/-- Whether a task joins a continued command. -/
def Task.isJoin : Task → Bool
  | join _ _ _ => true
  | _ => false

/-- A task writes something. -/
theorem Task.write_ne_nil [Machine] {s : Settings} {task : Task} {written : List Text}
    (h : task.write s = .ok written) :
    written ≠ [] := by
  cases task with
  | copy line =>
    obtain rfl := Except.ok.inj h
    simp
  | format level mayWrap line => exact Fix.line_ne_nil h
  | join level pending terminal => exact Fix.line_ne_nil h

/-- A line of a heredoc is neither joined nor broken. -/
theorem Task.isCopy_eq_false [Machine] {s : Settings} {task : Task} {written : List Text}
    (h : task.write s = .ok written) (hcase : task.isJoin = true ∨ written.length = 2) :
    task.isCopy = false := by
  cases task with
  | copy line =>
    obtain rfl := Except.ok.inj h
    simp [isJoin] at hcase
  | format level mayWrap line => rfl
  | join level pending terminal => rfl

/-- The tasks for lines write something. -/
theorem markedOutput_ne_nil [Machine] {s : Settings} {lines : List Text}
    {steps : List (Task × List Text)} (hwrite : ∀ p ∈ steps, p.1.write s = .ok p.2)
    (hsource : markedSource steps = lines.zip (heredocMarks none lines)) (hlines : lines ≠ []) :
    markedOutput steps ≠ [] := by
  cases steps with
  | nil =>
    have hlength := congrArg List.length hsource
    have hpos := List.length_pos_iff.mpr hlines
    simp only [markedSource, List.flatMap_nil, List.length_nil, List.length_zip,
      length_heredocMarks] at hlength
    omega
  | cons p steps =>
    have hne := Task.write_ne_nil (hwrite p List.mem_cons_self)
    simp [markedOutput, hne]

/-- Only a joined command or a broken line can open a heredoc that was not there. -/
theorem context_ne_heredocStart_of_step [Machine] {s : Settings} {lines : List Text}
    {steps : List (Task × List Text)} (hwrite : ∀ p ∈ steps, p.1.write s = .ok p.2)
    (hsource : markedSource steps = lines.zip (heredocMarks none lines)) {p : Task × List Text}
    (hp : p ∈ steps) (hcopy : p.1.isCopy = false) (hjoin : p.1.isJoin = false)
    (hlength : p.2.length ≠ 2) :
    ∀ text ∈ p.2, context text ≠ .heredocStart := by
  obtain ⟨task, written⟩ := p
  have hnow := hwrite _ hp
  cases task with
  | copy line => simp [Task.isCopy] at hcopy
  | join level pending terminal => simp [Task.isJoin] at hjoin
  | format level mayWrap line =>
    have hline : context line.text ≠ .heredocStart := by
      have hmem : (line.text, false) ∈ markedSource steps :=
        List.mem_flatMap.mpr ⟨_, hp, by simp [Task.source, Task.isCopy]⟩
      rw [hsource] at hmem
      exact (aligned_zip_heredocMarks none lines).2 _ hmem rfl
    rcases Fix.line_singleton_or_pair hnow with ⟨u, rfl⟩ | hpair
    · simpa using Fix.context_line_ne_heredocStart hnow hline
    · exact absurd hpair hlength

/-- The safety check accepts a formatted script exactly if its heredocs are those of the source, and
they are exactly if no line that a joined command or a broken line comes out as opens a heredoc. -/
theorem verify_format [Machine] {s : Settings} {lines : List Text} {f : Formatted}
    (hlines : lines ≠ []) (h : format s lines = .ok f) :
    ((verify lines f.lines).isAccepted = true ↔ heredocs f.lines = heredocs lines) ∧
      (heredocs f.lines = heredocs lines ↔
        ∀ task ∈ plan lines, ∀ written, task.write s = .ok written →
          (task.isJoin = true ∨ written.length = 2) →
          ∀ text ∈ written, context text ≠ .heredocStart) := by
  obtain ⟨steps, hfst, hwrite, hsource, hout⟩ := exists_marked_steps h
  constructor
  · have hempty : f.lines.isEmpty = false := by
      simpa [← hout] using markedOutput_ne_nil hwrite hsource hlines
    rw [verify, hempty, if_neg Bool.false_ne_true]
    by_cases heq : heredocs lines = heredocs f.lines
    · simp [heq, Verdict.isAccepted]
    · simp [heq, Ne.symm heq, Verdict.isAccepted]
  · rw [heredocs_eq_iff_of_steps hwrite hsource hout]
    constructor
    · intro hall task htask written hwritten hcase
      rw [← hfst] at htask
      obtain ⟨p, hp, rfl⟩ := List.mem_map.mp htask
      have heq := (hwrite p hp).symm.trans hwritten
      obtain rfl : p.2 = written := Except.ok.inj heq
      exact hall p hp (Task.isCopy_eq_false hwritten hcase)
    · intro hall p hp hcopy
      by_cases hcase : p.1.isJoin = true ∨ p.2.length = 2
      · exact hall p.1 (hfst ▸ List.mem_map_of_mem hp) p.2 (hwrite p hp) hcase
      · rw [not_or, Bool.not_eq_true] at hcase
        exact context_ne_heredocStart_of_step hwrite hsource hp hcopy hcase.1 hcase.2

/-- A command with a doubled pipe that is joined; its joined line opens no heredoc. -/
theorem verify_format_joined :
    ((verify ["x | \\".toList, "| y".toList] ["x | y".toList]).isAccepted = true ↔
        heredocs ["x | y".toList] = heredocs ["x | \\".toList, "| y".toList]) ∧
      (heredocs ["x | y".toList] = heredocs ["x | \\".toList, "| y".toList] ↔
        ∀ task ∈ plan ["x | \\".toList, "| y".toList], ∀ written,
          task.write .default = .ok written →
          (task.isJoin = true ∨ written.length = 2) →
            ∀ text ∈ written, context text ≠ .heredocStart) :=
  verify_format (f := ⟨["x | y".toList], 1⟩) (by decide) rfl

/-- Read on its own, the second line has its operator inside a string; behind the first line it has
not. The joined command opens a heredoc, and the safety check rejects it. -/
theorem verify_format_rejected :
    ∃ f, format .default ["x \" \\".toList, "\" <<EOF | | y".toList] = .ok f ∧
      (verify ["x \" \\".toList, "\" <<EOF | | y".toList] f.lines).isAccepted = false :=
  ⟨⟨["x \" \" <<EOF | y".toList], 1⟩, rfl, rfl⟩

end ShellStyle.Script
