import ShellStyle.Proofs.HeredocReading
import ShellStyle.Script.Lint
import ShellStyle.Script.Record

/-!
# Three readings of a script

The safety check collects heredocs, the checks pass over them, and the records of a script mark
their lines. Each goes through the lines on its own and remembers something else. They agree: cut at
the marks of the records, a script falls into lines outside of heredocs, which are the lines that
are checked, and into heredocs, which are the blocks that the safety check compares.
-/

namespace ShellStyle.Script

open Line

/-! ## Marks -/

/-- What a line is to a heredoc. -/
inductive HeredocRole where
  | outside
  | opener
  | inside
  | ending
  deriving DecidableEq, Repr

/-- What a record says that its line is to a heredoc. -/
def Record.role (r : Record) : HeredocRole :=
  if r.context = .heredocStart then .opener
  else if r.inHeredoc then .inside
  else if r.endsHeredoc then .ending
  else .outside

/-- Consecutive lines of a script with their records: one line outside of heredocs, or one heredoc,
with its end if it has one. -/
inductive Stretch where
  | line (p : Text × Record)
  | heredoc (opener : Text × Record) (body : List (Text × Record)) (ending : Option (Text × Record))

namespace Stretch

/-- The lines of a stretch. -/
def lines : Stretch → List (Text × Record)
  | line p => [p]
  | heredoc opener body ending => opener :: (body ++ ending.toList)

/-- Whether the records mark every line of the stretch for what it is. -/
def IsMarked : Stretch → Prop
  | line p => p.2.role = .outside
  | heredoc opener body ending =>
    opener.2.role = .opener ∧ (∀ p ∈ body, p.2.role = .inside) ∧ ∀ p ∈ ending, p.2.role = .ending

/-- Whether the stretch is no heredoc that lacks its end. -/
def isComplete : Stretch → Bool
  | line _ => true
  | heredoc _ _ ending => ending.isSome

/-- The texts of a heredoc. -/
def block? : Stretch → Option (List Text)
  | line _ => none
  | g@(heredoc _ _ _) => some (g.lines.map Prod.fst)

end Stretch

/-- A script, line by line with its records, cut into stretches as the records mark them; only the
last heredoc may lack its end. -/
structure IsCut (lines : List (Text × Record)) (stretches : List Stretch) : Prop where
  flatMap_lines : stretches.flatMap Stretch.lines = lines
  marked : ∀ g ∈ stretches, g.IsMarked
  complete : ∀ g ∈ stretches.dropLast, g.isComplete = true

theorem IsCut.nil : IsCut [] [] :=
  ⟨rfl, by simp, by simp⟩

theorem IsCut.eq_nil {stretches : List Stretch} (h : IsCut [] stretches) : stretches = [] := by
  cases stretches with
  | nil => rfl
  | cons g rest =>
    have hlines := h.flatMap_lines
    cases g <;> simp [Stretch.lines] at hlines

/-- A stretch in front of a cut script. -/
theorem IsCut.cons {lines : List (Text × Record)} {stretches : List Stretch}
    (h : IsCut lines stretches) {g : Stretch} (hg : g.IsMarked)
    (hcomplete : stretches ≠ [] → g.isComplete = true) :
    IsCut (g.lines ++ lines) (g :: stretches) where
  flatMap_lines := by rw [List.flatMap_cons, h.flatMap_lines]
  marked := by simpa [hg] using h.marked
  complete := by
    cases stretches with
    | nil => simp
    | cons g' rest => simpa [hcomplete] using h.complete

/-! ## Heredocs -/

/-- The first line of an open heredoc ends it, or the heredoc goes on behind the line. -/
theorem EndsAt.uncons {delimiter text : Text} {body rest : List Text}
    (h : EndsAt delimiter (text :: body) rest) :
    endsHeredoc text delimiter = true ∧ body = [] ∨
      endsHeredoc text delimiter = false ∧ EndsAt delimiter body rest := by
  rcases h with ⟨inner, last, hcut, hlast, hinner⟩ | ⟨hrest, hnone⟩
  · cases inner with
    | nil =>
      obtain ⟨rfl, rfl⟩ := List.cons.inj hcut
      exact .inl ⟨hlast, rfl⟩
    | cons first inner =>
      obtain ⟨rfl, rfl⟩ := List.cons.inj hcut
      refine .inr ⟨hinner text List.mem_cons_self, .inl ⟨inner, last, rfl, hlast, fun t ht => ?_⟩⟩
      exact hinner t (List.mem_cons_of_mem text ht)
  · exact .inr ⟨hnone text List.mem_cons_self,
      .inr ⟨hrest, fun t ht => hnone t (List.mem_cons_of_mem text ht)⟩⟩

/-- The records of an open heredoc up to its end, and of the lines behind it. -/
theorem EndsAt.zip_scanFrom {delimiter : Text} {body rest : List Text}
    (h : EndsAt delimiter body rest) (n : Nat) :
    ∃ (inner : List (Text × Record)) (ending : Option (Text × Record)),
      (body ++ rest).zip (scanFrom (some delimiter) n (body ++ rest)) =
        inner ++ ending.toList ++ rest.zip (scanFrom none (n + body.length) rest) ∧
      (inner ++ ending.toList).map Prod.fst = body ∧ (∀ p ∈ inner, p.2.role = .inside) ∧
      (∀ p ∈ ending, p.2.role = .ending) ∧ (ending = none → rest = []) := by
  induction body generalizing n with
  | nil =>
    rcases h with ⟨inner, last, hbody, -⟩ | ⟨rfl, -⟩
    · simp at hbody
    · exact ⟨[], none, rfl, rfl, by simp, by simp, by simp⟩
  | cons text body ih =>
    rw [List.cons_append, scanFrom]
    rcases h.uncons with ⟨htext, rfl⟩ | ⟨htext, hrest⟩
    · rw [if_pos htext]
      refine ⟨[], some (text, ⟨n, .normal, [Text.trim text], false, true, false⟩), rfl, rfl,
        by simp, ?_, by simp⟩
      simp [Record.role]
    · obtain ⟨inner, ending, hzip, hmap, hinner, hending, hlast⟩ := ih hrest (n + 1)
      rw [htext, if_neg Bool.false_ne_true, List.zip_cons_cons, hzip]
      refine ⟨(text, ⟨n, .normal, [text], true, false, false⟩) :: inner, ending, ?_, ?_, ?_,
        hending, hlast⟩
      · rw [List.length_cons, show n + (body.length + 1) = n + 1 + body.length by omega]
        rfl
      · rw [List.cons_append, List.map_cons, hmap]
      · simpa [Record.role] using hinner

/-- Cut at the marks of its records, a script has the heredocs that the safety check collects. -/
theorem exists_isCut (lines : List Text) (n : Nat) :
    ∃ stretches, IsCut (lines.zip (scanFrom none n lines)) stretches ∧
      heredocs lines = stretches.filterMap Stretch.block? := by
  -- a heredoc is passed as a whole, so the induction is on the number of lines that are left
  induction hlength : lines.length using Nat.strongRecOn generalizing lines n with
  | ind k ih =>
    subst hlength
    cases lines with
    | nil => exact ⟨[], .nil, rfl⟩
    | cons text lines =>
      rw [scanFrom, List.zip_cons_cons]
      by_cases hopener : context text = .heredocStart
      · obtain ⟨body, rest, rfl, hends⟩ := exists_endsAt (heredocDelimiter text) lines
        obtain ⟨inner, ending, hzip, hmap, hinner, hending, hlast⟩ := hends.zip_scanFrom (n + 1)
        have hshort : rest.length < (text :: (body ++ rest)).length := by
          rw [List.length_cons, List.length_append]
          omega
        obtain ⟨stretches, hcut, hblocks⟩ := ih rest.length hshort rest (n + 1 + body.length) rfl
        refine ⟨.heredoc (text, ⟨n, context text, shownWords (context text) text, false, false,
          hasGlob text⟩) inner
          ending :: stretches, ?_, ?_⟩
        · rw [if_pos hopener, hzip]
          refine hcut.cons (g := .heredoc _ inner ending) ⟨?_, hinner, hending⟩ fun hne => ?_
          · simp [Record.role, hopener]
          -- behind a heredoc that lacks its end there is nothing
          rw [Stretch.isComplete, Option.isSome_iff_ne_none]
          intro hnone
          obtain rfl := hlast hnone
          exact hne hcut.eq_nil
        · rw [heredocs_cons_of_opener hopener hends, hblocks, ← hmap]
          rfl
      · obtain ⟨stretches, hcut, hblocks⟩ := ih lines.length (by simp) lines (n + 1) rfl
        rw [if_neg hopener, heredocs_cons_of_ne hopener, hblocks]
        refine ⟨.line (text, _) :: stretches, hcut.cons (g := .line (text, _)) ?_ ?_, rfl⟩
        · simp [Stretch.IsMarked, Record.role, hopener]
        · simp [Stretch.isComplete]

/-! ## Checks and numbers -/

/-- The lines that are checked are those that the records mark as outside of heredocs. -/
theorem lintFrom_eq (s : Settings) (heredoc : Option Text) (n : Nat) (lines : List Text) :
    lintFrom s heredoc n lines =
      (((lines.zip (scanFrom heredoc n lines)).filter fun p => p.2.role == .outside).mapM fun p =>
        Check.line s p.2.number p.1).map List.flatten := by
  induction lines generalizing heredoc n with
  | nil => rfl
  | cons text lines ih =>
    cases heredoc with
    | some delimiter =>
      rw [lintFrom, scanFrom]
      split
      · rw [List.zip_cons_cons, List.filter_cons_of_neg (by simp [Record.role])]
        exact ih none (n + 1)
      · rw [List.zip_cons_cons, List.filter_cons_of_neg (by simp [Record.role])]
        exact ih (some delimiter) (n + 1)
    | none =>
      rw [lintFrom, scanFrom, List.zip_cons_cons]
      by_cases hopener : context text = .heredocStart
      · rw [if_pos hopener, if_pos hopener,
          List.filter_cons_of_neg (by simp [Record.role, hopener])]
        exact ih (some (heredocDelimiter text)) (n + 1)
      · rw [if_neg hopener, if_neg hopener,
          List.filter_cons_of_pos (by simp [Record.role, hopener]), List.mapM_cons]
        -- only here a line is checked; all others are filtered out
        have hlater := ih none (n + 1)
        rw [show (n : Int) + 1 = (n + 1 : Nat) from rfl, hlater]
        cases Check.line s n text with
        | error e => rfl
        | ok found =>
          cases List.mapM (fun p => Check.line s p.2.number p.1)
              ((lines.zip (scanFrom none (n + 1) lines)).filter fun p => p.2.role == .outside) <;>
                rfl

theorem map_number_scanFrom (heredoc : Option Text) (n : Nat) (lines : List Text) :
    (scanFrom heredoc n lines).map Record.number = List.range' n lines.length := by
  induction lines generalizing heredoc n with
  | nil => rfl
  | cons text lines ih =>
    rw [List.length_cons, List.range'_succ]
    cases heredoc with
    | none => rw [scanFrom, List.map_cons, ih]
    | some delimiter =>
      rw [scanFrom]
      split <;> rw [List.map_cons, ih]

/-- The readings of a script agree. Its records mark the heredocs that the safety check collects, in
order, and only the last may lack its end; the checks look at exactly the lines that are marked as
outside of heredocs, with the numbers of their records; and there is a record for every line,
numbered from one on. -/
theorem scan_readings_agree (lines : List Text) :
    (∃ stretches, IsCut (lines.zip (scan lines)) stretches ∧
      heredocs lines = stretches.filterMap Stretch.block?) ∧
      (∀ s, lint s lines =
        (((lines.zip (scan lines)).filter fun p => p.2.role == .outside).mapM fun p =>
          Check.line s p.2.number p.1).map List.flatten) ∧
      (scan lines).map Record.number = List.range' 1 lines.length :=
  ⟨exists_isCut lines 1, fun s => lintFrom_eq s none 1 lines, map_number_scanFrom none 1 lines⟩

end ShellStyle.Script
