import ShellStyle.Proofs.Plan
import Mathlib.Data.List.Forall2

/-!
# Nested blocks

A line that opens a block puts the next one a level further right, a line that closes one goes a
level back, and some lines do both: `else` closes a branch and opens the next. Where blocks are well
nested the level behind them is the one before them, so that going back never stops at zero; the
lines that open, part and close a block stand at its level, and what is between them stands further
right.
-/

namespace ShellStyle.Script

open Text Line

/-! ## What lines do to blocks -/

/-- The part of a line in a block. -/
inductive Role where
  | plain
  | opener
  | middle
  | closer
  deriving DecidableEq, Repr

/-- The part of a line, by what its code closes and opens. -/
def role (line : Text) : Role :=
  match closesBlock (trim (code line)), opensBlock (trim (code line)) with
  | false, false => .plain
  | false, true => .opener
  | true, true => .middle
  | true, false => .closer

namespace Role

/-- Whether a line of this part goes a level back. -/
def closes : Role → Bool
  | plain => false
  | opener => false
  | middle => true
  | closer => true

/-- Whether a line of this part puts the next one a level further right. -/
def opens : Role → Bool
  | plain => false
  | opener => true
  | middle => true
  | closer => false

end Role

/-- The role of a line tells whether it closes a block. -/
theorem closes_role (line : Text) : (role line).closes = closesBlock (trim (code line)) := by
  unfold role
  cases closesBlock (trim (code line)) <;> cases opensBlock (trim (code line)) <;> rfl

theorem opens_role (line : Text) : (role line).opens = opensBlock (trim (code line)) := by
  unfold role
  cases closesBlock (trim (code line)) <;> cases opensBlock (trim (code line)) <;> rfl

/-- A line that has a part. -/
abbrev LineOf (r : Role) :=
  { line : Text // role line = r }

namespace Tracker

/-- One level further right. -/
def deeper (t : Tracker) : Tracker :=
  ⟨t.inHeredoc, t.delimiter, t.level + 1, t.pending⟩

/-- What a line does to the memory is told from its part. -/
theorem step_of_role {r : Role} (t : Tracker) (line : LineOf r) :
    (t.dedent line.1 = if r.closes then
        ⟨t.inHeredoc, t.delimiter, max 0 (t.level - 1), t.pending⟩ else t) ∧
      t.pass line.1 = if r.opens then (t.dedent line.1).deeper else t.dedent line.1 := by
  obtain ⟨line, rfl⟩ := line
  rw [closes_role, opens_role]
  exact ⟨rfl, rfl⟩

/-- A plain line leaves the level as it is. -/
theorem plain_step (t : Tracker) (line : LineOf .plain) :
    t.dedent line.1 = t ∧ t.pass line.1 = t := by
  obtain ⟨hdedent, hpass⟩ := t.step_of_role line
  exact ⟨hdedent, hpass.trans hdedent⟩

/-- An opening line stands at the level before it, and the next one is deeper. -/
theorem opener_step (t : Tracker) (line : LineOf .opener) :
    t.dedent line.1 = t ∧ t.pass line.1 = t.deeper := by
  obtain ⟨hdedent, hpass⟩ := t.step_of_role line
  exact ⟨hdedent, hpass.trans (congrArg deeper hdedent)⟩

/-- From one level further right, going back leads to where one was. -/
theorem dedent_deeper {t : Tracker} (h : 0 ≤ t.level) {r : Role} (hcloses : r.closes = true)
    (line : LineOf r) : t.deeper.dedent line.1 = t := by
  obtain ⟨hdedent, -⟩ := t.deeper.step_of_role line
  have hlevel : max 0 (t.level + 1 - 1) = t.level := by omega
  rw [hdedent, if_pos hcloses]
  exact congrArg (Tracker.mk t.inHeredoc t.delimiter · t.pending) hlevel

/-- A middle line stands one level back, and the next one is deeper again. -/
theorem middle_step {t : Tracker} (h : 0 ≤ t.level) (line : LineOf .middle) :
    t.deeper.dedent line.1 = t ∧ t.deeper.pass line.1 = t.deeper := by
  have hdedent := dedent_deeper h rfl line
  obtain ⟨-, hpass⟩ := t.deeper.step_of_role line
  exact ⟨hdedent, hpass.trans (congrArg deeper hdedent)⟩

/-- A closing line stands one level back, and so does the next one. -/
theorem closer_step {t : Tracker} (h : 0 ≤ t.level) (line : LineOf .closer) :
    t.deeper.dedent line.1 = t ∧ t.deeper.pass line.1 = t := by
  have hdedent := dedent_deeper h rfl line
  obtain ⟨-, hpass⟩ := t.deeper.step_of_role line
  exact ⟨hdedent, hpass.trans hdedent⟩

/-- No lines lead to a negative level. -/
theorem foldl_pass_level_nonneg {t : Tracker} (h : 0 ≤ t.level) (lines : List Text) :
    0 ≤ (lines.foldl pass t).level := by
  induction lines generalizing t with
  | nil => exact h
  | cons line lines ih => exact ih (pass_level_nonneg h line)

/-- The levels at which lines stand. -/
def levels (t : Tracker) : List Text → List Int
  | [] => []
  | line :: rest => (t.dedent line).level :: (t.pass line).levels rest

/-- The levels of a script go on from one part to the next. -/
theorem levels_append (t : Tracker) (a b : List Text) :
    t.levels (a ++ b) = t.levels a ++ (a.foldl pass t).levels b := by
  induction a generalizing t with
  | nil => rfl
  | cons line a ih => rw [List.cons_append, levels, ih, levels, List.foldl_cons, List.cons_append]

end Tracker

/-! ## Well-nested lines -/

mutual

/-- Well-nested lines: plain lines and blocks. -/
inductive Nest where
  | nil
  | plain (line : LineOf .plain) (rest : Nest)
  | block (opener : LineOf .opener) (branches : Branches) (rest : Nest)

/-- A block behind its opener: well-nested lines up to the closer, parted by middles. -/
inductive Branches where
  | close (body : Nest) (closer : LineOf .closer)
  | part (body : Nest) (middle : LineOf .middle) (rest : Branches)

end

mutual

def Nest.lines : Nest → List Text
  | .nil => []
  | .plain line rest => line.1 :: rest.lines
  | .block opener branches rest => opener.1 :: (branches.lines ++ rest.lines)

def Branches.lines : Branches → List Text
  | .close body closer => body.lines ++ [closer.1]
  | .part body middle rest => body.lines ++ middle.1 :: rest.lines

end

/-- For each line of a block behind its opener, whether it is a middle or the closer of the
block. -/
def Branches.marks : Branches → List Bool
  | .close body _ => body.lines.map (fun _ => false) ++ [true]
  | .part body _ rest => body.lines.map (fun _ => false) ++ true :: rest.marks

mutual

/-- Well-nested lines leave the memory as it is. -/
theorem Nest.pass_lines (nest : Nest) {t : Tracker} (h : 0 ≤ t.level) :
    nest.lines.foldl Tracker.pass t = t := by
  match nest with
  | .nil => rfl
  | .plain line rest => rw [Nest.lines, List.foldl_cons, (t.plain_step line).2, rest.pass_lines h]
  | .block opener branches rest =>
    rw [Nest.lines, List.foldl_cons, List.foldl_append, (t.opener_step opener).2,
      branches.pass_lines h, rest.pass_lines h]

/-- A block behind its opener leads back to the memory before the opener. -/
theorem Branches.pass_lines (branches : Branches) {t : Tracker} (h : 0 ≤ t.level) :
    branches.lines.foldl Tracker.pass t.deeper = t := by
  have hdeeper : 0 ≤ t.deeper.level := Int.le_add_one h
  match branches with
  | .close body closer =>
    rw [Branches.lines, List.foldl_append, body.pass_lines hdeeper]
    exact (Tracker.closer_step h closer).2
  | .part body middle rest =>
    rw [Branches.lines, List.foldl_append, body.pass_lines hdeeper, List.foldl_cons,
      (Tracker.middle_step h middle).2, rest.pass_lines h]

end

/-- Whether a line stands right in a block that begins at a level: at the level if it is one of its
own lines, and further right if it belongs to a body. -/
def StandsIn (level : Int) (isOwn : Bool) (found : Int) : Prop :=
  if isOwn then found = level else level + 1 ≤ found

/-- What stands in a block is not left of it. -/
theorem StandsIn.le {level found : Int} {isOwn : Bool} (h : StandsIn level isOwn found) :
    level ≤ found := by
  unfold StandsIn at h
  split at h <;> omega

theorem le_of_standsIn {level : Int} {marks : List Bool} {levels : List Int}
    (h : List.Forall₂ (StandsIn level) marks levels) : ∀ found ∈ levels, level ≤ found := by
  induction h with
  | nil => simp
  | cons hfirst _ ih =>
    intro found hfound
    rcases List.mem_cons.mp hfound with rfl | hfound
    · exact hfirst.le
    · exact ih found hfound

/-- Lines of a body stand right if they stand further right than the block. -/
theorem standsIn_body (t : Tracker) (body : List Text) {level : Int}
    (h : ∀ found ∈ t.levels body, level + 1 ≤ found) :
    List.Forall₂ (StandsIn level) (body.map fun _ => false) (t.levels body) := by
  induction body generalizing t with
  | nil => exact .nil
  | cons line body ih =>
    have hline := h _ List.mem_cons_self
    exact .cons hline (ih (t.pass line) fun found hfound => h found (List.mem_cons_of_mem _ hfound))

mutual

/-- Well-nested lines stand at the level before them or further right. -/
theorem Nest.le_levels (nest : Nest) {t : Tracker} (h : 0 ≤ t.level) :
    ∀ found ∈ t.levels nest.lines, t.level ≤ found := by
  match nest with
  | .nil => simp [Nest.lines, Tracker.levels]
  | .plain line rest =>
    intro found hfound
    rw [Nest.lines, Tracker.levels, (t.plain_step line).1, (t.plain_step line).2,
      List.mem_cons] at hfound
    rcases hfound with rfl | hfound
    · exact Int.le_refl _
    · exact rest.le_levels h found hfound
  | .block opener branches rest =>
    intro found hfound
    rw [Nest.lines, Tracker.levels, (t.opener_step opener).1, (t.opener_step opener).2,
      Tracker.levels_append, branches.pass_lines h, List.mem_cons, List.mem_append] at hfound
    rcases hfound with rfl | hfound | hfound
    · exact Int.le_refl _
    · exact le_of_standsIn (branches.standsIn h) found hfound
    · exact rest.le_levels h found hfound

/-- A block behind its opener stands right. -/
theorem Branches.standsIn (branches : Branches) {t : Tracker} (h : 0 ≤ t.level) :
    List.Forall₂ (StandsIn t.level) branches.marks (t.deeper.levels branches.lines) := by
  have hdeeper : 0 ≤ t.deeper.level := Int.le_add_one h
  match branches with
  | .close body closer =>
    rw [Branches.marks, Branches.lines, Tracker.levels_append, body.pass_lines hdeeper,
      Tracker.levels, (Tracker.closer_step h closer).1]
    exact List.rel_append (standsIn_body _ _ (body.le_levels hdeeper)) (.cons rfl .nil)
  | .part body middle rest =>
    rw [Branches.marks, Branches.lines, Tracker.levels_append, body.pass_lines hdeeper,
      Tracker.levels, (Tracker.middle_step h middle).1, (Tracker.middle_step h middle).2]
    exact List.rel_append (standsIn_body _ _ (body.le_levels hdeeper))
      (.cons rfl (rest.standsIn h))

end

/-- From any level that is not negative, well-nested lines end at the level at which they begin.
Wherever a block stands, its own lines are at the level at which it begins, the lines of its bodies
are further right, and what follows it goes on at its level. -/
theorem levels_nested {t : Tracker} (h : 0 ≤ t.level) :
    (∀ nest : Nest, nest.lines.foldl Tracker.pass t = t) ∧
      ∀ (before : List Text) (opener : LineOf .opener) (branches : Branches) (after : List Text),
        ∃ u, before.foldl Tracker.pass t = u ∧
          t.levels (before ++ (opener.1 :: branches.lines ++ after)) =
            t.levels before ++ (u.levels (opener.1 :: branches.lines) ++ u.levels after) ∧
          List.Forall₂ (StandsIn u.level) (true :: branches.marks)
            (u.levels (opener.1 :: branches.lines)) := by
  constructor
  · intro nest
    exact nest.pass_lines h
  · intro before opener branches after
    have hbefore := Tracker.foldl_pass_level_nonneg h before
    refine ⟨_, rfl, ?_, ?_⟩
    · rw [Tracker.levels_append, Tracker.levels_append, List.foldl_cons,
        (Tracker.opener_step _ opener).2, branches.pass_lines hbefore]
    · rw [Tracker.levels, (Tracker.opener_step _ opener).1, (Tracker.opener_step _ opener).2]
      exact .cons rfl (branches.standsIn hbefore)

/-- A block of two branches in a function: the head of the function, the block from its opener over
`else` to its closer, and the line behind it. -/
theorem levels_nested_branches :
    ["f() \x7b".toList].foldl Tracker.pass Tracker.start = ⟨false, [], 1, []⟩ ∧
      Tracker.start.levels ["f() \x7b".toList, "if a \x7b".toList, "b".toList,
        "\x7d else \x7b".toList, "c".toList, "\x7d".toList, "d".toList] =
          [0, 1, 2, 1, 2, 1, 1] ∧
      List.Forall₂ (StandsIn 1) [true, false, true, false, true] [1, 2, 1, 2, 1] := by
  have hlevel : 0 ≤ Tracker.start.level := Int.le_refl 0
  obtain ⟨u, rfl, hlevels, hstands⟩ := (levels_nested hlevel).2 ["f() \x7b".toList]
    ⟨"if a \x7b".toList, rfl⟩
    (.part (.plain ⟨"b".toList, rfl⟩ .nil) ⟨"\x7d else \x7b".toList, rfl⟩
      (.close (.plain ⟨"c".toList, rfl⟩ .nil) ⟨"\x7d".toList, rfl⟩))
    ["d".toList]
  exact ⟨rfl, hlevels, hstands⟩

end ShellStyle.Script
