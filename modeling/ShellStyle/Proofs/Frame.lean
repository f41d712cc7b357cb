import ShellStyle.Proofs.Replace
import ShellStyle.Proofs.Shape

/-!
# One file among others

Formatting a file changes nothing but the file, and what it comes to depends only on what its path
finds and on the place of its scratch file, which other files do not change. So as long as no two
paths name the same file, what has been done to the others makes no difference to a file: it is
reported on, and left, as if it were formatted alone.
-/

namespace ShellStyle

variable {s : Settings} {fault : Option Fault} {rehearsal : Bool} {t u : Tree} {p : Path}

/-! ## One file -/

/-- What formatting comes to if the script cannot be read. -/
def unreadOutcome (p : Path) : InputError → Except Halt Report
  | .refused e => .error (.system e)
  | e => .ok (Report.unread p e)

/-- A file that cannot be read is reported on, or stops the operation, and nothing changes. -/
theorem formatFile_unread [Machine] (s : Settings) (rehearsal : Bool) {w : Workspace}
    {e : InputError} (h : readScript fault w.tree p = .error e) :
    (formatFile s fault rehearsal p w).1 = unreadOutcome p e ∧
      (formatFile s fault rehearsal p w).2.tree = w.tree := by
  rw [formatFile, h]
  cases e <;> exact ⟨rfl, rfl⟩

/-- The outcome of formatting the file at a path, and the entry that the file gets, if it gets
one. -/
def fileEffect [Machine] (s : Settings) (fault : Option Fault) (rehearsal : Bool) (t : Tree)
    (p : Path) :
    Except Halt Report × Option Entry :=
  match readScript fault t p with
  | .error e => (unreadOutcome p e, none)
  | .ok source =>
    formatEffect s fault rehearsal p (scratchPlace t p) ((t.file? p).elim 0 Prod.snd) source

/-- The place of a scratch file does not depend on what is in the files. -/
theorem Tree.Alike.scratchPlace_eq [Machine] (h : t.Alike u) (p : Path) :
    scratchPlace t p = scratchPlace u p := by
  have hfresh : t.freshName p.name = u.freshName p.name := by
    rw [Tree.freshName, Tree.freshName, h.longestName_eq]
  rw [scratchPlace, scratchPlace, hfresh]
  dsimp only
  split
  · rfl
  have hlookup := h.find p.parent.collapsed
  generalize t.find p.parent.collapsed = found, u.find p.parent.collapsed = found' at hlookup ⊢
  cases hlookup <;> rfl

/-- The outcome depends only on what the path finds and on the place of the scratch file. -/
theorem fileEffect_congr [Machine] (s : Settings) (fault : Option Fault) (rehearsal : Bool)
    (hfind : u.find p = t.find p) (hplace : scratchPlace u p = scratchPlace t p) :
    fileEffect s fault rehearsal u p = fileEffect s fault rehearsal t p := by
  have hread : readScript fault u p = readScript fault t p := by rw [readScript, readScript, hfind]
  have hfile : u.file? p = t.file? p := by rw [Tree.file?, Tree.file?, hfind]
  rw [fileEffect, fileEffect, hread, hfile, hplace]

/-- Whether a path that leads to a file names that file, and no link to it. -/
def Tree.IsDirect (t : Tree) (p : Path) : Prop :=
  ∀ l bytes mode, t.find p = .found l (.file bytes mode) → t.location? p = some l

/-- What formatting a file comes to is its effect, and only the file that is named changes. -/
theorem formatFile_effect [Machine] (s : Settings) (fault : Option Fault) (rehearsal : Bool)
    {w : Workspace} (hdirect : w.tree.IsDirect p) :
    (formatFile s fault rehearsal p w).1 = (fileEffect s fault rehearsal w.tree p).1 ∧
      (∀ l, w.tree.Names p l →
        (formatFile s fault rehearsal p w).2.tree =
          w.tree.update l (fileEffect s fault rehearsal w.tree p).2) ∧
      ((∀ l, ¬ w.tree.Names p l) → (formatFile s fault rehearsal p w).2.tree = w.tree) := by
  rw [fileEffect]
  cases hread : readScript fault w.tree p with
  | error e =>
    obtain ⟨hreport, htree⟩ := formatFile_unread s rehearsal hread
    exact ⟨hreport, fun _ _ => htree, fun _ => htree⟩
  | ok source =>
    obtain ⟨l, bytes, mode, hfind⟩ := exists_find_of_readScript hread
    have hl := hdirect l bytes mode hfind
    have hmode : (w.tree.file? p).elim 0 Prod.snd = mode := by
      rw [Tree.file?, hfind, Option.elim_some]
    obtain ⟨hreport, htree⟩ := formatFile_eq s rehearsal hfind hl hread
    dsimp only
    rw [hmode]
    refine ⟨hreport, fun l' hnames => ?_, fun hnone => absurd ⟨hl, bytes, mode, hfind⟩ (hnone l)⟩
    obtain rfl : l = l' := Option.some.inj (hl.symm.trans hnames.1)
    exact htree

/-- A file that is formatted gets an entry of its own kind, if it gets one. -/
theorem exists_file_of_fileEffect [Machine] {e : Entry}
    (h : (fileEffect s fault rehearsal t p).2 = some e) :
    ∃ bytes mode, e = .file bytes mode := by
  rw [fileEffect] at h
  cases hread : readScript fault t p with
  | error cause => simp [hread] at h
  | ok source =>
    rw [hread] at h
    dsimp only at h
    unfold formatEffect at h
    split at h
    · cases h
    · dsimp only at h
      split at h
      · cases h
      · split at h
        · cases h
        · obtain rfl := Option.some.inj h
          exact ⟨_, _, rfl⟩

/-- Formatting changes nothing but the file that the path names, and that only in what is in it. -/
theorem formatFile_frame [Machine] (s : Settings) (fault : Option Fault) (rehearsal : Bool)
    {w : Workspace} (hdirect : w.tree.IsDirect p) :
    w.tree.Alike (formatFile s fault rehearsal p w).2.tree ∧
      ∀ l, ¬ w.tree.Names p l → (formatFile s fault rehearsal p w).2.tree.entry? l =
        w.tree.entry? l := by
  obtain ⟨-, hnamed, hunnamed⟩ := formatFile_effect s fault rehearsal hdirect
  by_cases h : ∃ l, w.tree.Names p l
  · obtain ⟨l, hl⟩ := h
    obtain ⟨bytes, mode, hfind⟩ := hl.2
    rw [hnamed l hl, Tree.update]
    cases heffect : (fileEffect s fault rehearsal w.tree p).2 with
    | none => exact ⟨Tree.Alike.refl w.tree, fun _ _ => rfl⟩
    | some e =>
      obtain ⟨bytes', mode', rfl⟩ := exists_file_of_fileEffect heffect
      refine ⟨Tree.alike_set (Tree.entry?_of_find hfind) bytes' mode', ?_⟩
      intro l' hl'
      apply Tree.entry?_set_of_ne
      rintro rfl
      exact hl' hl
  · have hnone : ∀ l, ¬ w.tree.Names p l := fun l hl => h ⟨l, hl⟩
    rw [hunnamed hnone]
    exact ⟨Tree.Alike.refl w.tree, fun _ _ => rfl⟩

/-! ## Files apart -/

/-- Whether paths name files, and no links to them, and no two of them the same file. -/
structure Tree.Apart (t : Tree) (files : List Path) : Prop where
  direct : ∀ p ∈ files, t.IsDirect p
  distinct : files.Pairwise fun p q => ∀ l, t.Names p l → ¬ t.Names q l

theorem Tree.Apart.of_cons {files : List Path} (h : t.Apart (p :: files)) : t.Apart files :=
  ⟨fun q hq => h.direct q (List.mem_cons_of_mem p hq), (List.pairwise_cons.mp h.distinct).2⟩

/-- Files that are apart are so in any order. -/
theorem Tree.Apart.perm {files files' : List Path} (h : t.Apart files) (hperm : files'.Perm files) :
    t.Apart files' :=
  ⟨fun p hp => h.direct p (hperm.mem_iff.mp hp),
    (hperm.pairwise_iff fun hpq l hq hp => hpq l hp hq).mpr h.distinct⟩

/-- Whether a tree is alike and has the files that are still to be formatted as they were. -/
structure Tree.Keeps (t : Tree) (files : List Path) (u : Tree) : Prop where
  alike : t.Alike u
  entries : ∀ p ∈ files, ∀ l, t.Names p l → u.entry? l = t.entry? l

/-- What one file of a batch comes to: the same as alone, and later files are kept. -/
theorem Tree.Keeps.formatFile [Machine] {files : List Path} {w : Workspace}
    (hapart : t.Apart (p :: files)) (h : t.Keeps (p :: files) w.tree) (s : Settings)
    (fault : Option Fault) (rehearsal : Bool) :
    (formatFile s fault rehearsal p w).1 = (formatFile s fault rehearsal p ⟨t, []⟩).1 ∧
      t.Keeps files (formatFile s fault rehearsal p w).2.tree ∧
      (∀ l, t.Names p l → (formatFile s fault rehearsal p w).2.tree.entry? l =
        (formatFile s fault rehearsal p ⟨t, []⟩).2.tree.entry? l) ∧
      ∀ l, ¬ t.Names p l → (formatFile s fault rehearsal p w).2.tree.entry? l =
        w.tree.entry? l := by
  have hdirect := hapart.direct p List.mem_cons_self
  -- the path finds what it found at the start, since only other files have been touched
  have hfind : w.tree.find p = t.find p := by
    apply h.alike.find_eq
    intro l bytes mode hfound
    exact h.entries p List.mem_cons_self l ⟨hdirect l bytes mode hfound, bytes, mode, hfound⟩
  have hlocation : w.tree.location? p = t.location? p := (h.alike.location?_eq p).symm
  have hnames : ∀ l, w.tree.Names p l ↔ t.Names p l := by
    intro l
    rw [Names, Names, hfind, hlocation]
  have hdirect' : w.tree.IsDirect p := by
    intro l bytes mode hfound
    rw [hlocation]
    exact hdirect l bytes mode (hfind ▸ hfound)
  have heffect := fileEffect_congr s fault rehearsal hfind (h.alike.scratchPlace_eq p).symm
  obtain ⟨hreport, htree, -⟩ := formatFile_effect s fault rehearsal hdirect'
  obtain ⟨hreport', htree', -⟩ := formatFile_effect s fault rehearsal (w := ⟨t, []⟩) hdirect
  obtain ⟨halike, hothers⟩ := formatFile_frame s fault rehearsal hdirect'
  refine ⟨?_, ⟨h.alike.trans halike, ?_⟩, ?_, ?_⟩
  · rw [hreport, hreport', heffect]
  · intro q hq l hl
    rw [hothers l, h.entries q (List.mem_cons_of_mem p hq) l hl]
    rw [hnames]
    exact fun hp => (List.pairwise_cons.mp hapart.distinct).1 q hq l hp hl
  · intro l hl
    obtain ⟨bytes, mode, hfound⟩ := hl.2
    have hentry := h.entries p List.mem_cons_self l hl
    have hfile := Tree.entry?_of_find hfound
    rw [htree l ((hnames l).mpr hl), htree' l hl, heffect, Tree.entry?_update (hentry.trans hfile),
      Tree.entry?_update hfile, hentry]
  · intro l hl
    exact hothers l fun hl' => hl ((hnames l).mp hl')

end ShellStyle
