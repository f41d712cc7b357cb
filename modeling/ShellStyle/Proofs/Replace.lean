import ShellStyle.File.Report
import ShellStyle.Proofs.Lookup

/-!
# Formatting in place

A file that is formatted is replaced as a whole or not at all. The scratch file stands where nothing
stood, so every path that led to a file leads there while it exists; and whatever happens it is gone
at the end. What is left is that the file itself has new bytes if its replacement succeeds, and the
old ones if it does not. Which of the two happens, and what is reported, depends on the script, the
settings and the place of the scratch file only.
-/

namespace ShellStyle

open ShellStyle.Tree

variable {t : Tree} {p : Path} {l : Location} {old : List UInt8} {mode : Nat}

/-! ## The scratch file -/

/-- Why a file is not replaced, if it is not; `place` is the place of its scratch file. -/
def replaceRefusal? (fault : Option Fault) (p : Path) (place : Except SystemError Location) :
    Option WriteError :=
  if fault = some .access then some (.noAccess p.parent)
  else if fault = some .scratch then some (.noScratch ⟨.noSpace, none⟩)
  else match place with
    | .error e => some (.noScratch e)
    | .ok _ => if fault = some .rename then some (.notReplaced ⟨.noSpace, none⟩) else none

/-- The scratch file has a fresh name, whatever directory it is made in. -/
theorem exists_of_scratchPlace [Machine] {scratch : Location} (h : scratchPlace t p = .ok scratch) :
    ∃ directory, scratch = directory ++ [t.freshName p.name] := by
  unfold scratchPlace at h
  dsimp only at h
  split at h
  · cases h
  split at h
  · next directory _ =>
    split at h
    · cases h
    · exact ⟨directory, (Except.ok.inj h).symm⟩
  all_goals cases h

/-- Nothing of the scratch file is left: a file gets new bytes and keeps its mode, or nothing
changes at all. -/
theorem replaceFile_eq [Machine] {l' : Location} (hfind : t.find p = .found l' (.file old mode))
    (hl : t.location? p = some l) (fault : Option Fault) (bytes : List UInt8) :
    replaceFile fault t p bytes =
      (replaceRefusal? fault p (scratchPlace t p)).elim (.ok (), t.set l (.file bytes mode))
        fun e => (.error e, t) := by
  obtain ⟨directory, hdirectory, rfl⟩ := location?_eq_some_iff.mp hl
  unfold replaceFile replaceRefusal?
  rw [hdirectory]
  dsimp only
  split
  · rfl
  split
  · rfl
  cases hplace : scratchPlace t p with
  | error e => rfl
  | ok scratch =>
    -- wherever the scratch file is made, nothing stood there and nothing is left there
    obtain ⟨beside, rfl⟩ := exists_of_scratchPlace hplace
    have hfresh := entry?_freshName t beside p.name
    have hmode := (extends_set hfresh (.file bytes privateMode)).file?_eq hfind
    dsimp only
    rw [hmode]
    dsimp only
    rw [erase_set_self, erase_set_self, erase_freshName]
    split <;> rfl

/-- What may have become of a tree in which a file is to be replaced. -/
structure Replaced (t : Tree) (l : Location) (e : Entry) (done : Bool) (t' : Tree) : Prop where
  entry?_of_ne : ∀ l', l' ≠ l → t'.entry? l' = t.entry? l'
  entry?_self : t'.entry? l = if done then some e else t.entry? l
  mem_of_ne : ∀ here ∈ t', here.1 ≠ l → here ∈ t

theorem Replaced.refl (t : Tree) (l : Location) (e : Entry) : Replaced t l e false t :=
  ⟨fun _ _ => rfl, rfl, fun _ hmem _ => hmem⟩

/-- Putting an entry in the place of a file replaces the file. -/
theorem Replaced.set (hentry : t.entry? l = some (.file old mode)) (e : Entry) :
    Replaced t l e true (t.set l e) := by
  have hfile : t.entry? l ≠ some .directory := by simp [hentry]
  exact ⟨fun _ hne => entry?_set_of_ne t e hne, entry?_set_self hfile t e,
    fun _ hmem hne => mem_of_mem_set hmem hne⟩

/-! ## Scripts that are written -/

/-- The file that a formatted script is written as. -/
def storedEntry (source : Source) (formatted : List Text) (mode : Nat) : Entry :=
  .file (Text.encode (Source.toText ⟨formatted, source.lineEnd⟩)) mode

/-- Why a formatted script is refused, if it is. -/
def storeRefusal? (fault : Option Fault) (rehearsal : Bool) (p : Path)
    (place : Except SystemError Location) (source : Source) (formatted : List Text) :
    Option WriteError :=
  match Script.verify source.lines formatted with
  | .accepted => if rehearsal then none else replaceRefusal? fault p place
  | verdict => some (.rejected verdict)

/-- A script is stored if neither the safety check nor the system refuses. -/
theorem storeScript_eq [Machine] {l' : Location} (hfind : t.find p = .found l' (.file old mode))
    (hl : t.location? p = some l) (fault : Option Fault) (rehearsal : Bool) (source : Source)
    (formatted : List Text) :
    storeScript fault rehearsal p source formatted t =
      (storeRefusal? fault rehearsal p (scratchPlace t p) source formatted).elim
        (if rehearsal then (.ok false, t)
          else (.ok true, t.set l (storedEntry source formatted mode)))
        fun e => (.error e, t) := by
  rw [storeScript, storeRefusal?]
  cases Script.verify source.lines formatted with
  | accepted =>
    cases rehearsal with
    | true => rfl
    | false =>
      rw [replaceFile_eq hfind hl]
      cases replaceRefusal? fault p (scratchPlace t p) <;> rfl
  | emptyOutput => rfl
  | heredocsChanged before after => rfl

/-- A script is written, or only could be, or is refused. -/
theorem storeScript_cases [Machine] {l' : Location} (hfind : t.find p = .found l' (.file old mode))
    (hl : t.location? p = some l) (hentry : t.entry? l = some (.file old mode))
    {fault : Option Fault} {rehearsal : Bool} {source : Source} {formatted : List Text}
    {outcome : Except WriteError Bool} {t' : Tree}
    (h : storeScript fault rehearsal p source formatted t = (outcome, t')) :
    (outcome = .ok true ∧ rehearsal = false ∧
      Replaced t l (storedEntry source formatted mode) true t') ∨
      (outcome = .ok false ∧ rehearsal = true ∧
        Replaced t l (storedEntry source formatted mode) false t') ∨
      ∃ cause, outcome = .error cause ∧
        Replaced t l (storedEntry source formatted mode) false t' := by
  rw [storeScript_eq hfind hl] at h
  cases hrefusal : storeRefusal? fault rehearsal p (scratchPlace t p) source formatted with
  | some cause =>
    obtain ⟨rfl, rfl⟩ := Prod.mk.inj (hrefusal ▸ h)
    exact .inr (.inr ⟨cause, rfl, Replaced.refl t l _⟩)
  | none =>
    rw [hrefusal] at h
    cases rehearsal with
    | true =>
      obtain ⟨rfl, rfl⟩ := Prod.mk.inj h
      exact .inr (.inl ⟨rfl, rfl, Replaced.refl t l _⟩)
    | false =>
      obtain ⟨rfl, rfl⟩ := Prod.mk.inj h
      exact .inl ⟨rfl, rfl, Replaced.set hentry _⟩

/-! ## Files that are formatted -/

/-- What is read is a file. -/
theorem exists_find_of_readScript {fault : Option Fault} {source : Source}
    (h : readScript fault t p = .ok source) :
    ∃ l bytes mode, t.find p = .found l (.file bytes mode) := by
  unfold readScript at h
  split at h
  · next l bytes mode hfind => exact ⟨l, bytes, mode, hfind⟩
  all_goals cases h

/-- The report on a script that was read, and the entry that its file gets, if it gets one. -/
def formatEffect [Machine] (s : Settings) (fault : Option Fault) (rehearsal : Bool) (p : Path)
    (place : Except SystemError Location) (mode : Nat) (source : Source) :
    Except Halt Report × Option Entry :=
  match Script.format s source.lines with
  | .error e => (.error (.style e), none)
  | .ok formatted =>
    let report := Report.ofFormatted p rehearsal source.lines formatted
    match storeRefusal? fault rehearsal p place source formatted.lines with
    | some e => (.ok (report.withFailure e), none)
    | none =>
      if rehearsal then (.ok report, none)
      else (.ok report.withWritten, some (storedEntry source formatted.lines mode))

/-- The tree with another entry at a location, if there is one. -/
def Tree.update (t : Tree) (l : Location) (e : Option Entry) : Tree :=
  e.elim t (t.set l)

/-- A file that gets a new entry has it, and otherwise the old one. -/
theorem Tree.entry?_update (hentry : t.entry? l = some (.file old mode)) (e : Option Entry) :
    entry? (t.update l e) l = e.or (t.entry? l) := by
  cases e with
  | none => rfl
  | some e =>
    have hfile : t.entry? l ≠ some .directory := by simp [hentry]
    exact entry?_set_self hfile t e

/-- What formatting a file reports and changes does not depend on the rest of the tree. -/
theorem formatFile_eq [Machine] (s : Settings) {fault : Option Fault} (rehearsal : Bool)
    {w : Workspace} {source : Source} {l' : Location}
    (hfind : w.tree.find p = .found l' (.file old mode)) (hl : w.tree.location? p = some l)
    (hread : readScript fault w.tree p = .ok source) :
    (formatFile s fault rehearsal p w).1 =
        (formatEffect s fault rehearsal p (scratchPlace w.tree p) mode source).1 ∧
      (formatFile s fault rehearsal p w).2.tree =
        w.tree.update l (formatEffect s fault rehearsal p (scratchPlace w.tree p) mode
          source).2 := by
  rw [formatFile, hread, formatEffect]
  dsimp only
  cases Script.format s source.lines with
  | error e => exact ⟨rfl, rfl⟩
  | ok formatted =>
    dsimp only [Workspace.note, Workspace.noteAll]
    rw [storeScript_eq hfind hl]
    cases storeRefusal? fault rehearsal p (scratchPlace w.tree p) source formatted.lines with
    | some e => exact ⟨rfl, rfl⟩
    | none => cases rehearsal <;> exact ⟨rfl, rfl⟩

/-- Formatting in place is atomic. Let a path name a file, and let one operation fail or none.
Whatever formatting the file comes to, every other location has the entry it had and no scratch file
is left. The file has the bytes it had unless it is reported as written, and then it has its mode
and the bytes of the formatted script, with the line ends that were read. It is written exactly if
the report is a success and no rehearsal. -/
theorem formatFile_atomic [Machine] {s : Settings} {fault : Option Fault} {rehearsal : Bool}
    {w w' : Workspace} {outcome : Except Halt Report} (hl : w.tree.location? p = some l)
    (hentry : w.tree.entry? l = some (.file old mode))
    (h : formatFile s fault rehearsal p w = (outcome, w')) :
    (∀ l', l' ≠ l → w'.tree.entry? l' = w.tree.entry? l') ∧
      (∀ here ∈ w'.tree, here.1 ≠ l → here ∈ w.tree) ∧
      (∀ halt, outcome = .error halt → w'.tree.entry? l = some (.file old mode)) ∧
      ∀ r, outcome = .ok r →
        r.written = (r.success && !rehearsal) ∧
        (r.written = false → w'.tree.entry? l = some (.file old mode)) ∧
        (r.written = true → ∃ source, readScript fault w.tree p = .ok source ∧
          w'.tree.entry? l = some (.file
            (Text.encode (Source.toText ⟨r.content, source.lineEnd⟩)) mode)) := by
  unfold formatFile at h
  split at h
  · obtain ⟨rfl, rfl⟩ := Prod.mk.inj h
    exact ⟨fun _ _ => rfl, fun _ hmem _ => hmem, fun _ _ => hentry, by simp⟩
  · obtain ⟨rfl, rfl⟩ := Prod.mk.inj h
    refine ⟨fun _ _ => rfl, fun _ hmem _ => hmem, by simp, ?_⟩
    rintro r hr
    obtain rfl := Except.ok.inj hr
    exact ⟨rfl, fun _ => hentry, by simp [Report.unread]⟩
  · next source hsource =>
    dsimp only at h
    split at h
    · obtain ⟨rfl, rfl⟩ := Prod.mk.inj h
      exact ⟨fun _ _ => rfl, fun _ hmem _ => hmem, fun _ _ => hentry, by simp⟩
    · next formatted _ =>
      -- only a script that was read and formatted gets as far as being stored
      obtain ⟨l', bytes', mode', hfind⟩ := exists_find_of_readScript hsource
      obtain ⟨-, rfl, rfl⟩ := find_file_eq hfind hl hentry
      cases hstore : storeScript fault rehearsal p source formatted.lines
        ((w.note .debug .engine ("Formatting: " ++ p.display)).noteAll
          (Script.verify source.lines formatted.lines).log).tree with
      | mk stored tree =>
        rw [hstore] at h
        rcases storeScript_cases hfind hl hentry hstore with
          ⟨rfl, rfl, hreplaced⟩ | ⟨rfl, rfl, hreplaced⟩ | ⟨cause, rfl, hreplaced⟩
        all_goals
          obtain ⟨rfl, rfl⟩ := Prod.mk.inj h
          refine ⟨hreplaced.entry?_of_ne, hreplaced.mem_of_ne, by simp, ?_⟩
          rintro r hr
          obtain rfl := Except.ok.inj hr
        · exact ⟨rfl, by simp [Report.withWritten],
            fun _ => ⟨source, hsource, hreplaced.entry?_self⟩⟩
        · exact ⟨rfl, fun _ => hreplaced.entry?_self.trans hentry, by simp [Report.ofFormatted]⟩
        · exact ⟨rfl, fun _ => hreplaced.entry?_self.trans hentry,
            by simp [Report.withFailure, Report.ofFormatted]⟩

/-- A directory with a script of two lines in it, and a file beside the directory. -/
def pipedTree : Tree :=
  [([['d']], .directory), ([['b']], .file [0x7a] 420),
    ([['d'], ['a']], .file [0x78, 0x20, 0x7c, 0x20, 0x5c, 0x0a, 0x7c, 0x20, 0x79, 0x0a] 493)]

/-- A command of two lines is joined in a file of its own mode, and another file is as before. -/
theorem formatFile_atomic_joined :
    readScript none pipedTree ⟨[], [['d'], ['a']]⟩ =
        .ok ⟨["x | \\".toList, "| y".toList], .feed⟩ ∧
      pipedTree.entry? [['d'], ['a']] =
        some (.file [0x78, 0x20, 0x7c, 0x20, 0x5c, 0x0a, 0x7c, 0x20, 0x79, 0x0a] 493) ∧
      ∃ r w', formatFile .default none false ⟨[], [['d'], ['a']]⟩ ⟨pipedTree, []⟩ = (.ok r, w') ∧
        r.success = true ∧ r.written = true ∧ r.content = ["x | y".toList] ∧
        w'.tree.entry? [['b']] = some (.file [0x7a] 420) ∧
        w'.tree.entry? [['d'], ['a']] =
          some (.file [0x78, 0x20, 0x7c, 0x20, 0x79, 0x0a] 493) := by
  let source : Source := ⟨["x | \\".toList, "| y".toList], .feed⟩
  have hl : pipedTree.location? ⟨[], [['d'], ['a']]⟩ = some [['d'], ['a']] := rfl
  have hentry : pipedTree.entry? [['d'], ['a']] =
      some (.file [0x78, 0x20, 0x7c, 0x20, 0x5c, 0x0a, 0x7c, 0x20, 0x79, 0x0a] 493) := rfl
  have hread : readScript none pipedTree ⟨[], [['d'], ['a']]⟩ = .ok source := rfl
  have hformat : Script.format .default source.lines = .ok ⟨["x | y".toList], 1⟩ := rfl
  obtain ⟨tree', hstore⟩ : ∃ tree', storeScript none false ⟨[], [['d'], ['a']]⟩ source
      ["x | y".toList] pipedTree = (.ok true, tree') := ⟨_, rfl⟩
  obtain ⟨r, w', h, hsuccess, hcontent⟩ : ∃ r w',
      formatFile .default none false ⟨[], [['d'], ['a']]⟩ ⟨pipedTree, []⟩ = (.ok r, w') ∧
        r.success = true ∧ r.content = ["x | y".toList] := by
    rw [formatFile, hread]
    dsimp only
    rw [hformat]
    dsimp only [Workspace.note, Workspace.noteAll]
    rw [hstore]
    exact ⟨_, _, rfl, rfl, rfl⟩
  obtain ⟨hothers, -, -, hreport⟩ := formatFile_atomic hl hentry h
  obtain ⟨hwritten, -, hstored⟩ := hreport r rfl
  rw [hsuccess] at hwritten
  obtain ⟨source', hsource, hfile⟩ := hstored hwritten
  obtain rfl : source = source' := Except.ok.inj (hread.symm.trans hsource)
  rw [hcontent] at hfile
  exact ⟨hread, hentry, r, w', h, hsuccess, hwritten, hcontent, hothers [['b']] (by decide), hfile⟩

end ShellStyle
