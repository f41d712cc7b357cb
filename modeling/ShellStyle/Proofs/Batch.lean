import ShellStyle.Command.Run
import ShellStyle.Layout.Plain
import ShellStyle.Proofs.Frame
import ShellStyle.Yaml.Document
import Mathlib.Data.List.Perm.Basic

/-!
# Batches of files

Files that are formatted one after another do not influence each other, as long as no two paths name
the same file: each is reported on as if it were alone, and the tree that is left does not depend on
the order. A batch stops only where one of its files alone would stop, at an operation that is
refused or at a message that cannot be printed. If it does not stop, the exit status of the program
says whether all files succeed.
-/

namespace ShellStyle.Command

variable {s : Settings} {fault : Option Fault} {rehearsal : Bool} {t u : Tree} {p : Path}

/-! ## Steps of a command -/

/-- Whether a step prints some lines and does nothing else. -/
structure Prints (job : Job Unit) (printed : Except ForeignError (List Text)) : Prop where
  ok : ∀ {lines}, printed = .ok lines →
    ∀ w before, job.run.run ⟨w, before⟩ = (.ok (), ⟨w, before ++ lines⟩)
  error : ∀ {e}, printed = .error e →
    ∀ w before, ∃ after, job.run.run ⟨w, before⟩ = (.error (.foreign e), ⟨w, after⟩)

/-- Printing lines prints them, unless the console reports an error. -/
theorem prints_print (printed : Except ForeignError (List Text)) :
    Prints (Job.print printed) printed := by
  constructor
  · rintro lines rfl w before
    rfl
  · rintro e rfl w before
    exact ⟨before, rfl⟩

/-- Lines, and others behind them. -/
def bothPrinted (first second : Except ForeignError (List Text)) :
    Except ForeignError (List Text) := do
  return (← first) ++ (← second)

/-- What two steps print one after another is printed together. -/
theorem Prints.bind {job next : Job Unit} {first second : Except ForeignError (List Text)}
    (h : Prints job first) (hnext : Prints next second) :
    Prints (job >>= fun _ => next) (bothPrinted first second) := by
  cases first with
  | error e =>
    constructor
    · intro lines heq
      cases heq
    · intro e' heq w before
      obtain rfl : e = e' := Except.error.inj heq
      obtain ⟨after, hrun⟩ := h.error rfl w before
      exact ⟨after, run_bind_error hrun _⟩
  | ok lines =>
    cases second with
    | error e =>
      constructor
      · intro lines heq
        cases heq
      · intro e' heq w before
        obtain rfl : e = e' := Except.error.inj heq
        rw [run_bind_ok (h.ok rfl w before)]
        exact hnext.error rfl w _
    | ok later =>
      constructor
      · intro all heq w before
        obtain rfl : lines ++ later = all := Except.ok.inj heq
        rw [run_bind_ok (h.ok rfl w before), hnext.ok rfl, List.append_assoc]
      · intro e heq
        cases heq

/-- A step that does nothing prints no lines. -/
theorem prints_nothing : Prints (pure ()) (.ok []) := by
  constructor
  · intro lines heq w before
    obtain rfl : [] = lines := Except.ok.inj heq
    rw [List.append_nil]
    rfl
  · intro e heq
    cases heq

/-- Saying a message prints what the console makes of it. -/
theorem prints_say [Console] (markup : Text) :
    Prints (Job.say [markup]) (Console.message markup) := by
  have hsame : bothPrinted (Console.message markup) (.ok []) = Console.message markup := by
    cases Console.message markup with
    | error e => rfl
    | ok lines => exact congrArg Except.ok (List.append_nil lines)
  rw [← hsame]
  exact (prints_print (Console.message markup)).bind prints_nothing

/-- What is printed about a report. -/
def announced [Console] (showsDiff : Bool) (p : Path) (r : Report) :
    Except ForeignError (List Text) :=
  if showsDiff && r.success then
    bothPrinted (diffLines p.text r.before r.content) (Console.message (resultMessage r))
  else Console.message (resultMessage r)

/-- Prints what there is to say about a report. -/
def announce [Console] (showsDiff : Bool) (p : Path) (r : Report) : Job Unit := do
  if showsDiff && r.success then
    Job.print (diffLines p.text r.before r.content)
  Job.say [resultMessage r]

/-- What is said about a report is printed. -/
theorem prints_announce [Console] (showsDiff : Bool) (p : Path) (r : Report) :
    Prints (announce showsDiff p r) (announced showsDiff p r) := by
  have hresult := prints_say (resultMessage r)
  rw [announce, announced]
  split
  · exact (prints_print _).bind hresult
  · exact hresult

/-- The loop formats a file, announces the report, and goes on. -/
theorem formatAll_cons [Machine] [Console] (s : Settings) (fault : Option Fault)
    (rehearsal showsDiff : Bool) (p : Path) (rest : List Path) :
    formatAll s fault rehearsal showsDiff (p :: rest) = (do
      let r ← Job.onFiles (formatFile s fault rehearsal p)
      announce showsDiff p r
      let later ← formatAll s fault rehearsal showsDiff rest
      return r :: later) := by
  rw [formatAll]
  congr 1
  funext r
  rw [announce]
  split <;> simp only [bind_assoc]

/-! ## The loop -/

/-- The report on a file, if it can be made and printed. -/
def reported [Console] (showsDiff : Bool) (p : Path) : Except Halt Report → Except Failure Report
  | .error halt => .error (.ofHalt halt)
  | .ok r =>
    match announced showsDiff p r with
    | .error e => .error (.foreign e)
    | .ok _ => .ok r

/-- No report is made where formatting is stopped, or where the report cannot be printed. -/
theorem reported_eq_error [Console] {showsDiff : Bool} {outcome : Except Halt Report} {e : Failure}
    (h : reported showsDiff p outcome = .error e) :
    (∃ halt, outcome = .error halt ∧ e = .ofHalt halt) ∨
      ∃ r cause, outcome = .ok r ∧ announced showsDiff p r = .error cause ∧ e = .foreign cause := by
  unfold reported at h
  split at h
  · next halt => exact .inl ⟨halt, rfl, (Except.error.inj h).symm⟩
  · next r =>
    split at h
    · next cause hprinted => exact .inr ⟨r, cause, rfl, hprinted, (Except.error.inj h).symm⟩
    · cases h

/-- A report is made if formatting returns it and it can be printed. -/
theorem reported_eq_ok_iff [Console] {showsDiff : Bool} {outcome : Except Halt Report}
    {r : Report} :
    reported showsDiff p outcome = .ok r ↔
      outcome = .ok r ∧ ∃ lines, announced showsDiff p r = .ok lines := by
  unfold reported
  cases outcome with
  | error halt => simp
  | ok r' =>
    dsimp only
    constructor
    · intro h
      split at h
      · cases h
      · next lines hprinted =>
        obtain rfl := Except.ok.inj h
        exact ⟨rfl, lines, hprinted⟩
    · rintro ⟨heq, lines, hprinted⟩
      obtain rfl := Except.ok.inj heq
      rw [hprinted]

/-- Work on the files is done as it is outside of a command, and prints nothing. -/
theorem run_onFiles {α : Type} (f : Workspace → Except Halt α × Workspace) (w : Workspace)
    (lines : List Text) :
    (Job.onFiles f).run.run ⟨w, lines⟩ = ((f w).1.mapError Failure.ofHalt, ⟨(f w).2, lines⟩) := by
  change Job.onFiles f ⟨w, lines⟩ = _
  rw [Job.onFiles]
  rcases f w with ⟨_ | _, w'⟩ <;> rfl

section

variable {showsDiff : Bool} {w : Workspace}

/-- The loop stops at a file whose report cannot be made or printed. -/
theorem run_formatAll_error [Machine] [Console] {e : Failure}
    (h : reported showsDiff p (formatFile s fault rehearsal p w).1 = .error e) (rest : List Path)
    (lines : List Text) :
    ∃ lines', (formatAll s fault rehearsal showsDiff (p :: rest)).run.run ⟨w, lines⟩ =
      (.error e, ⟨(formatFile s fault rehearsal p w).2, lines'⟩) := by
  have hfile := run_onFiles (formatFile s fault rehearsal p) w lines
  rw [formatAll_cons]
  rcases reported_eq_error h with ⟨halt, houtcome, rfl⟩ | ⟨r, cause, houtcome, hprinted, rfl⟩
  · rw [houtcome] at hfile
    exact ⟨lines, run_bind_error hfile _⟩
  · rw [houtcome] at hfile
    obtain ⟨after, hrun⟩ :=
      (prints_announce showsDiff p r).error hprinted (formatFile s fault rehearsal p w).2 lines
    rw [run_bind_ok hfile]
    exact ⟨after, run_bind_error hrun _⟩

/-- The loop goes on behind a file whose report is printed. -/
theorem run_formatAll_ok [Machine] [Console] {r : Report}
    (h : reported showsDiff p (formatFile s fault rehearsal p w).1 = .ok r) (rest : List Path)
    (lines : List Text) :
    ∃ lines', ∀ outcome session,
      (formatAll s fault rehearsal showsDiff rest).run.run
          ⟨(formatFile s fault rehearsal p w).2, lines'⟩ =
          (outcome, session) →
        (formatAll s fault rehearsal showsDiff (p :: rest)).run.run ⟨w, lines⟩ =
          (outcome.map (r :: ·), session) := by
  obtain ⟨houtcome, printed, hprinted⟩ := reported_eq_ok_iff.mp h
  have hfile := run_onFiles (formatFile s fault rehearsal p) w lines
  have hrun :=
    (prints_announce showsDiff p r).ok hprinted (formatFile s fault rehearsal p w).2 lines
  rw [houtcome] at hfile
  refine ⟨lines ++ printed, fun outcome session hrest => ?_⟩
  rw [formatAll_cons, run_bind_ok hfile, run_bind_ok hrun]
  cases outcome with
  | error e => exact run_bind_error hrest _
  | ok later => exact run_bind_ok hrest _

end

/-- What a batch comes to, wherever it has got to: each file is as if it were alone. -/
theorem run_formatAll [Machine] [Console] {showsDiff : Bool} {files : List Path} {w : Workspace}
    {lines : List Text} {outcome : Except Failure (List Report)} {session : Session}
    (hapart : t.Apart files) (hkeeps : t.Keeps files w.tree)
    (h : (formatAll s fault rehearsal showsDiff files).run.run ⟨w, lines⟩ = (outcome, session)) :
    outcome = files.mapM (fun p =>
      reported showsDiff p (formatFile s fault rehearsal p ⟨t, []⟩).1) ∧
      ∀ reports, outcome = .ok reports →
        (∀ p ∈ files, ∀ l, t.Names p l →
          session.workspace.tree.entry? l =
            (formatFile s fault rehearsal p ⟨t, []⟩).2.tree.entry? l) ∧
        ∀ l, (∀ p ∈ files, ¬ t.Names p l) → session.workspace.tree.entry? l = w.tree.entry? l := by
  induction files generalizing w lines outcome session with
  | nil =>
    obtain ⟨rfl, rfl⟩ := Prod.mk.inj h
    exact ⟨rfl, fun _ _ => ⟨by simp, fun _ _ => rfl⟩⟩
  | cons p rest ih =>
    -- the files still to come are as they were at the start, and stay so behind this one
    obtain ⟨hreport, hlater, hnamed, hothers⟩ := hkeeps.formatFile hapart s fault rehearsal
    rw [List.mapM_cons]
    cases halone : reported showsDiff p (formatFile s fault rehearsal p ⟨t, []⟩).1 with
    | error e =>
      rw [← hreport] at halone
      obtain ⟨lines', hrun⟩ := run_formatAll_error halone rest lines
      obtain ⟨rfl, rfl⟩ := Prod.mk.inj (h.symm.trans hrun)
      exact ⟨rfl, by simp⟩
    | ok r =>
      rw [← hreport] at halone
      obtain ⟨lines', hrun⟩ := run_formatAll_ok halone rest lines
      obtain ⟨later, final, hrest⟩ :
          ∃ later final, (formatAll s fault rehearsal showsDiff rest).run.run
          ⟨(formatFile s fault rehearsal p w).2, lines'⟩ = (later, final) := ⟨_, _, rfl⟩
      obtain ⟨rfl, rfl⟩ := Prod.mk.inj (h.symm.trans (hrun later final hrest))
      obtain ⟨hsame, htree⟩ := ih hapart.of_cons hlater hrest
      rw [← hsame]
      refine ⟨by cases later <;> rfl, ?_⟩
      cases later with
      | error e => simp [Except.map]
      | ok others =>
        obtain ⟨hformatted, hkept⟩ := htree others rfl
        intro reports _
        refine ⟨?_, ?_⟩
        · intro q hq l hl
          rcases List.mem_cons.mp hq with rfl | hq
          · -- no later file stands at this location
            rw [hkept l fun q' hq' => (List.pairwise_cons.mp hapart.distinct).1 q' hq' l hl,
              hnamed l hl]
          · exact hformatted q hq l hl
        · intro l hnone
          rw [hkept l fun q hq => hnone q (List.mem_cons_of_mem p hq),
            hothers l (hnone p List.mem_cons_self)]

/-! ## Outcomes of several files -/

section

variable {α β ε : Type} {f : α → Except ε β}

/-- Several outcomes are well if each of them is. -/
theorem mapM_eq_ok_iff {as : List α} {bs : List β} :
    as.mapM f = .ok bs ↔ List.Forall₂ (fun a b => f a = .ok b) as bs := by
  induction as generalizing bs with
  | nil => cases bs <;> simp [pure, Except.pure]
  | cons a as ih =>
    rw [List.mapM_cons]
    cases ha : f a with
    | error e => cases bs <;> simp [bind, Except.bind, ha]
    | ok b =>
      cases has : as.mapM f with
      | error e => cases bs <;> simp [bind, Except.bind, ← ih, has]
      | ok others => cases bs <;> simp [bind, Except.bind, pure, Except.pure, ← ih, has, ha]

end

/-! ## The program -/

/-- Loading the configuration changes no file. -/
theorem load_tree [Machine] [Loader] (fault : Option Fault) (given : Text) (w : Workspace) :
    (Config.load fault given w).2.tree = w.tree := by
  rw [Config.load]
  dsimp only
  generalize Path.ofText (if given.isEmpty then Settings.fileName else given) = p
  split
  · rfl
  split
  · split <;> rfl
  · rfl

/-- Where the configuration is loaded, only the log is longer. -/
theorem exists_load_eq [Machine] [Loader] {given : Text} {w : Workspace}
    (h : (Config.load fault given w).1 = .ok s) :
    ∃ log, Config.load fault given w = (.ok s, ⟨w.tree, log⟩) := by
  have htree := load_tree fault given w
  rcases hload : Config.load fault given w with ⟨outcome, w'⟩
  rw [hload] at h htree
  exact ⟨w'.log, by rw [← h, ← htree]⟩

/-- Whether the program is asked to format some files, and gets as far as that. -/
structure Asks [Machine] [Loader] (fault : Option Fault) (arguments : List Text) (t : Tree)
    (o : Options) (s : Settings) (files : List Path) : Prop where
  request_eq : request arguments = .run o
  verb_eq : o.verb = .format
  not_interrupted : fault ≠ some .interrupt
  load_eq : (Config.load fault o.config ⟨t, []⟩).1 = .ok s
  targets_eq : targets t o.ext o.paths = .ok files
  files_ne_nil : files ≠ []

/-- A program that is asked to format gets to its files with the tree it started with. -/
theorem Asks.run_execute [Machine] [Loader] [Console] {arguments : List Text} {o : Options}
    {files : List Path} (h : Asks fault arguments t o s files) :
    ∃ log, (execute o fault).run.run ⟨⟨t, []⟩, []⟩ =
      (treat o fault s files).run.run ⟨⟨t, log⟩, []⟩ := by
  obtain ⟨log, hload⟩ := exists_load_eq h.load_eq
  have hsettings := run_onFiles (Config.load fault o.config) ⟨t, []⟩ []
  rw [hload] at hsettings
  have hhere : (Job.tree).run.run ⟨⟨t, log⟩, []⟩ = (.ok t, ⟨⟨t, log⟩, []⟩) := rfl
  have hverb : o.verb ≠ .init := by simp [h.verb_eq]
  obtain ⟨p, rest, hfiles⟩ := List.exists_cons_of_ne_nil h.files_ne_nil
  rw [execute, if_neg hverb, if_neg h.not_interrupted, run_bind_ok hsettings,
    run_bind_ok hhere, h.targets_eq, hfiles]
  exact ⟨log, rfl⟩

/-- What is printed at the end of a batch. -/
def concluded [Console] (mode : String) (rows : List Row) : Except ForeignError (List Text) :=
  if 1 < rows.length then
    bothPrinted (tableLines mode rows) (Console.message (totalsMessage rows))
  else .ok []

/-- The end of a batch is printed. -/
theorem prints_printTable [Console] (mode : String) (rows : List Row) :
    Prints (printTable mode rows) (concluded mode rows) := by
  rw [printTable, concluded]
  split
  · exact (prints_print _).bind (prints_say _)
  · exact prints_nothing

/-- A batch that has been formatted leaves its tree, and the exit status tells whether all files
succeed, unless the end of the batch cannot be printed. -/
theorem Asks.run_eq [Machine] [Loader] [Console] {arguments : List Text} {o : Options}
    {files : List Path} {reports : List Report} (h : Asks fault arguments t o s files) :
    ∃ log, ∀ session,
      (formatAll s fault o.isRehearsal o.showsDiff files).run.run ⟨⟨t, log⟩, []⟩ =
          (.ok reports, session) →
        (run fault arguments t).tree = session.workspace.tree ∧
          (∀ e, concluded "format" (reports.map rowOf) = .error e →
            (run fault arguments t).status = .error (.foreign e)) ∧
          ∀ lines, concluded "format" (reports.map rowOf) = .ok lines →
            (run fault arguments t).status = .ok (exitStatus (reports.all Report.success)) := by
  obtain ⟨log, hexecute⟩ := h.run_execute
  refine ⟨log, ?_⟩
  rintro ⟨w, lines⟩ hformat
  have hend := prints_printTable "format" (reports.map rowOf)
  rw [treat, h.verb_eq] at hexecute
  dsimp only at hexecute
  rw [run_bind_ok hformat] at hexecute
  rw [run, h.request_eq]
  dsimp only
  rw [hexecute]
  -- all is formatted and written before the table is printed
  cases hprinted : concluded "format" (reports.map rowOf) with
  | error e =>
    obtain ⟨after, hrun⟩ := hend.error hprinted w lines
    rw [run_bind_error hrun]
    exact ⟨rfl, fun e' he => by rw [Except.error.inj he]; rfl, by simp⟩
  | ok printed =>
    rw [run_bind_ok (hend.ok hprinted w lines)]
    exact ⟨rfl, by simp, fun _ _ => rfl⟩

/-- Whether a tree has each of some files as formatting it alone leaves it, and all else as it
was. -/
structure IsFormatted [Machine] (s : Settings) (fault : Option Fault) (rehearsal : Bool) (t : Tree)
    (files : List Path) (u : Tree) : Prop where
  named : ∀ p ∈ files, ∀ l, t.Names p l →
    u.entry? l = (formatFile s fault rehearsal p ⟨t, []⟩).2.tree.entry? l
  others : ∀ l, (∀ p ∈ files, ¬ t.Names p l) → u.entry? l = t.entry? l

/-- There is only one way to have formatted some files. -/
theorem IsFormatted.entry?_eq [Machine] {files files' : List Path} {u' : Tree}
    (hu : IsFormatted s fault rehearsal t files u) (hu' : IsFormatted s fault rehearsal t files' u')
    (hfiles : ∀ p, p ∈ files ↔ p ∈ files') (l : Location) :
    u.entry? l = u'.entry? l := by
  by_cases hnamed : ∃ p ∈ files, t.Names p l
  · obtain ⟨p, hp, hl⟩ := hnamed
    rw [hu.named p hp l hl, hu'.named p ((hfiles p).mp hp) l hl]
  · have hnone : ∀ p ∈ files, ¬ t.Names p l := fun p hp hl => hnamed ⟨p, hp, hl⟩
    rw [hu.others l hnone, hu'.others l fun p hp => hnone p ((hfiles p).mpr hp)]

/-- The exit status is zero for success only. -/
theorem exitStatus_eq_zero_iff (isSuccess : Bool) :
    exitStatus isSuccess = 0 ↔ isSuccess = true := by
  cases isSuccess <;> decide

/-- A batch from the start. -/
theorem formatAll_of_apart [Machine] [Console] {files : List Path} (hapart : t.Apart files)
    (s : Settings) (fault : Option Fault) (rehearsal showsDiff : Bool) (log : List LogEntry)
    (lines : List Text) :
    ∃ session, (formatAll s fault rehearsal showsDiff files).run.run ⟨⟨t, log⟩, lines⟩ =
        (files.mapM (fun p => reported showsDiff p (formatFile s fault rehearsal p ⟨t, []⟩).1),
          session) ∧
      ∀ reports, files.mapM (fun p =>
        reported showsDiff p (formatFile s fault rehearsal p ⟨t, []⟩).1) = .ok reports →
        IsFormatted s fault rehearsal t files session.workspace.tree := by
  have hkeeps : t.Keeps files t := ⟨Tree.Alike.refl t, fun _ _ _ _ => rfl⟩
  obtain ⟨outcome, session, h⟩ : ∃ outcome session,
      (formatAll s fault rehearsal showsDiff files).run.run ⟨⟨t, log⟩, lines⟩ =
          (outcome, session) := ⟨_, _, rfl⟩
  obtain ⟨rfl, htree⟩ := run_formatAll hapart hkeeps h
  refine ⟨session, h, fun reports hreports => ?_⟩
  obtain ⟨hnamed, hothers⟩ := htree reports hreports
  exact ⟨hnamed, hothers⟩

/-- Files of a batch do not influence each other, whatever the console and the reader of the
configuration do. Let paths name files, and no two of them the same. The loop over them returns
exactly the reports that can be made and printed for each file alone, and stops at the first one
that cannot. If it returns, it has made the reports that formatting each file alone makes, and the
tree has each file as formatting it alone leaves it, and all else as it was; in any other order the
reports and the entries are the same. The program then leaves this tree. It exits with status zero
exactly if all reports are successes, unless the console reports an error at the final table. -/
theorem formatAll_independent [Machine] [Loader] [Console] {showsDiff : Bool} {files : List Path}
    {log : List LogEntry} {lines : List Text} {outcome : Except Failure (List Report)}
    {session : Session} (hapart : t.Apart files)
    (h : (formatAll s fault rehearsal showsDiff files).run.run ⟨⟨t, log⟩, lines⟩ =
      (outcome, session)) :
    outcome = files.mapM (fun p =>
      reported showsDiff p (formatFile s fault rehearsal p ⟨t, []⟩).1) ∧
      ∀ reports, outcome = .ok reports →
        List.Forall₂ (fun p r => (formatFile s fault rehearsal p ⟨t, []⟩).1 = .ok r) files reports ∧
        IsFormatted s fault rehearsal t files session.workspace.tree ∧
        (∀ files', files'.Perm files → ∃ reports' session',
          (formatAll s fault rehearsal showsDiff files').run.run ⟨⟨t, log⟩, lines⟩ =
              (.ok reports', session') ∧
            reports'.Perm reports ∧
            ∀ l, session'.workspace.tree.entry? l = session.workspace.tree.entry? l) ∧
        ∀ arguments o, Asks fault arguments t o s files → o.isRehearsal = rehearsal →
          o.showsDiff = showsDiff →
            (∀ l, (run fault arguments t).tree.entry? l = session.workspace.tree.entry? l) ∧
            (∀ e, concluded "format" (reports.map rowOf) = .error e →
              (run fault arguments t).status = .error (.foreign e)) ∧
            ∀ printed, concluded "format" (reports.map rowOf) = .ok printed →
              ∃ n, (run fault arguments t).status = .ok n ∧
                (n = 0 ↔ ∀ r ∈ reports, r.success = true) := by
  obtain ⟨_, hrun, hformatted⟩ := formatAll_of_apart hapart s fault rehearsal showsDiff log lines
  obtain ⟨rfl, rfl⟩ := Prod.mk.inj (h.symm.trans hrun)
  refine ⟨rfl, fun reports hreports => ?_⟩
  have hformat := hformatted reports hreports
  have hall := mapM_eq_ok_iff.mp hreports
  have hmade : List.Forall₂ (fun p r => (formatFile s fault rehearsal p ⟨t, []⟩).1 = .ok r)
      files reports :=
    hall.imp fun p r hr => (reported_eq_ok_iff.mp hr).1
  refine ⟨hmade, hformat, ?_, ?_⟩
  · intro files' hperm
    -- the reports are those of the files alone, so they follow the files into the new order
    obtain ⟨reports', hall', hperm'⟩ := List.perm_comp_forall₂ hperm hall
    have hreports' := mapM_eq_ok_iff.mpr hall'
    obtain ⟨session', hrun', hformatted'⟩ :=
      formatAll_of_apart (hapart.perm hperm) s fault rehearsal showsDiff log lines
    rw [hreports'] at hrun'
    exact ⟨reports', session', hrun', hperm',
      (hformatted' reports' hreports').entry?_eq hformat fun p => hperm.mem_iff⟩
  · rintro arguments o hasks rfl rfl
    -- the program runs the same loop, only with what loading the configuration has logged
    obtain ⟨log', hprogram⟩ := hasks.run_eq
    obtain ⟨session', hrun', hformatted'⟩ :=
      formatAll_of_apart hapart s fault o.isRehearsal o.showsDiff log' []
    rw [hreports] at hrun'
    obtain ⟨htree, herror, hstatus⟩ := hprogram session' hrun'
    refine ⟨?_, herror, fun printed hprinted => ⟨_, hstatus printed hprinted, ?_⟩⟩
    · rw [htree]
      exact (hformatted' reports hreports).entry?_eq hformat fun p => Iff.rfl
    · rw [exitStatus_eq_zero_iff, List.all_eq_true]

/-! ## A file beside a missing one -/

theorem exists_of_isOk {ε α : Type} {x : Except ε α} (h : x.isOk = true) : ∃ a, x = .ok a := by
  cases x with
  | error e => cases h
  | ok a => exact ⟨a, rfl⟩

/-- A tree with a file that needs a space. -/
def commaTree : Tree :=
  [([['a']], .file [0x78, 0x2c, 0x79, 0x0a] 420)]

/-- The report on the file. -/
def commaReport : Report :=
  ⟨⟨[], [['a']]⟩, 1, .formatted, [['x', ',', 'y']], [['x', ',', ' ', 'y']], true, none⟩

/-- The file gets its space, and its report counts one fix. -/
theorem formatFile_commaTree :
    (formatFile .default none false ⟨[], [['a']]⟩ ⟨commaTree, []⟩).1 = .ok commaReport ∧
      (formatFile .default none false ⟨[], [['a']]⟩ ⟨commaTree, []⟩).2.tree.entry? [['a']] =
        some (.file [0x78, 0x2c, 0x20, 0x79, 0x0a] 420) := by
  have hread : readScript none commaTree ⟨[], [['a']]⟩ = .ok ⟨[['x', ',', 'y']], .feed⟩ := rfl
  have hfind : commaTree.find ⟨[], [['a']]⟩ = .found [['a']] (.file [0x78, 0x2c, 0x79, 0x0a] 420) :=
    rfl
  have hl : commaTree.location? ⟨[], [['a']]⟩ = some [['a']] := rfl
  have hformat : Script.format .default [['x', ',', 'y']] = .ok ⟨[['x', ',', ' ', 'y']], 1⟩ := rfl
  rw [formatFile, hread]
  dsimp only
  rw [hformat]
  dsimp only [Workspace.note, Workspace.noteAll]
  rw [storeScript_eq hfind hl]
  exact ⟨rfl, rfl⟩

/-- The file and a path that leads to no file are apart. -/
theorem apart_commaTree {other : Path} (h : commaTree.isFile other = false) :
    commaTree.Apart [other, ⟨[], [['a']]⟩] := by
  have hnone : ∀ l bytes mode, commaTree.find other ≠ .found l (.file bytes mode) := by
    intro l bytes mode hfind
    rw [Tree.isFile_of_find hfind] at h
    cases h
  constructor
  · intro p hp l bytes mode hfind
    rcases List.mem_cons.mp hp with rfl | hp
    · exact absurd hfind (hnone l bytes mode)
    · obtain rfl := List.mem_singleton.mp hp
      obtain ⟨rfl, -⟩ := Lookup.found.inj hfind
      rfl
  · refine List.pairwise_pair.mpr ?_
    rintro l ⟨-, bytes, mode, hfind⟩
    exact absurd hfind (hnone l bytes mode)

/-- A file is formatted although the path before it leads nowhere, and the program says that not all
is well. -/
theorem formatAll_independent_missing :
    ∃ reports session, (formatAll .default none false false [⟨[], [['b']]⟩, ⟨[], [['a']]⟩]).run.run
        ⟨⟨commaTree, []⟩, []⟩ = (.ok reports, session) ∧
      reports.map Report.success = [false, true] ∧
      session.workspace.tree.entry? [['a']] = some (.file [0x78, 0x2c, 0x20, 0x79, 0x0a] 420) ∧
      ∃ n, (run none ["format".toList, ['b'], ['a']] commaTree).status = .ok n ∧ n ≠ 0 := by
  have hapart : commaTree.Apart [⟨[], [['b']]⟩, ⟨[], [['a']]⟩] := apart_commaTree rfl
  have hmissing : (formatFile .default none false ⟨[], [['b']]⟩ ⟨commaTree, []⟩).1 =
      .ok (Report.unread ⟨[], [['b']]⟩ (.notFound ⟨[], [['b']]⟩)) := rfl
  have hprinted : (announced false ⟨[], [['b']]⟩
      (Report.unread ⟨[], [['b']]⟩ (.notFound ⟨[], [['b']]⟩))).isOk = true ∧
      (announced false ⟨[], [['a']]⟩ commaReport).isOk = true := by decide +kernel
  have hreports : [⟨[], [['b']]⟩, ⟨[], [['a']]⟩].mapM (fun p =>
        reported false p (formatFile .default none false p ⟨commaTree, []⟩).1) =
      .ok [Report.unread ⟨[], [['b']]⟩ (.notFound ⟨[], [['b']]⟩), commaReport] :=
    mapM_eq_ok_iff.mpr (.cons (reported_eq_ok_iff.mpr ⟨hmissing, exists_of_isOk hprinted.1⟩)
      (.cons (reported_eq_ok_iff.mpr ⟨formatFile_commaTree.1, exists_of_isOk hprinted.2⟩) .nil))
  rcases hrun : (formatAll .default none false false [⟨[], [['b']]⟩, ⟨[], [['a']]⟩]).run.run
    ⟨⟨commaTree, []⟩, []⟩ with ⟨outcome, session⟩
  obtain ⟨houtcome, hok⟩ := formatAll_independent hapart hrun
  obtain rfl := houtcome.trans hreports
  obtain ⟨-, hformatted, -, hprogram⟩ := hok _ rfl
  refine ⟨_, session, rfl, rfl, ?_, ?_⟩
  · rw [hformatted.named ⟨[], [['a']]⟩ (by simp) [['a']] ⟨rfl, _, _, rfl⟩]
    exact formatFile_commaTree.2
  · let o : Options :=
      ⟨.format, [['b'], ['a']], Settings.fileName, ".sh".toList, false, false, false⟩
    have hasks : Asks none ["format".toList, ['b'], ['a']] commaTree o .default
        [⟨[], [['b']]⟩, ⟨[], [['a']]⟩] :=
      ⟨by decide +kernel, rfl, by decide, rfl, rfl, by simp⟩
    have htable : (concluded "format" ([Report.unread ⟨[], [['b']]⟩ (.notFound ⟨[], [['b']]⟩),
        commaReport].map rowOf)).isOk = true := by decide +kernel
    obtain ⟨printed, hprinted⟩ := exists_of_isOk htable
    obtain ⟨-, -, hstatus⟩ := hprogram _ o hasks rfl rfl
    obtain ⟨n, hn, hzero⟩ := hstatus printed hprinted
    refine ⟨n, hn, fun hn => ?_⟩
    exact absurd (hzero.mp hn _ List.mem_cons_self) (by decide)

/-- The error that the plain console reports at a name that is read as the end of a style. -/
def stoppedError : ForeignError :=
  ⟨"MarkupError", "closing tag '[/b]' at position 46 doesn't match any open tag"⟩

/-- A missing file whose name is read as the end of a style stops the batch, and the file behind it
is not formatted although each of the two can be formatted alone. -/
theorem formatAll_stopped :
    commaTree.Apart [Path.ofText "[/b]".toList, ⟨[], [['a']]⟩] ∧
      (∃ r, (formatFile .default none false (Path.ofText "[/b]".toList) ⟨commaTree, []⟩).1 =
        .ok r) ∧
      (formatFile .default none false ⟨[], [['a']]⟩ ⟨commaTree, []⟩).1 = .ok commaReport ∧
      (formatFile .default none false ⟨[], [['a']]⟩ ⟨commaTree, []⟩).2.tree.entry? [['a']] =
        some (.file [0x78, 0x2c, 0x20, 0x79, 0x0a] 420) ∧
      ∃ session, (formatAll .default none false false
        [Path.ofText "[/b]".toList, ⟨[], [['a']]⟩]).run.run
          ⟨⟨commaTree, []⟩, []⟩ = (.error (.foreign stoppedError), session) ∧
        session.workspace.tree.entry? [['a']] = some (.file [0x78, 0x2c, 0x79, 0x0a] 420) := by
  have hread : readScript none commaTree (Path.ofText "[/b]".toList) =
      .error (.notFound (Path.ofText "[/b]".toList)) := rfl
  obtain ⟨hreport, htree⟩ := formatFile_unread .default false (w := ⟨commaTree, []⟩) hread
  have hstops : reported false (Path.ofText "[/b]".toList)
      (unreadOutcome (Path.ofText "[/b]".toList)
      (.notFound (Path.ofText "[/b]".toList))) = .error (.foreign stoppedError) := by decide +kernel
  rw [← hreport] at hstops
  obtain ⟨lines, hrun⟩ := run_formatAll_error hstops [⟨[], [['a']]⟩] []
  refine ⟨apart_commaTree rfl, ⟨_, hreport⟩, formatFile_commaTree.1,
    formatFile_commaTree.2, _, hrun, ?_⟩
  rw [htree]
  rfl

end ShellStyle.Command
