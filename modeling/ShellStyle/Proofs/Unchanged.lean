import ShellStyle.Proofs.FixCount
import ShellStyle.Proofs.Replace
import ShellStyle.Proofs.Source

/-!
# Files that need no formatting

A file whose lines come out as they are is written all the same, with the line ends that were read.
Since the bytes of a text are the only ones that are read as it, just two things can become
different: a byte order mark is lost, and a last line without a line end gets one. A file with
neither of them keeps its bytes.
-/

namespace ShellStyle

open Text

/-! ## Bytes with a line end -/

/-- Bytes with a line end behind the last line. -/
def LineEnd.endBytes (lineEnd : LineEnd) (bytes : List UInt8) : List UInt8 :=
  if bytes.getLast? = some 0x0a then bytes else bytes ++ encode lineEnd.text

theorem LineEnd.encode_text_ne_nil (lineEnd : LineEnd) : encode lineEnd.text ≠ [] := by
  cases lineEnd <;> exact List.cons_ne_nil _ _

theorem LineEnd.length_encode_text_le (lineEnd : LineEnd) : (encode lineEnd.text).length ≤ 2 := by
  cases lineEnd <;> decide

/-- Bytes that end in a line feed are left alone, and others get a line end. -/
theorem LineEnd.endBytes_eq_self_iff (lineEnd : LineEnd) (bytes : List UInt8) :
    lineEnd.endBytes bytes = bytes ↔ bytes.getLast? = some 0x0a := by
  rw [endBytes]
  split
  · next hfeed => exact iff_of_true rfl hfeed
  · next hfeed =>
    rw [List.append_right_eq_self]
    exact iff_of_false lineEnd.encode_text_ne_nil hfeed

/-- The bytes of a script's source, with a line end behind the last line. -/
theorem Source.encode_toText_ofText (t : Text) :
    encode (ofText t).toText = (ofText t).lineEnd.endBytes (encode t) := by
  rw [toText_ofText, LineEnd.endBytes]
  simp only [getLast?_encode]
  split
  · rfl
  · rw [encode_append]

/-- A line end is too short to make up for a byte order mark. -/
theorem LineEnd.endBytes_unmarkedBytes_eq_iff (lineEnd : LineEnd) (bytes : List UInt8) :
    lineEnd.endBytes (unmarkedBytes bytes) = bytes ↔
      ¬ markBytes <+: bytes ∧ bytes.getLast? = some 0x0a := by
  rcases unmarkedBytes_cases bytes with hmarked | ⟨hunmarked, hsame⟩
  · have hmark : markBytes <+: bytes := ⟨unmarkedBytes bytes, hmarked.symm⟩
    refine iff_of_false ?_ fun h => h.1 hmark
    intro heq
    have hlength := congrArg List.length (heq.trans hmarked)
    have hend := lineEnd.length_encode_text_le
    have hthree : markBytes.length = 3 := rfl
    rw [endBytes, List.length_append] at hlength
    split at hlength
    · omega
    · rw [List.length_append] at hlength
      omega
  · rw [hsame, lineEnd.endBytes_eq_self_iff]
    exact (and_iff_right hunmarked).symm

/-! ## Reports -/

/-- The safety check accepts no script without lines. -/
theorem Script.ne_nil_of_verify {source formatted : List Text}
    (h : verify source formatted = .accepted) :
    formatted ≠ [] := by
  rintro rfl
  cases h

/-- What is read is the script of the decoded bytes. -/
theorem decodeFile_of_readScript {fault : Option Fault} {tree : Tree} {p : Path} {l : Location}
    {bytes : List UInt8} {mode : Nat} {source : Source}
    (hfind : tree.find p = .found l (.file bytes mode)) (h : readScript fault tree p = .ok source) :
    ∃ t, decodeFile bytes = .ok t ∧ Source.ofText t = source := by
  rw [readScript, hfind] at h
  dsimp only at h
  split at h
  · cases h
  · split at h
    · next t hdecode => exact ⟨t, hdecode, Except.ok.inj h⟩
    · cases h

/-- A script that is reported as unchanged has lines, and they are written as they are. -/
theorem formatEffect_unchanged [Machine] {s : Settings} {fault : Option Fault} {p : Path}
    {place : Except SystemError Location} {mode : Nat} {source : Source} {r : Report}
    (h : (formatEffect s fault false p place mode source).1 = .ok r) (hsuccess : r.success = true)
    (hstatus : r.status = .unchanged) :
    r.fixes = 0 ∧ source.lines ≠ [] ∧
      (formatEffect s fault false p place mode source).2 =
        some (.file (encode source.toText) mode) := by
  unfold formatEffect at h ⊢
  cases hformat : Script.format s source.lines with
  | error e => simp [hformat] at h
  | ok formatted =>
    rw [hformat] at h
    dsimp only at h ⊢
    cases hrefusal : storeRefusal? fault false p place source formatted.lines with
    | some e =>
      rw [hrefusal] at h
      obtain rfl := Except.ok.inj h
      cases hsuccess
    | none =>
      rw [hrefusal] at h
      obtain rfl := Except.ok.inj h
      -- the status speaks of the lines; that the check accepted them rules out that there are none
      have hsame : formatted.lines = source.lines :=
        (Report.status_ofFormatted p false _ _).mp hstatus
      have haccepted : Script.verify source.lines formatted.lines = .accepted := by
        rw [storeRefusal?] at hrefusal
        cases hverify : Script.verify source.lines formatted.lines with
        | accepted => rfl
        | emptyOutput => simp [hverify] at hrefusal
        | heredocsChanged before after => simp [hverify] at hrefusal
      refine ⟨(Script.fixes_eq_zero_iff_of_format hformat).mpr hsame,
        hsame ▸ Script.ne_nil_of_verify haccepted, ?_⟩
      rw [hsame]
      rfl

/-- What happens to a file that is reported as unchanged. Let a path name a file, and let formatting
it be a success whose status says that the file is unchanged. Then no fix is counted, and the file
has its mode and the bytes it had, without a byte order mark at their start and with a line end
behind the last line. So it is left alone exactly if it does not begin with the mark and ends in a
line feed. -/
theorem formatFile_unchanged [Machine] {s : Settings} {fault : Option Fault} {p : Path}
    {l : Location} {old : List UInt8} {mode : Nat} {w w' : Workspace} {r : Report}
    (hl : w.tree.location? p = some l) (hentry : w.tree.entry? l = some (.file old mode))
    (h : formatFile s fault false p w = (.ok r, w')) (hsuccess : r.success = true)
    (hstatus : r.status = .unchanged) :
    r.fixes = 0 ∧
      (∃ source, readScript fault w.tree p = .ok source ∧
        w'.tree.entry? l = some (.file (source.lineEnd.endBytes (unmarkedBytes old)) mode)) ∧
      (w'.tree.entry? l = w.tree.entry? l ↔ ¬ markBytes <+: old ∧ old.getLast? = some 0x0a) := by
  rcases formatFile_spec h with ⟨hinput, -⟩ | ⟨source, -, hread, -, -⟩
  · simp [hinput] at hstatus
  obtain ⟨l', bytes, mode', hfind⟩ := exists_find_of_readScript hread
  obtain ⟨-, rfl, rfl⟩ := Tree.find_file_eq hfind hl hentry
  obtain ⟨hreport, htree⟩ := formatFile_eq s false hfind hl hread
  rw [h] at hreport htree
  obtain ⟨hfixes, hlines, hstored⟩ := formatEffect_unchanged hreport.symm hsuccess hstatus
  obtain ⟨t, hdecode, rfl⟩ := decodeFile_of_readScript hfind hread
  -- an empty text has no lines, and the safety check refuses a script without lines
  have ht : t ≠ [] := by
    rintro rfl
    exact hlines rfl
  have hfile : w.tree.entry? l ≠ some .directory := by simp [hentry]
  have hwritten : w'.tree.entry? l =
      some (.file ((Source.ofText t).lineEnd.endBytes (unmarkedBytes bytes)) mode') := by
    rw [htree, hstored, unmarkedBytes_of_decodeFile hdecode ht, ← Source.encode_toText_ofText]
    exact Tree.entry?_set_self hfile w.tree _
  refine ⟨hfixes, ⟨_, hread, hwritten⟩, ?_⟩
  rw [hwritten, hentry, ← LineEnd.endBytes_unmarkedBytes_eq_iff (Source.ofText t).lineEnd]
  simp

/-- A line that needs no fix is reported as unchanged, and written with the line end that was
read. -/
theorem formatFile_settled {bytes : List UInt8} {lineEnd : LineEnd}
    (hread : readScript none [([['a']], .file bytes 493)] ⟨[], [['a']]⟩ = .ok ⟨[['x']], lineEnd⟩) :
    ∃ r w', formatFile .default none false ⟨[], [['a']]⟩ ⟨[([['a']], .file bytes 493)], []⟩ =
      (.ok r, w') ∧
      r.success = true ∧ r.status = .unchanged ∧ r.fixes = 0 ∧
      w'.tree.entry? [['a']] = some (.file (0x78 :: encode lineEnd.text) 493) := by
  have hformat : Script.format .default [['x']] = .ok ⟨[['x']], 0⟩ := rfl
  have hfind : Tree.find [([['a']], .file bytes 493)] ⟨[], [['a']]⟩ =
      .found [['a']] (.file bytes 493) := rfl
  have hl : Tree.location? [([['a']], .file bytes 493)] ⟨[], [['a']]⟩ = some [['a']] := rfl
  rw [formatFile, hread]
  dsimp only
  rw [hformat]
  dsimp only [Workspace.note, Workspace.noteAll]
  rw [storeScript_eq hfind hl]
  exact ⟨_, _, rfl, rfl, rfl, rfl, rfl⟩

/-- A file whose line ends in both characters is left alone. -/
theorem formatFile_unchanged_returnFeed :
    ∃ r w', formatFile .default none false ⟨[], [['a']]⟩
        ⟨[([['a']], .file [0x78, 0x0d, 0x0a] 493)], []⟩ =
        (.ok r, w') ∧
      r.fixes = 0 ∧ w'.tree.entry? [['a']] = some (.file [0x78, 0x0d, 0x0a] 493) := by
  have hread : readScript none [([['a']], .file [0x78, 0x0d, 0x0a] 493)] ⟨[], [['a']]⟩ =
      .ok ⟨[['x']], .returnFeed⟩ := rfl
  obtain ⟨r, w', h, hsuccess, hstatus, -⟩ := formatFile_settled hread
  obtain ⟨hfixes, -, hsame⟩ := formatFile_unchanged rfl rfl h hsuccess hstatus
  exact ⟨r, w', h, hfixes, hsame.mpr (by decide)⟩

/-- A file that is reported as unchanged loses its byte order mark, and another one gets a line
end. -/
theorem formatFile_unchanged_not_kept :
    (∃ r w', formatFile .default none false ⟨[], [['a']]⟩
          ⟨[([['a']], .file [0xef, 0xbb, 0xbf, 0x78, 0x0a] 493)], []⟩ = (.ok r, w') ∧
        r.success = true ∧ r.status = .unchanged ∧ r.fixes = 0 ∧
        w'.tree.entry? [['a']] = some (.file [0x78, 0x0a] 493)) ∧
      ∃ r w', formatFile .default none false ⟨[], [['a']]⟩ ⟨[([['a']], .file [0x78] 493)], []⟩ =
        (.ok r, w') ∧
        r.success = true ∧ r.status = .unchanged ∧ r.fixes = 0 ∧
        w'.tree.entry? [['a']] = some (.file [0x78, 0x0a] 493) := by
  have hmarked : readScript none [([['a']], .file [0xef, 0xbb, 0xbf, 0x78, 0x0a] 493)]
      ⟨[], [['a']]⟩ =
      .ok ⟨[['x']], .feed⟩ := rfl
  have hunended : readScript none [([['a']], .file [0x78] 493)] ⟨[], [['a']]⟩ =
      .ok ⟨[['x']], .feed⟩ := rfl
  exact ⟨formatFile_settled hmarked, formatFile_settled hunended⟩

end ShellStyle
