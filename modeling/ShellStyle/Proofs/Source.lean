import ShellStyle.File.Script
import ShellStyle.Proofs.Text
import ShellStyle.Proofs.Utf8

/-!
# Writing a script back

A text is its lines with a line feed behind each, and a last line without one. Put together again
with their line end the lines of a script are the text they come from, with a line end added if the
last line has none. Reading what was written gives the same script unless the line end that is added
makes a carriage return a part of a line end, or the text begins with the mark that files are read
without.
-/

namespace ShellStyle

namespace Text

/-! ## Splitting -/

/-- No separator is left in a piece. -/
theorem not_mem_of_mem_splitAt {sep : Char} {t piece : Text} (h : piece ∈ splitAt sep t) :
    sep ∉ piece := by
  induction t generalizing piece with
  | nil =>
    obtain rfl := List.mem_singleton.mp h
    exact List.not_mem_nil
  | cons c t ih =>
    rw [splitAt] at h
    split at h
    · rcases List.mem_cons.mp h with rfl | h
      · exact List.not_mem_nil
      · exact ih h
    · next hc =>
      obtain ⟨first, pieces, hsplit⟩ := List.exists_cons_of_ne_nil (splitAt_ne_nil sep t)
      rw [hsplit] at h ih
      rcases List.mem_cons.mp h with rfl | h
      · exact List.not_mem_cons_of_ne_of_not_mem (Ne.symm hc) (ih List.mem_cons_self)
      · exact ih (List.mem_cons_of_mem first h)

theorem splitAt_of_not_mem {sep : Char} {t : Text} (h : sep ∉ t) : splitAt sep t = [t] := by
  induction t with
  | nil => rfl
  | cons c t ih =>
    obtain ⟨hc, ht⟩ := List.ne_and_not_mem_of_not_mem_cons h
    exact splitAt_cons (Ne.symm hc) (ih ht)

/-- The first piece goes up to the first separator. -/
theorem splitAt_append_cons {sep : Char} {piece : Text} (h : sep ∉ piece) (t : Text) :
    splitAt sep (piece ++ sep :: t) = piece :: splitAt sep t := by
  induction piece with
  | nil => rw [List.nil_append, splitAt, if_pos rfl]
  | cons c piece ih =>
    obtain ⟨hc, hpiece⟩ := List.ne_and_not_mem_of_not_mem_cons h
    exact splitAt_cons (Ne.symm hc) (ih hpiece)

end Text

namespace Source

variable {ended : List Text} {last : Text}

/-! ## Lines and the rest -/

/-- Lines with a line feed behind each, and one without. -/
def unsplit (ended : List Text) (last : Text) : Text :=
  ended.flatMap (· ++ ['\n']) ++ last

/-- A text is split into the lines that it was put together from. -/
theorem terminated_unsplit (hended : ∀ line ∈ ended, '\n' ∉ line) (hlast : '\n' ∉ last) :
    terminated (unsplit ended last) = (ended, last) := by
  have hsplit : Text.splitAt '\n' (unsplit ended last) = ended ++ [last] := by
    induction ended with
    | nil => exact Text.splitAt_of_not_mem hlast
    | cons line ended ih =>
      have hcons : unsplit (line :: ended) last = line ++ '\n' :: unsplit ended last := by
        simp [unsplit]
      rw [hcons, Text.splitAt_append_cons (hended line List.mem_cons_self),
        ih fun other hmem => hended other (List.mem_cons_of_mem line hmem), List.cons_append]
  simp [terminated, hsplit]

/-- Every text is lines with line feeds behind them, and a rest. -/
theorem exists_unsplit (t : Text) :
    ∃ ended last, (∀ line ∈ ended, '\n' ∉ line) ∧ '\n' ∉ last ∧ t = unsplit ended last := by
  obtain ⟨ended, last, hsplit⟩ :=
    (List.eq_nil_or_concat (Text.splitAt '\n' t)).resolve_left (Text.splitAt_ne_nil '\n' t)
  rw [List.concat_eq_append] at hsplit
  have hpieces : ∀ piece ∈ ended ++ [last], '\n' ∉ piece := fun piece hmem =>
    Text.not_mem_of_mem_splitAt (hsplit ▸ hmem)
  refine ⟨ended, last, fun line hmem => hpieces line (List.mem_append_left [last] hmem),
    hpieces last (List.mem_append_right ended (List.mem_singleton_self last)), ?_⟩
  rw [unsplit, ← Text.joinWith_concat, ← hsplit, Text.joinWith_splitAt]

theorem unsplit_concat (ended : List Text) (last : Text) :
    unsplit (ended ++ [last]) [] = unsplit ended last ++ ['\n'] := by
  simp [unsplit]

/-- A text ends in a line feed if there are lines and no rest. -/
theorem getLast?_unsplit (hlast : '\n' ∉ last) :
    (unsplit ended last).getLast? = some '\n' ↔ ended ≠ [] ∧ last = [] := by
  rcases List.eq_nil_or_concat last with rfl | ⟨front, c, rfl⟩
  · rcases List.eq_nil_or_concat ended with rfl | ⟨lines, line, rfl⟩
    · simp [unsplit]
    · simp [List.concat_eq_append, unsplit_concat]
  · rw [List.concat_eq_append] at hlast ⊢
    have hc : c ≠ '\n' := fun heq => hlast (by simp [heq])
    simp [unsplit, ← List.append_assoc, hc]

theorem mem_unsplit (hended : ended ≠ []) (last : Text) : '\n' ∈ unsplit ended last := by
  obtain ⟨line, rest, rfl⟩ := List.exists_cons_of_ne_nil hended
  simp [unsplit]

/-! ## The script of a text -/

/-- Whether carriage returns are part of the line ends. -/
def usesReturns (ended : List Text) : Bool :=
  !ended.isEmpty && ended.all endsInReturn

theorem usesReturns_concat (ended : List Text) (line : Text) :
    usesReturns (ended ++ [line]) = (ended.all endsInReturn && endsInReturn line) := by
  simp [usesReturns, List.all_append]

/-- The script of a text is its lines and its rest, without returns if all lines have one. -/
theorem ofText_unsplit (hended : ∀ line ∈ ended, '\n' ∉ line) (hlast : '\n' ∉ last) :
    ofText (unsplit ended last) =
      if usesReturns ended then ⟨ended.map List.dropLast ++ if last.isEmpty then []
        else [last], .returnFeed⟩
      else ⟨ended ++ if last.isEmpty then [] else [last], .feed⟩ := by
  rw [ofText, terminated_unsplit hended hlast]
  rfl

/-- The return that is dropped can be put back. -/
theorem dropLast_append_return {line : Text} (h : endsInReturn line = true) :
    line.dropLast ++ ['\r'] = line := by
  obtain ⟨front, rfl⟩ := List.getLast?_eq_some_iff.mp (of_decide_eq_true h)
  rw [List.dropLast_concat]

theorem endsInReturn_concat (line : Text) : endsInReturn (line ++ ['\r']) = true := by
  simp [endsInReturn]

/-- Lines without their carriage returns, with both characters behind each. -/
theorem flatMap_map_dropLast (h : ended.all endsInReturn = true) :
    (ended.map List.dropLast).flatMap (· ++ LineEnd.returnFeed.text) =
      ended.flatMap (· ++ ['\n']) := by
  induction ended with
  | nil => rfl
  | cons line ended ih =>
    rw [List.all_cons, Bool.and_eq_true] at h
    have hline : line.dropLast ++ LineEnd.returnFeed.text = line ++ ['\n'] := by
      calc line.dropLast ++ LineEnd.returnFeed.text = line.dropLast ++ ['\r'] ++ ['\n'] := by
            simp [LineEnd.text]
        _ = line ++ ['\n'] := by rw [dropLast_append_return h.1]
    rw [List.map_cons, List.flatMap_cons, List.flatMap_cons, ih h.2, hline]

/-- A script with lines is written with a line end behind each. -/
theorem toText_of_ne_nil {s : Source} (h : s.lines ≠ []) :
    s.toText = s.lines.flatMap (· ++ s.lineEnd.text) := by
  obtain ⟨front, line, hlines⟩ := (List.eq_nil_or_concat s.lines).resolve_left h
  rw [List.concat_eq_append] at hlines
  rw [toText, hlines, Text.joinWith_concat, List.flatMap_append]
  simp

/-- The text of a script's source, with a line end behind the last line. -/
theorem toText_ofText (t : Text) :
    (ofText t).toText = if t.getLast? = some '\n' then t else t ++ (ofText t).lineEnd.text := by
  obtain ⟨ended, last, hended, hlast, rfl⟩ := exists_unsplit t
  simp only [getLast?_unsplit hlast]
  by_cases hempty : ended = [] ∧ last = []
  · obtain ⟨rfl, rfl⟩ := hempty
    rfl
  have hlines : (ofText (unsplit ended last)).lines ≠ [] := by
    rw [ofText_unsplit hended hlast]
    cases usesReturns ended <;> cases last <;> simp at hempty ⊢ <;> exact hempty
  rw [toText_of_ne_nil hlines, ofText_unsplit hended hlast]
  cases hreturns : usesReturns ended with
  | true =>
    have hall : ended.all endsInReturn = true := (Bool.and_eq_true_iff.mp hreturns).2
    have hne : ended ≠ [] := by
      rintro rfl
      simp [usesReturns] at hreturns
    cases last with
    | nil => simp [hne, unsplit, flatMap_map_dropLast hall]
    | cons c last => simp [unsplit, flatMap_map_dropLast hall]
  | false =>
    cases last with
    | nil =>
      have hne : ended ≠ [] := fun hnil => hempty ⟨hnil, rfl⟩
      simp [hne, unsplit, LineEnd.text]
    | cons c last => simp [unsplit, LineEnd.text]

theorem getLast?_toText (s : Source) : s.toText.getLast? = some '\n' := by
  cases hend : s.lineEnd <;> simp [toText, hend, LineEnd.text]

/-! ## Reading what was written -/

theorem forall_mem_concat (hended : ∀ line ∈ ended, '\n' ∉ line) (hlast : '\n' ∉ last) :
    ∀ line ∈ ended ++ [last], '\n' ∉ line :=
  List.forall_mem_append.mpr ⟨hended, List.forall_mem_singleton.mpr hlast⟩

/-- A line end behind the last line is read as that, unless it makes the only line end in both
characters. -/
theorem ofText_unsplit_lineEnd (hended : ∀ line ∈ ended, '\n' ∉ line) (hlast : '\n' ∉ last)
    (hne : last ≠ []) :
    ofText (unsplit ended last ++ (ofText (unsplit ended last)).lineEnd.text) =
      ofText (unsplit ended last) ↔
      ¬ (ended = [] ∧ endsInReturn last = true) := by
  have hrest : last.isEmpty = false := by simpa using hne
  rw [ofText_unsplit hended hlast, hrest]
  cases hreturns : usesReturns ended with
  | true =>
    obtain ⟨hsome, hall⟩ := Bool.and_eq_true_iff.mp hreturns
    have hlines := forall_mem_concat hended (show '\n' ∉ last ++ ['\r'] by simp [hlast])
    have htext : unsplit ended last ++ LineEnd.returnFeed.text =
        unsplit (ended ++ [last ++ ['\r']]) [] := by
      simp [unsplit, LineEnd.text]
    have huses : usesReturns (ended ++ [last ++ ['\r']]) = true := by
      rw [usesReturns_concat, hall, endsInReturn_concat]
      rfl
    have hcons : ended ≠ [] := by simpa using hsome
    rw [if_pos rfl, htext, ofText_unsplit hlines List.not_mem_nil, huses]
    simp [hcons]
  | false =>
    have hlines := forall_mem_concat hended hlast
    have htext : unsplit ended last ++ LineEnd.feed.text = unsplit (ended ++ [last]) [] :=
      (unsplit_concat ended last).symm
    -- with the line end that is added, a single line may seem to end in a return and a feed
    have huses : usesReturns (ended ++ [last]) = true ↔ ended = [] ∧ endsInReturn last = true := by
      rw [usesReturns_concat]
      cases ended with
      | nil => simp
      | cons line ended =>
        have hsome : (line :: ended).all endsInReturn = false := hreturns
        simp [hsome]
    rw [if_neg Bool.false_ne_true, htext, ofText_unsplit hlines List.not_mem_nil, ← huses]
    cases usesReturns (ended ++ [last]) <;> simp

/-- The script that is read from what was written. -/
theorem ofText_toText_ofText {t : Text} (ht : t ≠ []) :
    ofText (ofText t).toText = ofText t ↔ ¬ ('\n' ∉ t ∧ t.getLast? = some '\r') := by
  rw [toText_ofText]
  split
  · next hfeed => simp [List.mem_of_getLast? hfeed]
  · next hfeed =>
    obtain ⟨ended, last, hended, hlast, rfl⟩ := exists_unsplit t
    rw [getLast?_unsplit hlast] at hfeed
    have hne : last ≠ [] := by
      rintro rfl
      obtain rfl : ended = [] := Classical.not_not.mp fun hne => hfeed ⟨hne, rfl⟩
      exact ht rfl
    rw [ofText_unsplit_lineEnd hended hlast hne]
    cases ended with
    | nil => simp [unsplit, hlast, endsInReturn]
    | cons line ended => simp [mem_unsplit (List.cons_ne_nil line ended) last]

/-- A text with a line feed at its end has more to it than its rest. -/
theorem ofText_tail_ne {t : Text} {c : Char} {u : Text} (ht : (ofText t).toText = c :: u)
    (hc : c ≠ '\n') :
    ofText u ≠ ofText t := by
  intro heq
  have hlast : (c :: u).getLast? = some '\n' := ht ▸ getLast?_toText (ofText t)
  have hu : u.getLast? = some '\n' := by
    cases u with
    | nil => exact absurd (Option.some.inj hlast) hc
    | cons d u => rwa [List.getLast?_cons_cons] at hlast
  have htext := toText_ofText u
  rw [if_pos hu, heq, ht] at htext
  exact List.cons_ne_self c u htext

/-- A script that is read and written begins as it did. -/
theorem head?_toText_ofText {t : Text} (ht : t ≠ []) : (ofText t).toText.head? = t.head? := by
  obtain ⟨c, u, rfl⟩ := List.exists_cons_of_ne_nil ht
  rw [toText_ofText]
  split <;> rfl

/-- The script that is read from the bytes of what was written. -/
theorem ofText_unmarked_toText {t : Text} (ht : t ≠ []) :
    ofText (Text.unmarked (ofText t).toText) = ofText t ↔
      ¬ ('\n' ∉ t ∧ t.getLast? = some '\r' ∨ t.head? = some '\ufeff') := by
  rw [not_or, ← ofText_toText_ofText ht, Text.unmarked, head?_toText_ofText ht]
  split
  · next hmark =>
    have hhead := (head?_toText_ofText ht).trans hmark
    obtain ⟨u, hu⟩ := List.head?_eq_some_iff.mp hhead
    have hne := ofText_tail_ne hu (by decide)
    simp [hu, hne, hmark]
  · next hmark => simp [hmark]

end Source

/-! ## Files -/

/-- A file that can be decoded is read. -/
theorem readScript_of_file {tree : Tree} {p : Path} {l : Location} {bytes : List UInt8} {mode : Nat}
    {t : Text} (hfile : tree.find p = .found l (.file bytes mode))
    (hdecode : Text.decodeFile bytes = .ok t) :
    readScript none tree p = .ok (Source.ofText t) := by
  rw [readScript, hfile]
  dsimp only
  rw [if_neg (by simp), hdecode]

/-- Writing back what was read is faithful. A file that holds the text `t` is read as a script whose
text is `t`, with a line end added if `t` does not end in a line feed. Unless `t` is empty, a file
with the bytes of that text is read as the same script again, with two exceptions: `t` has no line
feed and ends in a carriage return, or `t` begins with a byte order mark. -/
theorem readScript_faithful {tree : Tree} {p : Path} {l : Location} {bytes : List UInt8}
    {mode : Nat} {t : Text} (hfile : tree.find p = .found l (.file bytes mode))
    (hdecode : Text.decodeFile bytes = .ok t) :
    ∃ source, readScript none tree p = .ok source ∧
      source.toText = (if t.getLast? = some '\n' then t else t ++ source.lineEnd.text) ∧
      (t ≠ [] → ∀ tree' p' l' mode',
        tree'.find p' = .found l' (.file (Text.encode source.toText) mode') →
        (readScript none tree' p' = .ok source ↔
          ¬ ('\n' ∉ t ∧ t.getLast? = some '\r' ∨ t.head? = some '\ufeff'))) := by
  refine ⟨Source.ofText t, readScript_of_file hfile hdecode, Source.toText_ofText t, ?_⟩
  intro ht tree' p' l' mode' hwritten
  rw [readScript_of_file hwritten (Text.decodeFile_encode _), ← Source.ofText_unmarked_toText ht]
  exact ⟨Except.ok.inj, congrArg Except.ok⟩

/-- The last line of a file has no line end, and the others end in both characters. -/
theorem readScript_faithful_unended :
    ∃ tree p l bytes mode, Tree.find tree p = .found l (.file bytes mode) ∧
      Text.decodeFile bytes = .ok ['x', '\r', '\n', 'y'] ∧
      ∃ source, readScript none tree p = .ok source ∧
        source.toText = ['x', '\r', '\n', 'y', '\r', '\n'] ∧
        ∃ tree' p', readScript none tree' p' = .ok source ∧
          tree'.find p' = .found [['b']] (.file (Text.encode source.toText) 420) := by
  have hfile : Tree.find [([['a']], .file [0x78, 0x0d, 0x0a, 0x79] 420)] ⟨[], [['a']]⟩ =
      .found [['a']] (.file [0x78, 0x0d, 0x0a, 0x79] 420) := rfl
  have hdecode : Text.decodeFile [0x78, 0x0d, 0x0a, 0x79] = .ok ['x', '\r', '\n', 'y'] := rfl
  obtain ⟨source, hread, htext, hagain⟩ := readScript_faithful hfile hdecode
  obtain rfl : (⟨[['x'], ['y']], .returnFeed⟩ : Source) = source := Except.ok.inj hread
  have hwritten : Tree.find [([['b']], .file [0x78, 0x0d, 0x0a, 0x79, 0x0d, 0x0a] 420)]
      ⟨[], [['b']]⟩ =
      .found [['b']] (.file (Text.encode (Source.toText ⟨[['x'], ['y']], .returnFeed⟩)) 420) := rfl
  exact ⟨_, _, _, _, _, hfile, hdecode, _, hread, htext, _, _,
    (hagain (by simp) _ _ _ _ hwritten).mpr (by simp), hwritten⟩

end ShellStyle
