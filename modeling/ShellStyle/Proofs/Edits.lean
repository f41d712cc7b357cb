import ShellStyle.Fix.Guard

/-!
# Hits and edits

A fixer searches a line with a matcher and replaces hits. `Scanned` says what comes of that: the
line is passed character by character where the matcher finds nothing and hit by hit where it does.
`Rewritten` forgets the matcher and keeps the pieces that were replaced; whatever is to be known
about edited lines is shown for one piece at a time.
-/

namespace ShellStyle

open Text

/-! ## Rewriting piece by piece -/

/-- A text and what edits make of it, behind the prefix `p`: characters are kept, or a piece is
replaced by another as `P` allows it behind the prefix it then has. -/
inductive Rewritten (P : Text → Text → Text → Prop) : Text → Text → Text → Prop
  | nil (p : Text) : Rewritten P p [] []
  | keep {p t u : Text} (c : Char) (h : Rewritten P (p ++ [c]) t u) :
      Rewritten P p (c :: t) (c :: u)
  | edit {p a b t u : Text} (hP : P p a b) (h : Rewritten P (p ++ a) t u) :
      Rewritten P p (a ++ t) (b ++ u)

namespace Rewritten

variable {P : Text → Text → Text → Prop}

theorem append {p a b t u : Text} (hab : Rewritten P p a b) (htu : Rewritten P (p ++ a) t u) :
    Rewritten P p (a ++ t) (b ++ u) := by
  induction hab with
  | nil p => simpa using htu
  | keep c _ ih => exact .keep c (ih (by simpa using htu))
  | edit hP _ ih =>
    rw [List.append_assoc, List.append_assoc]
    exact .edit hP (ih (by simpa using htu))

/-- A text may stay as it is. -/
theorem refl (p t : Text) : Rewritten P p t t := by
  induction t generalizing p with
  | nil => exact .nil p
  | cons c t ih => exact .keep c (ih (p ++ [c]))

/-- Edits of one kind are edits of a wider kind. -/
theorem mono {Q : Text → Text → Text → Prop} (hPQ : ∀ p a b, P p a b → Q p a b) {p t u : Text}
    (h : Rewritten P p t u) : Rewritten Q p t u := by
  induction h with
  | nil p => exact .nil p
  | keep c _ ih => exact .keep c ih
  | edit hP _ ih => exact .edit (hPQ _ _ _ hP) ih

theorem single {p a b : Text} (hP : P p a b) : Rewritten P p a b := by
  simpa using Rewritten.edit hP (.nil (p ++ a))

end Rewritten

/-! ## Edits in order -/

/-- A text from a position on is the piece up to a later position and the text from there on. -/
theorem slice_append_drop {t : Text} {i j : Nat} (h : i ≤ j) :
    slice t ⟨i, j⟩ ++ t.drop j = t.drop i := by
  have key := List.take_append_drop (j - i) (t.drop i)
  rwa [List.drop_drop, show i + (j - i) = j by omega] at key

/-- A text up to a position is the text up to an earlier one and the piece between. -/
theorem take_append_slice {t : Text} {i j : Nat} (h : i ≤ j) :
    t.take i ++ slice t ⟨i, j⟩ = t.take j := by
  rw [slice, show j = i + (j - i) by omega, List.take_add, show i + (j - i) - i = j - i by omega]

/-- Spans that stand one behind the other between two positions. -/
def Span.InOrder (pos stop : Nat) : List Span → Prop
  | [] => pos ≤ stop
  | span :: rest => pos ≤ span.start ∧ span.start ≤ span.stop ∧ InOrder span.stop stop rest

/-- Edits in order rewrite a text if each rewrites its own piece. -/
theorem spliceFrom_rewritten {P : Text → Text → Text → Prop} {line : Text} {edits : List Edit}
    {pos : Nat} (horder : Span.InOrder pos line.length (edits.map Edit.span))
    (hP : ∀ e ∈ edits, Rewritten P (line.take e.span.start) (slice line e.span) e.text) :
    Rewritten P (line.take pos) (line.drop pos) (spliceFrom pos edits (line.drop pos)) := by
  induction edits generalizing pos with
  | nil => exact .refl _ _
  | cons e rest ih =>
    obtain ⟨hstart, hstop, hrest⟩ := horder
    have hnow := hP e List.mem_cons_self
    have hlater := ih hrest fun e' h => hP e' (List.mem_cons_of_mem e h)
    have hdrop : (line.drop pos).drop (e.span.stop - pos) = line.drop e.span.stop := by
      rw [List.drop_drop, show pos + (e.span.stop - pos) = e.span.stop by omega]
    -- the text from `pos` on is cut before and behind the first edit
    rw [spliceFrom, hdrop, List.append_assoc, ← slice_append_drop hstart, ← slice_append_drop hstop]
    refine .append ?_ (.append ?_ ?_)
    · rw [slice_append_drop hstop, slice_append_drop hstart]
      exact .refl _ _
    · rw [take_append_slice hstart]
      exact hnow
    · rw [take_append_slice hstart, take_append_slice hstop]
      exact hlater

/-- Edits in order rewrite a line if each rewrites its own piece. -/
theorem splice_rewritten {P : Text → Text → Text → Prop} {line : Text} {edits : List Edit}
    (horder : Span.InOrder 0 line.length (edits.map Edit.span))
    (hP : ∀ e ∈ edits, Rewritten P (line.take e.span.start) (slice line e.span) e.text) :
    Rewritten P [] line (splice edits line) := by
  simpa [splice] using spliceFrom_rewritten horder hP

/-! ## Hits -/

namespace Matcher

variable {α : Type}

/-- A matcher that reads at least one character and none that is not there. -/
def IsBounded (m : Matcher α) : Prop :=
  ∀ before t a n, m before t = some (a, n) → 0 < n ∧ n ≤ t.length

/-- A matcher that reads the piece which belongs to what it answers. -/
def Reads (m : Matcher α) (piece : α → Text) : Prop :=
  ∀ before t a n, m before t = some (a, n) → piece a ≠ [] ∧ n = (piece a).length ∧ piece a <+: t

theorem Reads.isBounded {m : Matcher α} {piece : α → Text} (hm : m.Reads piece) : m.IsBounded := by
  intro before t a n h
  obtain ⟨hne, rfl, hpre⟩ := hm before t a n h
  exact ⟨List.length_pos_iff.mpr hne, hpre.length_le⟩

/-- What a matcher reads is the piece for its value. -/
theorem Reads.eq_piece {m : Matcher α} {piece : α → Text} (hm : m.Reads piece)
    {before : Option Char} {a t : Text} {v : α} (h : m before (a ++ t) = some (v, a.length)) :
    a = piece v := by
  obtain ⟨-, hlength, hpre⟩ := hm before (a ++ t) v a.length h
  exact (List.prefix_of_prefix_length_le (List.prefix_append a t) hpre
    (Nat.le_of_eq hlength)).eq_of_length hlength

/-- The hits behind a prefix `p` of a line: each is what the matcher finds at its place. -/
theorem hitsFrom_spec {m : Matcher α} (p : Text) (skip : Nat) (t : Text) {hit : Hit α}
    (h : hit ∈ m.hitsFrom p.getLast? p.length skip t) :
    p.length + skip ≤ hit.span.start ∧ hit.span.start ≤ hit.span.stop ∧
      m ((p ++ t).take hit.span.start).getLast? ((p ++ t).drop hit.span.start) =
        some (hit.value, hit.span.stop - hit.span.start) := by
  induction t generalizing p skip with
  | nil => simp [hitsFrom] at h
  | cons c t ih =>
    have hlater : ∀ k, hit ∈ m.hitsFrom (some c) (p.length + 1) k t →
        p.length + 1 + k ≤ hit.span.start ∧ hit.span.start ≤ hit.span.stop ∧
          m ((p ++ c :: t).take hit.span.start).getLast? ((p ++ c :: t).drop hit.span.start) =
            some (hit.value, hit.span.stop - hit.span.start) := by
      intro k hk
      simpa using ih (p ++ [c]) k (by simpa using hk)
    cases skip with
    | succ k =>
      obtain ⟨hstart, hspec⟩ := hlater k h
      exact ⟨by omega, hspec⟩
    | zero =>
      rw [hitsFrom] at h
      split at h
      · next a n hm =>
        rcases List.mem_cons.mp h with rfl | h
        · simp [hm]
        · obtain ⟨hstart, hspec⟩ := hlater _ h
          exact ⟨by omega, hspec⟩
      · obtain ⟨hstart, hspec⟩ := hlater 0 h
        exact ⟨by omega, hspec⟩

/-- Every hit is what the matcher reads at its place. -/
theorem hits_spec {m : Matcher α} {t : Text} {hit : Hit α} (h : hit ∈ m.hits t) :
    m (t.take hit.span.start).getLast? (t.drop hit.span.start) =
      some (hit.value, hit.span.stop - hit.span.start) :=
  (hitsFrom_spec [] 0 t h).2.2

end Matcher

/-! ## Searching and replacing -/

/-- A text and what replacing hits makes of it, behind the prefix `p`: a character is kept where the
matcher finds nothing, and a piece that it reads as `v` becomes another as `R` says. -/
inductive Scanned {α : Type} (m : Matcher α) (R : Text → Text → α → Text → Prop) :
    Text → Text → Text → Prop
  | nil (p : Text) : Scanned m R p [] []
  | keep {p t u : Text} (c : Char) (hm : m p.getLast? (c :: t) = none)
    (h : Scanned m R (p ++ [c]) t u) :
      Scanned m R p (c :: t) (c :: u)
  | hit {p a b t u : Text} {v : α} (hm : m p.getLast? (a ++ t) = some (v, a.length))
    (hR : R p a v b)
      (h : Scanned m R (p ++ a) t u) : Scanned m R p (a ++ t) (b ++ u)

variable {α : Type} {m : Matcher α}

/-- A line that was searched is rewritten, if each hit is where it stands. -/
theorem Scanned.rewritten_of_place {R : Text → Text → α → Text → Prop}
    {P : Text → Text → Text → Prop} {p t u : Text} (h : Scanned m R p t u)
    (hP : ∀ x a y v b, p ++ t = x ++ (a ++ y) → m x.getLast? (a ++ y) = some (v, a.length) →
      R x a v b → Rewritten P x a b) :
    Rewritten P p t u := by
  induction h with
  | nil p => exact .nil p
  | @keep p t u c _ _ ih =>
    exact .keep c (ih fun x a y v b heq => hP x a y v b (by simpa using heq))
  | @hit p a b t u v hm hR _ ih =>
    exact .append (hP p a t v b rfl hm hR)
      (ih fun x a' y v b heq => hP x a' y v b (by simpa using heq))

/-- A line that was searched is rewritten, if each hit is. -/
theorem Scanned.rewritten {R : Text → Text → α → Text → Prop} {P : Text → Text → Text → Prop}
    {p t u : Text} (h : Scanned m R p t u)
    (hP : ∀ p a t v b, m p.getLast? (a ++ t) = some (v, a.length) → R p a v b → Rewritten P p a b) :
    Rewritten P p t u :=
  h.rewritten_of_place fun x a y v b _ => hP x a y v b

/-- A line stays as it is if every hit does. -/
theorem Scanned.eq_self {R : Text → Text → α → Text → Prop} {p t u : Text} (h : Scanned m R p t u)
    (hR : ∀ x a y v b, p ++ t = x ++ (a ++ y) → m x.getLast? (a ++ y) = some (v, a.length) →
      R x a v b → b = a) :
    u = t := by
  induction h with
  | nil p => rfl
  | @keep p t u c hm h ih =>
    rw [ih fun x a y v b heq => hR x a y v b (by simpa using heq)]
  | @hit p a b t u v hm hb h ih =>
    rw [ih fun x a' y v b heq => hR x a' y v b (by simpa using heq), hR p a t v b rfl hm hb]

/-- Edits that begin further on leave the characters before them alone. -/
theorem spliceFrom_append {edits : List Edit} {pos : Nat} (a t : Text)
    (h : ∀ e ∈ edits, pos + a.length ≤ e.span.start ∧ e.span.start ≤ e.span.stop) :
    spliceFrom pos edits (a ++ t) = a ++ spliceFrom (pos + a.length) edits t := by
  cases edits with
  | nil => rfl
  | cons e edits =>
    obtain ⟨hstart, hstop⟩ := h e List.mem_cons_self
    rw [spliceFrom, spliceFrom, List.take_append, List.drop_append,
      List.take_of_length_le (by omega), List.drop_eq_nil_of_le (by omega)]
    simp only [List.append_assoc, List.nil_append, Nat.sub_sub]

/-- The edits for the hits behind a text begin behind what is skipped there. -/
theorem start_le_of_mem_edits {edit? : Hit α → Option Edit}
    (hspan : ∀ hit e, edit? hit = some e → e.span = hit.span) (p : Text) (skip : Nat) (t : Text) :
    ∀ e ∈ (m.hitsFrom p.getLast? p.length skip t).filterMap edit?,
      p.length + skip ≤ e.span.start ∧ e.span.start ≤ e.span.stop := by
  intro e he
  obtain ⟨hit, hhit, he⟩ := List.mem_filterMap.mp he
  rw [hspan hit e he]
  have hspec := Matcher.hitsFrom_spec p skip t hhit
  exact ⟨hspec.1, hspec.2.1⟩

/-- A hit is replaced by its edit or left alone, and the edits behind it are made in the rest. -/
theorem spliceFrom_filterMap_cons {edit? : Hit α → Option Edit}
    (hspan : ∀ hit e, edit? hit = some e → e.span = hit.span) {pos : Nat} {hits : List (Hit α)}
    (a r : Text) (v : α)
    (hbehind : ∀ e ∈ hits.filterMap edit?,
      pos + a.length ≤ e.span.start ∧ e.span.start ≤ e.span.stop) :
    spliceFrom pos ((⟨⟨pos, pos + a.length⟩, v⟩ :: hits).filterMap edit?) (a ++ r) =
      ((edit? ⟨⟨pos, pos + a.length⟩, v⟩).map Edit.text).getD a ++
        spliceFrom (pos + a.length) (hits.filterMap edit?) r := by
  rw [List.filterMap_cons]
  cases he : edit? ⟨⟨pos, pos + a.length⟩, v⟩ with
  | none => exact spliceFrom_append a r hbehind
  | some e =>
    dsimp only
    rw [spliceFrom, hspan _ _ he, Nat.sub_self, Nat.add_sub_cancel_left, List.take_zero,
      List.drop_left, List.nil_append]
    rfl

/-- Replacing some of the hits of a line, each in its own place. -/
theorem scanned_hitsFrom {R : Text → Text → α → Text → Prop} (hm : m.IsBounded)
    {edit? : Hit α → Option Edit} (hspan : ∀ hit e, edit? hit = some e → e.span = hit.span)
    {line : Text}
    (hR : ∀ p a t v b, line = p ++ (a ++ t) →
      ((edit? ⟨⟨p.length, p.length + a.length⟩, v⟩).map Edit.text).getD a = b → R p a v b)
    (p t : Text) (skip : Nat) (hline : line = p ++ t) (hskip : skip ≤ t.length) :
    Scanned m R (p ++ t.take skip) (t.drop skip)
      (spliceFrom (p.length + skip) ((m.hitsFrom p.getLast? p.length skip t).filterMap edit?)
        (t.drop skip)) := by
  induction t generalizing p skip with
  | nil =>
    obtain rfl : skip = 0 := by simpa using hskip
    simpa [Matcher.hitsFrom, spliceFrom] using Scanned.nil p
  | cons c t ih =>
    have hlater := fun k hk => ih (p ++ [c]) k (by simp [hline]) hk
    have hbehind := fun k => start_le_of_mem_edits (m := m) hspan (p ++ [c]) k t
    simp only [List.length_append, List.length_singleton, List.getLast?_concat] at hlater hbehind
    cases skip with
    | succ k =>
      rw [Matcher.hitsFrom, show p.length + (k + 1) = p.length + 1 + k by omega]
      simpa using hlater k (by simpa using hskip)
    | zero =>
      rw [List.take_zero, List.drop_zero, List.append_nil, Nat.add_zero, Matcher.hitsFrom]
      cases hhit : m p.getLast? (c :: t) with
      | none =>
        dsimp only
        rw [← List.singleton_append, spliceFrom_append [c] t (by simpa using hbehind 0)]
        exact .keep c hhit (by simpa using hlater 0 (Nat.zero_le _))
      | some found =>
        obtain ⟨v, n⟩ := found
        obtain ⟨hpos, hle⟩ := hm _ _ _ _ hhit
        rw [List.length_cons] at hle
        have hk := hlater (n - 1) (by omega)
        have hedits := hbehind (n - 1)
        rw [show p.length + 1 + (n - 1) = p.length + n by omega] at hk hedits
        -- the hit is the first `n` characters
        obtain ⟨a, r, hcut, ha, hr, hlength⟩ : ∃ a r, c :: t = a ++ r ∧ a = c :: t.take (n - 1) ∧
            r = t.drop (n - 1) ∧ n = a.length := by
          refine ⟨_, _, ?_, rfl, rfl, ?_⟩
          · rw [List.cons_append, List.take_append_drop]
          · rw [List.length_cons, List.length_take]
            omega
        rw [List.append_assoc, List.singleton_append, ← ha, ← hr] at hk
        dsimp only
        rw [hcut] at hhit ⊢
        subst hlength
        rw [spliceFrom_filterMap_cons hspan a r v hedits]
        exact .hit hhit (hR p a r v _ (by rw [hline, hcut]) rfl) hk

/-- Replacing some of the hits of a line. -/
theorem scanned_splice_hits {R : Text → Text → α → Text → Prop} (hm : m.IsBounded)
    {edit? : Hit α → Option Edit} (hspan : ∀ hit e, edit? hit = some e → e.span = hit.span)
    {line : Text}
    (hR : ∀ p a t v b, line = p ++ (a ++ t) →
      ((edit? ⟨⟨p.length, p.length + a.length⟩, v⟩).map Edit.text).getD a = b → R p a v b) :
    Scanned m R [] line (splice ((m.hits line).filterMap edit?) line) := by
  have key := scanned_hitsFrom hm hspan hR [] line 0 rfl (Nat.zero_le _)
  simpa [splice, Matcher.hits] using key

namespace Fix

/-- Whether a piece behind a prefix begins and ends outside of strings. -/
def isBare (p a : Text) : Bool :=
  !(QuoteState.start.run p).isOpen && !(QuoteState.start.run (p ++ a.dropLast)).isOpen

theorem isUnquotedSpan_append (p a t : Text) :
    isUnquotedSpan (p ++ (a ++ t)) ⟨p.length, p.length + a.length⟩ = isBare p a := by
  have hmax : max p.length (p.length + a.length - 1) = p.length + (a.length - 1) := by omega
  rw [isUnquotedSpan, isBare, isQuotedAt, isQuotedAt, hmax, List.take_left,
    List.take_length_add_append, List.take_append_of_le_length (Nat.sub_le _ _),
    List.dropLast_eq_take]

/-- Replacing hits outside strings. -/
theorem replaceUnquoted_scanned (hm : m.IsBounded) (replacement : α → Option Text) (line : Text) :
    Scanned m (fun p a v b => b = if isBare p a then (replacement v).getD a else a) [] line
      (replaceUnquoted m replacement line) := by
  refine scanned_splice_hits hm (fun hit e he => ?_) ?_
  · split at he
    · obtain ⟨b, _, rfl⟩ := Option.map_eq_some_iff.mp he
      rfl
    · simp at he
  · rintro p a t v b hline rfl
    rw [hline, isUnquotedSpan_append]
    split
    · simp [Function.comp_def]
    · rfl

/-- Replacing all hits. -/
theorem replaceAll_scanned (hm : m.IsBounded) (replacement : α → Text) (line : Text) :
    Scanned m (fun _ _ v b => b = replacement v) [] line (replaceAll m replacement line) := by
  rw [replaceAll, ← List.filterMap_eq_map]
  refine scanned_splice_hits hm (fun hit e he => ?_) ?_
  · obtain rfl := Option.some.inj he
    rfl
  · rintro p a t v b - rfl
    rfl

variable {piece : α → Text} {P : Text → Text → Text → Prop}

/-- Replacing hits outside strings rewrites a line if each replacement rewrites what was read,
wherever it is read outside of strings. -/
theorem replaceUnquoted_rewritten {replacement : α → Option Text} (hm : m.Reads piece)
    (hP : ∀ p v b, isBare p (piece v) = true → replacement v = some b → Rewritten P p (piece v) b)
    (line : Text) :
    Rewritten P [] line (replaceUnquoted m replacement line) := by
  refine (replaceUnquoted_scanned hm.isBounded replacement line).rewritten fun p a t v b hhit hb =>
    ?_
  obtain rfl := hm.eq_piece hhit
  subst hb
  split
  · next hbare =>
    cases hv : replacement v with
    | none => exact .refl p _
    | some b => exact hP p v b hbare hv
  · exact .refl p _

/-- Replacing all hits rewrites a line if each replacement rewrites what was read, wherever it is
read. -/
theorem replaceAll_rewritten {replacement : α → Text} (hm : m.Reads piece)
    (hP : ∀ p v, Rewritten P p (piece v) (replacement v)) (line : Text) :
    Rewritten P [] line (replaceAll m replacement line) := by
  refine (replaceAll_scanned hm.isBounded replacement line).rewritten fun p a t v b hhit hb => ?_
  obtain rfl := hm.eq_piece hhit
  subst hb
  exact hP p v

end Fix

end ShellStyle
