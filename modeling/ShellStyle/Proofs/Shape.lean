import ShellStyle.Proofs.Lookup

/-!
# Trees of one shape

Two trees are alike if they differ in what is in their files only. Paths lead to the same locations
in both, and so a path that leads to no file, or to a file that is the same in both, finds the same.
Giving a file other bytes makes a tree that is alike, with the same fresh names.
-/

namespace ShellStyle

/-- What stands at a location in two trees: the same, or files. -/
inductive Entry.Alike : Option Entry → Option Entry → Prop
  | same (e : Option Entry) : Alike e e
  | file (bytes : List UInt8) (mode : Nat) (bytes' : List UInt8) (mode' : Nat) :
      Alike (some (.file bytes mode)) (some (.file bytes' mode'))

/-- What a path leads to in two trees: the same, or files at the same location. -/
inductive Lookup.Alike : Lookup → Lookup → Prop
  | same (lookup : Lookup) : Alike lookup lookup
  | file (l : Location) (bytes : List UInt8) (mode : Nat) (bytes' : List UInt8) (mode' : Nat) :
      Alike (.found l (.file bytes mode)) (.found l (.file bytes' mode'))

namespace Tree

/-- Whether two trees differ in what is in their files only. -/
structure Alike (t u : Tree) : Prop where
  entries : ∀ l, Entry.Alike (t.entry? l) (u.entry? l)
  longestName_eq : t.longestName = u.longestName

variable {t u : Tree}

theorem Alike.refl (t : Tree) : t.Alike t :=
  ⟨fun l => .same (t.entry? l), rfl⟩

theorem Alike.trans {v : Tree} (h : t.Alike u) (h' : u.Alike v) : t.Alike v := by
  refine ⟨fun l => ?_, h.longestName_eq.trans h'.longestName_eq⟩
  have hfirst := h.entries l
  have hsecond := h'.entries l
  generalize t.entry? l = first at hfirst ⊢
  generalize u.entry? l = second at hfirst hsecond
  generalize v.entry? l = third at hsecond ⊢
  cases hfirst with
  | same => exact hsecond
  | file bytes mode bytes' mode' =>
    cases hsecond with
    | same => exact .file bytes mode bytes' mode'
    | file _ _ bytes'' mode'' => exact .file bytes mode bytes'' mode''

/-! ## Other bytes in a file -/

section

variable {l : Location} {bytes : List UInt8} {mode : Nat}

/-- A file that is found is an entry of the tree. -/
theorem exists_mem_of_entry? (h : t.entry? l = some (.file bytes mode)) : ∃ e, (l, e) ∈ t := by
  have hfile : t.entry? l ≠ some .directory := by simp [h]
  rw [entry?_eq_lookup hfile, List.lookup_eq_some_iff] at h
  obtain ⟨front, back, rfl, -⟩ := h
  exact ⟨_, List.mem_append_right front List.mem_cons_self⟩

/-- Putting something else at a location that is taken gives no longer names. -/
theorem longestName_set {e : Entry} (h : (l, e) ∈ t) (e' : Entry) :
    (t.set l e').longestName = t.longestName := by
  have hle := longestName_le_iff.mp (Nat.le_refl t.longestName)
  have hset := longestName_le_iff.mp (Nat.le_refl (t.set l e').longestName)
  apply Nat.le_antisymm
  · apply longestName_le_iff.mpr
    intro here hmem
    rcases List.mem_cons.mp hmem with rfl | hmem
    · exact hle (l, e) h
    · exact hle here (mem_of_mem_erase hmem)
  · apply longestName_le_iff.mpr
    intro here hmem
    by_cases hl : here.1 = l
    · rw [hl]
      exact hset (l, e') List.mem_cons_self
    · exact hset here (List.mem_cons_of_mem _ (List.mem_filter.mpr ⟨hmem, bne_iff_ne.mpr hl⟩))

/-- Giving a file other bytes and another mode makes a tree that is alike. -/
theorem alike_set (h : t.entry? l = some (.file bytes mode)) (bytes' : List UInt8) (mode' : Nat) :
    t.Alike (t.set l (.file bytes' mode')) := by
  obtain ⟨e, hmem⟩ := exists_mem_of_entry? h
  refine ⟨fun l' => ?_, (longestName_set hmem _).symm⟩
  by_cases hl : l' = l
  · have hfile : t.entry? l ≠ some .directory := by simp [h]
    rw [hl, h, entry?_set_self hfile]
    exact .file bytes mode bytes' mode'
  · rw [entry?_set_of_ne t _ hl]
    exact .same _

end

/-! ## Paths -/

/-- Walks through trees that are alike lead to the same locations. -/
theorem Alike.walkWith (h : t.Alike u) {follow follow' : Location → List Text → Lookup}
    (hfollow : ∀ base parts, Lookup.Alike (follow base parts) (follow' base parts))
    (base : Location) (parts : List Text) :
    Lookup.Alike (t.walkWith follow base parts) (u.walkWith follow' base parts) := by
  induction parts generalizing base with
  | nil => exact .same _
  | cons name rest ih =>
    have hentry := h.entries (base ++ [name])
    rw [Tree.walkWith, Tree.walkWith]
    split
    · exact ih (above base)
    split
    · exact .same _
    dsimp only
    -- the next entry is the same in both, or a file in both, which ends the walk
    generalize t.entry? (base ++ [name]) = e at hentry
    generalize u.entry? (base ++ [name]) = e' at hentry
    cases hentry with
    | same =>
      rcases e with _ | _ | _ | target
      · exact .same _
      · exact .same _
      · exact ih (base ++ [name])
      · exact hfollow _ _
    | file bytes mode bytes' mode' =>
      cases rest with
      | nil => exact .file _ bytes mode bytes' mode'
      | cons other rest => exact .same _

/-- However many links may be followed, walks end alike in trees that are alike. -/
theorem Alike.walk (h : t.Alike u) (links : Nat) (base : Location) (parts : List Text) :
    Lookup.Alike (t.walk links base parts) (u.walk links base parts) := by
  induction links generalizing base parts with
  | zero => exact h.walkWith (fun _ _ => .same _) base parts
  | succ links ih => exact h.walkWith ih base parts

/-- A path finds alike things in trees that are alike. -/
theorem Alike.find (h : t.Alike u) (p : Path) : Lookup.Alike (t.find p) (u.find p) := by
  rw [Tree.find, Tree.find]
  split
  · exact .same _
  split
  · exact .same _
  exact h.walk maxLinks _ _

/-- A path names the same location in trees that are alike. -/
theorem Alike.location?_eq (h : t.Alike u) (p : Path) : t.location? p = u.location? p := by
  have hfind := h.find p.parent
  rw [location?, location?, directory?, directory?]
  generalize t.find p.parent = found at hfind
  generalize u.find p.parent = found' at hfind
  cases hfind <;> rfl

/-! ## Files that paths name -/

/-- A file that a walk finds stands where the walk ends. -/
theorem entry?_of_walkWith {follow : Location → List Text → Lookup}
    (hfollow : ∀ {base parts l bytes mode}, follow base parts = .found l (.file bytes mode) →
      t.entry? l = some (.file bytes mode))
    {base l : Location} {parts : List Text} {bytes : List UInt8} {mode : Nat}
    (h : t.walkWith follow base parts = .found l (.file bytes mode)) :
    t.entry? l = some (.file bytes mode) := by
  have hleads := leads_of_walkWith h
  clear h
  generalize he : Entry.file bytes mode = e at hleads
  induction hleads with
  | here base => cases he
  | above _ ih => exact ih he
  | directory _ _ _ ih => exact ih he
  | link _ _ hfound =>
    subst he
    exact hfollow hfound
  | file _ hentry => exact he ▸ hentry

theorem entry?_of_walk {links : Nat} {base l : Location} {parts : List Text} {bytes : List UInt8}
    {mode : Nat} (h : t.walk links base parts = .found l (.file bytes mode)) :
    t.entry? l = some (.file bytes mode) := by
  induction links generalizing base parts l bytes mode with
  | zero =>
    refine entry?_of_walkWith ?_ h
    intro _ _ _ _ _ hfollow
    cases hfollow
  | succ links ih => exact entry?_of_walkWith ih h

/-- Where a path leads to a file, the file stands. -/
theorem entry?_of_find {p : Path} {l : Location} {bytes : List UInt8} {mode : Nat}
    (h : t.find p = .found l (.file bytes mode)) : t.entry? l = some (.file bytes mode) :=
  entry?_of_walk (walk_of_find_found h)

/-- Whether a path names the file at a location, and no link to it. -/
def Names (t : Tree) (p : Path) (l : Location) : Prop :=
  t.location? p = some l ∧ ∃ bytes mode, t.find p = .found l (.file bytes mode)

theorem isFile_of_find {p : Path} {l : Location} {bytes : List UInt8} {mode : Nat}
    (h : t.find p = .found l (.file bytes mode)) : t.isFile p = true := by
  rw [isFile, file?, h]
  rfl

/-- A path finds the same in trees that are alike, unless it leads to a file that is not the same in
both. -/
theorem Alike.find_eq (h : t.Alike u) {p : Path}
    (hsame : ∀ l bytes mode, t.find p = .found l (.file bytes mode) → u.entry? l = t.entry? l) :
    u.find p = t.find p := by
  have hfind := h.find p
  generalize ht : t.find p = found at hfind
  generalize hu : u.find p = found' at hfind
  cases hfind with
  | same => rfl
  | file l bytes mode bytes' mode' =>
    have hentry := hsame l bytes mode ht
    rw [entry?_of_find ht, entry?_of_find hu] at hentry
    rw [Option.some.inj hentry]

end Tree

end ShellStyle
