import ShellStyle.File.Tree

/-!
# Looking entries up

What a tree holds at one location does not depend on what is put or taken away at another. So a path
that leads somewhere leads there still when entries are added where there were none; and a path
whose parent is a directory names an entry of that directory.
-/

namespace ShellStyle.Tree

/-! ## Entries -/

theorem lookup_erase_of_ne (t : Tree) {l l' : Location} (h : l' ≠ l) :
    (t.erase l).lookup l' = t.lookup l' := by
  induction t with
  | nil => rfl
  | cons e t ih =>
    obtain ⟨here, entry⟩ := e
    rw [erase] at ih
    by_cases hhere : here = l
    · subst hhere
      have hne : (l' == here) = false := beq_eq_false_iff_ne.mpr h
      simp [erase, List.lookup_cons, hne, ih]
    · simp [erase, hhere, List.lookup_cons, ih]

/-- Putting an entry somewhere leaves all other locations alone. -/
theorem entry?_set_of_ne (t : Tree) (e : Entry) {l l' : Location} (h : l' ≠ l) :
    entry? (t.set l e) l' = t.entry? l' := by
  have hne : (l' == l) = false := beq_eq_false_iff_ne.mpr h
  have hlookup : (t.set l e).lookup l' = t.lookup l' := by
    simp [set, List.lookup_cons, hne, lookup_erase_of_ne t h]
  unfold entry?
  rw [hlookup]

/-- Where something else than a directory stands, or nothing, no path begins. -/
theorem entry?_eq_lookup {t : Tree} {l : Location} (h : t.entry? l ≠ some .directory) (t' : Tree) :
    t'.entry? l = t'.lookup l := by
  unfold entry? at h ⊢
  split at h
  · exact absurd rfl h
  · next hstart => rw [if_neg hstart]

/-- An entry is found where it has been put, unless a path begins there. -/
theorem entry?_set_self {t : Tree} {l : Location} (h : t.entry? l ≠ some .directory) (t' : Tree)
    (e : Entry) :
    entry? (t'.set l e) l = some e := by
  rw [entry?_eq_lookup h, set, List.lookup_cons, beq_self_eq_true]

/-- What is put somewhere and taken away again is gone. -/
theorem erase_set_self (t : Tree) (l : Location) (e : Entry) : (t.set l e).erase l = t.erase l := by
  simp [set, erase]

theorem mem_of_mem_erase {t : Tree} {l : Location} {e : Location × Entry} (h : e ∈ t.erase l) :
    e ∈ t :=
  (List.mem_filter.mp h).1

theorem mem_of_mem_set {t : Tree} {l : Location} {x : Entry} {e : Location × Entry}
    (h : e ∈ t.set l x) (hne : e.1 ≠ l) : e ∈ t := by
  rcases List.mem_cons.mp h with rfl | h
  · exact absurd rfl hne
  · exact mem_of_mem_erase h

/-! ## Fresh names -/

/-- The longest name bounds the names of all entries. -/
theorem longestName_le_iff {t : Tree} {n : Nat} :
    t.longestName ≤ n ↔ ∀ e ∈ t, (e.1.getLast?.getD []).length ≤ n := by
  induction t with
  | nil => simp [longestName]
  | cons other t ih =>
    rw [longestName, List.foldr_cons, Nat.max_le, List.forall_mem_cons]
    exact and_congr_right fun _ => ih

/-- A fresh name is longer than every name of the tree. -/
theorem length_freshName (t : Tree) (name : Text) :
    (t.freshName name).length = name.length + t.longestName + 14 := by
  have hsuffix : ".cleansh.tmp".toList.length = 12 := rfl
  simp only [freshName, List.length_append, List.length_cons, List.length_replicate, hsuffix]
  omega

/-- No entry has a fresh name. -/
theorem ne_freshName {t : Tree} {e : Location × Entry} (h : e ∈ t) (directory : Location)
    (name : Text) :
    e.1 ≠ directory ++ [t.freshName name] := by
  have hlength := length_freshName t name
  have hle := longestName_le_iff.mp (Nat.le_refl t.longestName) e h
  intro heq
  simp only [heq, List.getLast?_concat, Option.getD_some] at hle
  omega

/-- There is nothing to take away at a fresh name. -/
theorem erase_freshName (t : Tree) (directory : Location) (name : Text) :
    t.erase (directory ++ [t.freshName name]) = t :=
  List.filter_eq_self.mpr fun _ hmem => bne_iff_ne.mpr (ne_freshName hmem directory name)

/-- Nothing stands at a fresh name. -/
theorem entry?_freshName (t : Tree) (directory : Location) (name : Text) :
    t.entry? (directory ++ [t.freshName name]) = none := by
  have hlength := length_freshName t name
  have hdots : t.freshName name ≠ ['.', '.'] := by
    intro heq
    simp [heq] at hlength
  have hslash : t.freshName name ≠ ['/'] := by
    intro heq
    simp [heq] at hlength
  unfold entry?
  rw [if_neg, List.lookup_eq_none_iff]
  · intro e hmem
    exact bne_iff_ne.mpr (ne_freshName hmem directory name).symm
  · rintro (hancestor | hroot)
    · simp [isAncestor, hdots] at hancestor
    · have hlast := congrArg List.getLast? hroot
      simp [rootLocation, hslash] at hlast

/-! ## Walks -/

variable {t t' : Tree}

/-- Whether a name is followed as it is: it does not lead up and can be stored. -/
def IsPlain (name : Text) : Prop :=
  name ≠ ['.', '.'] ∧ ¬ nameLimit < byteLength name

section

variable {base : Location} {name : Text}

theorem walkWith_directory (follow : Location → List Text → Lookup) (hname : IsPlain name)
    (hentry : t.entry? (base ++ [name]) = some .directory) (rest : List Text) :
    t.walkWith follow base (name :: rest) = t.walkWith follow (base ++ [name]) rest := by
  rw [walkWith, if_neg hname.1, if_neg hname.2]
  simp only [hentry]

theorem walkWith_link (follow : Location → List Text → Lookup) (hname : IsPlain name)
    {target : Text} (hentry : t.entry? (base ++ [name]) = some (.link target)) (rest : List Text) :
    t.walkWith follow base (name :: rest) =
      follow (startOf (Path.ofText target).anchor base) ((Path.ofText target).parts ++ rest) := by
  rw [walkWith, if_neg hname.1, if_neg hname.2]
  simp only [hentry]

theorem walkWith_file (follow : Location → List Text → Lookup) (hname : IsPlain name)
    {bytes : List UInt8} {mode : Nat}
    (hentry : t.entry? (base ++ [name]) = some (.file bytes mode)) :
    t.walkWith follow base [name] = .found (base ++ [name]) (.file bytes mode) := by
  rw [walkWith, if_neg hname.1, if_neg hname.2]
  simp only [hentry]
  rfl

end

/-- What components lead to from a directory on, if `follow` goes on behind a link. -/
inductive Leads (t : Tree) (follow : Location → List Text → Lookup) :
    Location → List Text → Location → Entry → Prop
  | here (base : Location) : Leads t follow base [] base .directory
  | above {base : Location} {rest : List Text} {l : Location} {e : Entry} :
      Leads t follow (above base) rest l e → Leads t follow base (['.', '.'] :: rest) l e
  | directory {base : Location} {name : Text} {rest : List Text} {l : Location} {e : Entry} :
      IsPlain name → t.entry? (base ++ [name]) = some .directory →
        Leads t follow (base ++ [name]) rest l e →
        Leads t follow base (name :: rest) l e
  | link {base : Location} {name target : Text} {rest : List Text} {l : Location} {e : Entry} :
      IsPlain name → t.entry? (base ++ [name]) = some (.link target) →
        follow (startOf (Path.ofText target).anchor base) ((Path.ofText target).parts ++ rest) =
          .found l e →
          Leads t follow base (name :: rest) l e
  | file {base : Location} {name : Text} {bytes : List UInt8} {mode : Nat} :
      IsPlain name → t.entry? (base ++ [name]) = some (.file bytes mode) →
        Leads t follow base [name] (base ++ [name]) (.file bytes mode)

/-- What a walk finds, the names lead to. -/
theorem leads_of_walkWith {follow : Location → List Text → Lookup} {base : Location}
    {parts : List Text} {l : Location} {e : Entry} (h : t.walkWith follow base parts = .found l e) :
    t.Leads follow base parts l e := by
  induction parts generalizing base with
  | nil =>
    obtain ⟨rfl, rfl⟩ := Lookup.found.inj h
    exact .here base
  | cons name rest ih =>
    rw [walkWith] at h
    split at h
    · next hdots =>
      rw [hdots]
      exact .above (ih h)
    · next hdots =>
      split at h
      · cases h
      · next hlong =>
        have hname : IsPlain name := ⟨hdots, hlong⟩
        dsimp only at h
        cases hentry : t.entry? (base ++ [name]) with
        | none =>
          rw [hentry] at h
          cases rest <;> simp at h
        | some entry =>
          rw [hentry] at h
          -- only directories and links lead on
          cases entry with
          | directory => exact .directory hname hentry (ih h)
          | link target => exact .link hname hentry h
          | file bytes mode =>
            cases rest with
            | nil =>
              obtain ⟨rfl, rfl⟩ := Lookup.found.inj h
              exact .file hname hentry
            | cons other rest => cases h

/-- What names lead to, a walk finds. -/
theorem walkWith_of_leads {follow : Location → List Text → Lookup} {base : Location}
    {parts : List Text} {l : Location} {e : Entry} (h : t.Leads follow base parts l e) :
    t.walkWith follow base parts = .found l e := by
  induction h with
  | here base => rfl
  | above _ ih => rw [walkWith, if_pos rfl, ih]
  | directory hname hentry _ ih => rw [walkWith_directory follow hname hentry, ih]
  | link hname hentry hfound => rw [walkWith_link follow hname hentry, hfound]
  | file hname hentry => exact walkWith_file follow hname hentry

/-- A walk finds exactly what the names lead to. -/
theorem walkWith_eq_found_iff {follow : Location → List Text → Lookup} {base : Location}
    {parts : List Text} {l : Location} {e : Entry} :
    t.walkWith follow base parts = .found l e ↔ t.Leads follow base parts l e :=
  ⟨leads_of_walkWith, walkWith_of_leads⟩

/-- Whether one tree holds all that another one holds. -/
def Extends (t t' : Tree) : Prop :=
  ∀ l e, t.entry? l = some e → t'.entry? l = some e

/-- A tree with one entry more extends the tree. -/
theorem extends_set {l : Location} (h : t.entry? l = none) (e : Entry) : t.Extends (t.set l e) := by
  intro l' e' hl'
  rwa [entry?_set_of_ne]
  rintro rfl
  simp [h] at hl'

/-- Names lead to the same entry in a tree that has more. -/
theorem Leads.extends (h : t.Extends t') {follow follow' : Location → List Text → Lookup}
    (hfollow : ∀ base parts l e, follow base parts = .found l e → follow' base parts = .found l e)
    {base : Location} {parts : List Text} {l : Location} {e : Entry}
    (hleads : t.Leads follow base parts l e) :
    t'.Leads follow' base parts l e := by
  induction hleads with
  | here base => exact .here base
  | above _ ih => exact .above ih
  | directory hname hentry _ ih => exact .directory hname (h _ _ hentry) ih
  | link hname hentry hfound => exact .link hname (h _ _ hentry) (hfollow _ _ _ _ hfound)
  | file hname hentry => exact .file hname (h _ _ hentry)

/-- A walk finds the same in a tree that has more. -/
theorem Extends.walkWith_found (h : t.Extends t') {follow follow' : Location → List Text → Lookup}
    (hfollow : ∀ base parts l e, follow base parts = .found l e → follow' base parts = .found l e)
    {base : Location} {parts : List Text} {l : Location} {e : Entry}
    (hwalk : t.walkWith follow base parts = .found l e) :
    t'.walkWith follow' base parts = .found l e := by
  rw [walkWith_eq_found_iff] at hwalk ⊢
  exact hwalk.extends h hfollow

/-- However many links may be followed, a walk finds the same in a tree that has more. -/
theorem Extends.walk_found (h : t.Extends t') {links : Nat} {base : Location} {parts : List Text}
    {l : Location} {e : Entry} (hwalk : t.walk links base parts = .found l e) :
    t'.walk links base parts = .found l e := by
  induction links generalizing base parts l e with
  | zero =>
    refine h.walkWith_found ?_ hwalk
    intro _ _ _ _ hfollow
    cases hfollow
  | succ links ih => exact h.walkWith_found (fun _ _ _ _ hfollow => ih hfollow) hwalk

/-- What is found is found in a larger tree. -/
theorem Extends.find_found (h : t.Extends t') {p : Path} {l : Location} {e : Entry}
    (hfind : t.find p = .found l e) :
    t'.find p = .found l e := by
  rw [find] at hfind ⊢
  split at hfind
  · cases hfind
  · next hnull =>
    rw [if_neg hnull]
    split at hfind
    · cases hfind
    · next hlong =>
      rw [if_neg hlong]
      exact h.walk_found hfind

/-- A file is found unchanged in a tree that has more. -/
theorem Extends.file?_eq (h : t.Extends t') {p : Path} {l : Location} {bytes : List UInt8}
    {mode : Nat} (hfind : t.find p = .found l (.file bytes mode)) :
    t'.file? p = some (bytes, mode) := by
  rw [file?, h.find_found hfind]

/-! ## Parents -/

/-- A walk that comes to a directory goes on from there. -/
theorem walkWith_concat {follow : Location → List Text → Lookup} {name : Text}
    (hstay : ∃ links, ∀ base, t.walkWith follow base [name] = t.walk links base [name])
    (hfollow : ∀ base parts directory, follow base parts = .found directory .directory →
      ∃ links, follow base (parts ++ [name]) = t.walk links directory [name])
    {base : Location} {parts : List Text} {directory : Location}
    (hwalk : t.walkWith follow base parts = .found directory .directory) :
    ∃ links, t.walkWith follow base (parts ++ [name]) = t.walk links directory [name] := by
  have hleads := leads_of_walkWith hwalk
  clear hwalk
  generalize he : Entry.directory = e at hleads
  induction hleads with
  | here base => exact hstay.imp fun links hlinks => hlinks base
  | above _ ih =>
    rw [List.cons_append, walkWith, if_pos rfl]
    exact ih he
  | directory hname hentry _ ih =>
    rw [List.cons_append, walkWith_directory follow hname hentry]
    exact ih he
  | link hname hentry hfound =>
    subst he
    rw [List.cons_append, walkWith_link follow hname hentry, ← List.append_assoc]
    exact hfollow _ _ _ hfound
  | file => cases he

/-- A walk to a name in a directory goes to the directory first. -/
theorem walk_concat {links : Nat} {base : Location} {parts : List Text} {directory : Location}
    (hwalk : t.walk links base parts = .found directory .directory) (name : Text) :
    ∃ left, t.walk links base (parts ++ [name]) = t.walk left directory [name] := by
  induction links generalizing base parts directory with
  | zero =>
    refine walkWith_concat ⟨0, fun _ => rfl⟩ ?_ hwalk
    intro _ _ _ hfollow
    cases hfollow
  | succ links ih =>
    exact walkWith_concat ⟨links + 1, fun _ => rfl⟩ (fun _ _ _ hfollow => ih hfollow) hwalk

/-- One step to a file. -/
theorem walk_singleton {links : Nat} {directory l : Location} {name : Text}
    {bytes bytes' : List UInt8} {mode mode' : Nat}
    (hwalk : t.walk links directory [name] = .found l (.file bytes mode))
    (hentry : t.entry? (directory ++ [name]) = some (.file bytes' mode')) :
    l = directory ++ [name] ∧ bytes = bytes' ∧ mode = mode' := by
  obtain ⟨follow, hfollow⟩ : ∃ follow, t.walk links = t.walkWith follow := by
    cases links with
    | zero => exact ⟨_, rfl⟩
    | succ links => exact ⟨_, rfl⟩
  rw [hfollow] at hwalk
  cases leads_of_walkWith hwalk with
  | above hleads => cases hleads
  | directory _ hentry' => simp [hentry] at hentry'
  | link _ hentry' => simp [hentry] at hentry'
  | file _ hentry' => simpa [eq_comm] using hentry.symm.trans hentry'

theorem walk_of_find_found {p : Path} {l : Location} {e : Entry} (h : t.find p = .found l e) :
    t.walk maxLinks (startOf p.anchor []) p.parts = .found l e := by
  rw [find] at h
  split at h
  · cases h
  · split at h
    · cases h
    · exact h

/-- The parent of what a path names is a directory. -/
theorem location?_eq_some_iff {p : Path} {l : Location} :
    t.location? p = some l ↔ ∃ directory, t.directory? p.parent = some directory ∧
      l = directory ++ [p.name] := by
  rw [location?, Option.map_eq_some_iff]
  exact ⟨fun ⟨d, hd, heq⟩ => ⟨d, hd, heq.symm⟩, fun ⟨d, hd, heq⟩ => ⟨d, hd, heq.symm⟩⟩

theorem find_of_directory? {p : Path} {l : Location} (h : t.directory? p = some l) :
    t.find p = .found l .directory := by
  rw [directory?] at h
  split at h
  · next hfind =>
    obtain rfl := Option.some.inj h
    exact hfind
  · cases h

/-- A path that names a file and leads to a file leads to the one it names. -/
theorem find_file_eq {p : Path} {l l' : Location} {bytes bytes' : List UInt8} {mode mode' : Nat}
    (hfind : t.find p = .found l' (.file bytes' mode')) (hl : t.location? p = some l)
    (hentry : t.entry? l = some (.file bytes mode)) : l' = l ∧ bytes' = bytes ∧ mode' = mode := by
  obtain ⟨directory, hdirectory, rfl⟩ := location?_eq_some_iff.mp hl
  have hparent := find_of_directory? hdirectory
  rcases List.eq_nil_or_concat p.parts with hnil | ⟨parts, name, hparts⟩
  · have hself : p.parent = p := by
      cases p
      simp_all [Path.parent]
    rw [hself, hfind] at hparent
    cases hparent
  · rw [List.concat_eq_append] at hparts
    have hname : p.name = name := by simp [Path.name, hparts]
    have hinit : p.parent.parts = parts := by simp [Path.parent, hparts]
    have hwalk := walk_of_find_found hparent
    rw [hinit] at hwalk
    obtain ⟨links, hlinks⟩ := walk_concat hwalk name
    have hfile := walk_of_find_found hfind
    rw [hparts] at hfile
    rw [hname] at hentry ⊢
    exact walk_singleton (hlinks ▸ hfile) hentry

end ShellStyle.Tree
