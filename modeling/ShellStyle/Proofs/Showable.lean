import ShellStyle.Severity

/-!
# Values that can be shown

What stands in the way of a value being turned into text is met on the way through the value, and
depends on how much room the machine has. In the end it is two plain facts about the value that
decide: how deep values are nested in it, and whether all its integers have few enough digits.
-/

namespace ShellStyle

namespace Value

mutual

/-- How many calls, one inside another, it takes to turn a value into text. -/
def depth : Value → Nat
  | seq items => itemsDepth items + 1
  | map entries => entriesDepth entries + 1
  | _ => 1

/-- The depth of the deepest item of a sequence. -/
def itemsDepth : List Value → Nat
  | [] => 0
  | v :: vs => max (depth v) (itemsDepth vs)

/-- The depth of the deepest key or value of a mapping. -/
def entriesDepth : List (Value × Value) → Nat
  | [] => 0
  | (k, v) :: es => max (max (depth k) (depth v)) (entriesDepth es)

end

mutual

/-- Whether every integer in a value can be written. -/
def isWritten : Value → Bool
  | int n => Numeral.isWritten n
  | seq items => areWritten items
  | map entries => areEntriesWritten entries
  | _ => true

/-- Whether every integer in the items of a sequence can be written. -/
def areWritten : List Value → Bool
  | [] => true
  | v :: vs => isWritten v && areWritten vs

/-- Whether every integer in the entries of a mapping can be written. -/
def areEntriesWritten : List (Value × Value) → Bool
  | [] => true
  | (k, v) :: es => isWritten k && isWritten v && areEntriesWritten es

end

/-- Even a value that holds no others needs one call. -/
theorem depth_pos (v : Value) : 0 < v.depth := by
  cases v <;> simp [depth]

mutual

/-- Nothing stands in the way of a value that is not deeper than the room there is, and whose
integers can be written. -/
theorem obstacle?_eq_none_iff (v : Value) (room : Nat) :
    v.obstacle? room = none ↔ v.depth ≤ room ∧ v.isWritten = true := by
  cases room with
  | zero =>
    have hdepth := v.depth_pos
    simp only [obstacle?, reduceCtorEq, false_iff]
    omega
  | succ room =>
    match v with
    | .int n => by_cases h : Numeral.isWritten n = true <;> simp [obstacle?, depth, isWritten, h]
    | .seq items =>
      rw [obstacle?, itemsObstacle?_eq_none_iff items room, depth, isWritten,
        Nat.add_le_add_iff_right]
    | .map entries =>
      rw [obstacle?, entriesObstacle?_eq_none_iff entries room, depth, isWritten,
        Nat.add_le_add_iff_right]
    | .null | .bool _ | .float _ | .date _ _ _ | .text _ => simp [obstacle?, depth, isWritten]

theorem itemsObstacle?_eq_none_iff (items : List Value) (room : Nat) :
    itemsObstacle? room items = none ↔ itemsDepth items ≤ room ∧ areWritten items = true := by
  match items with
  | [] => simp [itemsObstacle?, itemsDepth, areWritten]
  | v :: vs =>
    rw [itemsObstacle?, Option.or_eq_none_iff, obstacle?_eq_none_iff v room,
      itemsObstacle?_eq_none_iff vs room, itemsDepth, areWritten, Nat.max_le, Bool.and_eq_true]
    exact and_and_and_comm

theorem entriesObstacle?_eq_none_iff (entries : List (Value × Value)) (room : Nat) :
    entriesObstacle? room entries = none ↔
      entriesDepth entries ≤ room ∧ areEntriesWritten entries = true := by
  match entries with
  | [] => simp [entriesObstacle?, entriesDepth, areEntriesWritten]
  | (k, v) :: es =>
    rw [entriesObstacle?, Option.or_eq_none_iff, Option.or_eq_none_iff,
      obstacle?_eq_none_iff k room, obstacle?_eq_none_iff v room,
      entriesObstacle?_eq_none_iff es room, entriesDepth,
      areEntriesWritten, Nat.max_le, Nat.max_le, Bool.and_eq_true, Bool.and_eq_true,
      @and_and_and_comm (k.depth ≤ room) (k.isWritten = true)]
    exact and_and_and_comm

end

mutual

/-- A value is too deep, or an integer in it cannot be written. -/
theorem obstacle?_eq_some (v : Value) {room : Nat} {e : StyleError} :
    v.obstacle? room = some e → e = .tooDeep ∨ e = .longInteger ∧ v.isWritten = false := by
  cases room with
  | zero =>
    rw [obstacle?]
    exact fun h => .inl (Option.some.inj h).symm
  | succ room =>
    match v with
    | .int n =>
      rw [obstacle?, isWritten]
      cases Numeral.isWritten n with
      | true => simp
      | false => exact fun h => .inr ⟨(Option.some.inj h).symm, rfl⟩
    | .seq items =>
      rw [obstacle?, isWritten]
      exact itemsObstacle?_eq_some items
    | .map entries =>
      rw [obstacle?, isWritten]
      exact entriesObstacle?_eq_some entries
    | .null | .bool _ | .float _ | .date _ _ _ | .text _ => simp [obstacle?]

theorem itemsObstacle?_eq_some (items : List Value) {room : Nat} {e : StyleError}
    (h : itemsObstacle? room items = some e) :
    e = .tooDeep ∨ e = .longInteger ∧ areWritten items = false := by
  match items with
  | [] => cases h
  | v :: vs =>
    rw [itemsObstacle?, Option.or_eq_some_iff] at h
    rw [areWritten, Bool.and_eq_false_iff]
    rcases h with hv | ⟨-, hvs⟩
    · exact (obstacle?_eq_some v hv).imp_right (And.imp_right .inl)
    · exact (itemsObstacle?_eq_some vs hvs).imp_right (And.imp_right .inr)

theorem entriesObstacle?_eq_some (entries : List (Value × Value)) {room : Nat} {e : StyleError}
    (h : entriesObstacle? room entries = some e) :
    e = .tooDeep ∨ e = .longInteger ∧ areEntriesWritten entries = false := by
  match entries with
  | [] => cases h
  | (k, v) :: es =>
    rw [entriesObstacle?, Option.or_eq_some_iff, Option.or_eq_some_iff] at h
    rw [areEntriesWritten, Bool.and_eq_false_iff, Bool.and_eq_false_iff]
    rcases h with (hk | ⟨-, hv⟩) | ⟨-, hes⟩
    · exact (obstacle?_eq_some k hk).imp_right (And.imp_right fun h => .inl (.inl h))
    · exact (obstacle?_eq_some v hv).imp_right (And.imp_right fun h => .inl (.inr h))
    · exact (entriesObstacle?_eq_some es hes).imp_right (And.imp_right .inr)

end

/-- Whether a value can be shown at a place: it is not deeper than the machine has room for there,
and all its integers can be written. -/
def IsShowable [Machine] (reading : Reading) (v : Value) : Prop :=
  v.depth ≤ Machine.room reading ∧ v.isWritten = true

/-- A value that holds no others can be shown wherever its integers can be written. -/
theorem isShowable_of_depth_eq_one [Machine] {v : Value} (hdepth : v.depth = 1)
    (hwritten : v.isWritten = true) (reading : Reading) : v.IsShowable reading := by
  have hroom := Machine.two_le_room reading
  exact ⟨by omega, hwritten⟩

/-- Text can be shown everywhere. -/
theorem isShowable_text [Machine] (s : String) (reading : Reading) : (text s).IsShowable reading :=
  isShowable_of_depth_eq_one rfl rfl reading

/-- What can be shown is shown. -/
theorem shown_eq_ok [Machine] {reading : Reading} {v : Value} (h : v.IsShowable reading) :
    v.shown reading = .ok v.display := by
  rw [shown, (obstacle?_eq_none_iff v _).mpr h]

/-- What cannot be shown is too deep, or cannot be shown anywhere because of its integers. -/
theorem shown_eq_error [Machine] {reading : Reading} {v : Value} (h : ¬ v.IsShowable reading) :
    ∃ e, v.shown reading = .error e ∧ (e = .tooDeep ∨ ∀ other, ¬ v.IsShowable other) := by
  rw [IsShowable, ← obstacle?_eq_none_iff] at h
  obtain ⟨e, he⟩ := Option.ne_none_iff_exists'.mp h
  refine ⟨e, by rw [shown, he], (obstacle?_eq_some v he).imp_right ?_⟩
  rintro ⟨-, hlong⟩ other ⟨-, hwritten⟩
  rw [hlong] at hwritten
  cases hwritten

/-- A key that can be shown is shown. -/
theorem shownKey_eq_ok [Machine] {reading : Reading} {key : Value} (h : key.IsShowable reading) :
    key.shownKey reading = .ok key.displayKey := by
  rw [shownKey, (obstacle?_eq_none_iff key _).mpr h]

/-- A key fails to be shown where a value does. -/
theorem shownKey_eq_error [Machine] {reading : Reading} {key : Value}
    (h : ¬ key.IsShowable reading) :
    ∃ e, key.shownKey reading = .error e ∧ (e = .tooDeep ∨ ∀ other, ¬ key.IsShowable other) := by
  obtain ⟨e, he, hcause⟩ := shown_eq_error h
  refine ⟨e, ?_, hcause⟩
  rw [shown] at he
  rw [shownKey]
  split at he
  · cases he
  · exact congrArg Except.error (Except.error.inj he)

end Value

end ShellStyle
