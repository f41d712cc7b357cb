import ShellStyle.Text.Utf8

/-!
# Decoding what was encoded

The bytes of a character are read back as that character, whatever follows them, and so the bytes of
a text are read back as that text. Bytes that are read as a text are its only encoding: the bounds
for the second byte leave no room for another one. Only a byte order mark at the start of a file is
lost: no other character has its three bytes, and no text is encoded in the beginning of them.
-/

namespace ShellStyle.Text

/-! ## Bytes as numbers -/

theorem le_toUInt8_iff {n : Nat} (h : n < 256) (b : UInt8) : b ≤ n.toUInt8 ↔ b.toNat ≤ n := by
  rw [UInt8.le_iff_toNat_le, Nat.toUInt8, UInt8.toNat_ofNat_of_lt' h]

theorem toUInt8_le_iff {n : Nat} (h : n < 256) (b : UInt8) : n.toUInt8 ≤ b ↔ n ≤ b.toNat := by
  rw [UInt8.le_iff_toNat_le, Nat.toUInt8, UInt8.toNat_ofNat_of_lt' h]

theorem toUInt8_eq_iff {n : Nat} (h : n < 256) (b : UInt8) : n.toUInt8 = b ↔ n = b.toNat := by
  rw [← UInt8.toNat_inj, Nat.toUInt8, UInt8.toNat_ofNat_of_lt' h]

theorem toUInt8_lt_iff {n : Nat} (h : n < 256) (b : UInt8) : n.toUInt8 < b ↔ n < b.toNat := by
  rw [UInt8.lt_iff_toNat_lt, Nat.toUInt8, UInt8.toNat_ofNat_of_lt' h]

/-- The numbers of characters leave the surrogates out. -/
theorem toNat_bounds (c : Char) : c.toNat < 0xd800 ∨ 0xdfff < c.toNat ∧ c.toNat < 0x110000 :=
  c.valid

/-! ## First bytes -/

/-- The first byte of two announces one more. -/
theorem leadingByte?_two {n : Nat} (hlow : 2 ≤ n) (hhigh : n < 0x20) :
    leadingByte? (0xc0 + n).toUInt8 = some (1, n) := by
  have h : 0xc0 + n < 256 := by omega
  have hnat : (0xc0 + n).toUInt8.toNat = 0xc0 + n := UInt8.toNat_ofNat_of_lt' h
  rw [leadingByte?, if_neg, if_pos, hnat, Nat.add_sub_cancel_left]
  · rw [le_toUInt8_iff h, toUInt8_le_iff h]
    exact ⟨Nat.add_le_add_left hlow 0xc0, show 0xc0 + n ≤ 0xdf by omega⟩
  · rw [toUInt8_lt_iff h]
    exact show ¬ 0xc0 + n < 0x80 by omega

theorem leadingByte?_three {n : Nat} (hhigh : n < 0x10) :
    leadingByte? (0xe0 + n).toUInt8 = some (2, n) := by
  have h : 0xe0 + n < 256 := by omega
  have hnat : (0xe0 + n).toUInt8.toNat = 0xe0 + n := UInt8.toNat_ofNat_of_lt' h
  rw [leadingByte?, if_neg, if_neg, if_pos, hnat, Nat.add_sub_cancel_left]
  · rw [le_toUInt8_iff h, toUInt8_le_iff h]
    exact ⟨Nat.le_add_right 0xe0 n, show 0xe0 + n ≤ 0xef by omega⟩
  · rw [le_toUInt8_iff h, toUInt8_le_iff h]
    exact show ¬ (0xc2 ≤ 0xe0 + n ∧ 0xe0 + n ≤ 0xdf) by omega
  · rw [toUInt8_lt_iff h]
    exact show ¬ 0xe0 + n < 0x80 by omega

theorem leadingByte?_four {n : Nat} (hhigh : n < 5) :
    leadingByte? (0xf0 + n).toUInt8 = some (3, n) := by
  have h : 0xf0 + n < 256 := by omega
  have hnat : (0xf0 + n).toUInt8.toNat = 0xf0 + n := UInt8.toNat_ofNat_of_lt' h
  rw [leadingByte?, if_neg, if_neg, if_neg, if_pos, hnat, Nat.add_sub_cancel_left]
  · rw [le_toUInt8_iff h, toUInt8_le_iff h]
    exact ⟨Nat.le_add_right 0xf0 n, show 0xf0 + n ≤ 0xf4 by omega⟩
  · rw [le_toUInt8_iff h, toUInt8_le_iff h]
    exact show ¬ (0xe0 ≤ 0xf0 + n ∧ 0xf0 + n ≤ 0xef) by omega
  · rw [le_toUInt8_iff h, toUInt8_le_iff h]
    exact show ¬ (0xc2 ≤ 0xf0 + n ∧ 0xf0 + n ≤ 0xdf) by omega
  · rw [toUInt8_lt_iff h]
    exact show ¬ 0xf0 + n < 0x80 by omega

/-! ## One step of decoding -/

/-- A first byte leaves its bits to the bytes that it announces. -/
theorem decode_of_leadingByte? {b : UInt8} {k n : Nat} (h : leadingByte? b = some (k + 1, n))
    (rest : List UInt8) :
    decode (b :: rest) = decodeFrom (k + 1) n (secondRange b).1 (secondRange b).2 rest := by
  rw [decode, decodeFrom, h]

/-- A byte behind the first one, within the bounds for it. -/
theorem decodeFrom_continued {bits n : Nat} {low high : UInt8} (hn : n < 0x40)
    (hlow : low.toNat ≤ 0x80 + n) (hhigh : 0x80 + n ≤ high.toNat) (k : Nat) (rest : List UInt8) :
    decodeFrom (k + 1) bits low high ((0x80 + n).toUInt8 :: rest) =
      if k = 0 then (decode rest).map (Char.ofNat (0x40 * bits + n) :: ·)
      else decodeFrom k (0x40 * bits + n) 0x80 0xbf rest := by
  have h : 0x80 + n < 256 := by omega
  have hnat : (0x80 + n).toUInt8.toNat = 0x80 + n := UInt8.toNat_ofNat_of_lt' h
  have hrange : ¬ ((0x80 + n).toUInt8 < low ∨ high < (0x80 + n).toUInt8) := by
    rw [not_or, UInt8.not_lt, UInt8.not_lt, le_toUInt8_iff h, toUInt8_le_iff h]
    exact ⟨hlow, hhigh⟩
  rw [decodeFrom, if_neg hrange, hnat, Nat.add_sub_cancel_left]
  rfl

/-- A later byte adds six bits, and the last one completes the character. -/
theorem decodeFrom_next {bits n : Nat} (hn : n < 0x40) (k : Nat) (rest : List UInt8) :
    decodeFrom (k + 1) bits 0x80 0xbf ((0x80 + n).toUInt8 :: rest) =
      if k = 0 then (decode rest).map (Char.ofNat (0x40 * bits + n) :: ·)
      else decodeFrom k (0x40 * bits + n) 0x80 0xbf rest := by
  have hlow : (0x80 : UInt8).toNat ≤ 0x80 + n := Nat.le_add_right 0x80 n
  have hhigh : 0x80 + n ≤ (0xbf : UInt8).toNat := show 0x80 + n ≤ 0xbf by omega
  exact decodeFrom_continued hn hlow hhigh k rest

/-! ## Characters -/

/-- The bounds of the second byte of three leave out short forms and surrogates, and nothing
else. -/
theorem secondRange_three {n m : Nat} (hn : n < 0x10) (hm : m < 0x40) :
    (secondRange (0xe0 + n).toUInt8).1.toNat ≤ 0x80 + m ∧
      0x80 + m ≤ (secondRange (0xe0 + n).toUInt8).2.toNat ↔
      (n = 0 → 0x20 ≤ m) ∧ (n = 0xd → m < 0x20) := by
  have h : 0xe0 + n < 256 := by omega
  unfold secondRange
  simp only [toUInt8_eq_iff h, UInt8.reduceToNat]
  split
  · exact show 0xa0 ≤ 0x80 + m ∧ 0x80 + m ≤ 0xbf ↔ _ by omega
  split
  · exact show 0x80 ≤ 0x80 + m ∧ 0x80 + m ≤ 0x9f ↔ _ by omega
  split
  · omega
  split
  · omega
  · exact show 0x80 ≤ 0x80 + m ∧ 0x80 + m ≤ 0xbf ↔ _ by omega

/-- The bounds of the second byte of four leave out short forms and what is no character, and
nothing else. -/
theorem secondRange_four {n m : Nat} (hn : n < 5) (hm : m < 0x40) :
    (secondRange (0xf0 + n).toUInt8).1.toNat ≤ 0x80 + m ∧
      0x80 + m ≤ (secondRange (0xf0 + n).toUInt8).2.toNat ↔
      (n = 0 → 0x10 ≤ m) ∧ (n = 4 → m < 0x10) := by
  have h : 0xf0 + n < 256 := by omega
  unfold secondRange
  simp only [toUInt8_eq_iff h, UInt8.reduceToNat]
  split
  · omega
  split
  · omega
  split
  · exact show 0x90 ≤ 0x80 + m ∧ 0x80 + m ≤ 0xbf ↔ _ by omega
  split
  · exact show 0x80 ≤ 0x80 + m ∧ 0x80 + m ≤ 0x8f ↔ _ by omega
  · exact show 0x80 ≤ 0x80 + m ∧ 0x80 + m ≤ 0xbf ↔ _ by omega

/-- Behind the first byte of two any later byte may stand. -/
theorem secondRange_two {n : Nat} (hn : n < 0x20) :
    secondRange (0xc0 + n).toUInt8 = (0x80, 0xbf) := by
  have h : 0xc0 + n < 256 := by omega
  unfold secondRange
  simp only [toUInt8_eq_iff h, UInt8.reduceToNat]
  rw [if_neg (by omega), if_neg (by omega), if_neg (by omega), if_neg (by omega)]

/-- The bytes of a character are read as the character. -/
theorem decode_encodeChar_append (c : Char) (rest : List UInt8) :
    decode (encodeChar c ++ rest) = (decode rest).map (c :: ·) := by
  have hbounds := toNat_bounds c
  have hc : ∀ n, n = c.toNat → Char.ofNat n = c := by
    rintro n rfl
    exact Char.ofNat_toNat c
  unfold encodeChar
  dsimp only
  generalize c.toNat = n at hbounds hc
  split
  · next hn =>
    have h : n < 256 := by omega
    have hnat : n.toUInt8.toNat = n := UInt8.toNat_ofNat_of_lt' h
    have hlead : leadingByte? n.toUInt8 = some (0, n) := by
      rw [leadingByte?, if_pos ((toUInt8_lt_iff h 0x80).mpr hn), hnat]
    rw [List.singleton_append, decode, decodeFrom, hlead]
    dsimp only
    rw [hc n rfl]
    rfl
  split
  · next hone htwo =>
    rw [List.cons_append, List.singleton_append,
      decode_of_leadingByte? (leadingByte?_two (by omega) (by omega)), secondRange_two (by omega),
      decodeFrom_next (Nat.mod_lt n (by decide)), if_pos rfl, hc _ (Nat.div_add_mod n 0x40)]
  split
  · next htwo hthree =>
    -- the range of the second byte keeps out what has a shorter encoding, and surrogates
    obtain ⟨hlow, hhigh⟩ := (secondRange_three (n := n / 0x1000) (m := n / 0x40 % 0x40) (by omega)
      (Nat.mod_lt _ (by decide))).mpr (by omega)
    rw [List.cons_append, List.cons_append, List.singleton_append,
      decode_of_leadingByte? (leadingByte?_three (by omega)),
      decodeFrom_continued (Nat.mod_lt _ (by decide)) hlow hhigh, if_neg (by decide),
      decodeFrom_next (Nat.mod_lt n (by decide)), if_pos rfl, hc _ (by omega)]
  · next hthree =>
    obtain ⟨hlow, hhigh⟩ := (secondRange_four (n := n / 0x40000) (m := n / 0x1000 % 0x40) (by omega)
      (Nat.mod_lt _ (by decide))).mpr (by omega)
    rw [List.cons_append, List.cons_append, List.cons_append, List.singleton_append,
      decode_of_leadingByte? (leadingByte?_four (by omega)),
      decodeFrom_continued (Nat.mod_lt _ (by decide)) hlow hhigh, if_neg (by decide),
      decodeFrom_next (Nat.mod_lt _ (by decide)), if_neg (by decide),
      decodeFrom_next (Nat.mod_lt n (by decide)), if_pos rfl, hc _ (by omega)]

/-! ## Texts -/

/-- Encoded text is decoded again, whatever bytes follow it. -/
theorem decode_encode_append (t : Text) (rest : List UInt8) :
    decode (encode t ++ rest) = (decode rest).map (t ++ ·) := by
  induction t with
  | nil => cases h : decode rest <;> simp [encode, h, Except.map]
  | cons c t ih =>
    have hcons : encode (c :: t) = encodeChar c ++ encode t := rfl
    rw [hcons, List.append_assoc, decode_encodeChar_append, ih]
    cases decode rest <;> rfl

/-- The bytes of a text are read as the text. -/
theorem decode_encode (t : Text) : decode (encode t) = .ok t := by
  have h := decode_encode_append t []
  rw [List.append_nil] at h
  rw [h]
  exact congrArg Except.ok (List.append_nil t)

/-! ## Encoding what was decoded -/

/-- A number that is no surrogate is the number of its character. -/
theorem toNat_ofNat {n : Nat} (h : n < 0xd800 ∨ 0xdfff < n ∧ n < 0x110000) :
    (Char.ofNat n).toNat = n := by
  rw [Char.ofNat, dif_pos (show n.isValidChar from h)]
  rfl

/-- Numbers of up to seven bits take one byte. -/
theorem encodeChar_one {n : Nat} (hn : n < 0x80) : encodeChar (Char.ofNat n) = [n.toUInt8] := by
  rw [encodeChar, toNat_ofNat (by omega)]
  rw [if_pos hn]

theorem encodeChar_two {n m : Nat} (hlow : 2 ≤ n) (hhigh : n < 0x20) (hm : m < 0x40) :
    encodeChar (Char.ofNat (0x40 * n + m)) = [(0xc0 + n).toUInt8, (0x80 + m).toUInt8] := by
  rw [encodeChar, toNat_ofNat (by omega)]
  rw [if_neg (by omega), if_pos (by omega), show (0x40 * n + m) / 0x40 = n by omega,
    show (0x40 * n + m) % 0x40 = m by omega]

/-- Numbers of up to sixteen bits, surrogates apart, take three bytes. -/
theorem encodeChar_three {n m k : Nat} (hn : n < 0x10) (hm : m < 0x40) (hk : k < 0x40)
    (hrange : (n = 0 → 0x20 ≤ m) ∧ (n = 0xd → m < 0x20)) :
    encodeChar (Char.ofNat (0x40 * (0x40 * n + m) + k)) =
      [(0xe0 + n).toUInt8, (0x80 + m).toUInt8, (0x80 + k).toUInt8] := by
  rw [encodeChar, toNat_ofNat (by omega)]
  rw [if_neg (by omega), if_neg (by omega), if_pos (by omega),
    show (0x40 * (0x40 * n + m) + k) / 0x1000 = n by omega,
    show (0x40 * (0x40 * n + m) + k) / 0x40 % 0x40 = m by omega,
    show (0x40 * (0x40 * n + m) + k) % 0x40 = k by omega]

theorem encodeChar_four {n m k j : Nat} (hn : n < 5) (hm : m < 0x40) (hk : k < 0x40) (hj : j < 0x40)
    (hrange : (n = 0 → 0x10 ≤ m) ∧ (n = 4 → m < 0x10)) :
    encodeChar (Char.ofNat (0x40 * (0x40 * (0x40 * n + m) + k) + j)) =
      [(0xf0 + n).toUInt8, (0x80 + m).toUInt8, (0x80 + k).toUInt8, (0x80 + j).toUInt8] := by
  rw [encodeChar, toNat_ofNat (by omega)]
  rw [if_neg (by omega), if_neg (by omega), if_neg (by omega),
    show (0x40 * (0x40 * (0x40 * n + m) + k) + j) / 0x40000 = n by omega,
    show (0x40 * (0x40 * (0x40 * n + m) + k) + j) / 0x1000 % 0x40 = m by omega,
    show (0x40 * (0x40 * (0x40 * n + m) + k) + j) / 0x40 % 0x40 = k by omega,
    show (0x40 * (0x40 * (0x40 * n + m) + k) + j) % 0x40 = j by omega]

/-- What a byte can be that a character begins with. -/
theorem leadingByte?_cases {b : UInt8} {k n : Nat} (h : leadingByte? b = some (k, n)) :
    (k = 0 ∧ n < 0x80 ∧ b = n.toUInt8) ∨ (k = 1 ∧ 2 ≤ n ∧ n < 0x20 ∧ b = (0xc0 + n).toUInt8) ∨
      (k = 2 ∧ n < 0x10 ∧ b = (0xe0 + n).toUInt8) ∨ (k = 3 ∧ n < 5 ∧ b = (0xf0 + n).toUInt8) := by
  have hb : ∀ m, m = b.toNat → b = m.toUInt8 := by
    rintro m rfl
    simp
  unfold leadingByte? at h
  simp only [UInt8.lt_iff_toNat_lt, UInt8.le_iff_toNat_le, UInt8.reduceToNat] at h
  split at h
  · obtain ⟨rfl, rfl⟩ := Prod.mk.inj (Option.some.inj h)
    exact .inl ⟨rfl, by omega, hb _ rfl⟩
  split at h
  · obtain ⟨rfl, rfl⟩ := Prod.mk.inj (Option.some.inj h)
    exact .inr (.inl ⟨rfl, by omega, by omega, hb _ (by omega)⟩)
  split at h
  · obtain ⟨rfl, rfl⟩ := Prod.mk.inj (Option.some.inj h)
    exact .inr (.inr (.inl ⟨rfl, by omega, hb _ (by omega)⟩))
  split at h
  · obtain ⟨rfl, rfl⟩ := Prod.mk.inj (Option.some.inj h)
    exact .inr (.inr (.inr ⟨rfl, by omega, hb _ (by omega)⟩))
  · cases h

/-- Whatever the first byte is, only later bytes may follow it. -/
theorem secondRange_bounds (b : UInt8) :
    0x80 ≤ (secondRange b).1.toNat ∧ (secondRange b).2.toNat ≤ 0xbf := by
  unfold secondRange
  repeat' split
  all_goals decide

/-- Where a byte behind the first one is read, it is there and within the bounds for it. -/
theorem exists_of_decodeFrom {k bits : Nat} {low high : UInt8} {bytes : List UInt8} {t : Text}
    (hlow : 0x80 ≤ low.toNat) (hhigh : high.toNat ≤ 0xbf)
    (h : decodeFrom (k + 1) bits low high bytes = .ok t) :
    ∃ n rest, n < 0x40 ∧ (low.toNat ≤ 0x80 + n ∧ 0x80 + n ≤ high.toNat) ∧
      bytes = (0x80 + n).toUInt8 :: rest ∧
      (if k = 0 then (decode rest).map (Char.ofNat (0x40 * bits + n) :: ·)
        else decodeFrom k (0x40 * bits + n) 0x80 0xbf rest) = .ok t := by
  cases bytes with
  | nil => simp [decodeFrom] at h
  | cons b rest =>
    rw [decodeFrom] at h
    split at h
    · cases h
    · next hrange =>
      rw [not_or, UInt8.not_lt, UInt8.not_lt, UInt8.le_iff_toNat_le,
        UInt8.le_iff_toNat_le] at hrange
      refine ⟨b.toNat - 0x80, rest, by omega, by omega, ?_, h⟩
      rw [show 0x80 + (b.toNat - 0x80) = b.toNat by omega]
      simp

/-- What is decoded behind a first byte goes on with a later byte. -/
theorem exists_of_decodeFrom_next {k bits : Nat} {bytes : List UInt8} {t : Text}
    (h : decodeFrom (k + 1) bits 0x80 0xbf bytes = .ok t) :
    ∃ n rest, n < 0x40 ∧ bytes = (0x80 + n).toUInt8 :: rest ∧
      (if k = 0 then (decode rest).map (Char.ofNat (0x40 * bits + n) :: ·)
        else decodeFrom k (0x40 * bits + n) 0x80 0xbf rest) = .ok t := by
  obtain ⟨n, rest, hn, -, hbytes, hrest⟩ := exists_of_decodeFrom (by decide) (by decide) h
  exact ⟨n, rest, hn, hbytes, hrest⟩

/-- Bytes that are read as a text begin with those of a character. -/
theorem exists_encodeChar_append {b : UInt8} {bytes : List UInt8} {t : Text}
    (h : decode (b :: bytes) = .ok t) :
    ∃ c rest, b :: bytes = encodeChar c ++ rest ∧ (decode rest).map (c :: ·) = .ok t := by
  cases hlead : leadingByte? b with
  | none => simp [decode, decodeFrom, hlead] at h
  | some lead =>
    obtain ⟨k, n⟩ := lead
    have hbounds := secondRange_bounds b
    rcases leadingByte?_cases hlead with ⟨rfl, hn, rfl⟩ | ⟨rfl, hlow, hn, rfl⟩ | ⟨rfl, hn, rfl⟩
      | ⟨rfl, hn, rfl⟩
    · rw [decode, decodeFrom, hlead] at h
      exact ⟨Char.ofNat n, bytes, by rw [encodeChar_one hn]; rfl, h⟩
    all_goals
      rw [decode_of_leadingByte? hlead] at h
      obtain ⟨m, rest, hm, hrange, rfl, hmore⟩ := exists_of_decodeFrom hbounds.1 hbounds.2 h
    · rw [if_pos rfl] at hmore
      exact ⟨_, rest, by rw [encodeChar_two hlow hn hm]; rfl, hmore⟩
    · rw [if_neg (by decide)] at hmore
      obtain ⟨k, rest, hk, rfl, hlast⟩ := exists_of_decodeFrom_next hmore
      rw [if_pos rfl] at hlast
      exact ⟨_, rest, by rw [encodeChar_three hn hm hk ((secondRange_three hn hm).mp hrange)]; rfl,
        hlast⟩
    · rw [if_neg (by decide)] at hmore
      obtain ⟨k, rest, hk, rfl, hthird⟩ := exists_of_decodeFrom_next hmore
      rw [if_neg (by decide)] at hthird
      obtain ⟨j, rest, hj, rfl, hlast⟩ := exists_of_decodeFrom_next hthird
      rw [if_pos rfl] at hlast
      exact ⟨_, rest, by rw [encodeChar_four hn hm hk hj ((secondRange_four hn hm).mp hrange)]; rfl,
        hlast⟩

theorem encodeChar_ne_nil (c : Char) : encodeChar c ≠ [] := by
  unfold encodeChar
  dsimp only
  repeat' split
  all_goals exact List.cons_ne_nil _ _

/-- Bytes that are read as a text are the bytes of the text. -/
theorem encode_of_decode {bytes : List UInt8} {t : Text} (h : decode bytes = .ok t) :
    encode t = bytes := by
  induction hlength : bytes.length using Nat.strongRecOn generalizing bytes t with
  | ind n ih =>
    cases bytes with
    | nil =>
      obtain rfl := Except.ok.inj h
      rfl
    | cons b bytes =>
      obtain ⟨c, rest, hbytes, hrest⟩ := exists_encodeChar_append h
      cases hu : decode rest with
      | error e => simp [hu, Except.map] at hrest
      | ok u =>
        obtain rfl : c :: u = t := by simpa [hu, Except.map] using hrest
        have hshort : rest.length < n := by
          rw [← hlength, hbytes, List.length_append]
          exact Nat.lt_add_of_pos_left (List.length_pos_iff.mpr (encodeChar_ne_nil c))
        rw [hbytes, ← ih _ hshort hu rfl]
        rfl

theorem encode_append (a b : Text) : encode (a ++ b) = encode a ++ encode b :=
  List.flatMap_append

/-- Only the line feed is encoded with its byte at the end. -/
theorem getLast?_encodeChar (c : Char) : (encodeChar c).getLast? = some 0x0a ↔ c = '\n' := by
  have hfeed : c.toNat = 0x0a ↔ c = '\n' := Char.toNat_inj (d := '\n')
  have hlater : ∀ n, n < 0x40 → (0x80 + n).toUInt8 ≠ 0x0a := by
    intro n hn heq
    rw [toUInt8_eq_iff (by omega)] at heq
    exact absurd heq (show 0x80 + n ≠ 0x0a by omega)
  rw [← hfeed]
  unfold encodeChar
  dsimp only
  generalize c.toNat = n
  have hmod : n % 0x40 < 0x40 := Nat.mod_lt n (by decide)
  split
  · next hn =>
    rw [List.getLast?_singleton, Option.some_inj, toUInt8_eq_iff (by omega)]
    rfl
  -- the last of several bytes is no line feed
  all_goals
    refine iff_of_false ?_ (by omega)
    repeat' split
    all_goals simpa using hlater _ hmod

/-- A text and its bytes end in a line feed alike. -/
theorem getLast?_encode (t : Text) : (encode t).getLast? = some 0x0a ↔ t.getLast? = some '\n' := by
  rcases List.eq_nil_or_concat t with rfl | ⟨front, c, rfl⟩
  · simp [encode]
  · have hc : encode [c] = encodeChar c := by simp [encode]
    have hsome : (encodeChar c).getLast?.isSome := List.getLast?_isSome.mpr (encodeChar_ne_nil c)
    rw [List.concat_eq_append, encode_append, hc, List.getLast?_append, Option.or_of_isSome hsome,
      getLast?_encodeChar, List.getLast?_concat, Option.some_inj]

/-! ## Byte order marks -/

/-- The text without a byte order mark at its start. -/
def unmarked (t : Text) : Text :=
  if t.head? = some '\ufeff' then t.tail else t

/-- The bytes of a text, read as those of a file. -/
theorem decodeFile_encode (t : Text) : decodeFile (encode t) = .ok (unmarked t) := by
  have hdecode := decode_encode t
  unfold decodeFile
  -- the beginning of a mark is the beginning of a character, and decoding it fails
  split
  · next heq =>
    rw [heq] at hdecode
    exact absurd hdecode (by simp [show decode [0xef] = .error .unexpectedEnd from rfl])
  · next heq =>
    rw [heq] at hdecode
    exact absurd hdecode (by simp [show decode [0xef, 0xbb] = .error .unexpectedEnd from rfl])
  · next rest heq =>
    have hmark : 0xef :: 0xbb :: 0xbf :: rest = encodeChar '\ufeff' ++ rest := rfl
    rw [heq, hmark, decode_encodeChar_append] at hdecode
    cases hrest : decode rest with
    | error e => simp [hrest, Except.map] at hdecode
    | ok u =>
      obtain rfl : '\ufeff' :: u = t := by simpa [hrest, Except.map] using hdecode
      rfl
  · next _ _ hmark =>
    rw [hdecode, unmarked, if_neg]
    intro hhead
    obtain ⟨u, rfl⟩ := List.head?_eq_some_iff.mp hhead
    exact hmark (encode u) rfl

/-- The bytes of a byte order mark. -/
def markBytes : List UInt8 :=
  [0xef, 0xbb, 0xbf]

/-- Bytes without the byte order mark that they may begin with. -/
def unmarkedBytes : List UInt8 → List UInt8
  | 0xef :: 0xbb :: 0xbf :: rest => rest
  | bytes => bytes

/-- Bytes begin with the mark, which is taken off, or stay as they are. -/
theorem unmarkedBytes_cases (bytes : List UInt8) :
    bytes = markBytes ++ unmarkedBytes bytes ∨
      ¬ markBytes <+: bytes ∧ unmarkedBytes bytes = bytes := by
  unfold unmarkedBytes
  split
  · exact .inl rfl
  · next hmark =>
    refine .inr ⟨?_, rfl⟩
    rintro ⟨rest, rfl⟩
    exact hmark rest rfl

/-- The bytes of a file that is read as a text are the bytes of the text, and perhaps a mark before
them. -/
theorem unmarkedBytes_of_decodeFile {bytes : List UInt8} {t : Text} (h : decodeFile bytes = .ok t)
    (ht : t ≠ []) :
    unmarkedBytes bytes = encode t := by
  unfold decodeFile at h
  split at h
  · exact absurd (Except.ok.inj h).symm ht
  · exact absurd (Except.ok.inj h).symm ht
  · exact (encode_of_decode h).symm
  · next hmark =>
    rw [encode_of_decode h]
    exact ((unmarkedBytes_cases bytes).resolve_left fun heq => hmark _ heq).2

end ShellStyle.Text
