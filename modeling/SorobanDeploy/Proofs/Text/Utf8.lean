import SorobanDeploy.Text.Utf8

/-!
# What is written is read back

`decode_encode`: the octets of a text are read as that text. A character is one octet, or an octet
that opens it and up to three that continue it, each with six bits. So the proof goes by the number
of octets, and each octet is one step of the reader.

`decode_eq_ok_iff`: no other octets are read as that text. The bounds of the second octet leave one
way to write each character.
-/

namespace SorobanDeploy.Text.Utf8

theorem toNat_ofNat {n : Nat} (h : n < 0x100) : (UInt8.ofNat n).toNat = n := by
  rw [UInt8.toNat_ofNat']
  exact Nat.mod_eq_of_lt h

/-- A character is below the last one and is no surrogate. -/
theorem toNat_bounds (c : Char) : c.toNat < 0xD800 ∨ (0xDFFF < c.toNat ∧ c.toNat < 0x110000) :=
  c.valid

/-- The octet that opens a character moves the reader into it. -/
theorem decodeFrom_opens {b : UInt8} {p : Pending} (h : lead b = .opens p) (pos : Nat)
    (bs : Octets) : decodeFrom pos none (b :: bs) = decodeFrom (pos + 1) (some p) bs := by
  simp only [decodeFrom, h]

/-- An octet with six more bits of a character leaves the reader in it. -/
theorem decodeFrom_push {p : Pending} {k : Nat} (hk : k < 0x40) (hlow : p.low ≤ 0x80 + k)
    (hhigh : 0x80 + k ≤ p.high) (hmissing : p.missing ≠ 1) (hopen : p.missing ≠ 0) (pos : Nat)
    (bs : Octets) :
    decodeFrom pos (some p) (.ofNat (0x80 + k) :: bs) = decodeFrom (pos + 1)
      (some ⟨p.first, p.taken + 1, p.value * 0x40 + k, p.missing - 1, 0x80, 0xBF⟩) bs := by
  have hb : (UInt8.ofNat (0x80 + k)).toNat = 0x80 + k := toNat_ofNat (by omega)
  have hadmits : p.admits (.ofNat (0x80 + k)) = true := by
    simp only [Pending.admits, hb]
    simp [hlow, hhigh]
  have hleft : p.missing - 1 ≠ 0 := by omega
  simp only [decodeFrom, hadmits, if_true, Pending.push, hb, Nat.add_sub_cancel_left, if_neg hleft]

/-- The octet with the last six bits of a character ends it. -/
theorem decodeFrom_last {p : Pending} {k : Nat} (hk : k < 0x40) (hlow : p.low ≤ 0x80 + k)
    (hhigh : 0x80 + k ≤ p.high) (hmissing : p.missing = 1) (pos : Nat) (bs : Octets) :
    decodeFrom pos (some p) (.ofNat (0x80 + k) :: bs) =
      (decodeFrom (pos + 1) none bs).map (Char.ofNat (p.value * 0x40 + k) :: ·) := by
  have hb : (UInt8.ofNat (0x80 + k)).toNat = 0x80 + k := toNat_ofNat (by omega)
  have hadmits : p.admits (.ofNat (0x80 + k)) = true := by
    simp only [Pending.admits, hb]
    simp [hlow, hhigh]
  have hleft : p.missing - 1 = 0 := by omega
  simp only [decodeFrom, hadmits, if_true, Pending.push, hb, Nat.add_sub_cancel_left, if_pos hleft]

/-- One octet is read as the character that it is. -/
theorem decodeFrom_one {c : Char} (h : c.toNat < 0x80) (pos : Nat) (bs : Octets) :
    decodeFrom pos none (.ofNat c.toNat :: bs) =
      (decodeFrom (pos + 1) none bs).map (c :: ·) := by
  have hlead : lead (.ofNat c.toNat) = .whole c := by
    simp only [lead, toNat_ofNat (show c.toNat < 0x100 by omega), if_pos h, Char.ofNat_toNat]
  simp only [decodeFrom, hlead]

/-- Two octets are read as the character that has their bits. -/
theorem decodeFrom_two {n : Nat} (hlow : 0x80 ≤ n) (hhigh : n < 0x800) (pos : Nat) (bs : Octets) :
    decodeFrom pos none (.ofNat (0xC0 + n / 0x40) :: .ofNat (0x80 + n % 0x40) :: bs) =
      (decodeFrom (pos + 2) none bs).map (Char.ofNat n :: ·) := by
  have hlead : lead (.ofNat (0xC0 + n / 0x40)) =
      .opens ⟨.ofNat (0xC0 + n / 0x40), 1, n / 0x40, 1, 0x80, 0xBF⟩ := by
    simp only [lead, toNat_ofNat (show 0xC0 + n / 0x40 < 0x100 by omega)]
    rw [if_neg (by omega), if_neg (by omega), if_pos (by omega), Nat.add_sub_cancel_left]
  have hvalue : n / 0x40 * 0x40 + n % 0x40 = n := by omega
  rw [decodeFrom_opens hlead,
    decodeFrom_last (by omega) (by simp only; omega) (by simp only; omega) rfl]
  simp only [hvalue]

/-- Three octets are read as the character that has their bits. -/
theorem decodeFrom_three {n : Nat} (hlow : 0x800 ≤ n) (hhigh : n < 0x10000)
    (hwhole : n < 0xD800 ∨ 0xDFFF < n) (pos : Nat) (bs : Octets) :
    decodeFrom pos none (.ofNat (0xE0 + n / 0x1000) :: .ofNat (0x80 + n / 0x40 % 0x40) ::
        .ofNat (0x80 + n % 0x40) :: bs) =
      (decodeFrom (pos + 3) none bs).map (Char.ofNat n :: ·) := by
  have hlead : lead (.ofNat (0xE0 + n / 0x1000)) =
      .opens ⟨.ofNat (0xE0 + n / 0x1000), 1, n / 0x1000, 2,
        if 0xE0 + n / 0x1000 = 0xE0 then 0xA0 else 0x80,
        if 0xE0 + n / 0x1000 = 0xED then 0x9F else 0xBF⟩ := by
    simp only [lead, toNat_ofNat (show 0xE0 + n / 0x1000 < 0x100 by omega)]
    rw [if_neg (by omega), if_neg (by omega), if_neg (by omega), if_pos (by omega),
      Nat.add_sub_cancel_left]
  have hvalue : (n / 0x1000 * 0x40 + n / 0x40 % 0x40) * 0x40 + n % 0x40 = n := by omega
  rw [decodeFrom_opens hlead,
    decodeFrom_push (by omega) (by simp only; split <;> omega) (by simp only; split <;> omega)
      (by simp) (by simp),
    decodeFrom_last (by omega) (by simp only; omega) (by simp only; omega) rfl]
  simp only [hvalue]

/-- Four octets are read as the character that has their bits. -/
theorem decodeFrom_four {n : Nat} (hlow : 0x10000 ≤ n) (hhigh : n < 0x110000) (pos : Nat)
    (bs : Octets) :
    decodeFrom pos none (.ofNat (0xF0 + n / 0x40000) :: .ofNat (0x80 + n / 0x1000 % 0x40) ::
        .ofNat (0x80 + n / 0x40 % 0x40) :: .ofNat (0x80 + n % 0x40) :: bs) =
      (decodeFrom (pos + 4) none bs).map (Char.ofNat n :: ·) := by
  have hlead : lead (.ofNat (0xF0 + n / 0x40000)) =
      .opens ⟨.ofNat (0xF0 + n / 0x40000), 1, n / 0x40000, 3,
        if 0xF0 + n / 0x40000 = 0xF0 then 0x90 else 0x80,
        if 0xF0 + n / 0x40000 = 0xF4 then 0x8F else 0xBF⟩ := by
    simp only [lead, toNat_ofNat (show 0xF0 + n / 0x40000 < 0x100 by omega)]
    rw [if_neg (by omega), if_neg (by omega), if_neg (by omega), if_neg (by omega),
      if_pos (by omega), Nat.add_sub_cancel_left]
  have hvalue : ((n / 0x40000 * 0x40 + n / 0x1000 % 0x40) * 0x40 + n / 0x40 % 0x40) * 0x40
      + n % 0x40 = n := by omega
  rw [decodeFrom_opens hlead,
    decodeFrom_push (by omega) (by simp only; split <;> omega) (by simp only; split <;> omega)
      (by simp) (by simp),
    decodeFrom_push (by omega) (by simp only; omega) (by simp only; omega) (by simp) (by simp),
    decodeFrom_last (by omega) (by simp only; omega) (by simp only; omega) rfl]
  simp only [hvalue]

/-- The octets of a character are read as that character. -/
theorem decodeFrom_encodeChar (c : Char) (pos : Nat) (bs : Octets) :
    decodeFrom pos none (encodeChar c ++ bs) =
      (decodeFrom (pos + (encodeChar c).length) none bs).map (c :: ·) := by
  have hbounds := toNat_bounds c
  simp only [encodeChar]
  by_cases h1 : c.toNat < 0x80
  · rw [if_pos h1]
    exact decodeFrom_one h1 pos bs
  by_cases h2 : c.toNat < 0x800
  · have hread := decodeFrom_two (Nat.not_lt.1 h1) h2 pos bs
    rw [Char.ofNat_toNat] at hread
    rw [if_neg h1, if_pos h2]
    exact hread
  by_cases h3 : c.toNat < 0x10000
  · have hread := decodeFrom_three (Nat.not_lt.1 h2) h3 (by omega) pos bs
    rw [Char.ofNat_toNat] at hread
    rw [if_neg h1, if_neg h2, if_pos h3]
    exact hread
  · have hread := decodeFrom_four (Nat.not_lt.1 h3) (by omega) pos bs
    rw [Char.ofNat_toNat] at hread
    rw [if_neg h1, if_neg h2, if_neg h3]
    exact hread

/-- The octets of a text are read as that text. -/
theorem decode_encode (cs : List Char) : decode (encode cs) = .ok cs := by
  unfold decode
  -- The reader is where the character before ended, at any position.
  suffices h : ∀ pos, decodeFrom pos none (encode cs) = .ok cs from h 0
  induction cs with
  | nil => exact fun pos => rfl
  | cons c cs ih =>
    intro pos
    rw [encode, List.flatMap_cons, decodeFrom_encodeChar, ← encode, ih]
    rfl

theorem encode_append (cs ds : List Char) : encode (cs ++ ds) = encode cs ++ encode ds :=
  List.flatMap_append

/-- Two texts with the same octets are the same. -/
theorem encode_inj {cs ds : List Char} : encode cs = encode ds ↔ cs = ds := by
  refine ⟨fun h => ?_, fun h => h ▸ rfl⟩
  have hread : decode (encode cs) = .ok ds := by rw [h, decode_encode]
  rw [decode_encode] at hread
  exact Except.ok.inj hread

/-! ## What is read was written so -/

/-- The number of a character that is no surrogate and not beyond the last one. -/
theorem toNat_charOfNat {n : Nat} (h : n < 0xD800 ∨ (0xDFFF < n ∧ n < 0x110000)) :
    (Char.ofNat n).toNat = n := by
  rw [Char.ofNat, dif_pos h]
  rfl

/-- A character that is begun is read on only where an octet with six more bits continues it. -/
theorem exists_continuation {p : Pending} {pos : Nat} {bs : Octets} {cs : List Char}
    (hlow : 0x80 ≤ p.low) (hhigh : p.high ≤ 0xBF) (h : decodeFrom pos (some p) bs = .ok cs) :
    ∃ k rest, bs = .ofNat (0x80 + k) :: rest ∧ k < 0x40 ∧ p.low ≤ 0x80 + k ∧
      0x80 + k ≤ p.high := by
  cases bs with
  | nil => cases h
  | cons b rest =>
    unfold decodeFrom at h
    split at h
    · rename_i hadmits
      simp only [Pending.admits, Bool.and_eq_true, decide_eq_true_eq] at hadmits
      obtain ⟨hfrom, hto⟩ := hadmits
      have hb : 0x80 + (b.toNat - 0x80) = b.toNat := by omega
      refine ⟨b.toNat - 0x80, rest, ?_, by omega, by omega, by omega⟩
      rw [hb, UInt8.ofNat_toNat]
    · cases h

/-- An octet that opens a character of two is read only with the other one. -/
theorem exists_two {pos : Nat} {b : UInt8} {bs : Octets} {cs : List Char} (hlow : 0xC2 ≤ b.toNat)
    (hhigh : b.toNat < 0xE0) (h : decodeFrom pos none (b :: bs) = .ok cs) :
    ∃ n rest, (0x80 ≤ n ∧ n < 0x800) ∧
      b :: bs = .ofNat (0xC0 + n / 0x40) :: .ofNat (0x80 + n % 0x40) :: rest := by
  have hlead : lead b = .opens ⟨b, 1, b.toNat - 0xC0, 1, 0x80, 0xBF⟩ := by
    unfold lead
    dsimp only
    rw [if_neg (by omega), if_neg (by omega), if_pos hhigh]
  rw [decodeFrom_opens hlead] at h
  obtain ⟨k, rest, rfl, hk, -, -⟩ := exists_continuation (by simp) (by simp) h
  obtain ⟨n, hn⟩ : ∃ n, n = (b.toNat - 0xC0) * 0x40 + k := ⟨_, rfl⟩
  refine ⟨n, rest, by omega, ?_⟩
  have hfirst : 0xC0 + n / 0x40 = b.toNat := by omega
  have hsecond : n % 0x40 = k := by omega
  rw [hfirst, hsecond, UInt8.ofNat_toNat]

/-- An octet that opens a character of three is read only with the two others. -/
theorem exists_three {pos : Nat} {b : UInt8} {bs : Octets} {cs : List Char}
    (hlow : 0xE0 ≤ b.toNat) (hhigh : b.toNat < 0xF0)
    (h : decodeFrom pos none (b :: bs) = .ok cs) :
    ∃ n rest, (0x800 ≤ n ∧ n < 0x10000) ∧ (n < 0xD800 ∨ 0xDFFF < n) ∧
      b :: bs = .ofNat (0xE0 + n / 0x1000) :: .ofNat (0x80 + n / 0x40 % 0x40) ::
        .ofNat (0x80 + n % 0x40) :: rest := by
  have hlead : lead b = .opens ⟨b, 1, b.toNat - 0xE0, 2,
      if b.toNat = 0xE0 then 0xA0 else 0x80, if b.toNat = 0xED then 0x9F else 0xBF⟩ := by
    unfold lead
    dsimp only
    rw [if_neg (by omega), if_neg (by omega), if_neg (by omega), if_pos hhigh]
  rw [decodeFrom_opens hlead] at h
  obtain ⟨k, rest, rfl, hk, hfrom, hto⟩ := exists_continuation
    (by dsimp only; split <;> omega) (by dsimp only; split <;> omega) h
  rw [decodeFrom_push hk hfrom hto (by simp) (by simp)] at h
  obtain ⟨m, rest, rfl, hm, -, -⟩ := exists_continuation (by simp) (by simp) h
  dsimp only at hfrom hto
  obtain ⟨n, hn⟩ : ∃ n, n = ((b.toNat - 0xE0) * 0x40 + k) * 0x40 + m := ⟨_, rfl⟩
  -- The lower bound of the second octet keeps out overlong forms, and the upper one surrogates.
  refine ⟨n, rest, ?_, ?_, ?_⟩
  · split at hfrom <;> omega
  · split at hto <;> omega
  · have hfirst : 0xE0 + n / 0x1000 = b.toNat := by omega
    have hsecond : n / 0x40 % 0x40 = k := by omega
    have hthird : n % 0x40 = m := by omega
    rw [hfirst, hsecond, hthird, UInt8.ofNat_toNat]

/-- An octet that opens a character of four is read only with the three others. -/
theorem exists_four {pos : Nat} {b : UInt8} {bs : Octets} {cs : List Char} (hlow : 0xF0 ≤ b.toNat)
    (hhigh : b.toNat < 0xF5) (h : decodeFrom pos none (b :: bs) = .ok cs) :
    ∃ n rest, (0x10000 ≤ n ∧ n < 0x110000) ∧
      b :: bs = .ofNat (0xF0 + n / 0x40000) :: .ofNat (0x80 + n / 0x1000 % 0x40) ::
        .ofNat (0x80 + n / 0x40 % 0x40) :: .ofNat (0x80 + n % 0x40) :: rest := by
  have hlead : lead b = .opens ⟨b, 1, b.toNat - 0xF0, 3,
      if b.toNat = 0xF0 then 0x90 else 0x80, if b.toNat = 0xF4 then 0x8F else 0xBF⟩ := by
    unfold lead
    dsimp only
    rw [if_neg (by omega), if_neg (by omega), if_neg (by omega), if_neg (by omega), if_pos hhigh]
  rw [decodeFrom_opens hlead] at h
  obtain ⟨k, rest, rfl, hk, hfrom, hto⟩ := exists_continuation
    (by dsimp only; split <;> omega) (by dsimp only; split <;> omega) h
  rw [decodeFrom_push hk hfrom hto (by simp) (by simp)] at h
  obtain ⟨l, rest, rfl, hl, hlfrom, hlto⟩ := exists_continuation (by simp) (by simp) h
  rw [decodeFrom_push hl hlfrom hlto (by simp) (by simp)] at h
  obtain ⟨m, rest, rfl, hm, -, -⟩ := exists_continuation (by simp) (by simp) h
  dsimp only at hfrom hto
  obtain ⟨n, hn⟩ : ∃ n, n = (((b.toNat - 0xF0) * 0x40 + k) * 0x40 + l) * 0x40 + m := ⟨_, rfl⟩
  -- Here the upper bound keeps out what is beyond the last character.
  refine ⟨n, rest, ?_, ?_⟩
  · split at hfrom <;> split at hto <;> omega
  · have hfirst : 0xF0 + n / 0x40000 = b.toNat := by omega
    have hsecond : n / 0x1000 % 0x40 = k := by omega
    have hthird : n / 0x40 % 0x40 = l := by omega
    have hfourth : n % 0x40 = m := by omega
    rw [hfirst, hsecond, hthird, hfourth, UInt8.ofNat_toNat]

/-- Octets that are read as a text begin with those of a character. -/
theorem exists_encodeChar {pos : Nat} {b : UInt8} {bs : Octets} {cs : List Char}
    (h : decodeFrom pos none (b :: bs) = .ok cs) : ∃ c rest, b :: bs = encodeChar c ++ rest := by
  by_cases h1 : b.toNat < 0x80
  · refine ⟨Char.ofNat b.toNat, bs, ?_⟩
    rw [encodeChar, toNat_charOfNat (.inl (by omega)), if_pos h1, UInt8.ofNat_toNat]
    rfl
  by_cases h2 : b.toNat < 0xC2
  · have hlead : lead b = .refused := by
      unfold lead
      dsimp only
      rw [if_neg h1, if_pos h2]
    simp only [decodeFrom, hlead] at h
    cases h
  by_cases h3 : b.toNat < 0xE0
  · obtain ⟨n, rest, ⟨hlow, hhigh⟩, hbs⟩ := exists_two (by omega) h3 h
    refine ⟨Char.ofNat n, rest, ?_⟩
    rw [hbs, encodeChar, toNat_charOfNat (.inl (by omega)), if_neg (by omega), if_pos hhigh]
    rfl
  by_cases h4 : b.toNat < 0xF0
  · obtain ⟨n, rest, ⟨hlow, hhigh⟩, hwhole, hbs⟩ := exists_three (by omega) h4 h
    refine ⟨Char.ofNat n, rest, ?_⟩
    rw [hbs, encodeChar, toNat_charOfNat (by omega), if_neg (by omega), if_neg (by omega),
      if_pos hhigh]
    rfl
  by_cases h5 : b.toNat < 0xF5
  · obtain ⟨n, rest, ⟨hlow, hhigh⟩, hbs⟩ := exists_four (by omega) h5 h
    refine ⟨Char.ofNat n, rest, ?_⟩
    rw [hbs, encodeChar, toNat_charOfNat (by omega), if_neg (by omega), if_neg (by omega),
      if_neg (by omega)]
    rfl
  · have hlead : lead b = .refused := by
      unfold lead
      dsimp only
      rw [if_neg h1, if_neg h2, if_neg h3, if_neg h4, if_neg h5]
    simp only [decodeFrom, hlead] at h
    cases h

/-- A text that is read with a character in front is that character and what is read behind it. -/
theorem exists_of_map_cons {c : Char} {r : Except Malformed (List Char)} {cs : List Char}
    (h : r.map (c :: ·) = .ok cs) : ∃ ds, cs = c :: ds ∧ r = .ok ds := by
  cases r with
  | error m => cases h
  | ok ds =>
    cases h
    exact ⟨ds, rfl, rfl⟩

/-- Octets are read as a text exactly if they are the octets of that text. -/
theorem decode_eq_ok_iff {bs : Octets} {cs : List Char} : decode bs = .ok cs ↔ bs = encode cs := by
  refine ⟨fun h => ?_, fun h => h ▸ decode_encode cs⟩
  unfold decode at h
  generalize 0 = pos at h
  -- Each round takes the octets of one character, so the induction is on the text.
  induction cs generalizing pos bs with
  | nil =>
    cases bs with
    | nil => rfl
    | cons b bs =>
      obtain ⟨c, rest, hbs⟩ := exists_encodeChar h
      rw [hbs, decodeFrom_encodeChar] at h
      obtain ⟨ds, hds, -⟩ := exists_of_map_cons h
      cases hds
  | cons d ds ih =>
    cases bs with
    | nil => cases h
    | cons b bs =>
      obtain ⟨c, rest, hbs⟩ := exists_encodeChar h
      rw [hbs, decodeFrom_encodeChar] at h
      obtain ⟨es, hes, hrest⟩ := exists_of_map_cons h
      cases hes
      rw [hbs, ih _ hrest]
      rfl

end SorobanDeploy.Text.Utf8
