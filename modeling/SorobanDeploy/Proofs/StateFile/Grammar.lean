import SorobanDeploy.Proofs.Pairs.Assignment
import SorobanDeploy.Proofs.StateFile.Value
import SorobanDeploy.StateFile.Update

/-!
# Reading back what was written

A line that binds a plain key to a value is read as the statement that binds the key to the value
exactly if the value reads back (`readStatement_line`, `readsBack_of_readStatement`). Whatever a
statement is, it ends with its line or at the end of the text (`readStatement_ends`), so of two
lines the second one is a statement of its own or a part of the first. `reads_two_iff` says when
both values come back: exactly if each of them reads back.
-/

namespace SorobanDeploy

namespace StateFile

open Text

/-! ## Statements and lines -/

theorem exists_line_of_dropWhile (s : List Char) :
    s.dropWhile (· ≠ '\n') = [] ∨
      ∃ before after, s = before ++ '\n' :: after ∧ s.dropWhile (· ≠ '\n') = '\n' :: after := by
  cases hs : s.dropWhile (· ≠ '\n') with
  | nil => exact .inl rfl
  | cons c after =>
    have hc : c = '\n' := by
      have hhead := List.head?_dropWhile_not (· ≠ '\n') s
      rw [hs] at hhead
      simpa using hhead
    subst hc
    refine .inr ⟨s.takeWhile (· ≠ '\n'), after, ?_, rfl⟩
    rw [← hs, List.takeWhile_append_dropWhile]

/-- Whether what is left of a text is nothing, or what stands behind one of its newlines. -/
def LineEnd (s rest : List Char) : Prop := rest = [] ∨ ∃ before, s = before ++ '\n' :: rest

theorem LineEnd.of_suffix {s t rest : List Char} (h : LineEnd t rest) (hsuffix : t <:+ s) :
    LineEnd s rest := by
  obtain ⟨front, rfl⟩ := hsuffix
  refine h.imp_right fun ⟨before, hbefore⟩ => ⟨front ++ before, ?_⟩
  rw [hbefore, List.append_assoc]

theorem skipLine_ends (s : List Char) : LineEnd s (skipLine s) := by
  unfold skipLine
  rcases exists_line_of_dropWhile s with hs | ⟨before, after, hs, hdrop⟩
  · rw [hs]
    exact .inl rfl
  · rw [hdrop]
    exact .inr ⟨before, hs⟩

theorem readEnd_ends {s rest : List Char} (h : readEnd s = some rest) : LineEnd s rest := by
  unfold readEnd at h
  dsimp only at h
  have hsuffix : (if (s.dropWhile isGap).head? = some '#' then
      (s.dropWhile isGap).dropWhile (· ≠ '\n') else s.dropWhile isGap) <:+ s := by
    split
    · exact (List.dropWhile_suffix _).trans (List.dropWhile_suffix _)
    · exact List.dropWhile_suffix _
  split at h
  · exact .inl (Option.some.inj h).symm
  · rename_i after heq
    obtain rfl := Option.some.inj h
    rw [heq] at hsuffix
    obtain ⟨before, hbefore⟩ := hsuffix
    exact .inr ⟨before, hbefore.symm⟩
  · cases h

/-- A statement goes on to the end of a line. -/
theorem readStatement_ends (s : List Char) : LineEnd s (readStatement s).2 := by
  unfold readStatement
  split
  · exact .inl rfl
  · have hsuffix : skipExport (s.dropWhile isBlank) <:+ s :=
      (skipExport_suffix _).trans (List.dropWhile_suffix _)
    have hforward := readBinding_forward (skipExport (s.dropWhile isBlank))
    unfold readBinding at hforward ⊢
    cases hkey : readKey (skipExport (s.dropWhile isBlank)) with
    | none => exact (skipLine_ends _).of_suffix hsuffix
    | some found =>
      obtain ⟨key, afterKey⟩ := found
      have hafterKey : afterKey <:+ s := (readKey_suffix hkey).trans hsuffix
      have hassigned := readAssigned_within afterKey
      dsimp only
      cases hvalue : readAssigned afterKey with
      | error stopped =>
        rw [hvalue] at hassigned
        exact (skipLine_ends stopped).of_suffix (List.IsSuffix.trans hassigned hafterKey)
      | ok assigned =>
        obtain ⟨value, afterValue⟩ := assigned
        rw [hvalue] at hassigned
        have hafterValue : afterValue <:+ s := List.IsSuffix.trans hassigned hafterKey
        dsimp only
        cases hend : readEnd afterValue with
        | none => exact (skipLine_ends afterValue).of_suffix hafterValue
        | some rest => exact (readEnd_ends hend).of_suffix hafterValue

/-! ## Lines that bind a key -/

/-- A key that is read as it stands where a statement begins. -/
structure BareKey (key : List Char) : Prop where
  chars : ∀ c ∈ key, isKeyChar c = true
  start : ∃ c rest, key = c :: rest ∧ c ≠ '\''

/-- A key that is read as it stands at the beginning of a text. -/
structure PlainKey (key : List Char) : Prop where
  chars : ∀ c ∈ key, isKeyChar c = true
  /-- It begins neither with a quote nor like the word for exports nor with a byte order mark. -/
  start : ∃ c rest, key = c :: rest ∧ c ≠ '\'' ∧ c ≠ 'e' ∧ c ≠ byteOrderMark

theorem PlainKey.bare {key : List Char} (hkey : PlainKey key) : BareKey key := by
  obtain ⟨c, rest, heq, hquote, -⟩ := hkey.start
  exact ⟨hkey.chars, c, rest, heq, hquote⟩

theorem readKey_line {key : List Char} (hkey : BareKey key) (s : List Char) :
    readKey (key ++ '=' :: s) = some (some key, '=' :: s) := by
  obtain ⟨c, rest, rfl, hquote⟩ := hkey.start
  have htake : (c :: rest ++ '=' :: s).takeWhile isKeyChar = c :: rest := by
    rw [List.takeWhile_append_of_pos hkey.chars, List.takeWhile_cons_of_neg (by decide),
      List.append_nil]
  have hdrop : (c :: rest ++ '=' :: s).dropWhile isKeyChar = '=' :: s := by
    rw [List.dropWhile_append_of_pos hkey.chars, List.dropWhile_cons_of_neg (by decide)]
  have hnumber : c ≠ '#' := by
    rintro rfl
    exact absurd (hkey.chars '#' List.mem_cons_self) (by decide)
  unfold readKey
  split
  · rename_i heq
    exact absurd (List.cons.inj heq).1 hnumber
  · rename_i heq
    exact absurd (List.cons.inj heq).1 hquote
  · rw [htake, hdrop]

/-- Behind an equals sign stands a value. -/
theorem readAssigned_equals (s : List Char) :
    readAssigned ('=' :: s) = (readValue s).map fun found => (some found.1, found.2) := by
  unfold readAssigned
  rw [List.dropWhile_cons_of_neg (by decide)]
  split
  · rename_i heq
    obtain ⟨-, rfl⟩ := List.cons.inj heq
    cases readValue s <;> rfl
  · rename_i hother
    exact absurd rfl (hother s)

/-- What is read of a line under a key once its value was tried. -/
def bound (key : List Char) : Except (List Char) (List Char × List Char) → Statement × List Char
  | .error stopped => (.malformed, skipLine stopped)
  | .ok (v, r) =>
    match readEnd r with
    | none => (.malformed, skipLine r)
    | some rest => (.binding key (some v), rest)

/-- Between a key and its equals sign is no blank, so the key is never the word for exports. -/
theorem skipExport_key {key : List Char} (hkey : ∀ c ∈ key, isKeyChar c = true) (s : List Char) :
    skipExport (key ++ '=' :: s) = key ++ '=' :: s := by
  unfold skipExport
  dsimp only
  refine if_neg fun ⟨hword, hgap⟩ => ?_
  rw [List.isPrefixOf_iff_prefix] at hword
  -- The word ends within the key, and what follows it is a character of the key or the sign.
  have hwithin : exportWord <+: key := by
    rcases List.prefix_or_prefix_of_prefix hword (List.prefix_append key ('=' :: s)) with h | h
    · exact h
    · obtain ⟨more, hmore⟩ := h
      rw [← hmore, List.prefix_append_right_inj] at hword
      cases more with
      | nil => exact ⟨[], by rw [← hmore, List.append_nil, List.append_nil]⟩
      | cons c more =>
        obtain ⟨rfl, -⟩ := List.cons_prefix_cons.1 hword
        have hequals : '=' ∈ exportWord := by rw [← hmore]; simp
        exact absurd hequals (by decide)
  obtain ⟨more, rfl⟩ := hwithin
  rw [List.append_assoc, List.drop_left] at hgap
  cases more with
  | nil => exact absurd hgap (by simp; decide)
  | cons c more =>
    have hc := hkey c (List.mem_append_right _ List.mem_cons_self)
    have hblank : isBlank c = true := by
      simp only [List.cons_append, List.head?_cons, Option.any_some] at hgap
      exact isBlank_of_isGap hgap
    unfold isKeyChar at hc
    rw [hblank] at hc
    cases hc

/-- A line that begins with a bare key and an equals sign is read from the value on. -/
theorem readStatement_key {key : List Char} (hkey : BareKey key) (s : List Char) :
    readStatement (key ++ '=' :: s) = bound key (readValue s) := by
  have hread := readKey_line hkey s
  have hskip := skipExport_key hkey.chars s
  obtain ⟨c, rest, rfl, -⟩ := hkey.start
  have hblank : isBlank c = false := by
    have hc := hkey.chars c List.mem_cons_self
    unfold isKeyChar at hc
    cases hb : isBlank c with
    | false => rfl
    | true => rw [hb] at hc; cases hc
  have hstart : (c :: rest ++ '=' :: s).dropWhile isBlank = c :: rest ++ '=' :: s :=
    List.dropWhile_cons_of_neg (by simp [hblank])
  unfold readStatement
  rw [hstart]
  dsimp only [List.cons_append]
  rw [← List.cons_append, hskip]
  unfold readBinding
  rw [hread]
  dsimp only
  rw [readAssigned_equals]
  unfold bound
  cases readValue s with
  | error stopped => rfl
  | ok found =>
    dsimp only [Except.map]
    cases readEnd found.2 <;> rfl

/-- What a line with a bare key in front binds is its value, to the key. -/
theorem binding_of_readStatement {key k s : List Char} {value : Option (List Char)}
    (hkey : BareKey key) (h : (readStatement (key ++ '=' :: s)).1 = .binding k value) :
    k = key ∧ ∃ v r, readValue s = .ok (v, r) ∧ value = some v := by
  rw [readStatement_key hkey] at h
  unfold bound at h
  cases hvalue : readValue s with
  | error stopped => rw [hvalue] at h; cases h
  | ok found =>
    rw [hvalue] at h
    dsimp only at h
    cases hend : readEnd found.2 with
    | none => rw [hend] at h; cases h
    | some after =>
      rw [hend] at h
      cases h
      exact ⟨rfl, found.1, found.2, rfl, rfl⟩

/-- A line whose value reads back is read as it was written. -/
theorem readStatement_line {key v : List Char} (hkey : BareKey key) (h : ReadsBack v)
    (hv : '\n' ∉ v) (rest : List Char) :
    readStatement (key ++ '=' :: (v ++ '\n' :: rest)) = (.binding key (some v), rest) := by
  have hend : readEnd ('\n' :: rest) = some rest := by
    unfold readEnd
    dsimp only
    rw [List.dropWhile_cons_of_neg (by decide), if_neg (by simp)]
    split
    · rename_i heq
      cases heq
    · rename_i heq
      rw [(List.cons.inj heq).2]
    · rename_i hother
      exact absurd rfl (hother rest)
  rw [readStatement_key hkey, h.readValue_eq hv]
  unfold bound
  dsimp only
  rw [hend]

/-- Only a value that reads back is bound as it was written. -/
theorem readsBack_of_readStatement {key v rest : List Char} (hkey : BareKey key) (hv : '\n' ∉ v)
    (h : (readStatement (key ++ '=' :: (v ++ '\n' :: rest))).1 = .binding key (some v)) :
    ReadsBack v := by
  obtain ⟨-, w, r, hvalue, hsame⟩ := binding_of_readStatement hkey h
  obtain rfl := Option.some.inj hsame
  exact readsBack_of_readValue hv hvalue

/-! ## The values of a text -/

theorem statementsFrom_nil (n : Nat) : statementsFrom n [] = [] := by
  rw [statementsFrom.eq_def, dif_pos rfl]

/-- A text without a character has no values. -/
theorem valuesOf_statements_nil : valuesOf (statements []) = [] := by
  rw [statements, List.head?_nil, if_neg (by decide), statementsFrom_nil]
  rfl

/-- The statements of a text are the first one and those of what it leaves. -/
theorem statementsFrom_of_ne_nil {s : List Char} (hs : s ≠ []) (n : Nat) :
    ∃ m, statementsFrom n s =
      (n, (readStatement s).1) :: statementsFrom m (readStatement s).2 := by
  rw [statementsFrom.eq_def, dif_neg hs]
  exact ⟨_, rfl⟩

/-- A value that a key has was bound to it by a statement. -/
theorem exists_binding_of_get? {found : List (Nat × Statement)} {key value : String}
    (h : Pairs.get? key (valuesOf found) = some value) :
    ∃ n, (n, .binding key.toList (some value.toList)) ∈ found := by
  have hmem := Pairs.mem_of_get? h
  unfold valuesOf at hmem
  obtain ⟨⟨k, bound⟩, hk, heq⟩ := List.mem_filterMap.1 hmem
  obtain ⟨v, rfl, hv⟩ := Option.map_eq_some_iff.1 heq
  obtain ⟨rfl, rfl⟩ := Prod.mk.inj hv
  obtain ⟨⟨n, statement⟩, hstatement, hbinds⟩ :=
    List.mem_filterMap.1 (Pairs.mem_of_mem_ofList hk)
  cases statement with
  | nothing => cases hbinds
  | malformed => cases hbinds
  | binding k' bound =>
    obtain ⟨hk', hbound⟩ := Prod.mk.inj (Option.some.inj hbinds)
    obtain ⟨w, rfl, hw⟩ := Option.map_eq_some_iff.1 hbound
    refine ⟨n, ?_⟩
    rw [← hk', ← hw, String.toList_ofList, String.toList_ofList]
    exact hstatement

/-- What is left behind a line is nothing, what follows the line, or left behind that. -/
theorem LineEnd.of_line {l t rest : List Char} (h : LineEnd (l ++ '\n' :: t) rest)
    (hl : '\n' ∉ l) : rest = [] ∨ rest = t ∨ LineEnd t rest := by
  rcases h with rfl | ⟨before, hbefore⟩
  · exact .inl rfl
  rcases List.append_eq_append_iff.1 hbefore with ⟨more, -, ht⟩ | ⟨more, hline, hrest⟩
  · cases more with
    | nil => exact .inr (.inl (List.cons.inj ht).2.symm)
    | cons c more => exact .inr (.inr (.inr ⟨more, (List.cons.inj ht).2⟩))
  · cases more with
    | nil => exact .inr (.inl (List.cons.inj hrest).2)
    | cons c more =>
      obtain rfl := (List.cons.inj hrest).1
      exact absurd (by rw [hline]; simp) hl

theorem LineEnd.eq_nil {l rest : List Char} (h : LineEnd (l ++ ['\n']) rest) (hl : '\n' ∉ l) :
    rest = [] := by
  rcases h.of_line hl with rfl | rfl | rfl | ⟨before, hbefore⟩
  · rfl
  · rfl
  · rfl
  · cases before <;> cases hbefore

section Two

variable {k₁ k₂ v₁ v₂ : String}

/-- A line, and the newline behind it. -/
theorem line_newline (key value : String) (rest : List Char) :
    line key value ++ '\n' :: rest = key.toList ++ '=' :: (value.toList ++ '\n' :: rest) := by
  simp [line]

theorem newline_not_mem_line {key value : String} (hkey : PlainKey key.toList)
    (hvalue : '\n' ∉ value.toList) : '\n' ∉ line key value := by
  unfold line
  intro hmem
  rcases List.mem_append.1 hmem with hmem | hmem
  · exact absurd (hkey.chars _ hmem) (by decide)
  · exact hvalue (by simpa using hmem)

/-- The last line of a text is one statement. -/
theorem statementsFrom_last (hk₂ : PlainKey k₂.toList) (hv₂ : '\n' ∉ v₂.toList) (n : Nat) :
    statementsFrom n (line k₂ v₂ ++ ['\n']) =
      [(n, (readStatement (line k₂ v₂ ++ ['\n'])).1)] := by
  obtain ⟨m, hm⟩ := statementsFrom_of_ne_nil (s := line k₂ v₂ ++ ['\n']) (by simp) n
  have hleft := (readStatement_ends (line k₂ v₂ ++ ['\n'])).eq_nil
    (newline_not_mem_line hk₂ hv₂)
  rw [hm, hleft, statementsFrom_nil]

/-- Two lines are a statement that begins with the first one, and perhaps one that is the second
one. -/
theorem statements_two (hk₁ : PlainKey k₁.toList) (hk₂ : PlainKey k₂.toList)
    (hv₁ : '\n' ∉ v₁.toList) (hv₂ : '\n' ∉ v₂.toList) :
    ∃ m more, statements (line k₁ v₁ ++ '\n' :: (line k₂ v₂ ++ ['\n'])) =
        (1, (readStatement (line k₁ v₁ ++ '\n' :: (line k₂ v₂ ++ ['\n']))).1) :: more ∧
      ((more = [] ∧ (readStatement (line k₁ v₁ ++ '\n' :: (line k₂ v₂ ++ ['\n']))).2 = []) ∨
        more = [(m, (readStatement (line k₂ v₂ ++ ['\n'])).1)]) := by
  generalize hs : line k₁ v₁ ++ '\n' :: (line k₂ v₂ ++ ['\n']) = s
  have hne : s ≠ [] := by
    rw [← hs]
    simp
  have hmark : ¬s.head? = some byteOrderMark := by
    obtain ⟨c, rest, hkey, -, -, hc⟩ := hk₁.start
    rw [← hs, line, hkey]
    simpa using hc
  obtain ⟨m, hm⟩ := statementsFrom_of_ne_nil hne 1
  refine ⟨m, _, by rw [statements, if_neg hmark, hm], ?_⟩
  have hleft : (readStatement s).2 = [] ∨ (readStatement s).2 = line k₂ v₂ ++ ['\n'] := by
    have hends := readStatement_ends s
    rw [← hs] at hends ⊢
    rcases hends.of_line (newline_not_mem_line hk₁ hv₁) with hnil | hsecond | hlater
    · exact .inl hnil
    · exact .inr hsecond
    · exact .inl (hlater.eq_nil (newline_not_mem_line hk₂ hv₂))
  rcases hleft with hnil | hsecond
  · exact .inl ⟨by rw [hnil, statementsFrom_nil], hnil⟩
  · exact .inr (by rw [hsecond, statementsFrom_last hk₂ hv₂])

/-- Each statement of two lines begins with one of them. -/
theorem mem_statements_two (hk₁ : PlainKey k₁.toList) (hk₂ : PlainKey k₂.toList)
    (hv₁ : '\n' ∉ v₁.toList) (hv₂ : '\n' ∉ v₂.toList) {n : Nat} {found : Statement}
    (h : (n, found) ∈ statements (line k₁ v₁ ++ '\n' :: (line k₂ v₂ ++ ['\n']))) :
    (readStatement (line k₁ v₁ ++ '\n' :: (line k₂ v₂ ++ ['\n']))).1 = found ∨
      (readStatement (line k₂ v₂ ++ ['\n'])).1 = found := by
  obtain ⟨m, more, hstatements, hmore⟩ := statements_two hk₁ hk₂ hv₁ hv₂
  rw [hstatements] at h
  rcases List.mem_cons.1 h with heq | hmem
  · exact .inl (Prod.mk.inj heq).2.symm
  · rcases hmore with ⟨rfl, -⟩ | rfl
    · cases hmem
    · exact .inr (Prod.mk.inj (List.mem_singleton.1 hmem)).2.symm

/-- Two values that come back as they were written read back. -/
theorem readsBack_two (hk₁ : PlainKey k₁.toList) (hk₂ : PlainKey k₂.toList) (hne : k₁ ≠ k₂)
    (hv₁ : '\n' ∉ v₁.toList) (hv₂ : '\n' ∉ v₂.toList)
    (hget₁ : Pairs.get? k₁ (valuesOf
      (statements (line k₁ v₁ ++ '\n' :: (line k₂ v₂ ++ ['\n'])))) = some v₁)
    (hget₂ : Pairs.get? k₂ (valuesOf
      (statements (line k₁ v₁ ++ '\n' :: (line k₂ v₂ ++ ['\n'])))) = some v₂) :
    ReadsBack v₁.toList ∧ ReadsBack v₂.toList := by
  have hkeys : k₁.toList ≠ k₂.toList := fun heq => hne (String.toList_inj.1 heq)
  obtain ⟨n₁, hmem₁⟩ := exists_binding_of_get? hget₁
  obtain ⟨n₂, hmem₂⟩ := exists_binding_of_get? hget₂
  have hfirst := mem_statements_two hk₁ hk₂ hv₁ hv₂ hmem₁
  have hsecond := mem_statements_two hk₁ hk₂ hv₁ hv₂ hmem₂
  rw [line_newline k₁ v₁, line_newline k₂ v₂ []] at hfirst hsecond
  -- Only the first line binds the first key, and then it binds no other.
  have hbinds₁ := hfirst.resolve_right fun h => hkeys (binding_of_readStatement hk₂.bare h).1
  have hbinds₂ := hsecond.resolve_left fun h => hkeys (binding_of_readStatement hk₁.bare h).1.symm
  exact ⟨readsBack_of_readStatement hk₁.bare hv₁ hbinds₁,
    readsBack_of_readStatement hk₂.bare hv₂ hbinds₂⟩

/-- Two values that read back come back as they were written. -/
theorem ReadsBack.reads_two (hback₁ : ReadsBack v₁.toList) (hback₂ : ReadsBack v₂.toList)
    (hk₁ : PlainKey k₁.toList) (hk₂ : PlainKey k₂.toList) (hne : k₁ ≠ k₂)
    (hv₁ : '\n' ∉ v₁.toList) (hv₂ : '\n' ∉ v₂.toList) :
    valuesOf (statements (line k₁ v₁ ++ '\n' :: (line k₂ v₂ ++ ['\n']))) =
      [(k₁, v₁), (k₂, v₂)] := by
  have hread₁ := readStatement_line hk₁.bare hback₁ hv₁ (line k₂ v₂ ++ ['\n'])
  have hread₂ := readStatement_line hk₂.bare hback₂ hv₂ []
  rw [← line_newline] at hread₁ hread₂
  obtain ⟨m, more, hstatements, hmore⟩ := statements_two hk₁ hk₂ hv₁ hv₂
  rw [hstatements]
  rcases hmore with ⟨-, hnil⟩ | rfl
  · rw [hread₁] at hnil
    exact absurd hnil (by simp)
  · rw [hread₁, hread₂]
    simp [valuesOf, Pairs.ofList, Pairs.assign, hne]

/-- The values of two keys that were written come back exactly if both read back. -/
theorem reads_two_iff (hk₁ : PlainKey k₁.toList) (hk₂ : PlainKey k₂.toList) (hne : k₁ ≠ k₂)
    (hv₁ : '\n' ∉ v₁.toList) (hv₂ : '\n' ∉ v₂.toList) :
    (Pairs.get? k₁ (valuesOf (statements (unlines [line k₁ v₁, line k₂ v₂]))) = some v₁ ∧
      Pairs.get? k₂ (valuesOf (statements (unlines [line k₁ v₁, line k₂ v₂]))) = some v₂) ↔
      ReadsBack v₁.toList ∧ ReadsBack v₂.toList := by
  rw [show unlines [line k₁ v₁, line k₂ v₂] = line k₁ v₁ ++ '\n' :: (line k₂ v₂ ++ ['\n']) by
    rw [unlines_cons, unlines, List.intercalate_singleton]]
  constructor
  · rintro ⟨hget₁, hget₂⟩
    exact readsBack_two hk₁ hk₂ hne hv₁ hv₂ hget₁ hget₂
  · rintro ⟨hback₁, hback₂⟩
    rw [hback₁.reads_two hback₂ hk₁ hk₂ hne hv₁ hv₂]
    simp [Pairs.get?, hne]

end Two

end StateFile

end SorobanDeploy
