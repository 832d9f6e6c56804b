import Mathlib.Data.List.TakeWhile
import SorobanDeploy.Proofs.StateFile.Grammar

/-!
# What follows a line

Where a line ends, a reader does the same whether the text ends there or goes on, and what it goes
on with does not matter. The one exception is a quote that is still open: the reader looks for its
end in all that follows, and stops at the quote if there is none. `Follows` says this of one reader,
and readers one after another follow as each of them does (`Follows.chain`).

So a statement depends on what follows its lines only in whether that closes an open quote
(`readStatement_quieter`).
-/

namespace SorobanDeploy.StateFile

open Text

/-- What may follow a line: nothing, or a newline and more. -/
def Boundary (u : List Char) : Prop := u = [] ∨ ∃ t, u = '\n' :: t

theorem boundary_newline (t : List Char) : Boundary ('\n' :: t) := .inr ⟨t, rfl⟩

/-- A quote that is still open at the end of a line: around a key or around a value. -/
inductive OpenQuote where
  | key
  | single
  | double

/-- Whether a text closes an open quote. -/
def OpenQuote.ClosedBy (u : List Char) : OpenQuote → Prop
  | .key => '\'' ∈ u
  | .single => (readQuoted '\'' u).isSome = true
  | .double => (readQuoted '"' u).isSome = true

theorem OpenQuote.not_closedBy_nil (q : OpenQuote) : ¬q.ClosedBy [] := by
  cases q <;> simp [OpenQuote.ClosedBy, readQuoted]

section Scanning

variable {u : List Char} {p : Char → Bool}

/-- What takes no newline stops where a line ends. -/
theorem takeWhile_boundary (hp : p '\n' = false) (hu : Boundary u) (b : List Char) :
    (b ++ u).takeWhile p = b.takeWhile p := by
  induction b with
  | nil =>
    rcases hu with rfl | ⟨t, rfl⟩
    · rfl
    · rw [List.nil_append, List.takeWhile_cons_of_neg (by simp [hp]), List.takeWhile_nil]
  | cons c b ih =>
    rw [List.cons_append]
    by_cases hc : p c = true
    · rw [List.takeWhile_cons_of_pos hc, List.takeWhile_cons_of_pos hc, ih]
    · rw [List.takeWhile_cons_of_neg hc, List.takeWhile_cons_of_neg hc]

theorem dropWhile_boundary (hp : p '\n' = false) (hu : Boundary u) (b : List Char) :
    (b ++ u).dropWhile p = b.dropWhile p ++ u := by
  induction b with
  | nil =>
    rcases hu with rfl | ⟨t, rfl⟩
    · rfl
    · rw [List.nil_append, List.dropWhile_cons_of_neg (by simp [hp]), List.dropWhile_nil,
        List.nil_append]
  | cons c b ih =>
    rw [List.cons_append]
    by_cases hc : p c = true
    · rw [List.dropWhile_cons_of_pos hc, List.dropWhile_cons_of_pos hc, ih]
    · rw [List.dropWhile_cons_of_neg hc, List.dropWhile_cons_of_neg hc, List.cons_append]

/-- Only a newline can be what a boundary begins with. -/
theorem head?_boundary {c : Char} (hc : c ≠ '\n') (hu : Boundary u) (b : List Char) :
    (b ++ u).head? = some c ↔ b.head? = some c := by
  cases b with
  | nil =>
    rcases hu with rfl | ⟨t, rfl⟩
    · exact Iff.rfl
    · simpa using hc.symm
  | cons d b => exact Iff.rfl

/-- What is left behind a quoted value does not depend on how the value begins. -/
theorem map_snd_map {α β γ : Type} (o : Option (α × β)) (f : α → γ) :
    (o.map fun x => (f x.1, x.2)).map (·.2) = o.map (·.2) := by
  rw [Option.map_map]
  rfl

theorem readQuoted_cons {quote c : Char} (hc : c ≠ '\\') (rest : List Char) :
    readQuoted quote (c :: rest) = if c = quote then some ([], rest)
      else (readQuoted quote rest).map fun x => (c :: x.1, x.2) := by
  rw [readQuoted.eq_3 _ _ _ fun _ _ h => absurd h hc]

/-- How a quoted value meets the end of a line: it is closed before, or it goes on and is closed as
what follows closes it. -/
inductive MeetsEnd (quote : Char) (b : List Char) : Prop
  | closed (v r : List Char)
      (before : ∀ u, Boundary u → readQuoted quote (b ++ u) = some (v, r ++ u))
  | goesOn (behind : ∀ u, Boundary u →
      (readQuoted quote (b ++ u)).map (·.2) = (readQuoted quote u).map (·.2))

/-- What a quoted value begins with does not matter. -/
theorem MeetsEnd.more {quote : Char} {b : List Char} (h : MeetsEnd quote b) (front : List Char)
    (hstep : ∀ u, readQuoted quote (front ++ b ++ u) =
      (readQuoted quote (b ++ u)).map fun x => (front ++ x.1, x.2)) :
    MeetsEnd quote (front ++ b) := by
  cases h with
  | closed v r hclosed =>
    exact .closed (front ++ v) r fun u hu => by rw [hstep, hclosed u hu]; rfl
  | goesOn hopen => exact .goesOn fun u hu => by rw [hstep, map_snd_map, hopen u hu]

theorem readQuoted_boundary {quote : Char} (hquote : quote ≠ '\n' ∧ quote ≠ '\\')
    (b : List Char) : MeetsEnd quote b := by
  fun_induction readQuoted quote b with
  | case1 => exact .goesOn fun u _ => rfl
  | case2 c rest ih => exact ih.more ['\\', c] fun u => rfl
  | case3 rest =>
    refine .closed [] rest fun u _ => ?_
    rw [List.cons_append, readQuoted_cons hquote.2, if_pos rfl]
  | case4 c rest hlast hc ih =>
    by_cases hslash : c = '\\'
    · -- A backslash at the end takes the newline with it.
      subst hslash
      cases rest with
      | cons d rest => exact absurd rfl (hlast d rest rfl)
      | nil =>
        refine .goesOn fun u hu => ?_
        rcases hu with rfl | ⟨t, rfl⟩
        · simp [readQuoted, hc]
        · rw [readQuoted_cons (c := '\n') (by decide), if_neg hquote.1.symm, map_snd_map]
          exact map_snd_map _ fun v => '\\' :: '\n' :: v
    · refine ih.more [c] fun u => ?_
      rw [List.singleton_append, List.cons_append, readQuoted_cons hslash, if_neg hc]
      rfl

/-- A quote that is closed where a line ends is closed behind the newline. -/
theorem length_of_readQuoted {quote : Char} (hquote : quote ≠ '\n') {v r : List Char}
    (hu : Boundary u) (h : readQuoted quote u = some (v, r)) : r.length + 1 < u.length := by
  have heq := readQuoted_eq h
  rcases hu with rfl | ⟨t, rfl⟩
  · cases h
  · cases v with
    | nil => exact absurd (List.cons.inj heq).1.symm hquote
    | cons c v =>
      rw [heq]
      simp only [List.length_append, List.length_cons]
      omega

end Scanning

/-! ## Readers -/

section Readers

variable {α β : Type}

/-- What a reader leaves of a text, or the place where it stopped. -/
def leftOf : Except (List Char) (α × List Char) → List Char
  | .ok (_, r) => r
  | .error r => r

/-- What was read of a text, read in front of another one. -/
def inFront (u : List Char) :
    Except (List Char) (α × List Char) → Except (List Char) (α × List Char)
  | .ok (a, r) => .ok (a, r ++ u)
  | .error r => .error (r ++ u)

/-- How a reader reads what stands before the end of a line: as it would alone, or up to a quote
that is open there. Then it stops, unless what follows closes the quote. -/
inductive Follows (F : List Char → Except (List Char) (α × List Char)) (b : List Char) : Prop
  | reads (x : Except (List Char) (α × List Char))
      (alone : ∀ u, Boundary u → F (b ++ u) = inFront u x)
  | waits (q : OpenQuote) (stopped : List Char)
      (stops : ∀ u, Boundary u → ¬q.ClosedBy u → F (b ++ u) = .error (stopped ++ u))
      (goes : ∀ u, Boundary u → q.ClosedBy u → (leftOf (F (b ++ u))).length + 1 < u.length)

/-- A reader that reads as another one does follows as that does. -/
theorem Follows.congr {F G : List Char → Except (List Char) (α × List Char)} {b d : List Char}
    (hF : Follows F d) (h : ∀ u, Boundary u → G (b ++ u) = F (d ++ u)) : Follows G b := by
  cases hF with
  | reads x halone => exact .reads x fun u hu => (h u hu).trans (halone u hu)
  | waits q stopped hstops hgoes =>
    refine .waits q stopped (fun u hu hq => (h u hu).trans (hstops u hu hq)) fun u hu hq => ?_
    rw [h u hu]
    exact hgoes u hu hq

/-- What is made of the values that are read does not matter. -/
theorem Follows.map {F : List Char → Except (List Char) (α × List Char)} {b : List Char}
    (hF : Follows F b) (f : α → β) :
    Follows (fun s => (F s).map fun found => (f found.1, found.2)) b := by
  have hleft : ∀ x : Except (List Char) (α × List Char),
      leftOf (x.map fun found => (f found.1, found.2)) = leftOf x := fun x => by cases x <;> rfl
  cases hF with
  | reads x halone =>
    refine .reads (x.map fun found => (f found.1, found.2)) fun u hu => ?_
    rw [halone u hu]
    cases x <;> rfl
  | waits q stopped hstops hgoes =>
    refine .waits q stopped (fun u hu hq => by rw [hstops u hu hq]; rfl) fun u hu hq => ?_
    rw [hleft]
    exact hgoes u hu hq

/-- One reader after another. -/
def chain (F : List Char → Except (List Char) (α × List Char))
    (G : α → List Char → Except (List Char) (β × List Char)) (s : List Char) :
    Except (List Char) (β × List Char) :=
  match F s with
  | .error stopped => .error stopped
  | .ok (a, r) => G a r

/-- Readers one after another follow as each of them does, if the second one goes forward. -/
theorem Follows.chain {F : List Char → Except (List Char) (α × List Char)}
    {G : α → List Char → Except (List Char) (β × List Char)} {b : List Char} (hF : Follows F b)
    (hG : ∀ a r, Follows (G a) r) (hforward : ∀ a r, leftOf (G a r) <:+ r) :
    Follows (chain F G) b := by
  cases hF with
  | reads x halone =>
    cases x with
    | error r => exact .reads (.error r) fun u hu => by rw [StateFile.chain, halone u hu]; rfl
    | ok found =>
      obtain ⟨a, r⟩ := found
      have hstep : ∀ u, Boundary u → StateFile.chain F G (b ++ u) = G a (r ++ u) :=
        fun u hu => by rw [StateFile.chain, halone u hu]; rfl
      cases hG a r with
      | reads y hy => exact .reads y fun u hu => (hstep u hu).trans (hy u hu)
      | waits q stopped hstops hgoes =>
        refine .waits q stopped (fun u hu hq => (hstep u hu).trans (hstops u hu hq)) ?_
        intro u hu hq
        rw [hstep u hu]
        exact hgoes u hu hq
  | waits q stopped hstops hgoes =>
    refine .waits q stopped (fun u hu hq => by rw [StateFile.chain, hstops u hu hq]) ?_
    intro u hu hq
    -- The first reader went on behind the quote, and the second one goes on from there.
    have hshort := hgoes u hu hq
    unfold StateFile.chain
    cases hread : F (b ++ u) with
    | error r =>
      rw [hread] at hshort
      exact hshort
    | ok found =>
      rw [hread] at hshort
      have hle := (hforward found.1 found.2).length_le
      simp only [leftOf] at hshort hle ⊢
      omega

end Readers

/-- The key at the beginning of a text as a reader that stops where it begins. -/
def keyOf (s : List Char) : Except (List Char) (Option (List Char) × List Char) :=
  match readKey s with
  | none => .error s
  | some found => .ok found

/-- A key and what is assigned to it. -/
def headOf : List Char → Except (List Char) (Statement × List Char) :=
  chain keyOf fun key => fun s => (readAssigned s).map fun found => (.of found.1 key, found.2)

theorem readKey_quote (s : List Char) : readKey ('\'' :: s) =
    match s.takeWhile (· ≠ '\''), s.dropWhile (· ≠ '\'') with
    | [], _ => none
    | _, [] => none
    | key, _ :: after => some (some key, after) := rfl

theorem readKey_of_bare {c : Char} (hnumber : c ≠ '#') (hquote : c ≠ '\'') (s : List Char) :
    readKey (c :: s) = match (c :: s).takeWhile isKeyChar with
      | [] => none
      | key => some (some key, (c :: s).dropWhile isKeyChar) := by
  unfold readKey
  split
  · rename_i heq
    exact absurd (List.cons.inj heq).1 hnumber
  · rename_i heq
    exact absurd (List.cons.inj heq).1 hquote
  · rfl

/-- What stands before a character that is there, and what follows it. -/
theorem span_of_mem {c : Char} {s : List Char} (h : c ∈ s) :
    ∃ after, s.dropWhile (· ≠ c) = c :: after ∧ s = s.takeWhile (· ≠ c) ++ c :: after := by
  cases hdrop : s.dropWhile (· ≠ c) with
  | nil =>
    rw [List.dropWhile_eq_nil_iff] at hdrop
    exact absurd (hdrop c h) (by simp)
  | cons d after =>
    have hhead := List.head?_dropWhile_not (· ≠ c) s
    rw [hdrop] at hhead
    obtain rfl : d = c := by simpa using hhead
    exact ⟨after, rfl, by rw [← hdrop, List.takeWhile_append_dropWhile]⟩

/-- A quoted key that is closed in front of the end of a line is read alone. -/
theorem readKey_closed_follows {b : List Char} (hclosed : '\'' ∈ b) :
    Follows keyOf ('\'' :: b) := by
  obtain ⟨after, hdrop, hb⟩ := span_of_mem hclosed
  have htakes : ∀ u, (b ++ u).takeWhile (· ≠ '\'') = b.takeWhile (· ≠ '\'') := by
    intro u
    rw [List.takeWhile_append, if_neg]
    intro hall
    have hlength := congrArg List.length hb
    rw [List.length_append, List.length_cons, hall] at hlength
    omega
  have hdrops : ∀ u, (b ++ u).dropWhile (· ≠ '\'') = '\'' :: (after ++ u) := by
    intro u
    rw [List.dropWhile_append, hdrop]
    rfl
  cases hkey : b.takeWhile (· ≠ '\'') with
  | nil =>
    refine .reads (.error ('\'' :: b)) fun u _ => ?_
    rw [List.cons_append, keyOf, readKey_quote, htakes, hdrops, hkey]
    rfl
  | cons d key =>
    refine .reads (.ok (some (d :: key), after)) fun u _ => ?_
    rw [List.cons_append, keyOf, readKey_quote, htakes, hdrops, hkey]
    rfl

/-- A quoted key that is open at the end of a line goes on over line ends. -/
theorem readKey_open_follows {b : List Char} (hclosed : '\'' ∉ b) :
    Follows keyOf ('\'' :: b) := by
  have hpos : ∀ c ∈ b, decide (c ≠ '\'') = true := by
    intro c hc
    have hne : c ≠ '\'' := fun heq => hclosed (heq ▸ hc)
    simpa using hne
  refine .waits .key ('\'' :: b) (fun u hu hopen => ?_) fun u hu hcloses => ?_
  · have hdrop : (b ++ u).dropWhile (· ≠ '\'') = [] := by
      rw [List.dropWhile_eq_nil_iff]
      intro c hc
      have hne : c ≠ '\'' := by
        rintro rfl
        exact (List.mem_append.1 hc).elim hclosed hopen
      simpa using hne
    rw [List.cons_append, keyOf, readKey_quote, hdrop]
    cases (b ++ u).takeWhile (· ≠ '\'') <;> rfl
  · obtain ⟨after, hdrop, hspan⟩ := span_of_mem hcloses
    -- The key has the newline in it, so it is not empty.
    have hnewline : u.takeWhile (· ≠ '\'') ≠ [] := by
      rcases hu with rfl | ⟨t, rfl⟩
      · cases hcloses
      · simp
    have hkey : b ++ u.takeWhile (· ≠ '\'') ≠ [] := List.append_ne_nil_of_right_ne_nil _ hnewline
    have hlength := congrArg List.length hspan
    have hpositive := List.length_pos_iff.2 hnewline
    rw [List.cons_append, keyOf, readKey_quote, List.takeWhile_append_of_pos hpos,
      List.dropWhile_append_of_pos hpos, hdrop]
    rw [List.length_append, List.length_cons] at hlength
    cases hfound : b ++ u.takeWhile (· ≠ '\'') with
    | nil => exact absurd hfound hkey
    | cons d key =>
      simp only [leftOf]
      omega

theorem readKey_follows (b : List Char) : Follows keyOf b := by
  cases b with
  | nil =>
    refine .reads (.error []) fun u hu => ?_
    rcases hu with rfl | ⟨t, rfl⟩ <;> rfl
  | cons c b =>
    by_cases hnumber : c = '#'
    · subst hnumber
      exact .reads (.ok (none, '#' :: b)) fun u _ => rfl
    by_cases hquote : c = '\''
    · subst hquote
      by_cases hclosed : '\'' ∈ b
      · exact readKey_closed_follows hclosed
      · exact readKey_open_follows hclosed
    · have hkey : isKeyChar '\n' = false := by decide
      have hread : ∀ u, Boundary u → readKey (c :: b ++ u) =
          match (c :: b).takeWhile isKeyChar with
          | [] => none
          | key => some (some key, (c :: b).dropWhile isKeyChar ++ u) := by
        intro u hu
        rw [List.cons_append, readKey_of_bare hnumber hquote, ← List.cons_append,
          takeWhile_boundary hkey hu, dropWhile_boundary hkey hu]
      cases htake : (c :: b).takeWhile isKeyChar with
      | nil =>
        rw [htake] at hread
        exact .reads (.error (c :: b)) fun u hu => by rw [keyOf, hread u hu]; rfl
      | cons d key =>
        rw [htake] at hread
        exact .reads (.ok (some (d :: key), (c :: b).dropWhile isKeyChar)) fun u hu => by
          rw [keyOf, hread u hu]; rfl

/-- The value that begins with a text as a reader that stops where it begins. -/
def placedOf (s : List Char) : Except (List Char) (List Char × List Char) :=
  match readPlacedValue s with
  | some found => .ok found
  | none => .error s

/-- A quoted value that is open at the end of a line goes on over line ends. -/
theorem readPlacedValue_follows {quote : Char} (table : Char → Option Char) (q : OpenQuote)
    (hquote : quote ≠ '\n' ∧ quote ≠ '\\')
    (hplaced : ∀ s, readPlacedValue (quote :: s) =
      (readQuoted quote s).map fun found => (unescape table found.1, found.2))
    (hq : ∀ u, q.ClosedBy u ↔ (readQuoted quote u).isSome = true) (b : List Char) :
    Follows placedOf (quote :: b) := by
  rcases readQuoted_boundary hquote b with ⟨v, r, hclosed⟩ | hopen
  · refine .reads (.ok (unescape table v, r)) fun u hu => ?_
    rw [List.cons_append, placedOf, hplaced, hclosed u hu]
    rfl
  · refine .waits q (quote :: b) (fun u hu hstays => ?_) fun u hu hcloses => ?_
    · have hnone : readQuoted quote u = none := by
        rw [hq, Bool.not_eq_true, Option.isSome_eq_false_iff, Option.isNone_iff_eq_none] at hstays
        exact hstays
      have hsame := hopen u hu
      rw [hnone, Option.map_none, Option.map_eq_none_iff] at hsame
      rw [List.cons_append, placedOf, hplaced, hsame]
      rfl
    · obtain ⟨⟨v, r⟩, hread⟩ := Option.isSome_iff_exists.1 ((hq u).1 hcloses)
      have hsame := hopen u hu
      rw [hread, Option.map_some, Option.map_eq_some_iff] at hsame
      obtain ⟨⟨w, _⟩, hw, rfl⟩ := hsame
      rw [List.cons_append, placedOf, hplaced, hw]
      exact length_of_readQuoted hquote.1 hu hread

theorem readValue_follows (b : List Char) : Follows readValue b := by
  have hgap : isGap '\n' = false := by decide
  generalize hv : b.dropWhile isGap = v
  have hdrop : ∀ u, Boundary u → (b ++ u).dropWhile isGap = v ++ u := fun u hu => by
    rw [dropWhile_boundary hgap hu, hv]
  have hcomment : ∀ u, Boundary u →
      ((v ++ u).length < (b ++ u).length ∧ (v ++ u).head? = some '#' ↔
        v.length < b.length ∧ v.head? = some '#') := by
    intro u hu
    rw [head?_boundary (by decide) hu, List.length_append, List.length_append,
      Nat.add_lt_add_iff_right]
  by_cases hnumber : v.length < b.length ∧ v.head? = some '#'
  · refine .reads (.ok ([], v)) fun u hu => ?_
    unfold readValue
    dsimp only
    rw [hdrop u hu, if_pos ((hcomment u hu).2 hnumber)]
    rfl
  · -- Without a comment the value is what stands behind the blanks.
    have hread : ∀ u, Boundary u → readValue (b ++ u) = placedOf (v ++ u) := by
      intro u hu
      unfold readValue
      dsimp only
      rw [hdrop u hu, if_neg fun h => hnumber ((hcomment u hu).1 h)]
      rfl
    by_cases hquoted : Quoted v
    · cases v with
      | nil => rcases hquoted with h | h <;> cases h
      | cons c w =>
        rcases hquoted with hc | hc
        · obtain rfl := Option.some.inj hc
          have hplaced := readPlacedValue_follows singleEscape .single (by decide) (fun _ => rfl)
            (fun _ => Iff.rfl) w
          exact hplaced.congr hread
        · obtain rfl := Option.some.inj hc
          have hplaced := readPlacedValue_follows doubleEscape .double (by decide) (fun _ => rfl)
            (fun _ => Iff.rfl) w
          exact hplaced.congr hread
    · refine .reads (.ok (stripEnd (cutComment (v.takeWhile (· ≠ '\n'))),
        v.dropWhile (· ≠ '\n'))) fun u hu => ?_
      have hbare : ¬Quoted (v ++ u) := by
        unfold Quoted at hquoted ⊢
        rwa [head?_boundary (by decide) hu, head?_boundary (by decide) hu]
      rw [hread u hu, placedOf, readPlacedValue_of_not_quoted hbare,
        takeWhile_boundary (by decide) hu, dropWhile_boundary (by decide) hu]
      rfl

theorem readAssigned_follows (b : List Char) : Follows readAssigned b := by
  have hgap : isGap '\n' = false := by decide
  have hdrop : ∀ u, Boundary u → (b ++ u).dropWhile isGap = b.dropWhile isGap ++ u :=
    fun u hu => dropWhile_boundary hgap hu b
  generalize b.dropWhile isGap = g at hdrop
  by_cases hequals : g.head? = some '='
  · obtain ⟨rest, rfl⟩ := List.head?_eq_some_iff.1 hequals
    refine ((readValue_follows rest).map some).congr fun u hu => ?_
    rw [← readAssigned_equals, readAssigned, hdrop u hu, readAssigned,
      List.dropWhile_cons_of_neg (by decide)]
    rfl
  · refine .reads (.ok (none, g)) fun u hu => ?_
    have hother : (g ++ u).head? ≠ some '=' := by
      rwa [Ne, head?_boundary (by decide) hu]
    rw [readAssigned, hdrop u hu]
    split
    · rename_i heq
      rw [heq] at hother
      exact absurd rfl hother
    · rfl

/-! ## Statements -/

/-- What is left where a line ends: what follows its newline, or more in front of it. -/
def leaves (left : Option (List Char)) (u : List Char) : List Char :=
  match left with
  | none => u.drop 1
  | some rest => rest ++ u

/-- The rest of a line is skipped up to the same place. -/
theorem skipLine_boundary (r : List Char) :
    ∃ left, ∀ u, Boundary u → skipLine (r ++ u) = leaves left u := by
  have hdrop : ∀ u, Boundary u →
      (r ++ u).dropWhile (· ≠ '\n') = r.dropWhile (· ≠ '\n') ++ u :=
    fun u hu => dropWhile_boundary (by decide) hu r
  cases hline : r.dropWhile (· ≠ '\n') with
  | nil =>
    refine ⟨none, fun u hu => ?_⟩
    rw [skipLine, hdrop u hu, hline]
    rfl
  | cons c rest =>
    refine ⟨some rest, fun u hu => ?_⟩
    rw [skipLine, hdrop u hu, hline]
    rfl

/-- What is left of a text once the blanks and the comment in front are gone. -/
def endOf (s : List Char) : List Char :=
  if (s.dropWhile isGap).head? = some '#' then (s.dropWhile isGap).dropWhile (· ≠ '\n')
  else s.dropWhile isGap

theorem readEnd_of_nil {s : List Char} (h : endOf s = []) : readEnd s = some [] := by
  unfold endOf at h
  unfold readEnd
  dsimp only
  rewrite [h]
  rfl

theorem readEnd_of_newline {s after : List Char} (h : endOf s = '\n' :: after) :
    readEnd s = some after := by
  unfold endOf at h
  unfold readEnd
  dsimp only
  rewrite [h]
  rfl

theorem readEnd_of_other {s after : List Char} {c : Char} (hc : c ≠ '\n')
    (h : endOf s = c :: after) : readEnd s = none := by
  unfold endOf at h
  unfold readEnd
  dsimp only
  rw [h]
  split
  · rename_i heq
    cases heq
  · rename_i heq
    exact absurd (List.cons.inj heq).1 hc
  · rfl

theorem endOf_boundary (r : List Char) : ∃ g, ∀ u, Boundary u → endOf (r ++ u) = g ++ u := by
  have hgap : isGap '\n' = false := by decide
  have hhead : ∀ u, Boundary u → ((r.dropWhile isGap ++ u).head? = some '#' ↔
      (r.dropWhile isGap).head? = some '#') := fun u hu => head?_boundary (by decide) hu _
  by_cases hcomment : (r.dropWhile isGap).head? = some '#'
  · refine ⟨(r.dropWhile isGap).dropWhile (· ≠ '\n'), fun u hu => ?_⟩
    rw [endOf, dropWhile_boundary hgap hu, if_pos ((hhead u hu).2 hcomment),
      dropWhile_boundary (by decide) hu]
  · refine ⟨r.dropWhile isGap, fun u hu => ?_⟩
    rw [endOf, dropWhile_boundary hgap hu, if_neg fun h => hcomment ((hhead u hu).1 h)]

/-- A statement ends at the same place, or at none. -/
theorem readEnd_boundary (r : List Char) :
    (∀ u, Boundary u → readEnd (r ++ u) = none) ∨
      ∃ left, ∀ u, Boundary u → readEnd (r ++ u) = some (leaves left u) := by
  obtain ⟨g, hg⟩ := endOf_boundary r
  cases g with
  | nil =>
    refine .inr ⟨none, fun u hu => ?_⟩
    have hend := hg u hu
    rcases hu with rfl | ⟨t, rfl⟩
    · exact readEnd_of_nil hend
    · exact readEnd_of_newline hend
  | cons c g =>
    by_cases hnewline : c = '\n'
    · subst hnewline
      exact .inr ⟨some g, fun u hu => readEnd_of_newline (hg u hu)⟩
    · exact .inl fun u hu => readEnd_of_other hnewline (hg u hu)

/-- A key and what is assigned to it are read alone, up to a quote that is open. -/
theorem headOf_follows (b : List Char) : Follows headOf b := by
  have hassigned : ∀ (key : Option (List Char)) (r : List Char), Follows (fun s =>
      (readAssigned s).map fun found => (Statement.of found.1 key, found.2)) r :=
    fun key r => (readAssigned_follows r).map fun value => Statement.of value key
  refine (readKey_follows b).chain hassigned fun key r => ?_
  have hwithin := readAssigned_within r
  cases hread : readAssigned r with
  | ok found => rw [hread] at hwithin; exact hwithin
  | error stopped => rw [hread] at hwithin; exact hwithin

/-- The word for exports is skipped or not, whatever follows the line. -/
theorem skipExport_boundary {u : List Char} (hu : Boundary u) (b : List Char) :
    skipExport (b ++ u) = skipExport b ++ u := by
  unfold skipExport
  dsimp only
  by_cases hword : exportWord <+: b
  · obtain ⟨r, rfl⟩ := hword
    have hhead : (r ++ u).head?.any isGap = r.head?.any isGap := by
      cases r with
      | cons c r => rfl
      | nil => rcases hu with rfl | ⟨t, rfl⟩ <;> rfl
    have hprefix : ∀ s, exportWord.isPrefixOf (exportWord ++ s) = true := fun s =>
      List.isPrefixOf_iff_prefix.2 (List.prefix_append _ _)
    rw [List.append_assoc, List.drop_left, List.drop_left, hprefix, hprefix, hhead,
      dropWhile_boundary (by decide) hu]
    split
    · rfl
    · rw [List.append_assoc]
  · -- The word has no newline in it, so it does not go on behind the end of the line.
    have hlonger : ¬exportWord <+: b ++ u := by
      intro h
      rcases List.prefix_or_prefix_of_prefix h (List.prefix_append b u) with hb | ⟨more, hmore⟩
      · exact hword hb
      · rw [← hmore, List.prefix_append_right_inj] at h
        rcases hu with rfl | ⟨t, rfl⟩
        · obtain rfl := List.prefix_nil.1 h
          exact hword ⟨[], by rw [← hmore, List.append_nil, List.append_nil]⟩
        · cases more with
          | nil => exact hword ⟨[], by rw [← hmore, List.append_nil, List.append_nil]⟩
          | cons c more =>
            obtain ⟨rfl, -⟩ := List.cons_prefix_cons.1 h
            have hnewline : '\n' ∈ exportWord := by rw [← hmore]; simp
            exact absurd hnewline (by decide)
    rw [if_neg fun h => hlonger (List.isPrefixOf_iff_prefix.1 h.1),
      if_neg fun h => hword (List.isPrefixOf_iff_prefix.1 h.1)]

/-- The statement that a key and a value are, once its end was looked for. -/
def closed : Except (List Char) (Statement × List Char) → Statement × List Char
  | .error stopped => (.malformed, skipLine stopped)
  | .ok (st, r) =>
    match readEnd r with
    | none => (.malformed, skipLine r)
    | some rest => (st, rest)

/-- A statement is a key and a value behind blanks and perhaps the word for exports. -/
theorem readStatement_eq {s : List Char} (hs : s.dropWhile isBlank ≠ []) :
    readStatement s = closed (headOf (skipExport (s.dropWhile isBlank))) := by
  unfold readStatement readBinding headOf chain keyOf closed
  cases hdrop : s.dropWhile isBlank with
  | nil => exact absurd hdrop hs
  | cons c r =>
    dsimp only
    cases readKey (skipExport (c :: r)) with
    | none => rfl
    | some found =>
      dsimp only
      cases readAssigned found.2 with
      | error stopped => rfl
      | ok assigned =>
        dsimp only [Except.map]
        cases readEnd assigned.2 <;> rfl

theorem length_closed_le (x : Except (List Char) (Statement × List Char)) :
    (closed x).2.length ≤ (leftOf x).length := by
  have hskip : ∀ r, (skipLine r).length ≤ r.length := by
    intro r
    cases r with
    | nil => exact Nat.le_refl 0
    | cons c r => exact Nat.le_of_lt (skipLine_shorter (c :: r) (List.cons_ne_nil _ _))
  cases x with
  | error r => exact hskip r
  | ok found =>
    obtain ⟨st, r⟩ := found
    unfold closed
    dsimp only [leftOf]
    cases hend : readEnd r with
    | none => exact hskip r
    | some rest =>
      rcases readEnd_shorter hend with hnil | hshorter
      · rw [hnil]
        exact Nat.zero_le _
      · exact Nat.le_of_lt hshorter

/-- A key and a value that are read alone are the same statement, whatever follows the line. -/
theorem closed_boundary (x : Except (List Char) (Statement × List Char)) :
    ∃ st left, ∀ u, Boundary u → closed (inFront u x) = (st, leaves left u) := by
  have hskip : ∀ r, ∃ left, ∀ u, Boundary u →
      (Statement.malformed, skipLine (r ++ u)) = (.malformed, leaves left u) := by
    intro r
    obtain ⟨left, hleft⟩ := skipLine_boundary r
    exact ⟨left, fun u hu => by rw [hleft u hu]⟩
  cases x with
  | error r => exact ⟨.malformed, hskip r⟩
  | ok found =>
    obtain ⟨st, r⟩ := found
    rcases readEnd_boundary r with hnone | ⟨left, hleft⟩
    · obtain ⟨left, hleft⟩ := hskip r
      refine ⟨.malformed, left, fun u hu => ?_⟩
      rw [inFront, closed, hnone u hu]
      exact hleft u hu
    · refine ⟨st, left, fun u hu => ?_⟩
      rw [inFront, closed, hleft u hu]

/-- The first statement of a line that is not blank stays the same, and so does what it leaves of
the line, if what follows the line closes no quote that it did not close before. Where a quote is
open that is closed, the statement must not have gone on behind the line. -/
theorem readStatement_quieter {b u : List Char} (hb : b.dropWhile isBlank ≠ []) (hu : Boundary u)
    (hstops : (∃ q : OpenQuote, q.ClosedBy u) →
      u.length ≤ (readStatement (b ++ u)).2.length + 1) :
    ∃ st left, readStatement (b ++ u) = (st, leaves left u) ∧
      ∀ w, Boundary w → (∀ q : OpenQuote, q.ClosedBy w → q.ClosedBy u) →
        readStatement (b ++ w) = (st, leaves left w) := by
  have hread : ∀ w, Boundary w → readStatement (b ++ w) =
      closed (headOf (skipExport (b.dropWhile isBlank) ++ w)) := by
    intro w hw
    have hdrop : (b ++ w).dropWhile isBlank = b.dropWhile isBlank ++ w := by
      rw [List.dropWhile_append, if_neg (by simpa using hb)]
    have hne : (b ++ w).dropWhile isBlank ≠ [] := by
      rw [hdrop]
      exact List.append_ne_nil_of_left_ne_nil hb w
    rw [readStatement_eq hne, hdrop, skipExport_boundary hw]
  cases headOf_follows (skipExport (b.dropWhile isBlank)) with
  | reads x halone =>
    obtain ⟨st, left, hclosed⟩ := closed_boundary x
    have hsame : ∀ w, Boundary w → readStatement (b ++ w) = (st, leaves left w) := fun w hw => by
      rw [hread w hw, halone w hw, hclosed w hw]
    exact ⟨st, left, hsame u hu, fun w hw _ => hsame w hw⟩
  | waits q stopped hwaits hgoes =>
    obtain ⟨left, hleft⟩ := skipLine_boundary stopped
    have hsame : ∀ w, Boundary w → ¬q.ClosedBy w →
        readStatement (b ++ w) = (.malformed, leaves left w) := fun w hw hq => by
      rw [hread w hw, hwaits w hw hq, closed, hleft w hw]
    -- A closed quote would have taken the statement behind the line.
    have hopen : ¬q.ClosedBy u := by
      intro hq
      have hshort := hgoes u hu hq
      have hlong := hstops ⟨q, hq⟩
      rw [hread u hu] at hlong
      have hle := length_closed_le (headOf (skipExport (b.dropWhile isBlank) ++ u))
      omega
    exact ⟨.malformed, left, hsame u hu hopen, fun w hw hquiet =>
      hsame w hw fun hq => hopen (hquiet q hq)⟩

end SorobanDeploy.StateFile
