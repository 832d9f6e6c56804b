import SorobanDeploy.Pairs
import SorobanDeploy.Text.Blank

/-!
# The grammar of state files

A state file is a sequence of statements. A statement binds a key to a value, names a key alone, or
is a comment; what follows no such form is skipped to the end of its line. A value may be quoted,
and then goes on over line ends. The text is read with folded newlines.

Every statement takes at least one character, so reading ends (`readStatement_shorter`).
-/

namespace SorobanDeploy.StateFile

open Text

/-- A blank within a line. -/
def isGap (c : Char) : Bool := isBlank c && c ≠ '\n'

/-- What one statement says. -/
inductive Statement where
  /-- A comment, or blanks at the end of the file. -/
  | nothing
  /-- A key, with a value unless it stands alone. -/
  | binding (key : List Char) (value : Option (List Char))
  /-- A line that cannot be read. -/
  | malformed
  deriving DecidableEq, Repr

/-- The word that may stand before a key. -/
def exportWord : List Char := ['e', 'x', 'p', 'o', 'r', 't']

/-- What follows the word for exports and the blanks after it, if they are there. -/
def skipExport (s : List Char) : List Char :=
  let rest := s.drop exportWord.length
  if exportWord.isPrefixOf s ∧ rest.head?.any isGap then rest.dropWhile isGap else s

/-- What follows the line. -/
def skipLine (s : List Char) : List Char :=
  (s.dropWhile (· ≠ '\n')).drop 1

/-- Whether a character may stand in a key without quotes. -/
def isKeyChar (c : Char) : Bool := !isBlank c && c ≠ '=' && c ≠ '#'

/-- The key at the beginning of a text, and what follows it. A comment has no key. -/
def readKey : List Char → Option (Option (List Char) × List Char)
  | '#' :: rest => some (none, '#' :: rest)
  | '\'' :: rest =>
    match rest.takeWhile (· ≠ '\''), rest.dropWhile (· ≠ '\'') with
    | [], _ => none
    | _, [] => none
    | key, _ :: after => some (some key, after)
  | s =>
    match s.takeWhile isKeyChar with
    | [] => none
    | key => some (some key, s.dropWhile isKeyChar)

/-- The inside of a quoted value from after its opening quote, and what follows the closing one. A
backslash takes the next character with it. -/
def readQuoted (quote : Char) : List Char → Option (List Char × List Char)
  | [] => none
  | '\\' :: c :: rest => (readQuoted quote rest).map fun (v, r) => ('\\' :: c :: v, r)
  | c :: rest =>
    if c = quote then some ([], rest)
    else (readQuoted quote rest).map fun (v, r) => (c :: v, r)

/-- What a letter after a backslash stands for between single quotes. -/
def singleEscape : Char → Option Char
  | '\\' => some '\\'
  | '\'' => some '\''
  | _ => none

/-- What a letter after a backslash stands for between double quotes. -/
def doubleEscape : Char → Option Char
  | '\\' => some '\\'
  | '\'' => some '\''
  | '"' => some '"'
  | 'a' => some '\x07'
  | 'b' => some '\x08'
  | 'f' => some '\x0c'
  | 'n' => some '\n'
  | 'r' => some '\r'
  | 't' => some '\t'
  | 'v' => some '\x0b'
  | _ => none

/-- A quoted value with its escapes replaced; a backslash that escapes nothing stays. -/
def unescape (table : Char → Option Char) : List Char → List Char
  | '\\' :: c :: rest =>
    match table c with
    | some x => x :: unescape table rest
    | none => '\\' :: c :: unescape table rest
  | c :: rest => c :: unescape table rest
  | [] => []

/-- A value without quotes up to the comment after it: blanks and then a number sign. -/
def cutComment : List Char → List Char
  | [] => []
  | c :: rest =>
    if isBlank c ∧ (rest.dropWhile isBlank).head? = some '#' then []
    else c :: cutComment rest

/-- The value that begins with a text, and what follows it. -/
def readPlacedValue : List Char → Option (List Char × List Char)
  | '\'' :: rest => (readQuoted '\'' rest).map fun (v, r) => (unescape singleEscape v, r)
  | '"' :: rest => (readQuoted '"' rest).map fun (v, r) => (unescape doubleEscape v, r)
  | s => some (stripEnd (cutComment (s.takeWhile (· ≠ '\n'))), s.dropWhile (· ≠ '\n'))

/-- The value after an equals sign, and what follows it; or where reading stopped. A comment after
blanks leaves the value empty. -/
def readValue (s : List Char) : Except (List Char) (List Char × List Char) :=
  let value := s.dropWhile isGap
  -- A number sign right after the equals sign is a part of the value.
  if value.length < s.length ∧ value.head? = some '#' then .ok ([], value)
  else match readPlacedValue value with
    | some found => .ok found
    | none => .error value

/-- What follows the end of a statement: blanks, perhaps a comment, and a newline or the end. -/
def readEnd (s : List Char) : Option (List Char) :=
  let rest := s.dropWhile isGap
  let rest := if rest.head? = some '#' then rest.dropWhile (· ≠ '\n') else rest
  match rest with
  | [] => some []
  | '\n' :: after => some after
  | _ => none

/-- What stands after a key: a value if an equals sign follows, and what follows it; or where
reading stopped. -/
def readAssigned (s : List Char) : Except (List Char) (Option (List Char) × List Char) :=
  match s.dropWhile isGap with
  | '=' :: rest =>
    match readValue rest with
    | .ok (v, r) => .ok (some v, r)
    | .error stopped => .error stopped
  | rest => .ok (none, rest)

/-- The statement of a key, if there is one, and of a value. -/
def Statement.of (value : Option (List Char)) : Option (List Char) → Statement
  | none => .nothing
  | some key => .binding key value

/-- A statement from its key on, and what follows it; or where reading stopped. -/
def readBinding (s : List Char) : Except (List Char) (Statement × List Char) :=
  match readKey s with
  | none => .error s
  | some (key, afterKey) =>
    match readAssigned afterKey with
    | .error stopped => .error stopped
    | .ok (value, afterValue) =>
      match readEnd afterValue with
      | none => .error afterValue
      | some rest => .ok (.of value key, rest)

/-- The first statement of a text, and what follows it. -/
def readStatement (s : List Char) : Statement × List Char :=
  match s.dropWhile isBlank with
  | [] => (.nothing, [])
  | r =>
    match readBinding (skipExport r) with
    | .ok found => found
    | .error stopped => (.malformed, skipLine stopped)

/-! ## Reading goes forward -/

theorem skipExport_suffix (s : List Char) : skipExport s <:+ s := by
  simp only [skipExport]
  split
  · exact (List.dropWhile_suffix _).trans (List.drop_suffix _ _)
  · exact List.suffix_rfl

theorem skipLine_shorter (s : List Char) (h : s ≠ []) : (skipLine s).length < s.length := by
  have hle : (s.dropWhile (· ≠ '\n')).length ≤ s.length :=
    (List.dropWhile_suffix _).length_le
  have hpos := List.length_pos_iff.mpr h
  simp only [skipLine, List.length_drop]
  omega

theorem readKey_suffix {s rest : List Char} {key : Option (List Char)}
    (h : readKey s = some (key, rest)) : rest <:+ s := by
  unfold readKey at h
  split at h
  · obtain ⟨-, rfl⟩ := by simpa using h
    exact List.suffix_rfl
  · rename_i r
    split at h
    · simp at h
    · simp at h
    · rename_i hd _
      obtain ⟨-, rfl⟩ := by simpa using h
      have hr := hd ▸ List.dropWhile_suffix (l := r) (· ≠ '\'')
      exact (List.suffix_cons _ _).trans (hr.trans (List.suffix_cons _ _))
  · split at h
    · simp at h
    · obtain ⟨-, rfl⟩ := by simpa using h
      exact List.dropWhile_suffix _

theorem readQuoted_suffix {quote : Char} {s v rest : List Char}
    (h : readQuoted quote s = some (v, rest)) : rest <:+ s := by
  fun_induction readQuoted quote s generalizing v with
  | case1 => simp at h
  | case2 c r ih =>
    simp only [Option.map_eq_some_iff, Prod.exists, Prod.mk.injEq] at h
    obtain ⟨w, t, hw, -, rfl⟩ := h
    exact (ih hw).trans ((List.suffix_cons _ _).trans (List.suffix_cons _ _))
  | case3 =>
    obtain ⟨-, rfl⟩ := by simpa using h
    exact List.suffix_cons _ _
  | case4 c r _ _ ih =>
    simp only [Option.map_eq_some_iff, Prod.exists, Prod.mk.injEq] at h
    obtain ⟨w, t, hw, -, rfl⟩ := h
    exact (ih hw).trans (List.suffix_cons _ _)

theorem readPlacedValue_suffix {s v rest : List Char}
    (h : readPlacedValue s = some (v, rest)) : rest <:+ s := by
  unfold readPlacedValue at h
  split at h
  · simp only [Option.map_eq_some_iff, Prod.exists, Prod.mk.injEq] at h
    obtain ⟨w, t, hw, -, rfl⟩ := h
    exact (readQuoted_suffix hw).trans (List.suffix_cons _ _)
  · simp only [Option.map_eq_some_iff, Prod.exists, Prod.mk.injEq] at h
    obtain ⟨w, t, hw, -, rfl⟩ := h
    exact (readQuoted_suffix hw).trans (List.suffix_cons _ _)
  · obtain ⟨-, rfl⟩ := by simpa using h
    exact List.dropWhile_suffix _

/-- Whether what a reader leaves, or the place where it stopped, lies within a text. -/
def Within {α : Type} (s : List Char) : Except (List Char) (α × List Char) → Prop
  | .ok (_, rest) => rest <:+ s
  | .error stopped => stopped <:+ s

theorem readValue_within (s : List Char) : Within s (readValue s) := by
  simp only [readValue]
  split
  · exact List.dropWhile_suffix _
  · cases hp : readPlacedValue (s.dropWhile isGap) with
    | none => exact List.dropWhile_suffix _
    | some found => exact (readPlacedValue_suffix hp).trans (List.dropWhile_suffix _)

theorem readAssigned_within (s : List Char) : Within s (readAssigned s) := by
  have hgap : s.dropWhile isGap <:+ s := List.dropWhile_suffix _
  unfold readAssigned
  split
  · rename_i rest hrest
    have hsuf : rest <:+ s := (List.suffix_cons _ _).trans (hrest ▸ hgap)
    have hv := readValue_within rest
    cases hr : readValue rest with
    | ok found => rw [hr] at hv; exact List.IsSuffix.trans hv hsuf
    | error stopped => rw [hr] at hv; exact List.IsSuffix.trans hv hsuf
  · exact hgap

theorem readEnd_shorter {s rest : List Char} (h : readEnd s = some rest) :
    rest = [] ∨ rest.length < s.length := by
  have h1 : (s.dropWhile isGap).length ≤ s.length := (List.dropWhile_suffix _).length_le
  have h2 : ((s.dropWhile isGap).dropWhile (· ≠ '\n')).length ≤ s.length :=
    Nat.le_trans (List.dropWhile_suffix _).length_le h1
  have hle : (if (s.dropWhile isGap).head? = some '#' then
      (s.dropWhile isGap).dropWhile (· ≠ '\n') else s.dropWhile isGap).length ≤ s.length := by
    split <;> assumption
  simp only [readEnd] at h
  split at h
  · exact Or.inl (by simpa using h.symm)
  · rename_i after hr
    rw [hr] at hle
    obtain rfl := by simpa using h
    exact Or.inr hle
  · simp at h

/-- A binding that is read leaves nothing or less; one that is not stops within the text. -/
theorem readBinding_forward (s : List Char) :
    match readBinding s with
    | .ok (_, rest) => rest = [] ∨ rest.length < s.length
    | .error stopped => stopped <:+ s := by
  unfold readBinding
  cases hk : readKey s with
  | none => exact List.suffix_rfl
  | some found =>
    obtain ⟨key, afterKey⟩ := found
    have ha := readAssigned_within afterKey
    simp only
    cases hr : readAssigned afterKey with
    | error stopped =>
      rw [hr] at ha
      exact List.IsSuffix.trans ha (readKey_suffix hk)
    | ok assigned =>
      obtain ⟨value, afterValue⟩ := assigned
      rw [hr] at ha
      have hsuf : afterValue <:+ s := List.IsSuffix.trans ha (readKey_suffix hk)
      simp only
      cases he : readEnd afterValue with
      | none => exact hsuf
      | some rest =>
        exact (readEnd_shorter he).imp_right fun h => Nat.lt_of_lt_of_le h hsuf.length_le

/-- A statement takes at least one character. -/
theorem readStatement_shorter (s : List Char) (h : s ≠ []) :
    (readStatement s).2.length < s.length := by
  have hpos := List.length_pos_iff.mpr h
  unfold readStatement
  split
  · exact hpos
  · have hsuf : skipExport (s.dropWhile isBlank) <:+ s :=
      (skipExport_suffix _).trans (List.dropWhile_suffix _)
    have hb := readBinding_forward (skipExport (s.dropWhile isBlank))
    split
    · rename_i found hf
      rw [hf] at hb
      rcases hb with hb | hb
      · rw [hb]; exact hpos
      · exact Nat.lt_of_lt_of_le hb hsuf.length_le
    · rename_i stopped hf
      rw [hf] at hb
      by_cases hs : stopped = []
      · subst hs; exact hpos
      · exact Nat.lt_of_lt_of_le (skipLine_shorter stopped hs) (hb.trans hsuf).length_le

/-! ## The statements of a file -/

/-- The statements of a text whose first line has the given number, each with the number of the line
in which reading it began. -/
def statementsFrom (line : Nat) (s : List Char) : List (Nat × Statement) :=
  if h : s = [] then []
  else
    let found := readStatement s
    have : found.2.length < s.length := readStatement_shorter s h
    (line, found.1) :: statementsFrom (line + (s.count '\n' - found.2.count '\n')) found.2
  termination_by s.length

/-- The mark that may stand in front of a text to tell its encoding. -/
def byteOrderMark : Char := '\uFEFF'

/-- The statements of a state file. -/
def statements (s : List Char) : List (Nat × Statement) :=
  statementsFrom 1 (if s.head? = some byteOrderMark then s.drop 1 else s)

/-- The lines in which a statement begins that cannot be read. -/
def malformedLines (found : List (Nat × Statement)) : List Nat :=
  found.filterMap fun (line, st) => if st = .malformed then some line else none

/-- The values that statements leave. The last statement on a key decides, and a key that stands
alone there has no value. -/
def valuesOf (found : List (Nat × Statement)) : Pairs String String :=
  let all := Pairs.ofList <| found.filterMap fun (_, st) =>
    match st with
    | .binding key value => some (String.ofList key, value.map String.ofList)
    | _ => none
  all.filterMap fun (key, value) => value.map fun v => (key, v)

end SorobanDeploy.StateFile
