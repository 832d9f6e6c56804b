import SorobanDeploy.Json.Value
import SorobanDeploy.Text.Utf16

/-!
# Reading JSON

A document is cut into lexemes from left to right, and each lexeme moves a machine that keeps the
lists and objects not yet closed. Besides the standard forms, `NaN`, `Infinity` and `-Infinity` are
numbers. A whole number may have at most `maxDigits` digits, and at most `maxDepth` lists and
objects may be open at once.

Every lexeme takes at least one character, so reading ends (`readLexeme_shorter`).
-/

namespace SorobanDeploy.Json

open Text.Utf16 (isFirstHalf isSecondHalf joinHalves)

/-- Why a text is no document. -/
inductive Flaw where
  /-- The text does not follow the grammar. -/
  | malformed
  /-- A whole number has too many digits. -/
  | tooManyDigits
  /-- A list stands in too many lists and objects. -/
  | listTooDeep
  /-- An object stands in too many lists and objects. -/
  | objectTooDeep
  deriving DecidableEq, Repr

/-- The greatest number of digits of a whole number. -/
def maxDigits : Nat := 4300

/-- The greatest number of lists and objects that are open at once. -/
def maxDepth : Nat := 988

/-- The smallest parts of a document. -/
inductive Lexeme where
  | openList | closeList | openObject | closeObject | comma | colon
  | scalar (v : Json)
  deriving Repr

/-- Whether a character may stand between lexemes. -/
def isGap (c : Char) : Bool :=
  c = ' ' || c = '\t' || c = '\n' || c = '\r'

/-- The number that four hexadecimal digits write. -/
def hex4? (a b c d : Char) : Option Nat := do
  let a ← Text.hexValue? a
  let b ← Text.hexValue? b
  let c ← Text.hexValue? c
  let d ← Text.hexValue? d
  pure (((a * 16 + b) * 16 + c) * 16 + d)

/-- The character of a one-letter escape. -/
def escape? : Char → Option Char
  | '"' => some '"'
  | '\\' => some '\\'
  | '/' => some '/'
  | 'b' => some '\x08'
  | 'f' => some '\x0c'
  | 'n' => some '\n'
  | 'r' => some '\r'
  | 't' => some '\t'
  | _ => none

/-- The character of a unit; half of a pair on its own is shown by the replacement character. -/
def unitChar (n : Nat) : Char :=
  if isFirstHalf n || isSecondHalf n then '\uFFFD' else Char.ofNat n

/-- The inside of a text from after its opening quote, and what follows the closing one. Two escaped
halves of a pair are one character. -/
def readText : List Char → Option (List Char × List Char)
  | '"' :: rest => some ([], rest)
  | '\\' :: 'u' :: a :: b :: c :: d :: '\\' :: 'u' :: e :: f :: g :: h :: rest =>
    match hex4? a b c d, hex4? e f g h with
    | some m, some n =>
      if isFirstHalf m && isSecondHalf n then
        (readText rest).map fun (cs, r) => (Char.ofNat (joinHalves m n) :: cs, r)
      else
        (readText ('\\' :: 'u' :: e :: f :: g :: h :: rest)).map fun (cs, r) =>
          (unitChar m :: cs, r)
    | some m, none =>
      (readText ('\\' :: 'u' :: e :: f :: g :: h :: rest)).map fun (cs, r) => (unitChar m :: cs, r)
    | none, _ => none
  | '\\' :: 'u' :: a :: b :: c :: d :: rest =>
    match hex4? a b c d with
    | some m => (readText rest).map fun (cs, r) => (unitChar m :: cs, r)
    | none => none
  | '\\' :: e :: rest =>
    match escape? e with
    | some x => (readText rest).map fun (cs, r) => (x :: cs, r)
    | none => none
  | c :: rest =>
    if c.toNat < 0x20 ∨ c = '\\' then none
    else (readText rest).map fun (cs, r) => (c :: cs, r)
  | [] => none
  termination_by s => s.length

/-- The digits in front of a text, and the rest. -/
def spanDigits (s : List Char) : List Char × List Char :=
  (s.takeWhile Char.isDigit, s.dropWhile Char.isDigit)

/-- The number that digits write. -/
def ofDigits (ds : List Char) : Nat :=
  ds.foldl (fun n c => n * 10 + (c.toNat - '0'.toNat)) 0

/-- The digits of the whole part: a zero stands alone. -/
def wholeDigits : List Char → Option (List Char × List Char)
  | '0' :: rest => some (['0'], rest)
  | s => match spanDigits s with
    | ([], _) => none
    | found => some found

/-- The digits after a point, if there is a point with a digit after it. -/
def fractionDigits : List Char → List Char × List Char
  | '.' :: rest => match spanDigits rest with
    | ([], _) => ([], '.' :: rest)
    | found => found
  | s => ([], s)

/-- A sign in front of digits, and the rest: whether it is the negative one. -/
def splitSign : List Char → Bool × List Char
  | '-' :: r => (true, r)
  | '+' :: r => (false, r)
  | r => (false, r)

/-- The exponent, if there is a mark with digits after it. -/
def exponentValue : List Char → Option (Int × List Char)
  | mark :: rest =>
    if mark = 'e' ∨ mark = 'E' then
      match spanDigits (splitSign rest).2 with
      | ([], _) => none
      | (ds, r) => some (if (splitSign rest).1 then -(ofDigits ds : Int) else ofDigits ds, r)
    else none
  | [] => none

/-- A number in front of a text, after its sign. A fraction or an exponent makes it a double. -/
def readNumber (negative : Bool) (s : List Char) : Except Flaw (Json × List Char) :=
  match wholeDigits s with
  | none => .error .malformed
  | some (units, rest) =>
    let (fraction, afterFraction) := fractionDigits rest
    match exponentValue afterFraction with
    | some (e, r) =>
      .ok (.real (.ofDecimal negative (ofDigits (units ++ fraction)) (e - fraction.length)), r)
    | none =>
      if fraction.isEmpty then
        if maxDigits < units.length then .error .tooManyDigits
        else
          let n : Int := ofDigits units
          .ok (.whole (if negative then -n else n), afterFraction)
      else
        .ok (.real (.ofDecimal negative (ofDigits (units ++ fraction)) (-fraction.length)),
          afterFraction)

/-- A number in front of a text. -/
def readSigned : List Char → Except Flaw (Json × List Char)
  | '-' :: r => readNumber true r
  | r => readNumber false r

/-- The words that stand for a value. -/
def words : List (List Char × Json) := [
  ("null".toList, .null), ("true".toList, .bool true), ("false".toList, .bool false),
  ("NaN".toList, .real .nan), ("Infinity".toList, .real (.infinite false)),
  ("-Infinity".toList, .real (.infinite true))]

/-- The value of a word in front of a text, and what follows it. -/
def readWord (s : List Char) : Option (Json × List Char) :=
  words.findSome? fun (word, v) => if word.isPrefixOf s then some (v, s.drop word.length) else none

/-- The lexeme of a punctuation mark. -/
def punctuation? : Char → Option Lexeme
  | '[' => some .openList
  | ']' => some .closeList
  | '\x7b' => some .openObject
  | '\x7d' => some .closeObject
  | ',' => some .comma
  | ':' => some .colon
  | _ => none

/-- The value in front of a text that begins with no quote: a word or a number. -/
def readPlain (s : List Char) : Except Flaw (Json × List Char) :=
  match readWord s with
  | some found => .ok found
  | none => readSigned s

/-- The first lexeme of a text that does not begin with a gap. -/
def readLexeme : List Char → Except Flaw (Lexeme × List Char)
  | [] => .error .malformed
  | c :: rest =>
    match punctuation? c with
    | some l => .ok (l, rest)
    | none =>
      if c = '"' then
        match readText rest with
        | some (cs, r) => .ok (.scalar (.text (String.ofList cs)), r)
        | none => .error .malformed
      else
        match readPlain (c :: rest) with
        | .ok (v, r) => .ok (.scalar v, r)
        | .error flaw => .error flaw

/-! ## Reading goes forward -/

/-- The inside of a text is followed by less: its closing quote at least is taken. -/
theorem readText_shorter {s cs rest : List Char} (h : readText s = some (cs, rest)) :
    rest.length < s.length := by
  fun_induction readText s generalizing cs <;>
    simp_all [Option.map_eq_some_iff] <;> grind

theorem spanDigits_suffix (s : List Char) : (spanDigits s).2 <:+ s := List.dropWhile_suffix _

theorem spanDigits_shorter (s : List Char) (h : (spanDigits s).1 ≠ []) :
    (spanDigits s).2.length < s.length := by
  have hpos := List.length_pos_iff.mpr h
  have hlen := congrArg List.length (List.takeWhile_append_dropWhile (p := Char.isDigit) (l := s))
  simp only [List.length_append, spanDigits] at hlen hpos ⊢
  omega

/-- A number has at least one digit. -/
theorem wholeDigits_shorter {s ds rest : List Char} (h : wholeDigits s = some (ds, rest)) :
    rest.length < s.length := by
  unfold wholeDigits at h
  split at h
  · obtain ⟨-, rfl⟩ := by simpa using h
    simp
  · split at h
    · simp at h
    · rename_i hne
      have hs : spanDigits s = (ds, rest) := by simpa using h
      have := spanDigits_shorter s fun h0 => hne rest (by rw [← h0, hs])
      rwa [hs] at this

theorem fractionDigits_suffix (s : List Char) : (fractionDigits s).2 <:+ s := by
  unfold fractionDigits
  split
  · split
    · exact List.suffix_rfl
    · exact (spanDigits_suffix _).trans (List.suffix_cons _ _)
  · exact List.suffix_rfl

theorem splitSign_suffix (s : List Char) : (splitSign s).2 <:+ s := by
  unfold splitSign
  split
  · exact List.suffix_cons _ _
  · exact List.suffix_cons _ _
  · exact List.suffix_rfl

theorem exponentValue_suffix {s rest : List Char} {e : Int}
    (h : exponentValue s = some (e, rest)) : rest <:+ s := by
  unfold exponentValue at h
  split at h
  · rename_i mark after
    have hsuf := (spanDigits_suffix (splitSign after).2).trans (splitSign_suffix after)
    split at h
    · split at h
      · simp at h
      · rename_i ds r hr
        obtain ⟨-, rfl⟩ := by simpa using h
        rw [hr] at hsuf
        exact hsuf.trans (List.suffix_cons _ _)
    · simp at h
  · simp at h

theorem readNumber_shorter {negative : Bool} {s rest : List Char} {v : Json}
    (h : readNumber negative s = .ok (v, rest)) : rest.length < s.length := by
  unfold readNumber at h
  split at h
  · simp at h
  · rename_i units r hw
    have hr := wholeDigits_shorter hw
    have hf := (fractionDigits_suffix r).length_le
    simp only at h
    split at h
    · rename_i e t he
      obtain ⟨-, rfl⟩ := by simpa using h
      have := (exponentValue_suffix he).length_le
      omega
    · split at h
      · split at h
        · simp at h
        · obtain ⟨-, rfl⟩ := by simpa using h
          omega
      · obtain ⟨-, rfl⟩ := by simpa using h
        omega

theorem readSigned_shorter {s rest : List Char} {v : Json}
    (h : readSigned s = .ok (v, rest)) : rest.length < s.length := by
  unfold readSigned at h
  split at h
  · have := readNumber_shorter h
    simp only [List.length_cons]
    omega
  · exact readNumber_shorter h

theorem readWord_shorter {s rest : List Char} {v : Json} (h : readWord s = some (v, rest)) :
    rest.length < s.length := by
  obtain ⟨⟨word, w⟩, hmem, hw⟩ := List.exists_of_findSome?_eq_some h
  simp only [Option.ite_none_right_eq_some, Option.some.injEq, Prod.mk.injEq] at hw
  obtain ⟨hpre, -, rfl⟩ := hw
  have hle := (List.isPrefixOf_iff_prefix.mp hpre).length_le
  have hpos : 0 < word.length := by
    have : ∀ p ∈ words, 0 < p.1.length := by decide
    exact this _ hmem
  simp only [List.length_drop]
  omega

theorem readPlain_shorter {s rest : List Char} {v : Json} (h : readPlain s = .ok (v, rest)) :
    rest.length < s.length := by
  unfold readPlain at h
  split at h
  · rename_i hw
    obtain rfl := by simpa using h
    exact readWord_shorter hw
  · exact readSigned_shorter h

/-- A lexeme takes at least one character. -/
theorem readLexeme_shorter {s rest : List Char} {l : Lexeme}
    (h : readLexeme s = .ok (l, rest)) : rest.length < s.length := by
  unfold readLexeme at h
  split at h
  · simp at h
  · split at h
    · obtain ⟨-, rfl⟩ := by simpa using h
      simp
    · split at h
      · split at h
        · rename_i ht
          obtain ⟨-, rfl⟩ := by simpa using h
          exact Nat.lt_succ_of_lt (readText_shorter ht)
        · simp at h
      · split at h
        · rename_i hp
          obtain ⟨-, rfl⟩ := by simpa using h
          exact readPlain_shorter hp
        · simp at h

/-! ## Documents -/

/-- A list or an object that is not yet closed, with what it holds so far. -/
inductive Frame where
  | items (done : List Json)
  | members (done : Pairs String Json) (name : String)

/-- What may come next. -/
inductive Expectation where
  /-- A value. -/
  | value
  /-- A value, or the end of a list just opened. -/
  | valueOrEnd
  /-- A name, or the end of an object just opened. -/
  | nameOrEnd (done : Pairs String Json)
  /-- A name. -/
  | name (done : Pairs String Json)
  /-- The colon after a name. -/
  | colon (done : Pairs String Json) (name : String)
  /-- What may follow a complete value. -/
  | after (v : Json)

/-- A reader in the middle of a document: the frames around it, innermost first, and what it
expects. -/
structure Progress where
  frames : List Frame
  next : Expectation

/-- Whether a value may come next. -/
def Progress.takesValue (p : Progress) : Bool :=
  match p.next with
  | .value | .valueOrEnd => true
  | _ => false

/-- The reader after one more lexeme. -/
def Progress.step (p : Progress) (l : Lexeme) : Except Flaw Progress :=
  match p.next, l with
  | .value, .scalar v | .valueOrEnd, .scalar v => .ok ⟨p.frames, .after v⟩
  | .value, .openList | .valueOrEnd, .openList =>
    if p.frames.length < maxDepth then .ok ⟨.items [] :: p.frames, .valueOrEnd⟩
    else .error .listTooDeep
  | .value, .openObject | .valueOrEnd, .openObject =>
    if p.frames.length < maxDepth then .ok ⟨p.frames, .nameOrEnd []⟩ else .error .objectTooDeep
  | .valueOrEnd, .closeList => match p.frames with
    | .items [] :: frames => .ok ⟨frames, .after (.list [])⟩
    | _ => .error .malformed
  | .nameOrEnd _, .closeObject => .ok ⟨p.frames, .after (.object [])⟩
  | .nameOrEnd done, .scalar (.text name) | .name done, .scalar (.text name) =>
    .ok ⟨p.frames, .colon done name⟩
  | .colon done name, .colon => .ok ⟨.members done name :: p.frames, .value⟩
  | .after v, .comma => match p.frames with
    | .items done :: frames => .ok ⟨.items (v :: done) :: frames, .value⟩
    | .members done name :: frames => .ok ⟨frames, .name (Pairs.assign name v done)⟩
    | [] => .error .malformed
  | .after v, .closeList => match p.frames with
    | .items done :: frames => .ok ⟨frames, .after (.list (v :: done).reverse)⟩
    | _ => .error .malformed
  | .after v, .closeObject => match p.frames with
    | .members done name :: frames => .ok ⟨frames, .after (.object (Pairs.assign name v done))⟩
    | _ => .error .malformed
  | _, _ => .error .malformed

/-- The reader after all lexemes of a text. -/
def Progress.run (p : Progress) (s : List Char) : Except Flaw Progress :=
  match s.dropWhile isGap, List.dropWhile_suffix (l := s) isGap with
  | [], _ => .ok p
  | c :: r, hsuf =>
    match h : readLexeme (c :: r) with
    -- The digits of a number count only where a number may stand.
    | .error flaw => .error (if p.takesValue then flaw else .malformed)
    | .ok (l, rest) =>
      have : rest.length < s.length := Nat.lt_of_lt_of_le (readLexeme_shorter h) hsuf.length_le
      match p.step l with
      | .ok q => q.run rest
      | .error flaw => .error flaw
  termination_by s.length

/-- The value that a text writes, as a whole document. -/
def read (s : List Char) : Except Flaw Json :=
  match Progress.run ⟨[], .value⟩ s with
  | .ok ⟨[], .after v⟩ => .ok v
  | .ok _ => .error .malformed
  | .error flaw => .error flaw

end SorobanDeploy.Json
