import SorobanDeploy.Json.Reader
import Mathlib.Data.List.Infix

/-!
# What is nested too deep

A text is refused for its depth only if it opens more lists and objects than may be open at once
(`openings_of_deep`). What is open at a point of reading was opened before it, and each lexeme opens
one list or object at most.
-/

namespace SorobanDeploy.Json

/-- Whether a text is refused for how deep it goes. -/
def Flaw.isDeep : Flaw → Bool
  | .listTooDeep | .objectTooDeep => true
  | .malformed | .tooManyDigits => false

/-- Whether a character opens a list or an object where it is no part of a text. -/
def isOpening (c : Char) : Bool := c = '[' || c = '\x7b'

/-- How many lists and objects a lexeme opens. -/
def Lexeme.openings : Lexeme → Nat
  | .openList | .openObject => 1
  | _ => 0

/-- How many lists and objects are open. An object is no frame as long as a name of it is read. -/
def Progress.depth (p : Progress) : Nat :=
  p.frames.length +
    match p.next with
    | .nameOrEnd _ | .name _ | .colon _ _ => 1
    | _ => 0

/-! ## One lexeme -/

/-- A lexeme opens no more than it says. -/
theorem Progress.depth_step {p q : Progress} {l : Lexeme} (h : p.step l = .ok q) :
    q.depth ≤ p.depth + l.openings := by
  obtain ⟨frames, next⟩ := p
  unfold step at h
  split at h
  all_goals
    simp only at *
    subst_vars
    (repeat' split at h) <;> cases h <;> simp [depth, Lexeme.openings]

/-- Only a lexeme that opens something where enough is open is refused for its depth. -/
theorem Progress.step_deep {p : Progress} {l : Lexeme} {flaw : Flaw} (h : p.step l = .error flaw)
    (hdeep : flaw.isDeep = true) : maxDepth ≤ p.depth ∧ l.openings = 1 := by
  have hframes : p.frames.length ≤ p.depth := Nat.le_add_right _ _
  unfold step at h
  split at h
  case h_3 | h_4 | h_5 | h_6 =>
    split at h
    · cases h
    · rename_i hfull
      cases h
      exact ⟨by omega, rfl⟩
  all_goals
    -- Nothing else that is refused is refused for its depth.
    (repeat' split at h) <;> cases h <;> cases hdeep

/-! ## What a lexeme leaves -/

/-- Where the inside of a text goes on, what follows it is what follows the rest. -/
theorem suffix_of_map {t cs rest : List Char} {c : Char}
    (ih : ∀ {ds : List Char}, readText t = some (ds, rest) → rest <:+ t)
    (h : (readText t).map (fun (cs, r) => (c :: cs, r)) = some (cs, rest)) : rest <:+ t := by
  obtain ⟨⟨ds, r⟩, ht, heq⟩ := Option.map_eq_some_iff.1 h
  cases heq
  exact ih ht

theorem readText_suffix {s cs rest : List Char} (h : readText s = some (cs, rest)) :
    rest <:+ s := by
  fun_induction readText s generalizing cs with
  | case1 =>
    cases h
    exact List.suffix_cons _ _
  | case2 | case3 | case4 | case6 | case8 | case11 =>
    rename_i ih
    exact (suffix_of_map ih h).trans (by simp [List.suffix_cons_iff])
  | _ => cases h

theorem wholeDigits_suffix {s ds rest : List Char} (h : wholeDigits s = some (ds, rest)) :
    rest <:+ s := by
  unfold wholeDigits at h
  split at h
  · cases h
    exact List.suffix_cons _ _
  · split at h
    · cases h
    · have hrest : (spanDigits s).2 = rest := congrArg Prod.snd (Option.some.inj h)
      exact hrest ▸ spanDigits_suffix s

theorem readNumber_suffix {negative : Bool} {s rest : List Char} {v : Json}
    (h : readNumber negative s = .ok (v, rest)) : rest <:+ s := by
  unfold readNumber at h
  split at h
  · cases h
  · rename_i units r hunits
    have hfraction := (fractionDigits_suffix r).trans (wholeDigits_suffix hunits)
    simp only at h
    split at h
    · rename_i e t hexponent
      cases h
      exact (exponentValue_suffix hexponent).trans hfraction
    · split at h
      · split at h
        · cases h
        · cases h
          exact hfraction
      · cases h
        exact hfraction

theorem readPlain_suffix {s rest : List Char} {v : Json} (h : readPlain s = .ok (v, rest)) :
    rest <:+ s := by
  unfold readPlain at h
  split at h
  · rename_i found hword
    cases h
    obtain ⟨⟨word, w⟩, -, hw⟩ := List.exists_of_findSome?_eq_some hword
    obtain ⟨-, hw⟩ := Option.ite_none_right_eq_some.1 hw
    cases hw
    exact List.drop_suffix _ _
  · unfold readSigned at h
    split at h
    · exact (readNumber_suffix h).trans (List.suffix_cons _ _)
    · exact readNumber_suffix h

/-- A lexeme is not refused for its depth before it is known where it stands. -/
theorem readPlain_not_deep {s : List Char} {flaw : Flaw} (h : readPlain s = .error flaw) :
    flaw.isDeep = false := by
  have hnumber {negative : Bool} {s : List Char} (h : readNumber negative s = .error flaw) :
      flaw.isDeep = false := by
    unfold readNumber at h
    split at h
    · cases h
      rfl
    · simp only at h
      split at h
      · cases h
      · split at h
        · split at h
          · cases h
            rfl
          · cases h
        · cases h
  unfold readPlain at h
  split at h
  · cases h
  · unfold readSigned at h
    split at h
    · exact hnumber h
    · exact hnumber h

theorem readLexeme_not_deep {s : List Char} {flaw : Flaw} (h : readLexeme s = .error flaw) :
    flaw.isDeep = false := by
  unfold readLexeme at h
  split at h
  · cases h
    rfl
  · split at h
    · cases h
    · split at h
      · split at h
        · cases h
        · cases h
          rfl
      · split at h
        · cases h
        · rename_i hplain
          cases h
          exact readPlain_not_deep hplain

/-- A mark opens something exactly if it is an opening character. -/
theorem openings_of_mark {c : Char} {l : Lexeme} (h : punctuation? c = some l) :
    l.openings = if isOpening c then 1 else 0 := by
  unfold punctuation? at h
  split at h <;> cases h <;> rfl

/-- What follows a lexeme opens no more than the text does behind the lexeme. -/
theorem countP_readLexeme {s rest : List Char} {l : Lexeme} (h : readLexeme s = .ok (l, rest)) :
    rest.countP isOpening + l.openings ≤ s.countP isOpening := by
  unfold readLexeme at h
  split at h
  · cases h
  · rename_i c after
    split at h
    · rename_i hmark
      cases h
      rw [openings_of_mark hmark, List.countP_cons]
    · split at h
      · split at h
        · rename_i htext
          cases h
          have hsuffix := (readText_suffix htext).trans (List.suffix_cons c after)
          exact hsuffix.sublist.countP_le
        · cases h
      · split at h
        · rename_i hplain
          cases h
          exact (readPlain_suffix hplain).sublist.countP_le
        · cases h

/-- A text that is refused for its depth opens more than may be open at once, with what is open
already. -/
theorem Progress.openings_of_deep {p : Progress} {s : List Char} {flaw : Flaw}
    (h : p.run s = .error flaw) (hdeep : flaw.isDeep = true) :
    maxDepth < p.depth + s.countP isOpening := by
  induction hlength : s.length using Nat.strongRecOn generalizing p s with
  | ind n ih =>
    subst hlength
    unfold run at h
    split at h
    · cases h
    · rename_i c r hsuffix _ _
      have hopen : (c :: r).countP isOpening ≤ s.countP isOpening := hsuffix.sublist.countP_le
      split at h
      · rename_i refused hlexeme
        have hshallow := readLexeme_not_deep hlexeme
        cases h
        split at hdeep
        · rw [hshallow] at hdeep
          cases hdeep
        · cases hdeep
      · rename_i l rest hlexeme
        have hcount := countP_readLexeme hlexeme
        have hshorter : rest.length < s.length :=
          Nat.lt_of_lt_of_le (readLexeme_shorter hlexeme) hsuffix.length_le
        simp only at h
        split at h
        · rename_i q hstep
          have hrest := ih rest.length hshorter h rfl
          have hdepth := depth_step hstep
          omega
        · rename_i refused hstep
          cases h
          obtain ⟨hdepth, hopens⟩ := step_deep hstep hdeep
          omega

/-- A text that is refused for its depth opens more lists and objects than may be open at once. -/
theorem openings_of_deep {s : List Char} {flaw : Flaw} (h : read s = .error flaw)
    (hdeep : flaw.isDeep = true) : maxDepth < s.countP isOpening := by
  unfold read at h
  split at h
  · cases h
  · cases h
    cases hdeep
  · rename_i hrun
    cases h
    have hopen := Progress.openings_of_deep hrun hdeep
    simpa [Progress.depth] using hopen

end SorobanDeploy.Json
