import SorobanDeploy.Host.Tree

/-!
# Walks as derivations

A walk that comes to its end is a derivation, one step for each name and one for each link
(`Tree.Leads`), and the limit only bounds the number of its links (`walk_eq_ok_iff`). So what a walk
does after the tree has changed is shown by induction on the derivation: a walk to something present
is not disturbed by new entries (`Leads.mono`), and a file that takes the place where a walk ends is
what the walk comes to from then on (`Leads.replaced`), while no other walk is turned aside by it
(`Leads.alike`).
-/

namespace SorobanDeploy

/-- Whether a walk can end at an entry that is no directory: not at a link, unless that is what it
is for. -/
def Entry.Stops (aim : Aim) (e : Entry) : Prop :=
  e ≠ .directory ∧ ((∃ target, e = .link target) → aim = .entry)

/-- Two ends of walks that are something both, or nothing both and under the same name. -/
inductive Goal.Alike : Goal → Goal → Prop where
  | present {q q' : Spot} {e e' : Entry} : Goal.Alike (.present q e) (.present q' e')
  | absent {dir : Place} {name : String} : Goal.Alike (.absent dir name) (.absent dir name)

namespace Tree

variable {t u : Tree} {aim : Aim} {s q : Spot} {names rest : List String} {n limit : Nat}
  {goal : Goal} {e : Entry} {place : Place} {name : String}

/-! ## Where a path starts -/

/-- A path that is too long for the system leads nowhere. -/
theorem status_of_long (t : Tree) (dir : Spot) {path : String}
    (hlong : pathLimit ≤ path.utf8ByteSize) : t.status dir path = .error .nameTooLong := by
  have hne : ¬path.isEmpty = true := by
    intro hempty
    rw [String.isEmpty_iff.1 hempty] at hlong
    exact absurd hlong (by decide)
  unfold status find
  rw [if_neg hne, if_pos hlong]

/-- A path from the root leads to the same from every directory. -/
theorem find_of_absolute {path : String} (h : path.toList.head? = some '/') (t : Tree) (aim : Aim)
    (dir cwd : Spot) : t.find dir aim path = t.find cwd aim path := by
  have hstart : start dir path = start cwd path := by
    unfold start
    rw [if_pos h, if_pos h]
  unfold find
  rw [hstart]

/-- What stands at the end of a path from the root is the same from every directory. -/
theorem status_of_absolute {path : String} (h : path.toList.head? = some '/') (t : Tree)
    (dir cwd : Spot) : t.status dir path = t.status cwd path := by
  unfold status
  rw [find_of_absolute h t .target dir cwd]

/-! ## Steps of a walk -/

/-- What a name that is no point leads to from a directory that is still there. -/
structure Looks (t : Tree) (s : Spot) (name : String) (found : Option Entry) : Prop where
  still : ¬(name = "" ∨ name = ".")
  down : name ≠ ".."
  live : s.lost = 0
  short : ¬nameLimit < name.utf8ByteSize
  found : Pairs.get? (s.place ++ [name]) t = found

/-- The walks from a directory along names that follow a number of links. -/
inductive Leads (t : Tree) (aim : Aim) : Nat → Spot → List String → Goal → Prop where
  /-- No name is left. -/
  | stay {s : Spot} : Leads t aim 0 s [] (.present s .directory)
  /-- A point stays in the directory. -/
  | here {n : Nat} {s : Spot} {name : String} {rest : List String} {goal : Goal}
      (hname : name = "" ∨ name = ".") (next : Leads t aim n s rest goal) :
      Leads t aim n s (name :: rest) goal
  /-- A double point goes up. -/
  | up {n : Nat} {s : Spot} {rest : List String} {goal : Goal}
      (next : Leads t aim n s.parent rest goal) : Leads t aim n s (".." :: rest) goal
  /-- The name of a directory goes into it. -/
  | into {n : Nat} {s : Spot} {name : String} {rest : List String} {goal : Goal}
      (found : Looks t s name (some .directory))
      (next : Leads t aim n (.live (s.place ++ [name])) rest goal) :
      Leads t aim n s (name :: rest) goal
  /-- A link is followed, if it is on the way or not what the walk is for. -/
  | follow {n : Nat} {s : Spot} {name target : String} {rest : List String} {goal : Goal}
      (found : Looks t s name (some (.link target))) (hway : rest ≠ [] ∨ aim ≠ .entry)
      (next : Leads t aim n (start s target) (walkNames target ++ rest) goal) :
      Leads t aim (n + 1) s (name :: rest) goal
  /-- The last name is that of something else. -/
  | stop {s : Spot} {name : String} {e : Entry} (found : Looks t s name (some e))
      (hstops : e.Stops aim) : Leads t aim 0 s [name] (.present (.live (s.place ++ [name])) e)
  /-- The last name is that of nothing. -/
  | missing {s : Spot} {name : String} (found : Looks t s name none) :
      Leads t aim 0 s [name] (.absent s.place name)

/-! ## Walks and derivations -/

/-- What a walk does with what it finds under a name. -/
def arrive (t : Tree) (aim : Aim) (s : Spot) (name : String) (rest : List String) :
    Option Entry → Stage
  | none => if rest = [] then .done (.absent s.place name) else .refused .noEntry
  | some .directory => advance t aim (.live (s.place ++ [name])) rest
  | some (.link target) =>
    if rest = [] ∧ aim = .entry then .done (.present (.live (s.place ++ [name])) (.link target))
    else .through s target rest
  | some entry =>
    if rest = [] then .done (.present (.live (s.place ++ [name])) entry)
    else .refused .notDirectory

/-- A walk ends where it can. -/
theorem arrive_of_stops (h : e.Stops aim) :
    arrive t aim s name [] (some e) = .done (.present (.live (s.place ++ [name])) e) := by
  obtain ⟨hdirectory, hlink⟩ := h
  cases e with
  | directory => exact absurd rfl hdirectory
  | link target => rw [arrive, if_pos ⟨rfl, hlink ⟨target, rfl⟩⟩]
  | file content => rfl
  | program content => rfl
  | stream early late => rfl

theorem advance_here (hname : name = "" ∨ name = ".") :
    advance t aim s (name :: rest) = advance t aim s rest := by
  rw [advance, if_pos hname]

theorem advance_up : advance t aim s (".." :: rest) = advance t aim s.parent rest := by
  rw [advance, if_neg (by decide), if_pos rfl]

/-- A name that is no point is looked up. -/
theorem Looks.advance {found : Option Entry} (h : Looks t s name found) (haim : aim ≠ .file) :
    advance t aim s (name :: rest) = arrive t aim s name rest found := by
  have hchild : child? t s name = found := by rw [child?, if_pos h.live, h.found]
  rw [Tree.advance, if_neg h.still, if_neg h.down, if_neg fun hslash => haim hslash.2,
    if_neg (not_not_intro h.live), if_neg h.short, hchild]
  cases found with
  | none => rfl
  | some e => cases e <;> rfl

/-- A link on the way is followed. -/
theorem Looks.through {target : String} (h : Looks t s name (some (.link target)))
    (hway : rest ≠ [] ∨ aim ≠ .entry) (haim : aim ≠ .file) :
    Tree.advance t aim s (name :: rest) = .through s target rest := by
  rw [h.advance haim, arrive, if_neg (Decidable.not_and_iff_or_not.2 hway)]

/-- What does not refuse a name looks it up, unless it is a point. -/
theorem looks_of_advance (hstill : ¬(name = "" ∨ name = ".")) (hdown : name ≠ "..")
    (haim : aim ≠ .file) (h : ∀ r, advance t aim s (name :: rest) ≠ .refused r) :
    Looks t s name (Pairs.get? (s.place ++ [name]) t) := by
  rw [advance, if_neg hstill, if_neg hdown, if_neg fun hslash => haim hslash.2] at h
  by_cases hlive : s.lost = 0
  · rw [if_neg (not_not_intro hlive)] at h
    by_cases hshort : nameLimit < name.utf8ByteSize
    · exact absurd (if_pos hshort) (h _)
    · exact ⟨hstill, hdown, hlive, hshort, rfl⟩
  · exact absurd (if_pos hlive) (h _)

/-- Whether a stage is what the derivations from a directory along names go on with. -/
def Continues (t : Tree) (aim : Aim) (s : Spot) (names : List String) : Stage → Prop
  | .done goal => Leads t aim 0 s names goal
  | .refused _ => True
  | .through dir target rest => ∀ n goal,
    Leads t aim n (start dir target) (walkNames target ++ rest) goal →
      Leads t aim (n + 1) s names goal

theorem Continues.mono {s' : Spot} {names' : List String} {stage : Stage}
    (h : Continues t aim s names stage)
    (hstep : ∀ n goal, Leads t aim n s names goal → Leads t aim n s' names' goal) :
    Continues t aim s' names' stage := by
  cases stage with
  | done goal => exact hstep 0 goal h
  | refused r => trivial
  | through dir target rest => exact fun n goal hnext => hstep _ goal (h n goal hnext)

/-- A walk that looks up a name goes on as a derivation, if the walk into the directory of that name
does. -/
theorem Looks.continues {found : Option Entry} (h : Looks t s name found)
    (hinto : Continues t aim (.live (s.place ++ [name])) rest
      (Tree.advance t aim (.live (s.place ++ [name])) rest)) :
    Continues t aim s (name :: rest) (arrive t aim s name rest found) := by
  have hstop {e : Entry} (hfound : found = some e) (hstops : e.Stops aim) (hrest : rest = []) :
      Continues t aim s (name :: rest) (.done (.present (.live (s.place ++ [name])) e)) := by
    subst hfound hrest
    exact .stop h hstops
  cases found with
  | none =>
    by_cases hrest : rest = []
    · subst hrest
      exact .missing h
    · rw [arrive, if_neg hrest]
      trivial
  | some e =>
    cases e with
    | directory => exact hinto.mono fun n goal hnext => .into h hnext
    | link target =>
      by_cases hend : rest = [] ∧ aim = .entry
      · rw [arrive, if_pos hend]
        exact hstop rfl ⟨by simp, fun _ => hend.2⟩ hend.1
      · rw [arrive, if_neg hend]
        exact fun n goal hnext => .follow h (Decidable.not_and_iff_or_not.1 hend) hnext
    | file | program | stream =>
      dsimp only [arrive]
      by_cases hrest : rest = []
      · rw [if_pos hrest]
        exact hstop rfl ⟨by simp, by simp⟩ hrest
      · rw [if_neg hrest]
        trivial

/-- The walk to the first link is a derivation, or goes on as one. -/
theorem continues_advance (haim : aim ≠ .file) (s : Spot) (names : List String) :
    Continues t aim s names (advance t aim s names) := by
  induction names generalizing s with
  | nil => exact .stay
  | cons name rest ih =>
    by_cases hstill : name = "" ∨ name = "."
    · rw [advance_here hstill]
      exact (ih s).mono fun n goal h => .here hstill h
    by_cases hdown : name = ".."
    · subst hdown
      rw [advance_up]
      exact (ih s.parent).mono fun n goal h => .up h
    -- What is left is a name that is looked up, unless the walk is refused before that.
    by_cases hrefused : ∃ r, advance t aim s (name :: rest) = .refused r
    · obtain ⟨r, hr⟩ := hrefused
      rw [hr]
      trivial
    have hlooks := looks_of_advance hstill hdown haim fun r hr => hrefused ⟨r, hr⟩
    rw [hlooks.advance haim]
    exact hlooks.continues (ih _)

theorem walk_of_done (h : advance t aim s names = .done goal) :
    walk t aim limit s names = .ok goal := by
  unfold walk
  rw [h]

theorem walk_of_refused {r : Refusal} (h : advance t aim s names = .refused r) :
    walk t aim limit s names = .error r := by
  unfold walk
  rw [h]

theorem walk_zero_of_through {dir : Spot} {target : String}
    (h : advance t aim s names = .through dir target rest) :
    walk t aim 0 s names = .error .tooManyLinks := by
  unfold walk
  rw [h]

theorem walk_succ_of_through {dir : Spot} {target : String}
    (h : advance t aim s names = .through dir target rest) :
    walk t aim (limit + 1) s names =
      walk t aim limit (start dir target) (walkNames target ++ rest) := by
  rw [walk.eq_def]
  simp only [h]

/-- A walk goes on from the stage that it comes to. -/
theorem walk_congr {s' : Spot} {names' : List String}
    (h : advance t aim s names = advance t aim s' names') :
    walk t aim limit s names = walk t aim limit s' names' := by
  unfold walk
  rw [h]

theorem Leads.walk_eq (h : Leads t aim n s names goal) (haim : aim ≠ .file) :
    ∀ limit, n ≤ limit → walk t aim limit s names = .ok goal := by
  induction h with
  | stay =>
    exact fun limit hlimit => walk_of_done rfl
  | here hname next ih =>
    intro limit hlimit
    rw [walk_congr (advance_here hname)]
    exact ih limit hlimit
  | up next ih =>
    intro limit hlimit
    rw [walk_congr advance_up]
    exact ih limit hlimit
  | into found next ih =>
    intro limit hlimit
    rw [walk_congr (found.advance haim)]
    exact ih limit hlimit
  | follow found hway next ih =>
    intro limit hlimit
    obtain ⟨limit, rfl⟩ := Nat.exists_eq_add_of_le' (Nat.lt_of_lt_of_le (Nat.succ_pos _) hlimit)
    rw [walk_succ_of_through (found.through hway haim)]
    exact ih limit (Nat.le_of_succ_le_succ hlimit)
  | stop found hstops =>
    exact fun limit _ => walk_of_done ((found.advance haim).trans (arrive_of_stops hstops))
  | missing found => exact fun limit _ => walk_of_done (found.advance haim)

/-- A walk that comes to its end does so before the first link, or from where that link leads. -/
theorem stage_of_walk (h : walk t aim limit s names = .ok goal) :
    advance t aim s names = .done goal ∨ ∃ m dir target rest, limit = m + 1 ∧
      advance t aim s names = .through dir target rest ∧
      walk t aim m (start dir target) (walkNames target ++ rest) = .ok goal := by
  cases hstage : advance t aim s names with
  | done reached =>
    rw [walk_of_done hstage] at h
    cases h
    exact .inl rfl
  | refused r =>
    rw [walk_of_refused hstage] at h
    cases h
  | through dir target rest =>
    cases limit with
    | zero =>
      rw [walk_zero_of_through hstage] at h
      cases h
    | succ m =>
      rw [walk_succ_of_through hstage] at h
      exact .inr ⟨m, dir, target, rest, rfl, rfl, h⟩

/-- A walk comes to an end exactly if a derivation does that follows no more links than the limit
allows. -/
theorem walk_eq_ok_iff (haim : aim ≠ .file) :
    walk t aim limit s names = .ok goal ↔ ∃ n ≤ limit, Leads t aim n s names goal := by
  refine ⟨fun h => ?_, fun ⟨n, hn, h⟩ => h.walk_eq haim limit hn⟩
  induction limit using Nat.strongRecOn generalizing s names with
  | ind limit ih =>
    have hnext := continues_advance (t := t) haim s names
    rcases stage_of_walk h with hdone | ⟨m, dir, target, rest, rfl, hthrough, hwalk⟩
    · rw [hdone] at hnext
      exact ⟨0, Nat.zero_le _, hnext⟩
    · rw [hthrough] at hnext
      obtain ⟨n, hn, hleads⟩ := ih m (Nat.lt_succ_self m) hwalk
      exact ⟨n + 1, Nat.succ_le_succ hn, hnext n goal hleads⟩

/-- A walk for a file that may be made goes where a walk through all links goes, unless it is
refused because of a slash behind the last name. -/
theorem advance_file (t : Tree) (s : Spot) (names : List String) :
    advance t .file s names = .refused .isDirectory ∨
      advance t .file s names = advance t .target s names := by
  induction names generalizing s with
  | nil => exact .inr rfl
  | cons name rest ih =>
    by_cases hstill : name = "" ∨ name = "."
    · rw [advance_here hstill, advance_here hstill]
      exact ih s
    by_cases hdown : name = ".."
    · rw [hdown, advance_up, advance_up]
      exact ih s.parent
    by_cases hslash : rest = [""]
    · left
      rw [advance, if_neg hstill, if_neg hdown, if_pos ⟨hslash, rfl⟩]
    · have hfile : ¬(rest = [""] ∧ Aim.file = .file) := fun h => hslash h.1
      have htarget : ¬(rest = [""] ∧ Aim.target = .file) := fun h => hslash h.1
      rw [advance, if_neg hstill, if_neg hdown, if_neg hfile]
      rw [advance, if_neg hstill, if_neg hdown, if_neg htarget]
      split
      · exact .inr rfl
      · split
        · exact .inr rfl
        · split
          · exact .inr rfl
          · exact ih _
          · exact .inr (by simp)
          · exact .inr rfl

/-- A walk for a file that arrives was not refused on its way. -/
theorem advance_of_walk_file {limit : Nat} (h : walk t .file limit s names = .ok goal) :
    advance t .target s names = advance t .file s names := by
  refine ((advance_file t s names).resolve_left fun hrefused => ?_).symm
  rcases stage_of_walk h with hdone | ⟨_, _, _, _, -, hthrough, -⟩
  · cases hdone.symm.trans hrefused
  · cases hthrough.symm.trans hrefused

/-- Where a walk for a file that may be made arrives, a walk through all links arrives. -/
theorem walk_of_file {limit : Nat} (h : walk t .file limit s names = .ok goal) :
    walk t .target limit s names = .ok goal := by
  induction limit generalizing s names with
  | zero =>
    rcases stage_of_walk h with hdone | ⟨m, _, _, _, hm, -⟩
    · exact walk_of_done ((advance_of_walk_file h).trans hdone)
    · cases hm
  | succ m ih =>
    rcases stage_of_walk h with hdone | ⟨n, dir, target, rest, hn, hthrough, hrest⟩
    · exact walk_of_done ((advance_of_walk_file h).trans hdone)
    · cases hn
      rw [walk_succ_of_through ((advance_of_walk_file h).trans hthrough)]
      exact ih hrest

/-! ## Walks in another tree -/

/-- Where two trees have the same entry, a name leads to the same. -/
theorem Looks.congr {found : Option Entry} (h : Looks t s name found)
    (hsame : Pairs.get? (s.place ++ [name]) u = Pairs.get? (s.place ++ [name]) t) :
    Looks u s name found :=
  ⟨h.still, h.down, h.live, h.short, hsame.trans h.found⟩

/-- A walk to something present goes through present entries only, so a tree that has these leads
to the same. -/
theorem Leads.mono (h : Leads t aim n s names (.present q e))
    (hkept : ∀ k f, Pairs.get? k t = some f → Pairs.get? k u = some f) :
    Leads u aim n s names (.present q e) := by
  -- The induction is on the walk, and each of its names finds in the other tree what it found here.
  have hlooks {s : Spot} {name : String} {f : Entry} (h : Looks t s name (some f)) :
      Looks u s name (some f) := h.congr ((hkept _ f h.found).trans h.found.symm)
  generalize hgoal : Goal.present q e = goal at h
  induction h with
  | stay =>
    cases hgoal
    exact .stay
  | here hname next ih => exact .here hname (ih hgoal)
  | up next ih => exact .up (ih hgoal)
  | into found next ih => exact .into (hlooks found) (ih hgoal)
  | follow found hway next ih => exact .follow (hlooks found) hway (ih hgoal)
  | stop found hstops =>
    cases hgoal
    exact .stop (hlooks found) hstops
  | missing found => cases hgoal

/-- A walk to nothing ends at a name that it looked up. -/
theorem Leads.get?_of_absent {dir : Place} (h : Leads t aim n s names (.absent dir name)) :
    Pairs.get? (dir ++ [name]) t = none := by
  generalize hgoal : Goal.absent dir name = goal at h
  induction h with
  | stay => cases hgoal
  | here hname next ih => exact ih hgoal
  | up next ih => exact ih hgoal
  | into found next ih => exact ih hgoal
  | follow found hway next ih => exact ih hgoal
  | stop found hstops => cases hgoal
  | missing found =>
    cases hgoal
    exact found.found

/-- What is put where a walk comes to nothing is what a walk comes to from then on, if a walk can
end at it. A walk that then follows no link at its end must have followed none before. -/
theorem Leads.made {aim' : Aim} {dir : Place} (haim : aim' = .entry → aim = .entry)
    (h : Leads t aim n s names (.absent dir name)) (he : e = .directory ∨ e.Stops aim') :
    Leads (t.assign (dir ++ [name]) e) aim' n s names (.present (.live (dir ++ [name])) e) := by
  have hnew := h.get?_of_absent
  -- Every name on the way is that of an entry, and no entry stood where this one is put.
  have hlooks {s : Spot} {m : String} {f : Entry} (h : Looks t s m (some f)) :
      Looks (t.assign (dir ++ [name]) e) s m (some f) := by
    have hother : dir ++ [name] ≠ s.place ++ [m] := by
      intro heq
      rw [heq, h.found] at hnew
      cases hnew
    exact h.congr ((Pairs.get?_assign _ _ _ _).trans (if_neg hother))
  generalize hgoal : Goal.absent dir name = goal at h
  induction h with
  | stay => cases hgoal
  | here hname next ih => exact .here hname (ih hgoal)
  | up next ih => exact .up (ih hgoal)
  | into found next ih => exact .into (hlooks found) (ih hgoal)
  | follow found hway next ih =>
    exact .follow (hlooks found) (hway.imp_right fun hne => mt haim hne) (ih hgoal)
  | stop found hstops => cases hgoal
  | @missing s name found =>
    cases hgoal
    have hput : Looks (t.assign (s.place ++ [name]) e) s name (some e) :=
      ⟨found.still, found.down, found.live, found.short,
        (Pairs.get?_assign _ _ _ _).trans (if_pos rfl)⟩
    rcases he with rfl | hstops
    · exact .into hput .stay
    · exact .stop hput hstops

/-! ## The way of a name -/

/-- The directory of a place under which something was looked up. -/
theorem Looks.spot_eq {found : Option Entry} (h : Looks t s name found) :
    s = .live (s.place ++ [name]).dropLast := by
  rw [List.dropLast_concat, Spot.live, ← h.live]

theorem Looks.unique {found other : Option Entry} (h : Looks t s name found)
    (h' : Looks t s name other) : found = other :=
  h.found.symm.trans h'.found

theorem Leads.of_here (hname : name = "" ∨ name = ".") (h : Leads t aim n s (name :: rest) goal) :
    Leads t aim n s rest goal := by
  cases h with
  | here _ next => exact next
  | up next => exact absurd hname (by decide)
  | into found next => exact absurd hname found.still
  | follow found hway next => exact absurd hname found.still
  | stop found hstops => exact absurd hname found.still
  | missing found => exact absurd hname found.still

theorem Leads.of_up (h : Leads t aim n s (".." :: rest) goal) :
    Leads t aim n s.parent rest goal := by
  cases h with
  | here hname next => exact absurd hname (by decide)
  | up next => exact next
  | into found next => exact absurd rfl found.down
  | follow found hway next => exact absurd rfl found.down
  | stop found hstops => exact absurd rfl found.down
  | missing found => exact absurd rfl found.down

/-- The name of a directory leads into it. -/
theorem Leads.of_into (hlooks : Looks t s name (some .directory))
    (h : Leads t aim n s (name :: rest) goal) :
    Leads t aim n (.live (s.place ++ [name])) rest goal := by
  cases h with
  | here hname next => exact absurd hname hlooks.still
  | up next => exact absurd rfl hlooks.down
  | into found next => exact next
  | follow found hway next => cases hlooks.unique found
  | stop found hstops =>
    cases hlooks.unique found
    exact absurd rfl hstops.1
  | missing found => cases hlooks.unique found

/-- The name of a link on the way leads where the link does. -/
theorem Leads.of_follow {target : String} (hlooks : Looks t s name (some (.link target)))
    (hrest : rest ≠ []) (h : Leads t aim n s (name :: rest) goal) :
    ∃ m, n = m + 1 ∧ Leads t aim m (start s target) (walkNames target ++ rest) goal := by
  cases h with
  | here hname next => exact absurd hname hlooks.still
  | up next => exact absurd rfl hlooks.down
  | into found next => cases hlooks.unique found
  | follow found hway next =>
    cases hlooks.unique found
    exact ⟨_, rfl, next⟩
  | stop found hstops => exact absurd rfl hrest
  | missing found => exact absurd rfl hrest

/-- Nothing is found below what is no directory and no link. -/
theorem Leads.of_stop (hlooks : Looks t s name (some e)) (hstops : e.Stops .target)
    (h : Leads t aim n s (name :: rest) goal) : rest = [] := by
  cases h with
  | here hname next => exact absurd hname hlooks.still
  | up next => exact absurd rfl hlooks.down
  | into found next =>
    cases hlooks.unique found
    exact absurd rfl hstops.1
  | follow found hway next =>
    cases hlooks.unique found
    cases hstops.2 ⟨_, rfl⟩
  | stop found hstops => rfl
  | missing found => rfl

/-- What ends at something other than a directory goes no further, however many links it may
follow. -/
theorem Leads.ends_there {m : Nat} {g : Goal} (h : Leads t .target n s names (.present q e))
    (he : e ≠ .directory) (hrest : rest ≠ []) : ¬Leads t aim m s (names ++ rest) g := by
  -- Both walks take the same way, since the second one ends where the first one does or later.
  generalize hgoal : Goal.present q e = goal at h
  induction h generalizing m with
  | stay =>
    cases hgoal
    exact absurd rfl he
  | here hname next ih => exact fun hfurther => ih hgoal (hfurther.of_here hname)
  | up next ih => exact fun hfurther => ih hgoal hfurther.of_up
  | into found next ih => exact fun hfurther => ih hgoal (hfurther.of_into found)
  | @follow n s name target between goal found hway next ih =>
    intro hfurther
    obtain ⟨m, -, hnext⟩ := hfurther.of_follow found (by simp [hrest])
    have hjoined : Leads t aim m (start s target) ((walkNames target ++ between) ++ rest) g := by
      rw [List.append_assoc]
      exact hnext
    exact ih hgoal hjoined
  | stop found hstops => exact fun hfurther => hrest (hfurther.of_stop found hstops)
  | missing found => cases hgoal

/-- All walks along the same names come to the same end. -/
theorem Leads.unique {m : Nat} {goal' : Goal} (h : Leads t aim n s names goal)
    (h' : Leads t aim m s names goal') (haim : aim ≠ .file) : goal = goal' := by
  have hwalk := h.walk_eq haim (max n m) (Nat.le_max_left n m)
  exact Except.ok.inj (hwalk.symm.trans (h'.walk_eq haim (max n m) (Nat.le_max_right n m)))

/-- A walk through all links is the walk for the entry, or that one ends at a link and the walk goes
on where the link leads. -/
theorem Leads.entry_or_link (h : Leads t .target n s names goal) :
    Leads t .entry n s names goal ∨ ∃ m k place target, m ≤ n ∧
      Leads t .entry m s names (.present (.live place) (.link target)) ∧
      Pairs.get? place t = some (.link target) ∧
      Leads t .target k (start (.live place.dropLast) target) (walkNames target) goal := by
  induction h with
  | stay => exact .inl .stay
  | here hname next ih =>
    refine ih.imp (.here hname) ?_
    rintro ⟨m, k, place, target, hm, hentry, hlink, hon⟩
    exact ⟨m, k, place, target, hm, .here hname hentry, hlink, hon⟩
  | up next ih =>
    refine ih.imp .up ?_
    rintro ⟨m, k, place, target, hm, hentry, hlink, hon⟩
    exact ⟨m, k, place, target, hm, .up hentry, hlink, hon⟩
  | into found next ih =>
    refine ih.imp (.into found) ?_
    rintro ⟨m, k, place, target, hm, hentry, hlink, hon⟩
    exact ⟨m, k, place, target, hm, .into found hentry, hlink, hon⟩
  | @follow n s name target rest goal found hway next ih =>
    by_cases hrest : rest = []
    · -- The walk for the entry ends at the link itself.
      subst hrest
      rw [List.append_nil, found.spot_eq] at next
      exact .inr ⟨0, n, s.place ++ [name], target, Nat.zero_le _,
        .stop found ⟨by simp, fun _ => rfl⟩, found.found, next⟩
    · refine ih.imp (.follow found (.inl hrest)) ?_
      rintro ⟨m, k, place, other, hm, hentry, hlink, hon⟩
      exact ⟨m + 1, k, place, other, Nat.succ_le_succ hm, .follow found (.inl hrest) hentry, hlink,
        hon⟩
  | stop found hstops => exact .inl (.stop found ⟨hstops.1, fun _ => rfl⟩)
  | missing found => exact .inl (.missing found)

/-- Where a walk through all links comes to something, the walk for the entry does too. -/
theorem Leads.entry (h : Leads t .target n s names (.present q e)) :
    ∃ m q' f, m ≤ n ∧ Leads t .entry m s names (.present q' f) := by
  rcases h.entry_or_link with hentry | ⟨m, k, place, target, hm, hentry, -, -⟩
  · exact ⟨n, q, e, Nat.le_refl n, hentry⟩
  · exact ⟨m, .live place, .link target, hm, hentry⟩

/-- What a walk ends at, if it is no directory, stands in a place where a walk can end. -/
theorem Leads.get?_of_present (h : Leads t aim n s names (.present q e)) (he : e ≠ .directory) :
    ∃ place, q = .live place ∧ Pairs.get? place t = some e ∧ e.Stops aim := by
  generalize hgoal : Goal.present q e = goal at h
  induction h with
  | stay =>
    cases hgoal
    exact absurd rfl he
  | here hname next ih => exact ih hgoal
  | up next ih => exact ih hgoal
  | into found next ih => exact ih hgoal
  | follow found hway next ih => exact ih hgoal
  | stop found hstops =>
    cases hgoal
    exact ⟨_, rfl, found.found, hstops⟩
  | missing found => cases hgoal

/-! ## A file in the place where a walk ends -/

/-- A place holds something other than a directory; if that is a link, the link leads to something
other than a directory. -/
structure Holds (t : Tree) (place : Place) : Prop where
  found : ∃ e, Pairs.get? place t = some e ∧ e ≠ .directory
  resolves : ∀ target, Pairs.get? place t = some (.link target) → ∃ n q e, e ≠ .directory ∧
    Leads t .target n (start (.live place.dropLast) target) (walkNames target) (.present q e)

/-- A walk through all links to something other than a directory comes by a place that holds it, and
the walk for the entry at its end ends there. -/
theorem Leads.holds (h : Leads t .target n s names (.present q e)) (he : e ≠ .directory) :
    ∃ m place f, m ≤ n ∧ Holds t place ∧
      Leads t .entry m s names (.present (.live place) f) ∧ f ≠ .directory := by
  rcases h.entry_or_link with hentry | ⟨m, k, place, target, hm, hentry, hlink, hon⟩
  · obtain ⟨place, rfl, hfound, hstops⟩ := h.get?_of_present he
    refine ⟨n, place, e, Nat.le_refl n, ⟨⟨e, hfound, he⟩, fun target htarget => ?_⟩, hentry, he⟩
    -- No walk through all links ends at a link.
    cases hfound.symm.trans htarget
    cases hstops.2 ⟨target, rfl⟩
  · refine ⟨m, place, .link target, hm, ⟨⟨_, hlink, by simp⟩, fun other hother => ?_⟩, hentry,
      by simp⟩
    cases hlink.symm.trans hother
    exact ⟨k, q, e, he, hon⟩

/-- A held place is not that of a directory on the way. -/
theorem Holds.ne_of_directory (hplace : Holds t place) (found : Looks t s name (some .directory)) :
    s.place ++ [name] ≠ place := by
  rintro rfl
  obtain ⟨f, hf, hfile⟩ := hplace.found
  cases found.found.symm.trans hf
  exact hfile rfl

/-- A held place is not that of a link on the way: what a link there leads to is no directory, so no
walk goes on behind it. -/
theorem Holds.ne_of_link {target : String} (hplace : Holds t place)
    (found : Looks t s name (some (.link target))) (hrest : rest ≠ [])
    (next : Leads t aim n (start s target) (walkNames target ++ rest) goal) :
    s.place ++ [name] ≠ place := by
  rintro rfl
  obtain ⟨m, q, f, hf, hresolved⟩ := hplace.resolves target found.found
  rw [← found.spot_eq] at hresolved
  exact hresolved.ends_there hf hrest next

/-- A held place is not that of a link through which a walk comes to a directory. -/
theorem Holds.ne_of_link_to_directory {target : String} (hplace : Holds t place)
    (found : Looks t s name (some (.link target)))
    (next : Leads t .target n (start s target) (walkNames target ++ rest)
      (.present q .directory)) : s.place ++ [name] ≠ place := by
  by_cases hrest : rest = []
  · rintro rfl
    obtain ⟨m, q', f, hf, hresolved⟩ := hplace.resolves target found.found
    rw [← found.spot_eq] at hresolved
    rw [hrest, List.append_nil] at next
    cases next.unique hresolved (by decide)
    exact hf rfl
  · exact hplace.ne_of_link found hrest next

/-- A file takes a held place, and nothing else changes. -/
structure Takes (t u : Tree) (place : Place) (content : Text.Octets) : Prop where
  held : Holds t place
  new : Pairs.get? place u = some (.file content)
  rest : ∀ k, k ≠ place → Pairs.get? k u = Pairs.get? k t

/-- Once a file takes the place where the walk for an entry ends, it is what every walk along the
same names comes to. -/
theorem Leads.replaced {content : Text.Octets} (htakes : Takes t u place content)
    (h : Leads t .entry n s names (.present (.live place) e)) (he : e ≠ .directory) (aim : Aim) :
    Leads u aim n s names (.present (.live place) (.file content)) := by
  generalize hgoal : Goal.present (.live place) e = goal at h
  induction h with
  | stay =>
    cases hgoal
    exact absurd rfl he
  | here hname next ih => exact .here hname (ih hgoal)
  | up next ih => exact .up (ih hgoal)
  | into found next ih =>
    exact .into (found.congr (htakes.rest _ (htakes.held.ne_of_directory found))) (ih hgoal)
  | follow found hway next ih =>
    have hrest := hway.resolve_right (not_not_intro rfl)
    have hk := htakes.held.ne_of_link found hrest next
    exact .follow (found.congr (htakes.rest _ hk)) (.inl hrest) (ih hgoal)
  | stop found hstops =>
    cases hgoal
    exact .stop ⟨found.still, found.down, found.live, found.short, htakes.new⟩ ⟨by simp, by simp⟩
  | missing found => cases hgoal

/-- A file that takes a held place is on no walk for an entry, but at its end: so each of these
comes to something or to nothing as before. -/
theorem Leads.alike {content : Text.Octets} (htakes : Takes t u place content)
    (h : Leads t .entry n s names goal) :
    ∃ goal', goal.Alike goal' ∧ Leads u .entry n s names goal' := by
  induction h with
  | stay => exact ⟨_, .present, .stay⟩
  | here hname next ih =>
    obtain ⟨goal', halike, hleads⟩ := ih
    exact ⟨goal', halike, .here hname hleads⟩
  | up next ih =>
    obtain ⟨goal', halike, hleads⟩ := ih
    exact ⟨goal', halike, .up hleads⟩
  | into found next ih =>
    obtain ⟨goal', halike, hleads⟩ := ih
    have hk := htakes.held.ne_of_directory found
    exact ⟨goal', halike, .into (found.congr (htakes.rest _ hk)) hleads⟩
  | follow found hway next ih =>
    obtain ⟨goal', halike, hleads⟩ := ih
    have hk := htakes.held.ne_of_link found (hway.resolve_right (not_not_intro rfl)) next
    exact ⟨goal', halike, .follow (found.congr (htakes.rest _ hk)) hway hleads⟩
  | @stop s name e found hstops =>
    by_cases hk : s.place ++ [name] = place
    · -- Here the walk ends at the file itself.
      have hfile : Looks u s name (some (.file content)) :=
        ⟨found.still, found.down, found.live, found.short, hk ▸ htakes.new⟩
      exact ⟨_, .present, .stop hfile ⟨by simp, by simp⟩⟩
    · exact ⟨_, .present, .stop (found.congr (htakes.rest _ hk)) hstops⟩
  | @missing s name found =>
    have hk : s.place ++ [name] ≠ place := by
      rintro rfl
      obtain ⟨f, hf, -⟩ := htakes.held.found
      cases found.found.symm.trans hf
    exact ⟨_, .absent, .missing (found.congr (htakes.rest _ hk))⟩

/-- A file that takes a held place is on no walk through all links to a directory. -/
theorem Leads.kept {content : Text.Octets} (htakes : Takes t u place content)
    (h : Leads t .target n s names (.present q .directory)) :
    Leads u .target n s names (.present q .directory) := by
  generalize hgoal : Goal.present q .directory = goal at h
  induction h with
  | stay =>
    cases hgoal
    exact .stay
  | here hname next ih => exact .here hname (ih hgoal)
  | up next ih => exact .up (ih hgoal)
  | into found next ih =>
    have hk := htakes.held.ne_of_directory found
    exact .into (found.congr (htakes.rest _ hk)) (ih hgoal)
  | follow found hway next ih =>
    subst hgoal
    have hk := htakes.held.ne_of_link_to_directory found next
    exact .follow (found.congr (htakes.rest _ hk)) hway (ih rfl)
  | stop found hstops =>
    cases hgoal
    exact absurd rfl hstops.1
  | missing found => cases hgoal

/-- A walk in a tree with a new file comes to that file, or it is a walk in the tree before. -/
theorem Leads.of_assign {content : Text.Octets}
    (h : Leads (t.assign place (.file content)) .target n s names (.present q e)) :
    Leads t .target n s names (.present q e) ∨ e = .file content := by
  -- Only the last name of a walk can be that of a file.
  have hold {s : Spot} {name : String} {f : Entry}
      (h : Looks (t.assign place (.file content)) s name (some f)) :
      Looks t s name (some f) ∨ f = .file content := by
    have hget := h.found
    rw [Pairs.get?_assign] at hget
    split at hget
    · exact .inr (Option.some.inj hget).symm
    · exact .inl ⟨h.still, h.down, h.live, h.short, hget⟩
  generalize hgoal : Goal.present q e = goal at h
  induction h with
  | stay =>
    cases hgoal
    exact .inl .stay
  | here hname next ih => exact (ih hgoal).imp_left (.here hname)
  | up next ih => exact (ih hgoal).imp_left .up
  | into found next ih =>
    have hfound := (hold found).resolve_right (by simp)
    exact (ih hgoal).imp_left (.into hfound)
  | follow found hway next ih =>
    have hfound := (hold found).resolve_right (by simp)
    exact (ih hgoal).imp_left (.follow hfound hway)
  | stop found hstops =>
    cases hgoal
    exact (hold found).imp_left fun hfound => .stop hfound hstops
  | missing found => cases hgoal

end Tree

end SorobanDeploy
