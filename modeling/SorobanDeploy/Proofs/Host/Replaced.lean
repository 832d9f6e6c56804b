import SorobanDeploy.Proofs.Host.Access
import SorobanDeploy.Proofs.Host.Walk

/-!
# A replaced file is read back

`replace` writes beside a file and then moves what it wrote to the place where the path ends. If the
path led to a file before, it leads to the new one afterwards (`replace_ok`), although the place may
have held a link, which is replaced and not followed. This does not go without saying: a path that
passes through the link it ends at would lead nowhere afterwards, and such a path leads to no file
before (`Leads.ends_there`).

Whether a file can be replaced does not depend on what is written (`result_replace_eq_ok_iff`), and
what was replaced once can be replaced again (`Replaceable.of_takes`).
-/

namespace SorobanDeploy

open Act

variable {σ : Type}

namespace Tree

variable {t u : Tree} {cwd q : Spot} {path : String} {aim : Aim} {goal : Goal} {e : Entry}
  {place : Place}

/-- Whether the system takes a text for a path. -/
def Accepts (path : String) : Prop := ¬path.isEmpty = true ∧ ¬pathLimit ≤ path.utf8ByteSize

/-- A path leads to an end exactly if a derivation does from where the path starts. -/
theorem find_eq_ok_iff (haim : aim ≠ .file) :
    t.find cwd aim path = .ok goal ↔
      Accepts path ∧ ∃ n ≤ linkLimit, Leads t aim n (start cwd path) (walkNames path) goal := by
  unfold find Accepts
  by_cases hempty : path.isEmpty = true
  · simp [hempty]
  by_cases hlong : pathLimit ≤ path.utf8ByteSize
  · simp [hempty, hlong]
  rw [if_neg hempty, if_neg hlong, walk_eq_ok_iff haim]
  simp [hempty, hlong]

theorem status_eq_ok_iff :
    t.status cwd path = .ok (q, e) ↔ t.find cwd .target path = .ok (.present q e) := by
  unfold status
  cases t.find cwd .target path with
  | error r => simp
  | ok goal => cases goal <;> simp

/-- What a path leads to for a file that may be made is what it leads to through all links. -/
theorem find_of_file (h : t.find cwd .file path = .ok goal) :
    t.find cwd .target path = .ok goal := by
  unfold find at h ⊢
  split at h
  · cases h
  · split at h
    · cases h
    · rename_i hempty hlong
      rw [if_neg hempty, if_neg hlong]
      exact walk_of_file h

/-- Where a path ends at nothing, nothing stands. -/
theorem get?_of_find (haim : aim ≠ .file) {dir : Place} {name : String}
    (h : t.find cwd aim path = .ok (.absent dir name)) : Pairs.get? (dir ++ [name]) t = none := by
  obtain ⟨-, n, -, hleads⟩ := (find_eq_ok_iff haim).1 h
  exact hleads.get?_of_absent

/-- A new file takes a place where nothing stood. -/
theorem get?_newPlace (h : t.newPlace cwd path = .ok place) : Pairs.get? place t = none := by
  unfold newPlace at h
  cases hfind : t.find cwd .entry path with
  | error r => rw [hfind] at h; cases h
  | ok goal =>
    rw [hfind] at h
    cases goal with
    | present s f => cases h
    | absent dir name =>
      cases h
      exact get?_of_find (by decide) hfind

/-- An entry that is made where nothing stood and then moved is in one place only. -/
theorem get?_moved (place : Place) (e : Entry) {source : Place}
    (hnew : Pairs.get? source t = none) (k : Place) :
    Pairs.get? k (Pairs.assign place e (Pairs.erase source (Pairs.assign source e t))) =
      if place = k then some e else Pairs.get? k t := by
  rw [Pairs.get?_assign, Pairs.get?_erase, Pairs.get?_assign]
  by_cases hk : source = k
  · rw [if_pos hk, ← hk, hnew]
  · rw [if_neg hk, if_neg hk]

/-- Where a path leads to something other than a directory, there is one place that a file moved to
the path takes, whatever is made elsewhere in between: that of the entry at the end of the path.
Once a file is in that place, it is the entry, and the path leads to it. -/
theorem exists_movePlace (h : t.status cwd path = .ok (q, e)) (he : e ≠ .directory) :
    ∃ place f, t.find cwd .entry path = .ok (.present (.live place) f) ∧ Holds t place ∧
      (∀ k g, Pairs.get? k t = none → Tree.movePlace (t.assign k g) cwd path = .ok place) ∧
      ∀ (u : Tree) content, Takes t u place content → ∀ aim, aim ≠ .file →
        u.find cwd aim path = .ok (.present (.live place) (.file content)) := by
  obtain ⟨haccepts, n, hn, hleads⟩ := (find_eq_ok_iff (by decide)).1 (status_eq_ok_iff.1 h)
  obtain ⟨m, place, f, hm, hplace, hentry, hf⟩ := hleads.holds he
  have hlimit : m ≤ linkLimit := Nat.le_trans hm hn
  have hends := (find_eq_ok_iff (by decide)).2 ⟨haccepts, m, hlimit, hentry⟩
  refine ⟨place, f, hends, hplace, fun k g hk => ?_, fun u content htakes aim haim => ?_⟩
  · have hkept : ∀ k' f', Pairs.get? k' t = some f' →
        Pairs.get? k' (t.assign k g) = some f' := by
      intro k' f' hf'
      rw [Pairs.get?_assign, if_neg, hf']
      rintro rfl
      cases hk.symm.trans hf'
    have hfind : find (t.assign k g) cwd .entry path =
        .ok (.present (.live place) f) :=
      (find_eq_ok_iff (by decide)).2 ⟨haccepts, m, hlimit, hentry.mono hkept⟩
    unfold movePlace
    rw [hfind]
    cases f <;> first | rfl | exact absurd rfl hf
  · exact (find_eq_ok_iff haim).2 ⟨haccepts, m, hlimit, hentry.replaced htakes hf aim⟩

/-- No walk is refused because something is at its end. -/
theorem advance_ne_exists (t : Tree) (aim : Aim) (s : Spot) (names : List String) :
    advance t aim s names ≠ .refused .exists := by
  fun_induction advance t aim s names <;> simp_all

theorem find_ne_exists : t.find cwd aim path ≠ .error .exists := by
  have hwalk (limit : Nat) (s : Spot) (names : List String) :
      walk t aim limit s names ≠ .error .exists := by
    fun_induction walk t aim limit s names with
    | case1 limit s names goal hstage => simp
    | case2 limit s names r hstage =>
      have hne := advance_ne_exists t aim s names
      rw [hstage] at hne
      simpa using hne
    | case3 => simp
    | case4 s names dir target rest n hstage ih => exact ih
  unfold find
  split
  · simp
  · split
    · simp
    · exact hwalk _ _ _

/-- Once a file has taken a held place, what was free to take a new file is free still, and what was
not is not. -/
theorem Takes.newPlace {content : Text.Octets} (htakes : Takes t u place content) (cwd : Spot)
    (path : String) :
    (t.newPlace cwd path = .error .exists → u.newPlace cwd path = .error .exists) ∧
      ∀ k, t.newPlace cwd path = .ok k → u.newPlace cwd path = .ok k := by
  cases hfind : t.find cwd .entry path with
  | error r =>
    have hr : r ≠ .exists := fun heq => find_ne_exists (heq ▸ hfind)
    unfold Tree.newPlace
    simp [hfind, hr]
  | ok goal =>
    obtain ⟨haccepts, n, hn, hleads⟩ := (find_eq_ok_iff (by decide)).1 hfind
    obtain ⟨goal', halike, hleads'⟩ := hleads.alike htakes
    have hfind' : u.find cwd .entry path = .ok goal' :=
      (find_eq_ok_iff (by decide)).2 ⟨haccepts, n, hn, hleads'⟩
    unfold Tree.newPlace
    rw [hfind, hfind']
    cases halike <;> simp

/-- No directory is made where something is. -/
theorem makeDirectory_of_status (h : t.status cwd path = .ok (q, e)) :
    t.makeDirectory cwd path = .error .exists := by
  obtain ⟨haccepts, n, hn, hleads⟩ := (find_eq_ok_iff (by decide)).1 (status_eq_ok_iff.1 h)
  obtain ⟨m, q', f, hm, hentry⟩ := hleads.entry
  have hfind : t.find cwd .entry path = .ok (.present q' f) :=
    (find_eq_ok_iff (by decide)).2 ⟨haccepts, m, Nat.le_trans hm hn, hentry⟩
  unfold makeDirectory
  rw [hfind]

/-- In a tree with a new file a path leads to that file, or where it led before. -/
theorem status_of_assign {content : Text.Octets}
    (h : status (t.assign place (.file content)) cwd path = .ok (q, e)) :
    t.status cwd path = .ok (q, e) ∨ e = .file content := by
  obtain ⟨haccepts, n, hn, hleads⟩ := (find_eq_ok_iff (by decide)).1 (status_eq_ok_iff.1 h)
  refine hleads.of_assign.imp_left fun hold => ?_
  exact status_eq_ok_iff.2 ((find_eq_ok_iff (by decide)).2 ⟨haccepts, n, hn, hold⟩)

end Tree

namespace Files

/-- Where a directory is already, the session stays as it is. -/
theorem after_ensureDirectories {root : PathRoot} {names : List String} {s : Session σ} {q : Spot}
    (hnul : hasNul (Path.mk root names).text = false)
    (h : s.host.tree.status s.host.cwd (Path.mk root names).text = .ok (q, .directory)) :
    (ensureDirectories root names).after s = s := by
  have hmake : makeDirectory (Path.mk root names).text s =
      .error (refusalAt .exists (Path.mk root names).text) s := by
    unfold makeDirectory
    rw [bind_eq_error_iff]
    exact .inl (request_of_refused hnul (Tree.makeDirectory_of_status h))
  have haccept : (acceptPresent (Path.mk root names).text
      (refusalAt .exists (Path.mk root names).text) : Act σ Unit).Reads := by
    unfold acceptPresent
    split
    · refine .bind isWay_reads (isDirectory_reads _) fun there => ?_
      split
      · exact .pure isWay_reads _
      · exact .fail isWay_reads _
    · exact .fail isWay_reads _
  -- What is there already is not taken for something missing.
  have hkind : (refusalAt .exists (Path.mk root names).text).kind ≠
      .ofErrorNumber Refusal.noEntry.number := by
    change FailureClass.ofErrorNumber 17 ≠ FailureClass.ofErrorNumber 2
    decide
  have hsame := haccept s
  unfold after at hsame
  unfold ensureDirectories after recover
  simp only [hmake, if_neg hkind]
  exact hsame

/-- A new file beside another one takes a place where nothing stood. -/
theorem get?_freePlace {h : Host σ} {dir : Path} {name : String} {place : Place}
    (stamps : List String) (hfree : freePlace h dir name stamps = .ok place) :
    Pairs.get? place h.tree = none := by
  induction stamps with
  | nil => cases hfree
  | cons stamp rest ih =>
    unfold freePlace at hfree
    split at hfree
    · exact ih hfree
    · exact Tree.get?_newPlace hfree

/-- A move succeeds exactly if the system renames, the path ends where a file can be and something
is at the place. It takes that to where the path ends. -/
theorem move_eq_ok_iff {source : Place} {shown path : String} {s t : Session σ} :
    move source shown path s = .ok () t ↔ s.host.renameFault = none ∧
      ∃ target entry, s.host.tree.movePlace s.host.cwd path = .ok target ∧
        Pairs.get? source s.host.tree = some entry ∧
        setTree ((s.host.tree.erase source).assign target entry) s = .ok () t := by
  unfold move
  rw [host_bind_apply]
  cases s.host.renameFault with
  | some e => simp
  | none =>
    cases s.host.tree.movePlace s.host.cwd path with
    | error r => simp
    | ok target =>
      cases Pairs.get? source s.host.tree with
      | none => simp
      | some entry =>
        constructor
        · intro h
          exact ⟨rfl, target, entry, rfl, rfl, h⟩
        · rintro ⟨-, _, _, htarget, hentry, h⟩
          cases htarget
          cases hentry
          exact h

/-- What succeeds needs nothing to be undone. -/
theorem onFailure_eq_ok_iff {body : Act σ Unit} {undo : Act σ Unit} {s t : Session σ} :
    onFailure body undo s = .ok () t ↔ body s = .ok () t := by
  unfold onFailure
  cases body s with
  | ok a u => rfl
  | error e u => cases hundo : undo u <;> simp [hundo]

/-! ## Replacing -/

/-- The place of a new file beside a path, and the path that is told of it. -/
def beside (path : Path) : Act σ (Place × String) := do
  let dir := (← absolute path.parent).normalized
  let shown := besidePath dir path.name maskedStamp
  let place ← request shown fun h => freePlace h dir path.name stamps
  pure (place, shown)

/-- A file is replaced by making one beside it and moving that. -/
theorem replace_eq (path : Path) (content : Text.Octets) : (replace path content : Act σ Unit) =
    beside path >>= fun new => host >>= fun h =>
      setTree (h.tree.assign new.1 (.file content)) >>= fun _ =>
        onFailure (move new.1 new.2 path.text) (removeAt new.1) := by
  simp only [replace, beside, bind_assoc, pure_bind]

theorem beside_reads (path : Path) : (beside path : Act σ (Place × String)).Reads :=
  .bind isWay_reads (absolute_reads _) fun _ =>
    .bind isWay_reads (request_reads _ _) fun _ => .pure isWay_reads _

/-- A new file is made at a free place. -/
theorem get?_of_beside {path : Path} {s : Session σ} {new : Place × String}
    (h : (beside path).result s = .ok new) : Pairs.get? new.1 s.host.tree = none := by
  unfold beside at h
  obtain ⟨dir, -, h⟩ := result_bind_eq_ok h
  rw [absolute_reads _ s] at h
  obtain ⟨source, hsource, h⟩ := result_bind_eq_ok h
  cases h
  obtain ⟨-, hfree⟩ := result_request_eq_ok_iff.1 hsource
  exact get?_freePlace stamps hfree

/-- What replacing a file takes, whatever is written: the system renames, and a new file can be made
beside the path. -/
structure Replaceable (path : Path) (s : Session σ) : Prop where
  renames : s.host.renameFault = none
  beside : ∃ new, (beside path).result s = .ok new

/-- What is written beside a path is moved to the place where the path ends, if the system
renames. -/
theorem replace_of_beside {path : Path} {s t : Session σ} {content : Text.Octets}
    {new : Place × String} {place : Place} (hbeside : (beside path).result s = .ok new)
    (hmoves : Tree.movePlace (s.host.tree.assign new.1 (.file content)) s.host.cwd path.text =
      .ok place) :
    replace path content s = .ok () t ↔ s.host.renameFault = none ∧
      setTree (Pairs.assign place (.file content)
          (Pairs.erase new.1 (s.host.tree.assign new.1 (.file content))))
        ((setTree (s.host.tree.assign new.1 (.file content)) : Act σ Unit).after s) =
          .ok () t := by
  have hfound : beside path s = .ok new s := (eq_ok_iff _ _ _ _).2 ⟨hbeside, beside_reads _ s⟩
  have hwritten := Pairs.get?_assign new.1 new.1 (Entry.file content) s.host.tree
  rw [if_pos rfl] at hwritten
  rw [replace_eq, bind_apply, hfound]
  change onFailure (move new.1 new.2 path.text) (removeAt new.1)
    ((setTree (s.host.tree.assign new.1 (.file content)) : Act σ Unit).after s) = _ ↔ _
  rw [onFailure_eq_ok_iff, move_eq_ok_iff]
  constructor
  · rintro ⟨hrenames, target, entry, htarget, hentry, hset⟩
    cases hmoves.symm.trans htarget
    cases hwritten.symm.trans hentry
    exact ⟨hrenames, hset⟩
  · rintro ⟨hrenames, hset⟩
    exact ⟨hrenames, place, _, hmoves, hwritten, hset⟩

/-- A file at the end of a path is replaced if it can be, whatever is written. -/
theorem result_replace_eq_ok_iff {path : Path} {s : Session σ} {q : Spot} {e : Entry}
    (hbefore : s.host.tree.status s.host.cwd path.text = .ok (q, e)) (he : e ≠ .directory)
    (content : Text.Octets) :
    (replace path content).result s = .ok () ↔ Replaceable path s := by
  obtain ⟨place, -, -, -, hmoves, -⟩ := Tree.exists_movePlace hbefore he
  constructor
  · intro h
    have hends := (eq_ok_iff _ _ _ _).2 ⟨h, rfl⟩
    rw [replace_eq] at h
    obtain ⟨new, hnew, -⟩ := result_bind_eq_ok h
    have hmove := hmoves new.1 (.file content) (get?_of_beside hnew)
    exact ⟨((replace_of_beside hnew hmove).1 hends).1, new, hnew⟩
  · rintro ⟨hrenames, new, hnew⟩
    have hmove := hmoves new.1 (.file content) (get?_of_beside hnew)
    exact result_of_ok ((replace_of_beside hnew hmove).2 ⟨hrenames, rfl⟩)

/-- What was written takes the place of the entry at the end of the path, and the path leads there.
Nothing else changes. -/
theorem replace_ok {path : Path} {content : Text.Octets} {s : Session σ} {q : Spot} {e : Entry}
    (h : (replace path content).result s = .ok ())
    (hbefore : s.host.tree.status s.host.cwd path.text = .ok (q, e)) (he : e ≠ .directory) :
    ∃ place f tree, ((replace path content).after s).host = { s.host with tree := tree } ∧
      s.host.tree.find s.host.cwd .entry path.text = .ok (.present (.live place) f) ∧
      s.host.tree.Takes tree place content ∧ ∀ aim, aim ≠ .file →
        tree.find s.host.cwd aim path.text = .ok (.present (.live place) (.file content)) := by
  obtain ⟨place, f, hentry, hplace, hmoves, hleads⟩ := Tree.exists_movePlace hbefore he
  obtain ⟨-, new, hnew⟩ := (result_replace_eq_ok_iff hbefore he content).1 h
  have hfree := get?_of_beside hnew
  have hends := (replace_of_beside hnew (hmoves new.1 (.file content) hfree)).1
    ((eq_ok_iff _ _ _ _).2 ⟨h, rfl⟩)
  have hmoved := Tree.get?_moved place (.file content) hfree
  have htakes : s.host.tree.Takes _ place content :=
    ⟨hplace, (hmoved place).trans (if_pos rfl), fun k hk => (hmoved k).trans (if_neg hk.symm)⟩
  refine ⟨place, f, _, ?_, hentry, htakes, hleads _ content htakes⟩
  rw [← after_of_ok hends.2]
  rfl

/-! ## Replacing again -/

theorem result_absolute_congr {p : Path} {s t : Session σ} (h : s.host.cwd = t.host.cwd) :
    (absolute p).result s = (absolute p).result t := by
  have hdirectory : (workingDirectory : Act σ Path).result s = workingDirectory.result t := by
    unfold workingDirectory
    rw [result_host_bind, result_host_bind, h]
    cases t.host.cwd.path? <;> rfl
  unfold absolute
  split
  · rfl
  · rw [result_bind, result_bind, hdirectory]
    split <;> rfl

/-- Where a new file was made beside a path, one can be made once the file at the path is
replaced. -/
theorem freePlace_of_takes {g h : Host σ} {dir : Path} {name : String} {place k : Place}
    {content : Text.Octets} (hcwd : g.cwd = h.cwd) (htakes : h.tree.Takes g.tree place content)
    (stamps : List String) (hfree : freePlace h dir name stamps = .ok k) :
    freePlace g dir name stamps = .ok k := by
  induction stamps with
  | nil => cases hfree
  | cons stamp rest ih =>
    obtain ⟨hexists, hnew⟩ := htakes.newPlace h.cwd (besidePath dir name stamp)
    unfold freePlace at hfree ⊢
    rw [hcwd]
    split at hfree
    · rename_i htaken
      rw [hexists htaken]
      exact ih hfree
    · rw [hnew k hfree]

/-- What can be replaced once can be replaced again. -/
theorem Replaceable.of_takes {path : Path} {s t : Session σ} {tree : Tree} {place : Place}
    {content : Text.Octets} (h : Replaceable path s) (hhost : t.host = { s.host with tree := tree })
    (htakes : s.host.tree.Takes tree place content) : Replaceable path t := by
  obtain ⟨hrenames, new, hnew⟩ := h
  refine ⟨by rw [hhost]; exact hrenames, new, ?_⟩
  unfold Files.beside at hnew ⊢
  obtain ⟨dir, hdir, hnew⟩ := result_bind_eq_ok hnew
  rw [absolute_reads _ s] at hnew
  obtain ⟨source, hsource, hnew⟩ := result_bind_eq_ok hnew
  have hcwd : t.host.cwd = s.host.cwd := by rw [hhost]
  have htree : t.host.tree = tree := by rw [hhost]
  have hdir' : (absolute path.parent).result t = .ok dir := (result_absolute_congr hcwd).trans hdir
  rw [result_bind_of_ok _ hdir', absolute_reads _ t]
  obtain ⟨hnul, hfree⟩ := result_request_eq_ok_iff.1 hsource
  have hfree' : freePlace t.host dir.normalized path.name stamps = .ok source :=
    freePlace_of_takes hcwd (htree.symm ▸ htakes) stamps hfree
  have hsource' : (request (besidePath dir.normalized path.name maskedStamp) fun h =>
      freePlace h dir.normalized path.name stamps).result t = .ok source := by
    rw [result_request_eq_ok_iff]
    exact ⟨hnul, hfree'⟩
  rw [result_bind_of_ok _ hsource']
  exact hnew

end Files

end SorobanDeploy
