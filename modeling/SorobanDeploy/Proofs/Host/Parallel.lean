import SorobanDeploy.Proofs.Host.Access
import SorobanDeploy.Proofs.Session.Parallel

/-!
# Requests for files, side by side

On hosts with the same files, requests for paths from the root do the same, wherever the hosts
stand; requests for other paths do the same if the hosts stand in the same directory (`SeesFrom`).
What else differs between the hosts is not seen by them. On hosts with the same files and the same
working directory, all requests for files do the same (`SeesFiles`).
-/

namespace SorobanDeploy

open Act

variable {σ α : Type}

/-! ## What a request sees of a host -/

/-- Hosts that match have the same files and rename alike, and they still match when the files are
changed in both. They stand in the same directory if that is where paths of a root begin. -/
structure SeesFrom (root : PathRoot) (R : Host σ → Host σ → Prop) : Prop where
  tree : ∀ {h k}, R h k → h.tree = k.tree
  cwd : ∀ {h k}, R h k → root = .relative → h.cwd = k.cwd
  renameFault : ∀ {h k}, R h k → h.renameFault = k.renameFault
  setTree : ∀ h k t, R h k → R { h with tree := t } { k with tree := t }

/-- Hosts that match have the same files, stand in the same directory and rename alike, and they
still match when the files or the directory are changed in both. -/
structure SeesFiles (R : Host σ → Host σ → Prop) : Prop where
  tree : ∀ {h k}, R h k → h.tree = k.tree
  cwd : ∀ {h k}, R h k → h.cwd = k.cwd
  renameFault : ∀ {h k}, R h k → h.renameFault = k.renameFault
  setTree : ∀ h k t, R h k → R { h with tree := t } { k with tree := t }
  setCwd : ∀ h k dir, R h k → R { h with cwd := dir } { k with cwd := dir }

/-- An action that does the same wherever the hosts match. -/
abbrev Act.Steady (R : Host σ → Host σ → Prop) (x : Act σ α) : Prop := Parallel R x x

/-- A text that begins with a slash is a path from the root. -/
theorem Path.root_ofText {s : String} (h : s.toList.head? = some '/') :
    (Path.ofText s).root ≠ .relative := by
  unfold Path.ofText
  dsimp only
  cases hs : s.toList with
  | nil => rw [hs] at h; cases h
  | cons c cs =>
    rw [hs, List.head?_cons] at h
    cases h
    unfold rootOf
    split <;> simp_all

variable {R : Host σ → Host σ → Prop} {root : PathRoot}

/-- Hosts that stand in the same directory see the same, wherever a path begins. -/
theorem SeesFiles.from (hR : SeesFiles R) (root : PathRoot) : SeesFrom root R where
  tree := hR.tree
  cwd hk _ := hR.cwd hk
  renameFault := hR.renameFault
  setTree := hR.setTree

namespace SeesFrom

/-- What is seen along paths that begin in the working directory is seen along all paths. -/
theorem of_relative (hR : SeesFrom .relative R) (root : PathRoot) : SeesFrom root R where
  tree := hR.tree
  cwd hk _ := hR.cwd hk rfl
  renameFault := hR.renameFault
  setTree := hR.setTree

variable {path : Path} {h k : Host σ}

/-- On hosts that match, a path leads to the same. -/
theorem find (hR : SeesFrom path.root R) (hk : R h k) (t : Tree) (aim : Aim) :
    t.find h.cwd aim path.text = t.find k.cwd aim path.text := by
  by_cases hroot : path.root = .relative
  · rw [hR.cwd hk hroot]
  · exact Tree.find_of_absolute (Path.head?_text hroot) t aim _ _

theorem status (hR : SeesFrom path.root R) (hk : R h k) :
    h.tree.status h.cwd path.text = k.tree.status k.cwd path.text := by
  unfold Tree.status
  rw [hR.tree hk, hR.find hk]

end SeesFrom

namespace Files

theorem request_steady {path : String} {answer : Host σ → Except Refusal α}
    (hanswer : ∀ h k, R h k → answer h = answer k) : (request path answer).Steady R := by
  unfold request
  split
  · exact .fail _
  · refine .host_bind fun h k hk => ?_
    rw [hanswer h k hk]
    split
    · exact .pure _
    · exact .fail _

section Looking

variable {path : Path} (hR : SeesFrom path.root R)
include hR

theorem entry?_steady : ( entry? path.text : Act σ (Option Entry)).Steady R := by
  unfold entry?
  split
  · exact .pure _
  · refine .host_bind fun h k hk => ?_
    rw [hR.status hk]
    split
    · exact .pure _
    · split
      · exact .pure _
      · exact .fail _

theorem exists?_steady : (exists? path.text : Act σ Bool).Steady R :=
  .bind (entry?_steady hR) fun _ => .pure _

theorem isDirectory_steady : (isDirectory path.text : Act σ Bool).Steady R :=
  .bind (entry?_steady hR) fun _ => .pure _

theorem isFile_steady : (isFile path.text : Act σ Bool).Steady R := by
  refine .bind (entry?_steady hR) fun e => ?_
  split <;> exact .pure _

theorem resolvedDirectory?_steady :
    (resolvedDirectory? path.text : Act σ (Option Path)).Steady R := by
  unfold resolvedDirectory?
  split
  · exact .pure _
  · refine .host_bind fun h k hk => ?_
    rw [hR.status hk, hR.tree hk]
    split
    · split
      · exact .pure _
      · exact .fail _
    · exact .pure _
    · split
      · exact .pure _
      · exact .fail _

omit hR in
theorem textOf_steady (octets : Text.Octets) : (textOf octets : Act σ (List Char)).Steady R := by
  unfold textOf
  split
  · exact .pure _
  · exact .fail _

theorem readText_steady : (readText path.text : Act σ (List Char)).Steady R := by
  refine .bind (request_steady fun h k hk => ?_) fun octets => textOf_steady octets
  unfold Tree.contentOf
  rw [hR.status hk]

theorem absolute_steady : (absolute path : Act σ Path).Steady R := by
  unfold absolute
  split
  · exact .pure _
  · rename_i hrelative
    have hroot : path.root = .relative := by simpa [Path.isAbsolute] using hrelative
    refine .bind (.host_bind fun h k hk => ?_) fun dir => .pure _
    rw [hR.cwd hk hroot]
    split
    · exact .pure _
    · exact .fail _

/-- A move does the same wherever the path leads to the same. -/
theorem changeDirectory_steady
    (hcwd : ∀ h k dir, R h k → R { h with cwd := dir } { k with cwd := dir }) :
    (changeDirectory path.text : Act σ Unit).Steady R := by
  refine .bind (request_steady fun h k hk => ?_) fun dir => .setCwd hcwd dir
  rw [hR.status hk]

theorem makeDirectory_steady : (makeDirectory path.text : Act σ Unit).Steady R := by
  refine .bind (request_steady fun h k hk => ?_) fun t => .setTree hR.setTree t
  unfold Tree.makeDirectory
  rw [hR.tree hk, hR.find hk]

theorem acceptPresent_steady (e : Failure) :
    (acceptPresent path.text e : Act σ Unit).Steady R := by
  unfold acceptPresent
  split
  · refine .bind (isDirectory_steady hR) fun found => ?_
    split
    · exact .pure _
    · exact .fail _
  · exact .fail _

theorem ensureDirectory_steady : (ensureDirectory path.text : Act σ Unit).Steady R :=
  .recover (makeDirectory_steady hR) fun e => acceptPresent_steady hR e

theorem touch_steady : (touch path.text : Act σ Unit).Steady R := by
  unfold touch
  split
  · exact .fail _
  · refine .host_bind fun h k hk => ?_
    rw [hR.status hk]
    split
    · exact .pure _
    · refine .bind (request_steady fun h k hk => ?_) fun t => .setTree hR.setTree t
      unfold Tree.touch
      rw [hR.tree hk, hR.find hk]

theorem move_steady (source : Place) (shown : String) :
    (move source shown path.text : Act σ Unit).Steady R := by
  refine .host_bind fun h k hk => ?_
  unfold Tree.movePlace
  rw [hR.tree hk, hR.find hk, hR.renameFault hk]
  split
  · exact .fail _
  · split
    · exact .setTree hR.setTree _
    · exact .fail _
    · exact .fail _

theorem removeAt_steady (place : Place) : (removeAt place : Act σ Unit).Steady R := by
  refine .host_bind fun h k hk => ?_
  rw [hR.tree hk]
  exact .setTree hR.setTree _

end Looking

/-- The directories above are made first, so the names grow fewer. -/
theorem ensureDirectories_steady (hR : SeesFrom root R) (names : List String) :
    (ensureDirectories root names : Act σ Unit).Steady R := by
  have hpath : SeesFrom (Path.mk root names).root R := hR
  unfold ensureDirectories
  refine .recover (makeDirectory_steady hpath) fun e => ?_
  split
  · split
    · exact .fail _
    · refine .bind ?_ fun _ => ensureDirectory_steady hpath
      exact ensureDirectories_steady hR names.dropLast
  · exact acceptPresent_steady hpath e
  termination_by names.length
  decreasing_by
    rename_i h
    have := List.length_pos_iff.mpr h
    simp only [List.length_dropLast]
    omega

/-- The place of a new file is found by the files and the working directory alone. -/
theorem freePlace_eq {dir : Path} (hR : SeesFrom dir.root R) {h k : Host σ} (hk : R h k)
    (name : String) (stamps : List String) :
    freePlace h dir name stamps = freePlace k dir name stamps := by
  induction stamps with
  | nil => rfl
  | cons stamp rest ih =>
    have hbeside : SeesFrom (dir.join ⟨.relative, [besideName name stamp]⟩).root R := hR
    have hfree : h.tree.newPlace h.cwd (besidePath dir name stamp) =
        k.tree.newPlace k.cwd (besidePath dir name stamp) := by
      unfold Tree.newPlace besidePath
      rw [hR.tree hk, hbeside.find hk]
    unfold freePlace
    rw [hfree, ih]

/-- An absolute path has the root of the path that it was made of, unless that one was relative. -/
theorem root_of_absolute {path dir : Path} {s : Session σ}
    (h : (absolute path).result s = .ok dir) : dir.root = path.root ∨ path.root = .relative := by
  unfold absolute at h
  split at h
  · cases h
    exact .inl rfl
  · rename_i hrelative
    exact .inr (by simpa [Path.isAbsolute] using hrelative)

/-- What is seen from a path is seen from the absolute path that is made of it. -/
theorem seesFrom_absolute {path dir : Path} (hR : SeesFrom path.root R) {s : Session σ}
    (h : (Files.absolute path).result s = .ok dir) : SeesFrom dir.root R := by
  rcases root_of_absolute h with hroot | hroot
  · rwa [hroot]
  · rw [hroot] at hR
    exact hR.of_relative _

theorem replace_steady {path : Path} (hR : SeesFrom path.root R) (content : Text.Octets) :
    (replace path content : Act σ Unit).Steady R := by
  have hparent : SeesFrom path.parent.root R := hR
  refine .bind_ok (absolute_steady hparent) fun s dir hdir => ?_
  have hdirectory : SeesFrom dir.root R := seesFrom_absolute hparent hdir
  have hnormalized : SeesFrom dir.normalized.root R := hdirectory
  refine .bind (request_steady fun h k hk => freePlace_eq hnormalized hk _ _) fun place => ?_
  refine .host_bind fun h k hk => ?_
  rw [hR.tree hk]
  refine .bind (.setTree hR.setTree _) fun _ => ?_
  exact .onFailure (move_steady hR _ _) (removeAt_steady hR _)

end Files

namespace Workspace

/-- The root of the paths that the contracts are looked for with. -/
def searchRoot : Option String → PathRoot
  | none => .relative
  | some start => (Path.ofText start).root

/-- The directory to search from is the same wherever the search begins alike. -/
theorem searchBase_steady {start : Option String} (hR : SeesFrom (searchRoot start) R) :
    (searchBase start : Act σ Path).Steady R := by
  cases start with
  | some start => exact Files.absolute_steady hR
  | none =>
    refine .host_bind fun h k hk => ?_
    rw [hR.cwd hk rfl]
    split
    · exact .pure _
    · exact .fail _

/-- What is seen where a search begins is seen from the directory that is searched. -/
theorem seesFrom_searchBase {start : Option String} (hR : SeesFrom (searchRoot start) R)
    {s : Session σ} {base : Path} (h : (searchBase start).result s = .ok base) :
    SeesFrom base.root R := by
  cases start with
  | some start => exact Files.seesFrom_absolute hR h
  | none => exact SeesFrom.of_relative hR _

theorem findContracts_steady {start : Option String} (hR : SeesFrom (searchRoot start) R) :
    (findContracts start : Act σ Path).Steady R := by
  refine .bind_ok (searchBase_steady hR) fun s base hbase => ?_
  have hseen : SeesFrom base.root R := seesFrom_searchBase hR hbase
  have hinside : SeesFrom (base.join (.ofText contractsName)).root R := hseen
  have hbeside : SeesFrom (base.parent.join (.ofText contractsName)).root R := hseen
  refine .bind (Files.resolvedDirectory?_steady hinside) fun inside => ?_
  split
  · exact .pure _
  · refine .bind (Files.resolvedDirectory?_steady hbeside) fun beside => ?_
    split
    · exact .pure _
    · exact .refuse _

/-- Actions that agree in the contracts directory agree around it. -/
theorem inDirectory_parallel (hR : SeesFiles R) (path : Path) {x y : Act σ α}
    (hx : Parallel R x y) : Parallel R (inDirectory path x) (inDirectory path y) := by
  have hmove (p : Path) : (Files.changeDirectory p.text : Act σ Unit).Steady R :=
    Files.changeDirectory_steady (hR.from p.root) hR.setCwd
  refine .bind (.host_bind fun h k hk => ?_) fun previous => ?_
  · rw [hR.cwd hk]
    split
    · exact .pure _
    · exact .fail _
  · refine .bind (hmove path) fun _ => .bind (.log _ _ _) fun _ => ?_
    exact .andFinally hx (.bind (hmove previous) fun _ => .log _ _ _)

end Workspace

namespace StateFile

variable {path : Path} (hR : SeesFrom path.root R)
include hR

theorem load_steady : (load path : Act σ (Pairs String String)).Steady R := by
  have hreport : ∀ ns : List Nat, (reportMalformed ns : Act σ Unit).Steady R := by
    intro ns
    induction ns with
    | nil => exact .pure _
    | cons n rest ih => exact .bind (.log _ _ _) fun _ => ih
  have htext : (text path : Act σ (List Char)).Steady R := by
    refine .bind (Files.entry?_steady hR) fun entry => ?_
    split
    · exact Files.readText_steady hR
    · exact Files.readText_steady hR
    · exact Files.textOf_steady _
    · exact .pure _
  refine .bind (Files.exists?_steady hR) fun found => ?_
  split
  · exact .bind (.mapFailure _ htext) fun cs => .bind (hreport _) fun _ => .pure _
  · exact .pure _

theorem upsert_steady (values : Pairs String String) :
    (upsert path values : Act σ Unit).Steady R := by
  have hensure : (ensure path : Act σ Unit).Steady R := by
    refine .bind (Files.exists?_steady hR) fun found => ?_
    split
    · exact .pure _
    · exact .bind (Files.ensureDirectories_steady hR _) fun _ => Files.touch_steady hR
  refine .bind hensure fun _ => .bind (Files.readText_steady hR) fun old => ?_
  exact .bind (Files.replace_steady hR _) fun _ => .log _ _ _

end StateFile

end SorobanDeploy
