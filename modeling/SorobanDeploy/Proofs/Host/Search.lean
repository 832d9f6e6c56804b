import SorobanDeploy.Proofs.Host.Resolved
import SorobanDeploy.Proofs.Pipeline.Elsewhere

/-!
# Where the contracts are looked for

The search looks into the start directory, and then into the directory of the path without its last
name (`Workspace.findContracts_searched`). That is the directory above the start directory if the
last name is the one under which it stands there (`Host.Itself`): then the second path leads where
the path through the double point does (`directoryAt_beside`). Behind a link or a double point it is
another directory, which has nothing to do with the one above (`Workspace.contracts_above_missed`).

Whatever is found is told by the place that its path is resolved to, which is free of links as far
as the system can look. That is the place of the directory itself if the system takes the path of
every link (`Host.foundAt_of_seesLinks`). A link at a path that is too long is kept, and the path
that is found then leads nowhere for the system (`Workspace.foundAt_of_long`).
-/

namespace SorobanDeploy

open Act

variable {σ : Type}

/-! ## Walks along two paths -/

namespace Tree

variable {t : Tree} {s d q : Spot} {n : Nat} {name : String}

/-- A walk goes on from the directory that the first names lead to. -/
theorem Leads.walk_append {names : List String}
    (h : Leads t .target n s names (.present d .directory)) (limit : Nat) (rest : List String) :
    walk t .target (n + limit) s (names ++ rest) = walk t .target limit d rest := by
  generalize hgoal : Goal.present d .directory = goal at h
  induction h with
  | stay =>
    cases hgoal
    rw [Nat.zero_add, List.nil_append]
  | here hname next ih =>
    rw [← ih hgoal]
    exact walk_congr (advance_here hname)
  | up next ih =>
    rw [← ih hgoal]
    exact walk_congr advance_up
  | into found next ih =>
    rw [← ih hgoal]
    exact walk_congr (found.advance (by decide))
  | @follow n s name target names goal found hway next ih =>
    have hthrough : advance t .target s (name :: (names ++ rest)) =
        .through s target (names ++ rest) := found.through (.inr (by decide)) (by decide)
    rw [← ih hgoal, List.append_assoc, Nat.add_right_comm, List.cons_append]
    exact walk_succ_of_through hthrough
  | stop found hstops =>
    cases hgoal
    exact absurd rfl hstops.1
  | missing found => cases hgoal

/-- A walk for an entry that ends at a directory under its name finds it there. -/
theorem Leads.looks_of_entry (hstill : ¬(name = "" ∨ name = ".")) (hdown : name ≠ "..")
    (h : Leads t .entry n s [name] (.present q .directory)) :
    n = 0 ∧ Looks t s name (some .directory) := by
  cases h with
  | here hname next => exact absurd hname hstill
  | up next => exact absurd rfl hdown
  | into found next =>
    cases next with
    | stay => exact ⟨rfl, found⟩
  | follow found hway next => exact absurd hway (by simp)
  | stop found hstops => exact absurd rfl hstops.1

/-- A walk into a directory and up again stays where it was. -/
theorem Looks.walk_into_up (h : Looks t s name (some .directory)) (limit : Nat)
    (rest : List String) :
    walk t .target limit s (name :: ".." :: rest) = walk t .target limit s rest := by
  have hback : Spot.parent (.live (s.place ++ [name])) = s := by
    have hlost := h.live
    obtain ⟨place, lost⟩ := s
    obtain rfl : lost = 0 := hlost
    simp [Spot.live, Spot.parent]
  refine walk_congr ?_
  rw [h.advance (by decide), arrive, advance_up, hback]

/-- A walk along names, up, and on is the walk along the names without the last one and on, if that
is the name of a directory. -/
theorem walk_up {names rest : List String} {limit : Nat} (hlimit : n ≤ limit)
    (hstill : ¬(name = "" ∨ name = ".")) (hdown : name ≠ "..")
    (h : Leads t .entry n s (names ++ [name]) (.present q .directory)) :
    walk t .target limit s (names ++ [name] ++ ".." :: rest) =
      walk t .target limit s (names ++ rest) := by
  obtain ⟨m, k, d, rfl, hfirst, hlast⟩ :=
    h.exists_directory fun hnil => absurd hnil (List.cons_ne_nil name [])
  obtain ⟨rfl, hlooks⟩ := hlast.looks_of_entry hstill hdown
  obtain ⟨left, rfl⟩ := Nat.exists_eq_add_of_le hlimit
  have hnames : names ++ [name] ++ ".." :: rest = names ++ (name :: ".." :: rest) := by simp
  rw [hnames, Nat.add_zero, hfirst.walk_append, hfirst.walk_append, hlooks.walk_into_up]

/-- A way through all links stops for want of an entry or a directory, or for a name that is too
long. -/
theorem advance_refused {r : Refusal} {names : List String}
    (h : advance t .target s names = .refused r) :
    r = .noEntry ∨ r = .notDirectory ∨ r = .nameTooLong := by
  fun_induction advance t .target s names <;> simp_all

/-- A path is refused because nothing stands at its end, or because it is too long. -/
theorem status_refused {cwd : Spot} {path : String} {r : Refusal}
    (h : t.status cwd path = .error r) : Files.meansAbsent r = true ∨ r = .nameTooLong := by
  have hwalk : ∀ limit s names, walk t .target limit s names = .error r →
      Files.meansAbsent r = true ∨ r = .nameTooLong := by
    intro limit s names hrefused
    fun_induction walk t .target limit s names with
    | case1 limit s names goal hstage => cases hrefused
    | case2 limit s names r' hstage =>
      cases hrefused
      rcases advance_refused hstage with rfl | rfl | rfl
      · exact .inl rfl
      · exact .inl rfl
      · exact .inr rfl
    | case3 s names dir target rest hstage =>
      cases hrefused
      exact .inl rfl
    | case4 s names dir target rest hstage m ih => exact ih hrefused
  unfold status find at h
  split at h
  · cases h
  · cases h
    exact .inl rfl
  · rename_i hfind
    split at hfind
    · cases hfind
      cases h
      exact .inl rfl
    · split at hfind
      · cases hfind
        cases h
        exact .inr rfl
      · cases h
        exact hwalk _ _ _ hfind

end Tree

/-! ## Directories at the ends of paths -/

/-- The directory that a path leads to, if it leads to one. -/
def Host.directoryAt (h : Host σ) (path : Path) : Except Refusal (Option Spot) :=
  if Files.hasNul path.text then .ok none
  else
    match h.tree.status h.cwd path.text with
    | .ok (q, .directory) => .ok (some q)
    | .ok _ => .ok none
    | .error r => if Files.meansAbsent r then .ok none else .error r

/-- What a look for a directory finds at a path: what the path is resolved to, if it leads to a
directory. -/
def Host.foundAt (h : Host σ) (path : Path) : Except Failure (Option Path) :=
  match h.directoryAt path with
  | .ok none => .ok none
  | .ok (some _) =>
    match h.tree.resolved path.text with
    | some place => .ok (some (.ofPlace place))
    | none => .error (Files.loopFailure path.text)
  | .error r => .error (Files.refusalAt r path.text)

/-- A directory stands at a path, under the last name of the path: that is neither the name of a
link nor a double point. -/
structure Host.Itself (h : Host σ) (path : Path) : Prop where
  clean : Files.hasNul path.text = false
  own : path.names.getLast? ≠ some ".."
  stands : ∃ q, h.tree.find h.cwd .entry path.text = .ok (.present q .directory)

/-- Only a path that is too long, or that has a name which is, is refused. -/
theorem Host.directoryAt_refused {h : Host σ} {path : Path} {r : Refusal}
    (hrefused : h.directoryAt path = .error r) : r = .nameTooLong := by
  unfold directoryAt at hrefused
  split at hrefused
  · cases hrefused
  · split at hrefused
    · cases hrefused
    · cases hrefused
    · rename_i hstatus
      split at hrefused
      · cases hrefused
      · rename_i hpresent
        cases hrefused
        exact (Tree.status_refused hstatus).resolve_left hpresent

theorem Host.status_of_directoryAt {h : Host σ} {path : Path} {q : Spot}
    (hdir : h.directoryAt path = .ok (some q)) :
    h.tree.status h.cwd path.text = .ok (q, .directory) := by
  unfold directoryAt at hdir
  split at hdir
  · cases hdir
  · split at hdir
    · rename_i hstatus
      cases hdir
      exact hstatus
    · cases hdir
    · split at hdir <;> cases hdir

/-- A directory is found by the path of its place, if the system takes the path of every link. -/
theorem Host.foundAt_of_seesLinks {h : Host σ} {path : Path} {found : Option Spot}
    (hlinks : h.tree.SeesLinks) (hroot : path.root ≠ .relative)
    (hdir : h.directoryAt path = .ok found) :
    h.foundAt path = .ok (found.map fun q => .ofPlace q.place) := by
  unfold foundAt
  rw [hdir]
  cases found with
  | none => rfl
  | some q =>
    have hresolved := Tree.resolved_eq hlinks (Path.head?_text hroot) (status_of_directoryAt hdir)
    simp only [hresolved, Option.map_some]

theorem Files.result_resolvedDirectory? (path : Path) (s : Session σ) :
    (Files.resolvedDirectory? path.text).result s = s.host.foundAt path := by
  unfold Files.resolvedDirectory? Host.foundAt Host.directoryAt
  cases Files.hasNul path.text with
  | true => rfl
  | false =>
    rw [if_neg Bool.false_ne_true, if_neg Bool.false_ne_true, result_host_bind]
    cases s.host.tree.status s.host.cwd path.text with
    | error r =>
      by_cases habsent : Files.meansAbsent r = true
      · simp only [if_pos habsent]
        rfl
      · simp only [if_neg habsent]
        rfl
    | ok reached =>
      obtain ⟨q, e⟩ := reached
      cases e with
      | directory => cases s.host.tree.resolved path.text <;> rfl
      | file content | program content | link target | stream early late => rfl

namespace Workspace

/-- The contracts in a directory, by its path. -/
def contractsIn (dir : Path) : Path := dir.join (.ofText contractsName)

/-- The path above another one, through a double point. -/
def above (dir : Path) : Path := dir.join (.ofText "..")

theorem contractsIn_eq (dir : Path) : contractsIn dir = ⟨dir.root, dir.names ++ [contractsName]⟩ :=
  rfl

theorem above_eq (dir : Path) : above dir = ⟨dir.root, dir.names ++ [".."]⟩ := rfl

/-- Contracts whose path is too long are found under it, whatever stands there, and the system does
not take the path that is found. -/
theorem foundAt_of_long {h : Host σ} {dir : Path} {q : Spot} {place : Place}
    (hroot : dir.root ≠ .relative) (hparts : ∀ name ∈ dir.names, Path.IsPart name)
    (hdir : h.directoryAt (contractsIn dir) = .ok (some q))
    (hplace : h.tree.resolved dir.text = some place)
    (hlong : Tree.pathLimit ≤ (Path.ofPlace (place ++ [contractsName])).text.utf8ByteSize) :
    h.foundAt (contractsIn dir) = .ok (some (.ofPlace (place ++ [contractsName]))) ∧
      h.tree.status h.cwd (Path.ofPlace (place ++ [contractsName])).text =
        .error .nameTooLong := by
  have hinside : ∀ name ∈ (contractsIn dir).names, Path.IsPart name := by
    rw [contractsIn_eq]
    intro name hname
    rcases List.mem_append.1 hname with hname | hname
    · exact hparts name hname
    · rw [List.mem_singleton.1 hname]
      exact ⟨by decide, by decide⟩
  have hkept : h.tree.resolved (contractsIn dir).text = some (place ++ [contractsName]) := by
    unfold Tree.resolved at hplace ⊢
    rw [Tree.walkNames_text hroot hparts] at hplace
    rw [Tree.walkNames_text (p := contractsIn dir) hroot hinside, contractsIn_eq,
      Tree.resolve_append, hplace, Option.bind_some,
      Tree.resolve_kept (by decide) (by decide) (Tree.linkAt?_of_long hlong), Tree.resolve_nil]
  refine ⟨?_, Tree.status_of_long _ _ hlong⟩
  unfold Host.foundAt
  simp only [hdir, hkept]

/-- A walk into a directory that stands under the last of its names, up, and on is the walk along
the names without the last one and on. -/
theorem walk_above {h : Host σ} {path : Path} (hroot : path.root ≠ .relative)
    (hnames : ∀ name ∈ path.names, Path.IsName name ∨ name = "..")
    (hparts : ∀ name ∈ path.names, Path.IsPart name) (hitself : h.Itself path)
    (rest : List String) :
    h.tree.walk .target Tree.linkLimit (.live []) (path.names ++ ".." :: rest) =
      h.tree.walk .target Tree.linkLimit (.live []) (path.names.dropLast ++ rest) := by
  by_cases hnil : path.names = []
  · -- The directory above the root is the root.
    rw [hnil]
    exact Tree.walk_congr Tree.advance_up
  · have hlast := List.dropLast_append_getLast hnil
    obtain ⟨q, hq⟩ := hitself.stands
    obtain ⟨-, n, hn, hleads⟩ := (Tree.find_text_eq_ok_iff (by decide) hroot hparts).1 hq
    rw [← hlast] at hleads
    have hdown : path.names.getLast hnil ≠ ".." := fun heq =>
      hitself.own (by rw [List.getLast?_eq_some_getLast hnil, heq])
    have hname := (hnames _ (List.getLast_mem hnil)).resolve_right hdown
    have hwalk : h.tree.walk .target Tree.linkLimit (.live [])
          (path.names.dropLast ++ [path.names.getLast hnil] ++ ".." :: rest) =
        h.tree.walk .target Tree.linkLimit (.live []) (path.names.dropLast ++ rest) :=
      Tree.walk_up hn hname.still hdown hleads
    rwa [hlast] at hwalk

/-- The contracts beside a directory that stands under its name are those in the directory above,
if the system takes the path through the double point. -/
theorem directoryAt_beside {h : Host σ} {path : Path} (hroot : path.root ≠ .relative)
    (hnames : ∀ name ∈ path.names, Path.IsName name ∨ name = "..") (hitself : h.Itself path)
    (hshort : (contractsIn (above path)).text.utf8ByteSize < Tree.pathLimit) :
    h.directoryAt (contractsIn path.parent) = h.directoryAt (contractsIn (above path)) := by
  have hpart : ∀ name ∈ path.names, Path.IsPart name := by
    intro name hname
    rcases hnames name hname with hname | rfl
    · exact hname.isPart
    · exact ⟨by decide, by decide⟩
  have hsublist : List.Sublist (contractsIn path.parent).names (contractsIn (above path)).names :=
    ((List.dropLast_sublist _).trans (List.sublist_append_left _ _)).append (.refl _)
  have hmem : ∀ name ∈ (contractsIn (above path)).names,
      name ∈ path.names ∨ name = ".." ∨ name = contractsName := by
    intro name hname
    simpa [contractsIn_eq, above_eq, or_assoc] using hname
  have hparts : ∀ name ∈ (contractsIn (above path)).names, Path.IsPart name := by
    intro name hname
    rcases hmem name hname with hname | rfl | rfl
    · exact hpart name hname
    · exact ⟨by decide, by decide⟩
    · exact ⟨by decide, by decide⟩
  have hclean : ∀ name ∈ (contractsIn (above path)).names, Files.hasNul name = false := by
    intro name hname
    rcases hmem name hname with hname | rfl | rfl
    · exact (Path.hasNul_text_eq_false_iff _).1 hitself.clean name hname
    · decide
    · decide
  have hnul : Files.hasNul (contractsIn (above path)).text = false :=
    (Path.hasNul_text_eq_false_iff _).2 hclean
  have hnul' : Files.hasNul (contractsIn path.parent).text = false :=
    (Path.hasNul_text_eq_false_iff _).2 fun name hname => hclean name (hsublist.subset hname)
  have hfind : h.tree.find h.cwd .target (contractsIn path.parent).text =
      h.tree.find h.cwd .target (contractsIn (above path)).text := by
    rw [Tree.find_text (p := contractsIn (above path)) hroot hparts hshort,
      Tree.find_text (p := contractsIn path.parent) hroot
        (fun name hname => hparts name (hsublist.subset hname))
        (Nat.lt_of_le_of_lt (Path.size_text_le hroot hsublist) hshort),
      contractsIn_eq, contractsIn_eq, above_eq, List.append_assoc]
    exact (walk_above hroot hnames hpart hitself [contractsName]).symm
  unfold Host.directoryAt Tree.status
  rw [hnul, hnul', hfind]

/-! ## The search -/

/-- Whether a start directory is named from the root. -/
def rooted : Option String → Bool
  | none => false
  | some start => (Path.ofText start).isAbsolute

/-- The path of a start directory from the root. -/
def searchPath (h : Host σ) : Option String → Path
  | none => .ofPlace h.cwd.place
  | some start => (Path.ofPlace h.cwd.place).join (.ofText start)

/-- What a search answers that looks for the contracts in one directory and then in another one. -/
def searched (h : Host σ) (dir other : Path) : Except Failure Path :=
  match h.foundAt (contractsIn dir) with
  | .ok (some found) => .ok found
  | .error e => .error e
  | .ok none =>
    match h.foundAt (contractsIn other) with
    | .ok (some found) => .ok found
    | .error e => .error e
    | .ok none => .error (Problem.noContractsDirectory dir.text).failure

theorem root_searchPath (h : Host σ) (start : Option String) :
    (searchPath h start).root ≠ .relative := by
  cases start with
  | none => simp [searchPath, Path.ofPlace]
  | some start =>
    by_cases habsolute : (Path.ofText start).isAbsolute = true
    · rw [searchPath, Path.join_of_isAbsolute _ _ habsolute]
      simpa [Path.isAbsolute] using habsolute
    · rw [searchPath, Path.join, if_neg habsolute]
      simp [Path.ofPlace]

/-- On the path of a start directory every name leads down or is a double point. -/
theorem names_searchPath {h : Host σ} (hnames : ∀ name ∈ h.cwd.place, Path.IsName name)
    (start : Option String) :
    ∀ name ∈ (searchPath h start).names, Path.IsName name ∨ name = ".." := by
  cases start with
  | none => exact fun name hname => .inl (hnames name hname)
  | some start =>
    have htext : ∀ name ∈ (Path.ofText start).names, Path.IsName name ∨ name = ".." := by
      intro name hname
      obtain ⟨part, hpart, rfl⟩ := List.mem_map.1 hname
      obtain ⟨hsplit, hkept⟩ := List.mem_filter.1 hpart
      have hstill : ¬(String.ofList part = "" ∨ String.ofList part = ".") := by
        simpa [← String.toList_inj] using hkept
      refine (Classical.em _).symm.imp_left fun hdown => ⟨hstill, hdown, ?_⟩
      rw [String.toList_ofList]
      exact Text.not_mem_of_mem_splitOn hsplit
    by_cases habsolute : (Path.ofText start).isAbsolute = true
    · rw [searchPath, Path.join_of_isAbsolute _ _ habsolute]
      exact htext
    · rw [searchPath, Path.join, if_neg habsolute]
      intro name hname
      rcases List.mem_append.1 hname with hname | hname
      · exact .inl (hnames name hname)
      · exact htext name hname

theorem result_searchBase (start : Option String) (s : Session σ) :
    (searchBase start).result s =
      if s.host.cwd.lost = 0 ∨ rooted start = true then .ok (searchPath s.host start)
      else .error (Files.refusal .noEntry) := by
  have hworking : (Files.workingDirectory : Act σ Path).result s =
      if s.host.cwd.lost = 0 then .ok (.ofPlace s.host.cwd.place)
      else .error (Files.refusal .noEntry) := by
    unfold Files.workingDirectory Spot.path?
    rw [result_host_bind]
    split
    · rename_i hsome
      split at hsome
      · rename_i hlive
        cases hsome
        rw [if_pos hlive]
        rfl
      · cases hsome
    · rename_i hnone
      split at hnone
      · cases hnone
      · rename_i hlost
        rw [if_neg hlost]
        rfl
  cases start with
  | none =>
    unfold searchBase
    rw [hworking]
    simp [rooted, searchPath]
  | some start =>
    change (Files.absolute (.ofText start)).result s = _
    unfold Files.absolute
    by_cases habsolute : (Path.ofText start).isAbsolute = true
    · rw [if_pos habsolute, if_pos (.inr habsolute), searchPath, Path.join_of_isAbsolute _ _ habsolute]
      rfl
    · rw [if_neg habsolute, result_bind, hworking]
      by_cases hlive : s.host.cwd.lost = 0
      · rw [if_pos hlive, if_pos (.inl hlive)]
        rfl
      · rw [if_neg hlive, if_neg (by simpa [rooted, hlive] using habsolute)]

/-- The search looks into the start directory, and then into that of its path without the last
name. -/
theorem findContracts_searched {start : Option String} {s : Session σ}
    (hbase : s.host.cwd.lost = 0 ∨ rooted start = true) :
    (findContracts start).result s =
      searched s.host (searchPath s.host start) (searchPath s.host start).parent := by
  unfold findContracts searched
  rw [result_bind, result_searchBase, if_pos hbase, searchBase_reads]
  dsimp only
  rw [result_bind, Files.resolvedDirectory?_reads, ← contractsIn, Files.result_resolvedDirectory?]
  cases s.host.foundAt (contractsIn (searchPath s.host start)) with
  | error e => rfl
  | ok inside =>
    cases inside with
    | some found => rfl
    | none =>
      dsimp only
      rw [result_bind, ← contractsIn, Files.result_resolvedDirectory?]
      cases s.host.foundAt (contractsIn (searchPath s.host start).parent) with
      | error e => rfl
      | ok beside => cases beside <;> rfl

/-- A search from a relative path fails in a directory that was removed. -/
theorem findContracts_lost {start : Option String} {s : Session σ} (hlost : s.host.cwd.lost ≠ 0)
    (hrelative : rooted start = false) :
    (findContracts start).result s = .error (Files.refusal .noEntry) := by
  unfold findContracts
  rw [result_bind, result_searchBase, if_neg (by simp [hlost, hrelative])]

/-- The contracts that are found are told by a way that is free of links. What stands at their path
stands there, and that is a directory if the system takes the path of every link. -/
theorem linkFree_of_findContracts {start : Option String} {s : Session σ} {contracts : Path}
    (h : (findContracts start).result s = .ok contracts) :
    ∃ place, contracts = .ofPlace place ∧ s.host.tree.LinkFree place ∧
      (∀ q e, s.host.tree.status s.host.cwd contracts.text = .ok (q, e) → q = .live place) ∧
      (s.host.tree.SeesLinks → s.host.tree.Stands place) := by
  obtain ⟨path, q, place, hroot, rfl, hresolved, hstatus⟩ := findContracts_resolved h
  have hhead := Path.head?_text hroot
  have hfree := Tree.linkFree_of_resolved hresolved
  refine ⟨place, rfl, hfree, fun _ _ => hfree.status_eq, fun hlinks => ?_⟩
  obtain rfl : place = q.place :=
    Option.some.inj (hresolved.symm.trans (Tree.resolved_eq hlinks hhead hstatus))
  exact Tree.stands_of_status hhead hstatus

/-- The search changes nothing. It answers a path from the root, on which the system sees no link:
that of the contracts in the start directory, or else of those in the directory of its path without
the last name. If the start directory stands under that name, these are the contracts in the
directory above. What is found is the place of the directory, on which every name is that of a
directory, if the system takes the path of every link; in any case whatever stands at the path
stands at its place. If neither directory has contracts there is no configuration; the system
refuses only paths that are too long, and relative ones in a directory that was removed. No
directory is refused for want of a permission, which hosts do not have. -/
theorem findContracts_answers (start : Option String) {s : Session σ}
    (hnames : ∀ name ∈ s.host.cwd.place, Path.IsName name) :
    (findContracts start).after s = s ∧
    (∀ contracts, (findContracts start).result s = .ok contracts →
      ∃ place, contracts = .ofPlace place ∧ s.host.tree.LinkFree place ∧
        (∀ q e, s.host.tree.status s.host.cwd contracts.text = .ok (q, e) → q = .live place) ∧
        (s.host.tree.SeesLinks → s.host.tree.Stands place)) ∧
    (s.host.cwd.lost = 0 ∨ rooted start = true → (findContracts start).result s =
      searched s.host (searchPath s.host start) (searchPath s.host start).parent) ∧
    (s.host.Itself (searchPath s.host start) →
      (contractsIn (above (searchPath s.host start))).text.utf8ByteSize < Tree.pathLimit →
      s.host.directoryAt (contractsIn (searchPath s.host start).parent) =
        s.host.directoryAt (contractsIn (above (searchPath s.host start)))) ∧
    (s.host.tree.SeesLinks → ∀ path found, Path.root path ≠ .relative →
      s.host.directoryAt path = .ok found →
        s.host.foundAt path = .ok (found.map fun q => .ofPlace q.place)) ∧
    (∀ path r, s.host.directoryAt path = .error r → r = .nameTooLong) ∧
    (s.host.cwd.lost ≠ 0 → rooted start = false →
      (findContracts start).result s = .error (Files.refusal .noEntry)) :=
  ⟨findContracts_reads start s, fun _ => linkFree_of_findContracts, findContracts_searched,
    directoryAt_beside (root_searchPath s.host start) (names_searchPath hnames start),
    fun hlinks _ _ => Host.foundAt_of_seesLinks hlinks, fun _ _ => Host.directoryAt_refused,
    findContracts_lost⟩

/-- A host with contracts above the directory that its link leads to, and below which it stands. -/
def nestedHost : Host Unit where
  tree := [(["a"], .directory), (["a", "b"], .directory), (["a", "b", "c"], .directory),
    (["a", "contracts"], .directory), (["link"], .link "a/b")]
  cwd := .live ["a", "b", "c"]
  env := []
  renameFault := none
  outside := ()

theorem itself_nestedHost : nestedHost.Itself (.ofPlace ["a", "b"]) :=
  ⟨by decide +kernel, by decide +kernel, .live ["a", "b"], by decide +kernel⟩

theorem seesLinks_nestedHost : nestedHost.tree.SeesLinks := by
  intro place target hlink
  have hshort : ∀ p ∈ nestedHost.tree,
      (Path.ofPlace p.1).text.utf8ByteSize < Tree.pathLimit := by decide +kernel
  exact hshort _ (Pairs.mem_of_get? hlink)

/-- The contracts above a directory are found from it. -/
theorem contracts_above_found :
    (findContracts (some "/a/b")).result ⟨nestedHost, []⟩ = .ok (.ofPlace ["a", "contracts"]) ∧
      nestedHost.tree.Stands ["a", "contracts"] ∧
      nestedHost.directoryAt (contractsIn (above (.ofPlace ["a", "b"]))) =
        .ok (some (.live ["a", "contracts"])) := by
  have hnames : ∀ name ∈ nestedHost.cwd.place, Path.IsName name := by
    intro name hname
    have hmem : name ∈ ["a", "b", "c"] := hname
    simp only [List.mem_cons, List.not_mem_nil, or_false] at hmem
    rcases hmem with rfl | rfl | rfl
    · exact ⟨by decide, by decide, by decide⟩
    · exact ⟨by decide, by decide, by decide⟩
    · exact ⟨by decide, by decide, by decide⟩
  obtain ⟨-, hstands, hsearched, hbeside, hfound, -⟩ :=
    findContracts_answers (some "/a/b") (s := ⟨nestedHost, []⟩) hnames
  have hpath : searchPath nestedHost (some "/a/b") = .ofPlace ["a", "b"] := by decide +kernel
  have hresult : (findContracts (some "/a/b")).result ⟨nestedHost, []⟩ =
      .ok (.ofPlace ["a", "contracts"]) := by
    have hinside : nestedHost.foundAt (contractsIn (.ofPlace ["a", "b"])) = .ok none :=
      hfound seesLinks_nestedHost _ none (by decide) (by decide +kernel)
    have hbeside : nestedHost.foundAt (contractsIn (Path.ofPlace ["a", "b"]).parent) =
        .ok (some (.ofPlace ["a", "contracts"])) :=
      hfound seesLinks_nestedHost _ (some (.live ["a", "contracts"])) (by decide)
        (by decide +kernel)
    rw [hsearched (.inl rfl), hpath, searched, hinside, hbeside]
  refine ⟨hresult, ?_, ?_⟩
  · obtain ⟨place, hplace, -, -, hstands⟩ := hstands _ hresult
    cases hplace
    exact hstands seesLinks_nestedHost
  · rw [hpath] at hbeside
    rw [← hbeside itself_nestedHost (by decide +kernel)]
    decide +kernel

/-- From a link, and from a path that ends with a double point, the contracts above are missed. -/
theorem contracts_above_missed :
    (∀ start ∈ ["..", "/link"],
      nestedHost.directoryAt (contractsIn (searchPath nestedHost (some start))) = .ok none ∧
      nestedHost.directoryAt (contractsIn (above (searchPath nestedHost (some start)))) =
        .ok (some (.live ["a", "contracts"]))) ∧
    ((findContracts (some "..")).result ⟨nestedHost, []⟩).toOption = none ∧
    ((findContracts (some "/link")).result ⟨nestedHost, []⟩).toOption = none := by
  refine ⟨?_, ?_, ?_⟩
  · decide +kernel
  · decide +kernel
  · decide +kernel

end Workspace

end SorobanDeploy
