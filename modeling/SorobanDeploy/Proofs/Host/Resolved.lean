import SorobanDeploy.Proofs.Host.Standing

/-!
# Resolved paths

A path is resolved name by name: each name is looked at by the path of the place that the names
before it led to, and a link is replaced by the place that it leads to. The system follows links
along the path itself, so it comes to the same place as long as it takes the path of every link on
the way (`Tree.resolved_eq`). A link at a path that is too long is kept, and the names behind it go
on from its text.

Whatever a path is resolved to is free of links as far as the system can look (`Tree.LinkFree`). So
if anything stands at the resolved path, it stands at that place (`Tree.LinkFree.status_eq`).
-/

namespace SorobanDeploy.Tree

variable {t : Tree} {aim : Aim} {n depth : Nat} {s q : Spot} {place : Place}
  {name target : String} {names rest : List String} {goal : Goal}

/-! ## Walks by their first names -/

/-- A walk that goes on, or that ends at a directory, comes to a directory first. -/
theorem Leads.exists_directory {n : Nat} {s : Spot} {names rest : List String} {goal : Goal}
    (hend : rest = [] → ∃ q, goal = .present q .directory)
    (h : Leads t aim n s (names ++ rest) goal) :
    ∃ m k d, n = m + k ∧ Leads t .target m s names (.present d .directory) ∧
      Leads t aim k d rest goal := by
  cases names with
  | nil => exact ⟨0, n, s, (Nat.zero_add n).symm, .stay, h⟩
  | cons name names =>
    rw [List.cons_append] at h
    generalize hall : names ++ rest = more at h
    cases h with
    | here hname next =>
      rw [← hall] at next
      obtain ⟨m, k, d, hn, hfirst, hlast⟩ := next.exists_directory hend
      exact ⟨m, k, d, hn, .here hname hfirst, hlast⟩
    | up next =>
      rw [← hall] at next
      obtain ⟨m, k, d, hn, hfirst, hlast⟩ := next.exists_directory hend
      exact ⟨m, k, d, hn, .up hfirst, hlast⟩
    | into found next =>
      rw [← hall] at next
      obtain ⟨m, k, d, hn, hfirst, hlast⟩ := next.exists_directory hend
      exact ⟨m, k, d, hn, .into found hfirst, hlast⟩
    | follow found hway next =>
      rw [← hall, ← List.append_assoc] at next
      obtain ⟨m, k, d, hn, hfirst, hlast⟩ := next.exists_directory hend
      exact ⟨m + 1, k, d, by omega, .follow found (.inr (by decide)) hfirst, hlast⟩
    | stop found hstops =>
      obtain ⟨q, hq⟩ := hend (List.append_eq_nil_iff.1 hall).2
      cases hq
      exact absurd rfl hstops.1
    | missing found =>
      obtain ⟨q, hq⟩ := hend (List.append_eq_nil_iff.1 hall).2
      cases hq
  termination_by (n, names.length)

/-! ## Looking at a place by its path -/

/-- What is under a name in a directory that is reached is found by its path, if the system takes
that. -/
theorem Reached.find_entry {e : Entry} (hs : t.Reached s) (hwhole : '/' ∉ name.toList)
    (found : Looks t s name (some e)) (hentry : e ≠ .directory)
    (hpath : (Path.ofPlace (s.place ++ [name])).text.utf8ByteSize < pathLimit) :
    t.find (.live []) .entry (Path.ofPlace (s.place ++ [name])).text =
      .ok (.present (.live (s.place ++ [name])) e) := by
  have hnames : ∀ m ∈ s.place ++ [name], Path.IsName m := by
    intro m hm
    rcases List.mem_append.1 hm with hm | hm
    · exact hs.stands.names m hm
    · rw [List.mem_singleton.1 hm]
      exact ⟨found.still, found.down, hwhole⟩
  have hleads := hs.leads (.stop found ⟨hentry, fun _ => rfl⟩)
  exact (find_ofPlace_eq_ok_iff (by decide) hnames).2 ⟨hpath, 0, Nat.zero_le _, hleads⟩

/-- A link in a directory that is reached is looked at, if the system takes its path. -/
theorem Reached.linkAt?_of_link (hs : t.Reached s) (hwhole : '/' ∉ name.toList)
    (found : Looks t s name (some (.link target)))
    (hpath : (Path.ofPlace (s.place ++ [name])).text.utf8ByteSize < pathLimit) :
    t.linkAt? (s.place ++ [name]) = some target := by
  rw [linkAt?, hs.find_entry hwhole found nofun hpath]

/-- There is no link in the place of a directory. -/
theorem Reached.linkAt?_of_directory (hs : t.Reached s) : t.linkAt? s.place = none := by
  unfold linkAt?
  split
  · rename_i q target hfind
    obtain ⟨-, n, -, hleads⟩ := (find_ofPlace_eq_ok_iff (by decide) hs.stands.names).1 hfind
    have hthere : Leads t .entry 0 (.live []) (s.place ++ []) (.present s .directory) :=
      hs.leads .stay
    rw [List.append_nil] at hthere
    cases hthere.unique hleads (by decide)
  · rfl

/-- A place at a path that is too long is not looked at. -/
theorem linkAt?_of_long (hlong : pathLimit ≤ (Path.ofPlace place).text.utf8ByteSize) :
    t.linkAt? place = none := by
  unfold linkAt? find
  by_cases hempty : (Path.ofPlace place).text.isEmpty = true
  · rw [if_pos hempty]
  · rw [if_neg hempty, if_pos hlong]

/-! ## Resolving names -/

theorem resolve_nil : t.resolve depth place [] = some place := by
  cases depth <;> rfl

/-- A point stays in the directory. -/
theorem resolve_here (hname : name = "" ∨ name = ".") :
    t.resolve depth place (name :: rest) = t.resolve depth place rest := by
  cases depth <;> (unfold resolve; rw [resolveNames, if_pos hname])

/-- A double point takes away the name before it. -/
theorem resolve_up :
    t.resolve depth place (".." :: rest) = t.resolve depth place.dropLast rest := by
  cases depth <;> (unfold resolve; rw [resolveNames, if_neg (by decide), if_pos rfl])

/-- A name at which no link is seen is kept. -/
theorem resolve_kept (hstill : ¬(name = "" ∨ name = ".")) (hdown : name ≠ "..")
    (hnone : t.linkAt? (place ++ [name]) = none) :
    t.resolve depth place (name :: rest) = t.resolve depth (place ++ [name]) rest := by
  cases depth <;> (unfold resolve; rw [resolveNames, if_neg hstill, if_neg hdown, hnone])

/-- A link that is seen is replaced by the place that it leads to. -/
theorem resolve_through (hstill : ¬(name = "" ∨ name = ".")) (hdown : name ≠ "..")
    (hlink : t.linkAt? (place ++ [name]) = some target) :
    t.resolve (depth + 1) place (name :: rest) =
      (t.resolve depth (start (.live place) target).place (walkNames target)).bind fun reached =>
        t.resolve (depth + 1) reached rest := by
  rw [resolve.eq_2, resolveNames, if_neg hstill, if_neg hdown, hlink]

/-- Names are resolved one after the other. -/
theorem resolveNames_append (follow : Place → String → Option Place) (place : Place)
    (names rest : List String) : t.resolveNames follow place (names ++ rest) =
      (t.resolveNames follow place names).bind fun reached =>
        t.resolveNames follow reached rest := by
  fun_induction resolveNames t follow place names with
  | case1 place => rfl
  | case2 place name names hstill ih =>
    rw [List.cons_append, resolveNames, if_pos hstill, ih]
  | case3 place names hstill ih =>
    rw [List.cons_append, resolveNames, if_neg hstill, if_pos rfl, ih]
  | case4 place name names hstill hdown hnone ih =>
    rw [List.cons_append, resolveNames, if_neg hstill, if_neg hdown, hnone, ← ih]
  | case5 place name names hstill hdown target hlink ih =>
    rw [List.cons_append, resolveNames, if_neg hstill, if_neg hdown, hlink, Option.bind_assoc]
    exact congrArg ((follow place target).bind ·) (funext ih)

theorem resolve_append (names rest : List String) : t.resolve depth place (names ++ rest) =
    (t.resolve depth place names).bind fun reached => t.resolve depth reached rest := by
  cases depth <;> exact resolveNames_append _ place names rest

/-- The system takes the path of every link of a tree. -/
def SeesLinks (t : Tree) : Prop :=
  ∀ place target, Pairs.get? place t = some (.link target) →
    (Path.ofPlace place).text.utf8ByteSize < pathLimit

/-- Names are resolved to the directory that a walk along them comes to, if the system takes the
path of every link. -/
theorem Leads.resolve_eq {n depth : Nat} {s q : Spot} {names : List String} (hlinks : t.SeesLinks)
    (h : Leads t .target n s names (.present q .directory)) (hs : t.Reached s)
    (hwhole : ∀ name ∈ names, '/' ∉ name.toList) (hdepth : n ≤ depth) :
    t.resolve depth s.place names = some q.place := by
  have htail {name : String} {rest : List String} (hall : names = name :: rest) :
      '/' ∉ name.toList ∧ ∀ m ∈ rest, '/' ∉ m.toList := by
    subst hall
    exact ⟨hwhole _ List.mem_cons_self, fun m hm => hwhole m (List.mem_cons_of_mem _ hm)⟩
  cases h with
  | stay => exact resolve_nil
  | here hname next =>
    rw [resolve_here hname]
    exact next.resolve_eq hlinks hs (htail rfl).2 hdepth
  | up next =>
    have hparent : s.parent.place = s.place.dropLast := by
      rw [Spot.parent, hs.live]
    rw [resolve_up, ← hparent]
    exact next.resolve_eq hlinks hs.parent (htail rfl).2 hdepth
  | into found next =>
    have hinto := hs.into (htail rfl).1 found
    rw [resolve_kept found.still found.down hinto.linkAt?_of_directory]
    exact next.resolve_eq hlinks hinto (htail rfl).2 hdepth
  | @follow n s name target rest goal found hway next =>
    obtain ⟨depth, rfl⟩ := Nat.exists_eq_add_of_le' (Nat.lt_of_lt_of_le (Nat.succ_pos _) hdepth)
    -- The directory that the link leads to comes first, and the names behind it go on from there.
    obtain ⟨m, k, d, rfl, hfirst, hlast⟩ := next.exists_directory fun _ => ⟨q, rfl⟩
    have hstart := hs.start target
    have hmiddle := hfirst.reached hstart fun _ => not_mem_walkNames
    have hlink := hs.linkAt?_of_link (htail rfl).1 found (hlinks _ _ found.found)
    have hopened : t.resolve depth (start (.live s.place) target).place (walkNames target) =
        some d.place := by
      rw [← hs.spot_eq]
      exact hfirst.resolve_eq hlinks hstart (fun _ => not_mem_walkNames) (by omega)
    rw [resolve_through found.still found.down hlink, hopened]
    exact hlast.resolve_eq hlinks hmiddle (htail rfl).2 (by omega)
  | stop found hstops => exact absurd rfl hstops.1
  termination_by (n, names.length)

/-- The path to a directory is resolved to the place of the directory, if the system takes the path
of every link. -/
theorem resolved_eq {cwd : Spot} {path : String} (hlinks : t.SeesLinks)
    (hroot : path.toList.head? = some '/') (h : t.status cwd path = .ok (q, .directory)) :
    t.resolved path = some q.place := by
  obtain ⟨-, n, hn, hleads⟩ := (find_eq_ok_iff (by decide)).1 (status_eq_ok_iff.1 h)
  rw [Tree.start, if_pos hroot] at hleads
  exact hleads.resolve_eq hlinks (reached_root t) (fun _ => not_mem_walkNames)
    (Nat.le_add_left_of_le hn)

/-! ## What paths are resolved to -/

/-- A way on which every name leads down, and at none of which a link is seen. -/
structure LinkFree (t : Tree) (place : Place) : Prop where
  names : ∀ name ∈ place, Path.IsName name
  free : ∀ k name, k ++ [name] <+: place → t.linkAt? (k ++ [name]) = none

theorem linkFree_root (t : Tree) : t.LinkFree [] :=
  ⟨by simp, fun k name hk => absurd (List.prefix_nil.1 hk) (by simp)⟩

theorem LinkFree.of_prefix {above : Place} (h : t.LinkFree place) (habove : above <+: place) :
    t.LinkFree above :=
  ⟨fun name hname => h.names name (habove.subset hname),
    fun k name hk => h.free k name (hk.trans habove)⟩

/-- A name at which no link is seen keeps a way free of links. -/
theorem LinkFree.snoc (h : t.LinkFree place) (hname : Path.IsName name)
    (hnone : t.linkAt? (place ++ [name]) = none) : t.LinkFree (place ++ [name]) := by
  refine ⟨fun m hm => ?_, fun k m hk => ?_⟩
  · rcases List.mem_append.1 hm with hm | hm
    · exact h.names m hm
    · rwa [List.mem_singleton.1 hm]
  · rcases List.prefix_concat_iff.1 hk with heq | hk
    · rwa [heq]
    · exact h.free k m hk

/-- Names are resolved to a way free of links, if links are opened to such ways. -/
theorem LinkFree.resolveNames {follow : Place → String → Option Place}
    (hfollow : ∀ place target reached, t.LinkFree place → follow place target = some reached →
      t.LinkFree reached) {place reached : Place} (hplace : t.LinkFree place)
    (hwhole : ∀ name ∈ names, '/' ∉ name.toList)
    (h : t.resolveNames follow place names = some reached) : t.LinkFree reached := by
  induction names generalizing place with
  | nil =>
    cases h
    exact hplace
  | cons name rest ih =>
    have hrest : ∀ m ∈ rest, '/' ∉ m.toList := fun m hm => hwhole m (List.mem_cons_of_mem _ hm)
    unfold Tree.resolveNames at h
    by_cases hstill : name = "" ∨ name = "."
    · rw [if_pos hstill] at h
      exact ih hplace hrest h
    by_cases hdown : name = ".."
    · rw [if_neg hstill, if_pos hdown] at h
      exact ih (hplace.of_prefix (List.dropLast_prefix place)) hrest h
    rw [if_neg hstill, if_neg hdown] at h
    cases hlink : t.linkAt? (place ++ [name]) with
    | none =>
      rw [hlink] at h
      exact ih (hplace.snoc ⟨hstill, hdown, hwhole _ List.mem_cons_self⟩ hlink) hrest h
    | some target =>
      rw [hlink] at h
      obtain ⟨opened, hopened, h⟩ := Option.bind_eq_some_iff.1 h
      exact ih (hfollow place target opened hplace hopened) hrest h

theorem LinkFree.resolve {place reached : Place} (hplace : t.LinkFree place)
    (hwhole : ∀ name ∈ names, '/' ∉ name.toList) (h : t.resolve depth place names = some reached) :
    t.LinkFree reached := by
  induction depth generalizing place names reached with
  | zero => exact hplace.resolveNames (fun _ _ _ _ hopened => by cases hopened) hwhole h
  | succ depth ih =>
    refine hplace.resolveNames (fun place target reached hplace hopened => ?_) hwhole h
    refine ih ?_ (fun _ => not_mem_walkNames) hopened
    unfold Tree.start
    split
    · exact linkFree_root t
    · exact hplace

/-- What a path is resolved to is free of links. -/
theorem linkFree_of_resolved {path : String} (h : t.resolved path = some place) :
    t.LinkFree place :=
  (linkFree_root t).resolve (fun _ => not_mem_walkNames) h

/-- A walk along names at which no link is seen goes down by the names, if the system takes their
path. -/
theorem LinkFree.spot_eq {base : Place} {e : Entry}
    (hplace : t.LinkFree (base ++ names)) (hbase : t.Reached (.live base))
    (hpath : (Path.ofPlace (base ++ names)).text.utf8ByteSize < pathLimit)
    (h : Leads t .target n (.live base) names (.present q e)) : q = .live (base ++ names) := by
  induction names generalizing base with
  | nil =>
    cases h
    rw [List.append_nil]
  | cons name rest ih =>
    have hname := hplace.names name (by simp)
    have hbelow : base ++ name :: rest = base ++ [name] ++ rest := List.append_cons _ _ _
    cases h with
    | here hstill next => exact absurd hstill hname.still
    | up next => exact absurd rfl hname.down
    | into found next =>
      rw [hbelow] at hplace hpath ⊢
      exact ih hplace (hbase.into hname.whole found) hpath next
    | follow found hway next =>
      have hprefix : base ++ [name] <+: base ++ name :: rest := by
        rw [hbelow]
        exact List.prefix_append _ _
      have hsize : (Path.ofPlace (base ++ [name])).text.utf8ByteSize ≤
          (Path.ofPlace (base ++ name :: rest)).text.utf8ByteSize :=
        Path.size_text_le (by decide) hprefix.sublist
      have hshort := Nat.lt_of_le_of_lt hsize hpath
      cases (hplace.free base name hprefix).symm.trans
        (hbase.linkAt?_of_link hname.whole found hshort)
    | stop found hstops => rfl

/-- What stands at a resolved path stands at its place. -/
theorem LinkFree.status_eq {cwd : Spot} {e : Entry} (hplace : t.LinkFree place)
    (h : t.status cwd (Path.ofPlace place).text = .ok (q, e)) : q = .live place := by
  obtain ⟨hpath, n, -, hleads⟩ :=
    (find_ofPlace_eq_ok_iff (by decide) hplace.names).1 (status_eq_ok_iff.1 h)
  have hwhole : t.LinkFree ([] ++ place) := hplace
  exact hwhole.spot_eq (reached_root t) hpath hleads

end SorobanDeploy.Tree
