import SorobanDeploy.Proofs.Host.Refusals
import SorobanDeploy.Proofs.Host.Replaced

/-!
# A directory under its own path

A working directory stands where its path says if its names are names and everything on the way to
it is a directory (`Host.Stands`). The path of such a directory, if the system takes it, leads to
that directory and nowhere else, from wherever it is followed (`Host.Stands.status_eq`). The system
takes the path if it takes the names on it (`Host.Named`) and the path is not too long
(`Host.Stands.status`).
-/

namespace SorobanDeploy

namespace Text

/-- A text without separators is its only part. -/
theorem splitOn_of_not_mem {separator : Char} {l : List Char} (h : separator ∉ l) :
    splitOn separator l = [l] := by
  induction l with
  | nil => rfl
  | cons c l ih =>
    have hc : c ≠ separator := fun heq => h (heq ▸ List.mem_cons_self)
    have hl := ih fun hmem => h (List.mem_cons_of_mem _ hmem)
    simp only [splitOn, if_neg hc, hl]

/-- Up to the first separator a text is a part. -/
theorem splitOn_append_separator {separator : Char} {l : List Char} (h : separator ∉ l)
    (cs : List Char) : splitOn separator (l ++ separator :: cs) = l :: splitOn separator cs := by
  induction l with
  | nil => simp [splitOn]
  | cons c l ih =>
    have hc : c ≠ separator := fun heq => h (heq ▸ List.mem_cons_self)
    have hl := ih fun hmem => h (List.mem_cons_of_mem _ hmem)
    simp only [List.cons_append, splitOn, if_neg hc, hl]

/-- No part holds the separator. -/
theorem not_mem_of_mem_splitOn {separator : Char} {cs part : List Char}
    (h : part ∈ splitOn separator cs) : separator ∉ part := by
  induction cs generalizing part with
  | nil =>
    rw [List.mem_singleton.1 h]
    exact List.not_mem_nil
  | cons c cs ih =>
    rw [splitOn] at h
    by_cases hc : c = separator
    · rw [if_pos hc] at h
      rcases List.mem_cons.1 h with rfl | h
      · exact List.not_mem_nil
      · exact ih h
    · rw [if_neg hc] at h
      cases hparts : splitOn separator cs with
      | nil => exact absurd hparts (splitOn_ne_nil separator cs)
      | cons first parts =>
        rw [hparts] at h ih
        rcases List.mem_cons.1 h with rfl | h
        · intro hmem
          rcases List.mem_cons.1 hmem with heq | hmem
          · exact hc heq.symm
          · exact ih List.mem_cons_self hmem
        · exact ih (List.mem_cons_of_mem _ h)

/-- Parts without separators, once joined, are the parts of the text. -/
theorem splitOn_intercalate {separator : Char} {ls : List (List Char)} (hne : ls ≠ [])
    (h : ∀ l ∈ ls, separator ∉ l) : splitOn separator (List.intercalate [separator] ls) = ls := by
  induction ls with
  | nil => exact absurd rfl hne
  | cons l ls ih =>
    have hl := h l List.mem_cons_self
    cases ls with
    | nil =>
      rw [List.intercalate_singleton]
      exact splitOn_of_not_mem hl
    | cons m ls =>
      have hls := ih (by simp) fun k hk => h k (List.mem_cons_of_mem _ hk)
      rw [List.intercalate_cons_cons, List.append_assoc, List.singleton_append,
        splitOn_append_separator hl, hls]

end Text

/-- A name that can stand between the slashes of a path. -/
structure Path.IsPart (name : String) : Prop where
  some : name ≠ ""
  whole : '/' ∉ name.toList

/-- A name that leads down and nowhere else. -/
structure Path.IsName (name : String) : Prop where
  still : ¬(name = "" ∨ name = ".")
  down : name ≠ ".."
  whole : '/' ∉ name.toList

theorem Path.size_intercalate_cons (name : String) (names : List String) :
    ("/".intercalate (name :: names)).utf8ByteSize =
      name.utf8ByteSize + if names = [] then 0 else 1 + ("/".intercalate names).utf8ByteSize := by
  cases names with
  | nil => simp
  | cons a names =>
    have hslash : "/".utf8ByteSize = 1 := rfl
    rw [String.intercalate_cons_cons, String.utf8ByteSize_append, String.utf8ByteSize_append,
      hslash, if_neg (List.cons_ne_nil a names), Nat.add_assoc]

/-- More names make no shorter path. -/
theorem Path.size_text_le {root : PathRoot} (hroot : root ≠ .relative) {names more : List String}
    (h : List.Sublist names more) :
    (Path.mk root names).text.utf8ByteSize ≤ (Path.mk root more).text.utf8ByteSize := by
  have hjoined : ("/".intercalate names).utf8ByteSize ≤ ("/".intercalate more).utf8ByteSize := by
    induction h with
    | slnil => exact Nat.le_refl _
    | @cons names more a h ih =>
      rw [size_intercalate_cons a more]
      split
      · rename_i hnil
        subst hnil
        rw [List.sublist_nil.1 h]
        exact Nat.zero_le _
      · omega
    | @cons_cons names more a h ih =>
      rw [size_intercalate_cons, size_intercalate_cons]
      by_cases hnil : names = []
      · rw [if_pos hnil]
        exact Nat.le_add_right _ _
      · have hmore : more ≠ [] := by
          rintro rfl
          exact hnil (List.sublist_nil.1 h)
        rw [if_neg hnil, if_neg hmore]
        omega
  unfold Path.text
  rw [if_neg fun h => hroot h.1, if_neg fun h => hroot h.1, String.utf8ByteSize_append,
    String.utf8ByteSize_append]
  exact Nat.add_le_add_left hjoined _

theorem Path.IsName.isPart {name : String} (h : Path.IsName name) : Path.IsPart name :=
  ⟨fun hempty => h.still (.inl hempty), h.whole⟩

namespace Tree

/-- The characters of a path from the root. -/
theorem toList_text {p : Path} (hroot : p.root ≠ .relative) : p.text.toList =
    p.root.text.toList ++ List.intercalate ['/'] (p.names.map String.toList) := by
  unfold Path.text
  rw [if_neg fun h => hroot h.1]
  simp [String.toList_append, String.toList_intercalate]

/-- The parts of a path from the root are its names, behind the empty parts before the root. -/
theorem parts_text {p : Path} (hroot : p.root ≠ .relative) (hne : p.names ≠ [])
    (h : ∀ name ∈ p.names, Path.IsPart name) : ∃ front : List (List Char), (∀ l ∈ front, l = []) ∧
      Text.splitOn '/' p.text.toList = front ++ p.names.map String.toList := by
  have hwhole : ∀ l ∈ p.names.map String.toList, '/' ∉ l := by
    intro l hl
    obtain ⟨name, hname, rfl⟩ := List.mem_map.1 hl
    exact (h name hname).whole
  have hsplit := Text.splitOn_intercalate (by simpa using hne) hwhole
  have hslash : ∀ cs, Text.splitOn '/' ('/' :: cs) = [] :: Text.splitOn '/' cs :=
    Text.splitOn_append_separator List.not_mem_nil
  rw [toList_text hroot]
  cases hkind : p.root with
  | relative => exact absurd hkind hroot
  | single =>
    refine ⟨[[]], by simp, ?_⟩
    rw [show PathRoot.single.text.toList = ['/'] from rfl, List.singleton_append, hslash, hsplit]
    rfl
  | double =>
    refine ⟨[[], []], by simp, ?_⟩
    rw [show PathRoot.double.text.toList = ['/', '/'] from rfl, List.cons_append,
      List.singleton_append, hslash, hslash, hsplit]
    rfl

/-- A path from the root leads along its names. -/
theorem walkNames_text {p : Path} (hroot : p.root ≠ .relative)
    (h : ∀ name ∈ p.names, Path.IsPart name) : walkNames p.text = p.names := by
  by_cases hne : p.names = []
  · obtain ⟨root, names⟩ := p
    obtain rfl : names = [] := hne
    cases root with
    | relative => exact absurd rfl hroot
    | single => rfl
    | double => rfl
  have hfull : ∀ l ∈ p.names.map String.toList, l ≠ [] := by
    intro l hl
    obtain ⟨name, hname, rfl⟩ := List.mem_map.1 hl
    exact fun hnil => (h name hname).some (String.toList_eq_nil_iff.1 hnil)
  obtain ⟨front, hfront, hparts⟩ := parts_text hroot hne h
  have hnames : (front ++ p.names.map String.toList).filter (· ≠ []) =
      p.names.map String.toList := by
    rw [List.filter_append, List.filter_eq_nil_iff.2 fun l hl => by simpa using hfront l hl]
    exact List.filter_eq_self.2 fun l hl => by simpa using hfull l hl
  -- No name is empty, so the path does not end with a separator.
  have hlast : (front ++ p.names.map String.toList).getLast? ≠ some [] := by
    intro hnil
    rw [List.getLast?_append] at hnil
    cases hend : (p.names.map String.toList).getLast? with
    | none => exact hne (by simpa using hend)
    | some l =>
      rw [hend] at hnil
      exact hfull l (List.mem_of_getLast? hend) (Option.some.inj hnil)
  unfold walkNames
  rw [hparts]
  dsimp only
  rw [hnames, if_neg fun hslash => hlast hslash.1, List.map_map]
  simp

/-- A path from the root is walked along its names, if the system takes it. -/
theorem find_text {p : Path} (hroot : p.root ≠ .relative)
    (hparts : ∀ name ∈ p.names, Path.IsPart name) (hshort : p.text.utf8ByteSize < pathLimit)
    (t : Tree) (cwd : Spot) (aim : Aim) :
    t.find cwd aim p.text = walk t aim linkLimit (.live []) p.names := by
  have hhead := Path.head?_text hroot
  have hne : ¬p.text.isEmpty = true := by
    intro hempty
    rw [String.isEmpty_iff.1 hempty] at hhead
    cases hhead
  unfold find
  rw [if_neg hne, if_neg (Nat.not_le.2 hshort), start, if_pos hhead, walkNames_text hroot hparts]

section Paths

variable {t : Tree} {cwd : Spot} {aim : Aim} {goal : Goal}

/-- A path from the root leads to an end exactly if the system takes it and a derivation leads there
along its names. -/
theorem find_text_eq_ok_iff {p : Path} (haim : aim ≠ .file) (hroot : p.root ≠ .relative)
    (hparts : ∀ name ∈ p.names, Path.IsPart name) :
    t.find cwd aim p.text = .ok goal ↔
      p.text.utf8ByteSize < pathLimit ∧ ∃ n ≤ linkLimit, Leads t aim n (.live []) p.names goal := by
  constructor
  · intro h
    obtain ⟨⟨-, hshort⟩, n, hn, hleads⟩ := (find_eq_ok_iff haim).1 h
    rw [start, if_pos (Path.head?_text hroot), walkNames_text hroot hparts] at hleads
    exact ⟨Nat.not_le.1 hshort, n, hn, hleads⟩
  · rintro ⟨hshort, hleads⟩
    rw [find_text hroot hparts hshort]
    exact (walk_eq_ok_iff haim).2 hleads

/-- The path of a place leads along its names. -/
theorem find_ofPlace_eq_ok_iff {place : Place} (haim : aim ≠ .file)
    (hnames : ∀ name ∈ place, Path.IsName name) :
    t.find cwd aim (Path.ofPlace place).text = .ok goal ↔
      (Path.ofPlace place).text.utf8ByteSize < pathLimit ∧
        ∃ n ≤ linkLimit, Leads t aim n (.live []) place goal :=
  find_text_eq_ok_iff haim (by simp [Path.ofPlace]) fun name hname => (hnames name hname).isPart

end Paths

/-- Along directories a walk stays on its way. -/
theorem Leads.eq_of_directories {t : Tree} {n : Nat} {base place : Place} {goal : Goal}
    (h : Leads t .target n (.live base) place goal) (hnames : ∀ name ∈ place, Path.IsName name)
    (hdirectories : ∀ k name, k ++ [name] <+: place →
      Pairs.get? (base ++ (k ++ [name])) t = some .directory) :
    goal = .present (.live (base ++ place)) .directory := by
  induction place generalizing base with
  | nil =>
    cases h
    rw [List.append_nil]
  | cons name rest ih =>
    have hname := hnames name List.mem_cons_self
    have hentry : Pairs.get? (base ++ [name]) t = some .directory :=
      hdirectories [] name (by simp)
    cases h with
    | here hstill next => exact absurd hstill hname.still
    | up next => exact absurd rfl hname.down
    | into found next =>
      have hnext := ih next (fun m hm => hnames m (List.mem_cons_of_mem _ hm)) fun k m hk => by
        have hdirectory := hdirectories (name :: k) m (by simpa using hk)
        simpa [Spot.live] using hdirectory
      simpa [Spot.live] using hnext
    | follow found hway next => cases hentry.symm.trans found.found
    | stop found hstops =>
      cases hentry.symm.trans found.found
      exact absurd rfl hstops.1
    | missing found => cases hentry.symm.trans found.found

/-- Along directories there is a walk to what a walk from their end leads to. -/
theorem Leads.of_directories {t : Tree} {aim : Aim} {n : Nat} {base place : Place}
    {rest : List String} {goal : Goal} (hnames : ∀ name ∈ place, Path.IsName name)
    (hshort : ∀ name ∈ place, name.utf8ByteSize ≤ nameLimit)
    (hdirectories : ∀ k name, k ++ [name] <+: place →
      Pairs.get? (base ++ (k ++ [name])) t = some .directory)
    (h : Leads t aim n (.live (base ++ place)) rest goal) :
    Leads t aim n (.live base) (place ++ rest) goal := by
  induction place generalizing base with
  | nil => rwa [List.append_nil] at h
  | cons name place ih =>
    have hname := hnames name List.mem_cons_self
    have hlooks : Looks t (.live base) name (some .directory) :=
      ⟨hname.still, hname.down, rfl, Nat.not_lt.2 (hshort name List.mem_cons_self),
        hdirectories [] name (by simp)⟩
    have hbelow : ∀ k m, k ++ [m] <+: place →
        Pairs.get? (base ++ [name] ++ (k ++ [m])) t = some .directory := by
      intro k m hk
      have hdirectory := hdirectories (name :: k) m (by simpa using hk)
      simpa using hdirectory
    rw [List.append_cons] at h
    exact .into hlooks (ih (fun m hm => hnames m (List.mem_cons_of_mem _ hm))
      (fun m hm => hshort m (List.mem_cons_of_mem _ hm)) hbelow h)

/-- Everything on the way to a place is a directory with a name. -/
structure Stands (t : Tree) (place : Place) : Prop where
  names : ∀ name ∈ place, Path.IsName name
  directories : ∀ k name, k ++ [name] <+: place → Pairs.get? (k ++ [name]) t = some .directory

/-- The root stands. -/
theorem stands_nil (t : Tree) : t.Stands [] :=
  ⟨by simp, fun k name hk => absurd (List.prefix_nil.1 hk) (by simp)⟩

/-- A prefix of the way to a place is such a way. -/
theorem Stands.of_prefix {t : Tree} {place above : Place} (h : t.Stands place)
    (habove : above <+: place) : t.Stands above :=
  ⟨fun name hname => h.names name (habove.subset hname),
    fun k name hk => h.directories k name (hk.trans habove)⟩

/-- A directory in one that stands does. -/
theorem Stands.snoc {t : Tree} {place : Place} {name : String} (h : t.Stands place)
    (hname : Path.IsName name) (hentry : Pairs.get? (place ++ [name]) t = some .directory) :
    t.Stands (place ++ [name]) := by
  refine ⟨fun m hm => ?_, fun k m hk => ?_⟩
  · rcases List.mem_append.1 hm with hm | hm
    · exact h.names m hm
    · rwa [List.mem_singleton.1 hm]
  · rcases List.prefix_concat_iff.1 hk with heq | hk
    · rwa [heq]
    · exact h.directories k m hk

/-- No name on the way of a path holds a separator. -/
theorem not_mem_walkNames {path name : String} (h : name ∈ walkNames path) :
    '/' ∉ name.toList := by
  have hparts : ∀ part ∈ Text.splitOn '/' path.toList, '/' ∉ part :=
    fun part hpart => Text.not_mem_of_mem_splitOn hpart
  unfold walkNames at h
  obtain ⟨part, hpart, rfl⟩ := List.mem_map.1 h
  rw [String.toList_ofList]
  split at hpart
  · rcases List.mem_append.1 hpart with hpart | hpart
    · exact hparts part (List.mem_filter.1 hpart).1
    · rw [List.mem_singleton.1 hpart]
      exact List.not_mem_nil
  · exact hparts part (List.mem_filter.1 hpart).1

section Reached

variable {t : Tree} {aim : Aim} {n : Nat} {s q : Spot} {name : String} {names : List String}
  {goal : Goal}

/-- A directory that is still there, on whose way every name is that of a directory and one that the
system takes. -/
structure Reached (t : Tree) (s : Spot) : Prop where
  live : s.lost = 0
  stands : t.Stands s.place
  short : ∀ name ∈ s.place, name.utf8ByteSize ≤ nameLimit

theorem reached_root (t : Tree) : t.Reached (.live []) :=
  ⟨rfl, stands_nil t, by simp [Spot.live]⟩

theorem Reached.spot_eq (h : t.Reached s) : s = .live s.place := by
  rw [Spot.live, ← h.live]

/-- A walk from a directory that is reached is one from the root, behind the names on the way. -/
theorem Reached.leads (hs : t.Reached s) (h : Leads t aim n s names goal) :
    Leads t aim n (.live []) (s.place ++ names) goal := by
  refine .of_directories hs.stands.names hs.short hs.stands.directories ?_
  rwa [List.nil_append, ← hs.spot_eq]

theorem Reached.parent (h : t.Reached s) : t.Reached s.parent := by
  obtain ⟨place, lost⟩ := s
  obtain rfl : lost = 0 := h.live
  exact ⟨rfl, h.stands.of_prefix (List.dropLast_prefix place),
    fun name hname => h.short name (List.dropLast_subset place hname)⟩

/-- Where a link in a directory starts. -/
theorem Reached.start (h : t.Reached s) (target : String) : t.Reached (start s target) := by
  unfold Tree.start
  split
  · exact reached_root t
  · exact h

/-- A directory under a name is reached from the directory that it is in. -/
theorem Reached.into (h : t.Reached s) (hwhole : '/' ∉ name.toList)
    (found : Looks t s name (some .directory)) : t.Reached (.live (s.place ++ [name])) := by
  refine ⟨rfl, h.stands.snoc ⟨found.still, found.down, hwhole⟩ found.found, fun m hm => ?_⟩
  rcases List.mem_append.1 hm with hm | hm
  · exact h.short m hm
  · rw [List.mem_singleton.1 hm]
    exact Nat.not_lt.1 found.short

/-- A walk from a directory that is reached reaches the directory at its end. -/
theorem Leads.reached (h : Leads t aim n s names (.present q .directory)) (hs : t.Reached s)
    (hwhole : ∀ name ∈ names, '/' ∉ name.toList) : t.Reached q := by
  generalize hgoal : Goal.present q .directory = goal at h
  induction h with
  | stay =>
    cases hgoal
    exact hs
  | here hname next ih =>
    exact ih hs (fun m hm => hwhole m (List.mem_cons_of_mem _ hm)) hgoal
  | up next ih =>
    exact ih hs.parent (fun m hm => hwhole m (List.mem_cons_of_mem _ hm)) hgoal
  | into found next ih =>
    exact ih (hs.into (hwhole _ List.mem_cons_self) found)
      (fun m hm => hwhole m (List.mem_cons_of_mem _ hm)) hgoal
  | @follow n s name target rest goal found hway next ih =>
    refine ih (hs.start target) (fun m hm => ?_) hgoal
    rcases List.mem_append.1 hm with hm | hm
    · exact not_mem_walkNames hm
    · exact hwhole m (List.mem_cons_of_mem _ hm)
  | stop found hstops =>
    cases hgoal
    exact absurd rfl hstops.1
  | missing found => cases hgoal

end Reached

/-- A path from the root to a directory leads to one that stands. -/
theorem stands_of_status {t : Tree} {cwd q : Spot} {path : String}
    (hroot : path.toList.head? = some '/') (h : t.status cwd path = .ok (q, .directory)) :
    t.Stands q.place := by
  obtain ⟨-, n, -, hleads⟩ := (find_eq_ok_iff (by decide)).1 (status_eq_ok_iff.1 h)
  rw [start, if_pos hroot] at hleads
  exact (hleads.reached (reached_root t) fun _ => not_mem_walkNames).stands

end Tree

variable {σ : Type}

/-- The working directory stands where its path says. -/
structure Host.Stands (h : Host σ) : Prop where
  names : ∀ name ∈ h.cwd.place, Path.IsName name
  /-- Everything on the way is a directory. -/
  directories : ∀ k name, k ++ [name] <+: h.cwd.place →
    Pairs.get? (k ++ [name]) h.tree = some .directory

/-- The path of a directory that stands where it says leads to that directory only. -/
theorem Host.Stands.status_eq {h : Host σ} (hstands : h.Stands) {dir q : Spot} {e : Entry}
    (hstatus : h.tree.status dir (Path.ofPlace h.cwd.place).text = .ok (q, e)) :
    q = .live h.cwd.place ∧ e = .directory := by
  obtain ⟨-, n, -, hleads⟩ := (Tree.find_ofPlace_eq_ok_iff (by decide) hstands.names).1
    (Tree.status_eq_ok_iff.1 hstatus)
  have hgoal := hleads.eq_of_directories hstands.names fun k name hk =>
    hstands.directories k name hk
  cases hgoal
  exact ⟨rfl, rfl⟩

/-- The names of the working directory are names that the system takes. -/
structure Host.Named (h : Host σ) : Prop where
  short : ∀ name ∈ h.cwd.place, name.utf8ByteSize ≤ Tree.nameLimit
  clean : ∀ name ∈ h.cwd.place, Files.hasNul name = false

/-- A path of names that the system takes has no NUL character. -/
theorem Path.hasNul_ofPlace {place : Place} (h : ∀ name ∈ place, Files.hasNul name = false) :
    Files.hasNul (Path.ofPlace place).text = false :=
  (hasNul_text_eq_false_iff _).2 h

/-- The path of a directory that stands where it says leads there, if the system takes it. -/
theorem Host.Stands.status {h : Host σ} (hstands : h.Stands) (hnamed : h.Named)
    (hpath : (Path.ofPlace h.cwd.place).text.utf8ByteSize < Tree.pathLimit) (dir : Spot) :
    h.tree.status dir (Path.ofPlace h.cwd.place).text = .ok (.live h.cwd.place, .directory) := by
  have hleads : Tree.Leads h.tree .target 0 (.live []) (h.cwd.place ++ [])
      (.present (.live h.cwd.place) .directory) :=
    .of_directories hstands.names hnamed.short hstands.directories .stay
  rw [List.append_nil] at hleads
  exact Tree.status_eq_ok_iff.2 ((Tree.find_ofPlace_eq_ok_iff (by decide) hstands.names).2
    ⟨hpath, 0, Nat.zero_le _, hleads⟩)

end SorobanDeploy
