import SorobanDeploy.Proofs.Host.Search

/-!
# Paths that are too long

The system takes a path of fewer octets than `Tree.pathLimit`, and on it names of at most
`Tree.nameLimit` octets. It refuses a look at a path for its length only if the path is longer, or a
name on it, or a name in a link of the tree (`Tree.long_of_status`). A single name that is too long
is always refused in a directory that stands (`Tree.status_of_longName`). Every other refusal means
that nothing stands at the path (`Tree.status_refused`).
-/

namespace SorobanDeploy

/-- A name is a single part, and not an empty one. -/
theorem Path.IsName.single {name : String} (h : IsName name) :
    Text.splitOn '/' name.toList = [name.toList] ∧ name.toList ≠ [] :=
  ⟨Text.splitOn_of_not_mem h.whole, fun hnil => h.still (.inl (String.toList_eq_nil_iff.1 hnil))⟩

/-- A name writes the path of that name, which has it as its text. -/
theorem Path.text_ofText_of_name {name : String} (h : IsName name) : (ofText name).text = name := by
  obtain ⟨hsplit, hne⟩ := h.single
  have hpoint : name.toList ≠ ['.'] := fun hlist => h.still (.inr (String.toList_inj.1 hlist))
  have hroot : rootOf name.toList = .relative := by
    cases hlist : name.toList with
    | nil => rfl
    | cons c cs =>
      have hc : c ≠ '/' := fun heq => h.whole (by rw [hlist, heq]; exact List.mem_cons_self)
      simp [rootOf, hc]
  have hpath : ofText name = ⟨.relative, [name]⟩ := by
    unfold ofText
    simp [hsplit, hne, hpoint, hroot]
  rw [hpath, text, if_neg (by simp), PathRoot.text, String.intercalate_singleton,
    String.empty_append]

namespace Tree

variable {t : Tree} {s : Spot} {names : List String}

/-- A name that is longer than the system takes. -/
def LongName (name : String) : Prop := nameLimit < name.utf8ByteSize

/-- A link of the tree holds a name that is longer than the system takes. -/
def HasLongLink (t : Tree) : Prop :=
  ∃ place target, (place, .link target) ∈ t ∧ ∃ name ∈ walkNames target, LongName name

/-- What stands under a name is an entry of the tree. -/
theorem mem_of_child? {name : String} {e : Entry} (h : t.child? s name = some e) :
    ∃ place, (place, e) ∈ t := by
  unfold child? at h
  split at h
  · exact ⟨_, Pairs.mem_of_get? h⟩
  · cases h

/-- A way is refused for the length of one of its names. -/
theorem long_of_advance (h : advance t .target s names = .refused .nameTooLong) :
    ∃ name ∈ names, LongName name := by
  fun_induction advance t .target s names with
  | case6 s name rest hstill hdown hslash hlive hlong => exact ⟨name, List.mem_cons_self, hlong⟩
  | _ => simp_all

/-- The link that a way comes to is one of the tree, and the names behind it are on the way. -/
theorem link_of_advance {dir : Spot} {target : String} {rest : List String}
    (h : advance t .target s names = .through dir target rest) :
    rest ⊆ names ∧ ∃ place, (place, .link target) ∈ t := by
  fun_induction advance t .target s names with
  | case11 s name rest hstill hdown hslash hlive hshort target hchild hway =>
    cases h
    exact ⟨List.subset_cons_self _ _, mem_of_child? hchild⟩
  | _ => simp_all

/-- A walk is refused for the length of one of its names, or of a name that a link of the tree
holds. -/
theorem long_of_walk {limit : Nat} (h : walk t .target limit s names = .error .nameTooLong) :
    (∃ name ∈ names, LongName name) ∨ t.HasLongLink := by
  fun_induction walk t .target limit s names with
  | case1 limit s names goal hstage => cases h
  | case2 limit s names r hstage =>
    cases h
    exact .inl (long_of_advance hstage)
  | case3 s names dir target rest hstage => cases h
  | case4 s names dir target rest hstage limit ih =>
    -- Behind a link the walk goes along the names that it holds, and then along the way again.
    obtain ⟨hrest, place, hlink⟩ := link_of_advance hstage
    rcases ih h with ⟨name, hname, hlong⟩ | hlinks
    · rcases List.mem_append.1 hname with htarget | hname
      · exact .inr ⟨place, target, hlink, name, htarget, hlong⟩
      · exact .inl ⟨name, hrest hname, hlong⟩
    · exact .inr hlinks

/-- A look at a path is refused for its length only if the path is too long, or one of the names on
it, or one that a link of the tree holds. -/
theorem long_of_status {cwd : Spot} {path : String}
    (h : t.status cwd path = .error .nameTooLong) :
    pathLimit ≤ path.utf8ByteSize ∨ (∃ name ∈ walkNames path, LongName name) ∨ t.HasLongLink := by
  unfold status find at h
  split at h
  · cases h
  · cases h
  · rename_i hfind
    split at hfind
    · cases hfind
      cases h
    · split at hfind
      · rename_i hlong
        exact .inl hlong
      · cases h
        exact .inr (long_of_walk hfind)

/-- A name as a path is one name, seen from the working directory. -/
theorem walkNames_of_name {name : String} (h : Path.IsName name) : walkNames name = [name] := by
  obtain ⟨hsplit, hne⟩ := h.single
  unfold walkNames
  simp [hsplit, hne]

/-- A name that is too long is refused in every directory that stands. -/
theorem status_of_longName {cwd : Spot} {name : String} (h : Path.IsName name)
    (hlong : LongName name) (hlive : cwd.lost = 0) : t.status cwd name = .error .nameTooLong := by
  by_cases hpath : pathLimit ≤ name.utf8ByteSize
  · exact status_of_long t cwd hpath
  · have hne : ¬name.isEmpty = true := fun hempty => h.still (.inl (String.isEmpty_iff.1 hempty))
    have hstart : start cwd name = cwd := by
      unfold start
      rw [if_neg fun hhead => h.whole (List.mem_of_head? hhead)]
    have hway : advance t .target cwd [name] = .refused .nameTooLong := by
      unfold advance
      rw [if_neg h.still, if_neg h.down, if_neg (by simp), if_neg (by simp [hlive])]
      exact if_pos hlong
    unfold status find
    rw [if_neg hne, if_neg hpath, hstart, walkNames_of_name h, walk_of_refused hway]

end Tree

end SorobanDeploy
