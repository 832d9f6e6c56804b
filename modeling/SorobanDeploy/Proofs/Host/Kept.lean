import SorobanDeploy.Proofs.StateFile.Store

/-!
# What a failed saving leaves

Making directories and empty files only adds entries to a tree, since what is made takes a place
where nothing stood (`Tree.Extends`), and the path that it was made for leads to it
(`Tree.Gains`). A file that cannot be replaced leaves nothing behind: the new file beside it is
removed again (`Files.replace_restores`). So a saving that fails leaves every entry as it was, and
adds no more than the directories above the state file and that file itself, empty
(`StateFile.upsert_fails_clean`).
-/

namespace SorobanDeploy

open Act

variable {σ : Type}

namespace Tree

variable {t u v : Tree} {cwd s : Spot} {names : List String} {path : String} {goal : Goal}
  {place : Place} {e : Entry}

/-- Every entry of a tree is in another one. -/
def Extends (t u : Tree) : Prop := ∀ k e, Pairs.get? k t = some e → Pairs.get? k u = some e

theorem Extends.refl (t : Tree) : Extends t t := fun _ _ h => h

theorem Extends.trans (h : Extends t u) (g : Extends u v) : Extends t v :=
  fun k e hk => g k e (h k e hk)

/-- An entry where nothing stood is added. -/
theorem extends_assign (hnew : Pairs.get? place t = none) (e : Entry) :
    Extends t (t.assign place e) := by
  intro k f hf
  rw [Pairs.get?_assign, if_neg, hf]
  rintro rfl
  cases hnew.symm.trans hf

/-- An entry where nothing stood is put and taken away again. -/
theorem get?_erase_assign (hnew : Pairs.get? place t = none) (e : Entry) (k : Place) :
    Pairs.get? k (Pairs.erase place (t.assign place e)) = Pairs.get? k t := by
  rw [Pairs.get?_erase, Pairs.get?_assign]
  by_cases hk : place = k
  · rw [if_pos hk, ← hk, hnew]
  · rw [if_neg hk, if_neg hk]

/-- A tree has one new entry, and a path leads to it. -/
def Gains (t u : Tree) (cwd : Spot) (path : String) (e : Entry) : Prop :=
  ∃ place, Pairs.get? place t = none ∧ u = t.assign place e ∧
    u.status cwd path = .ok (.live place, e)

theorem Gains.extends (h : Gains t u cwd path e) : Extends t u := by
  obtain ⟨place, hnew, rfl, -⟩ := h
  exact extends_assign hnew e

/-- What is put where a path ends at nothing is what the path ends at from then on, if a walk can
end at it. -/
theorem find_of_assign {aim aim' : Aim} (haim : aim ≠ .file) (haim' : aim' ≠ .file)
    (hentry : aim' = .entry → aim = .entry) {dir : Place} {name : String}
    (he : e = .directory ∨ e.Stops aim') (h : t.find cwd aim path = .ok (.absent dir name)) :
    find (t.assign (dir ++ [name]) e) cwd aim' path =
      .ok (.present (.live (dir ++ [name])) e) := by
  obtain ⟨haccepts, n, hn, hleads⟩ := (find_eq_ok_iff haim).1 h
  exact (find_eq_ok_iff haim').2 ⟨haccepts, n, hn, hleads.made hentry he⟩

/-- What is put where a path ends at nothing is gained, if a walk can end at it. -/
theorem gains_of_find {aim : Aim} (haim : aim ≠ .file) {dir : Place} {name : String}
    (he : e = .directory ∨ e.Stops .target)
    (h : t.find cwd aim path = .ok (.absent dir name)) :
    Gains t (t.assign (dir ++ [name]) e) cwd path e := by
  have hfind : find (t.assign (dir ++ [name]) e) cwd .target path =
      .ok (.present (.live (dir ++ [name])) e) := find_of_assign haim (by decide) (by simp) he h
  exact ⟨dir ++ [name], get?_of_find haim h, rfl, status_eq_ok_iff.2 hfind⟩

/-- A file that is made is empty, and the path leads to it. -/
theorem gains_touch (h : t.touch cwd path = .ok u) : u = t ∨ Gains t u cwd path (.file []) := by
  unfold touch at h
  split at h
  · cases h
  · cases h
    exact .inl rfl
  · rename_i dir name hfind
    cases h
    have hstops : Entry.Stops .target (.file []) := ⟨by simp, by simp⟩
    exact .inr (gains_of_find (by decide) (.inr hstops) (find_of_file hfind))
  · cases h

/-- The path of a directory that is made leads to it. -/
theorem gains_makeDirectory (h : t.makeDirectory cwd path = .ok u) :
    Gains t u cwd path .directory := by
  unfold makeDirectory at h
  split at h
  · cases h
  · rename_i dir name hfind
    cases h
    exact gains_of_find (by decide) (.inl rfl) hfind
  · cases h

/-- Where a path leads to something, it leads to the same in a tree with more entries. -/
theorem Extends.status {q : Spot} (h : Extends t u) (hleads : t.status cwd path = .ok (q, e)) :
    u.status cwd path = .ok (q, e) := by
  obtain ⟨haccepts, n, hn, hwalk⟩ := (find_eq_ok_iff (by decide)).1 (status_eq_ok_iff.1 hleads)
  exact status_eq_ok_iff.2 ((find_eq_ok_iff (by decide)).2 ⟨haccepts, n, hn, hwalk.mono h⟩)

end Tree

/-- A way on which every entry stays. -/
def KeepsEntries (s t : Session σ) : Prop := s.host.tree.Extends t.host.tree

theorem isWay_keepsEntries : IsWay (σ := σ) KeepsEntries :=
  ⟨fun s => .refl s.host.tree, fun h g => h.trans g⟩

/-- A way on which nothing of the host changes but the tree. -/
theorem isWay_treeOnly :
    IsWay (σ := σ) fun s t => t.host = { s.host with tree := t.host.tree } where
  refl s := rfl
  trans h g := by
    rw [h] at g
    exact g

/-! ## What saving may make -/

namespace StateFile

variable {path : Path}

/-- What saving makes at a place before it replaces the state file: a directory above the file, or
the file itself, empty. A link at the path is followed. -/
inductive Made (path : Path) (cwd : Spot) (t : Tree) (place : Place) : Entry → Prop where
  | directory {above : List String} (habove : above <+: path.parent.names)
      (hleads : t.status cwd (Path.mk path.root above).text = .ok (.live place, .directory)) :
      Made path cwd t place .directory
  | file (hleads : t.status cwd path.text = .ok (.live place, .file [])) :
      Made path cwd t place (.file [])

/-- What was made stays made as the tree grows. -/
theorem Made.mono {cwd : Spot} {t u : Tree} {place : Place} {e : Entry}
    (h : Made path cwd t place e) (hkept : t.Extends u) : Made path cwd u place e := by
  cases h with
  | directory habove hleads => exact .directory habove (hkept.status hleads)
  | file hleads => exact .file (hkept.status hleads)

/-- Only one file is made. -/
theorem Made.unique {cwd : Spot} {t : Tree} {place place' : Place} {c c' : Text.Octets}
    (h : Made path cwd t place (.file c)) (h' : Made path cwd t place' (.file c')) :
    place = place' := by
  cases h with
  | file hleads =>
    cases h' with
    | file hleads' =>
      cases hleads.symm.trans hleads'
      rfl

/-- A way on which the tree only grows, by what saving makes. -/
structure Grown (path : Path) (s t : Session σ) : Prop where
  host : t.host = { s.host with tree := t.host.tree }
  kept : KeepsEntries s t
  made : ∀ place e, Pairs.get? place t.host.tree = some e →
    Pairs.get? place s.host.tree = some e ∨ Made path s.host.cwd t.host.tree place e

theorem isWay_grown : IsWay (σ := σ) (Grown path) where
  refl s := ⟨rfl, .refl _, fun _ _ he => .inl he⟩
  trans {s t u} h g := by
    refine ⟨isWay_treeOnly.trans h.host g.host, h.kept.trans g.kept, fun place e he => ?_⟩
    have hcwd : t.host.cwd = s.host.cwd := by rw [h.host]
    rcases g.made place e he with hbefore | hmade
    · exact (h.made place e hbefore).imp_right fun hmade => hmade.mono g.kept
    · exact .inr (hcwd ▸ hmade)

/-- Where every place holds what it held, nothing has grown. -/
theorem Grown.of_same {s t : Session σ} (hhost : t.host = { s.host with tree := t.host.tree })
    (hsame : ∀ place, Pairs.get? place t.host.tree = Pairs.get? place s.host.tree) :
    Grown path s t :=
  ⟨hhost, fun place _ he => (hsame place).trans he, fun place _ he => .inl (hsame place ▸ he)⟩

/-- One new entry that is made for saving lets a tree grow. -/
theorem Grown.of_gains {s : Session σ} {u : Tree} {text : String} {e : Entry}
    (h : s.host.tree.Gains u s.host.cwd text e)
    (hmade : ∀ place, u.status s.host.cwd text = .ok (.live place, e) →
      Made path s.host.cwd u place e) :
    Grown path s ((setTree u : Act σ Unit).after s) := by
  refine ⟨rfl, h.extends, fun k f hf => ?_⟩
  obtain ⟨place, -, rfl, hleads⟩ := h
  change Pairs.get? k (s.host.tree.assign place e) = some f at hf
  rw [Pairs.get?_assign] at hf
  by_cases hk : place = k
  · rw [if_pos hk] at hf
    cases hf
    subst hk
    exact .inr (hmade place hleads)
  · rw [if_neg hk] at hf
    exact .inl hf

end StateFile

namespace Files

variable {R : Session σ → Session σ → Prop}

/-- Taking the tree that a request gives as the new one goes along every way that the change
does. -/
theorem request_setTree_along (hR : IsWay R) {path : String}
    {answer : Host σ → Except Refusal Tree}
    (hstep : ∀ s t, answer s.host = .ok t → R s ((setTree t : Act σ Unit).after s)) :
    (request path answer >>= setTree).Along R := by
  intro s
  rw [after_bind, request_reads]
  cases hrequest : (request path answer).result s with
  | error e => exact hR.refl s
  | ok t => exact hstep s t (result_request_eq_ok_iff.1 hrequest).2

/-- A file that cannot be moved stays where it is. -/
theorem after_move_of_error {source : Place} {shown path : String} {s : Session σ} {e : Failure}
    (h : (move source shown path).result s = .error e) :
    (move source shown path).after s = s := by
  unfold move at h ⊢
  rw [result_host_bind] at h
  rw [after_host_bind]
  cases hfault : s.host.renameFault with
  | some e => rfl
  | none =>
    simp only [hfault] at h ⊢
    cases hplace : s.host.tree.movePlace s.host.cwd path with
    | error r => rfl
    | ok target =>
      cases hentry : Pairs.get? source s.host.tree with
      | none => rfl
      | some entry =>
        simp only [hplace, hentry] at h
        cases h

/-- A file that cannot be replaced leaves at every place what was there. -/
theorem replace_restores {path : Path} {content : Text.Octets} {s : Session σ} {e : Failure}
    (h : (replace path content).result s = .error e) (k : Place) :
    Pairs.get? k ((replace path content).after s).host.tree = Pairs.get? k s.host.tree := by
  rw [replace_eq] at h ⊢
  rw [after_bind, beside_reads]
  cases hnew : (beside path).result s with
  | error d => rfl
  | ok new =>
    rw [result_bind_of_ok _ hnew, beside_reads, result_host_bind] at h
    simp only
    rw [after_host_bind]
    have hfree := get?_of_beside hnew
    have hwritten : (setTree (s.host.tree.assign new.1 (.file content)) : Act σ Unit).result s =
        .ok () := rfl
    rw [result_bind_of_ok _ hwritten] at h
    rw [after_bind_of_ok _ hwritten, after_onFailure]
    rw [result_onFailure] at h
    have htree : ((setTree (s.host.tree.assign new.1 (.file content)) :
        Act σ Unit).after s).host.tree = s.host.tree.assign new.1 (.file content) := rfl
    generalize (setTree (s.host.tree.assign new.1 (.file content)) : Act σ Unit).after s = w
      at h htree ⊢
    cases hmove : (move new.1 new.2 path.text).result w with
    | ok _ => rw [hmove] at h; cases h
    | error d =>
      simp only
      rw [after_move_of_error hmove]
      -- The new file is taken away again, and nothing stood in its place before.
      change Pairs.get? k (Pairs.erase new.1 w.host.tree) = _
      rw [htree]
      exact Tree.get?_erase_assign hfree _ k

end Files

/-! ## Savings that fail -/

namespace StateFile

variable {path : Path} {values : Pairs String String} {s t : Session σ} {e : Failure}

/-- A directory above the state file lets the tree grow. -/
theorem makeDirectory_grown {above : List String} (habove : above <+: path.parent.names) :
    (Files.makeDirectory (Path.mk path.root above).text : Act σ Unit).Along (Grown path) :=
  Files.request_setTree_along isWay_grown fun _ _ h =>
    .of_gains (Tree.gains_makeDirectory h) fun _ hleads => .directory habove hleads

/-- An empty state file lets the tree grow. -/
theorem touch_grown : (Files.touch path.text : Act σ Unit).Along (Grown path) := by
  unfold Files.touch
  split
  · exact .fail isWay_grown _
  · refine .bind isWay_grown (.host isWay_grown) fun h => ?_
    split
    · exact .pure isWay_grown _
    · refine Files.request_setTree_along isWay_grown fun s u hu => ?_
      rcases Tree.gains_touch hu with rfl | hgains
      · exact .of_same rfl fun _ => rfl
      · exact .of_gains hgains fun _ hleads => .file hleads

/-- Finding the text to start from makes what is missing, and nothing else. -/
theorem found_grown : (found path : Act σ (List Char)).Along (Grown path) :=
  .bind isWay_grown
    (ensure_along_each isWay_grown path (fun _ habove => makeDirectory_grown habove) touch_grown)
    fun _ => .of_reads isWay_grown (Files.readText_reads _)

/-- A saving that fails leaves at every place what was there when it had found its text. -/
theorem upsert_restores (h : (upsert path values).result s = .error e) (k : Place) :
    Pairs.get? k ((upsert path values).after s).host.tree =
      Pairs.get? k ((found path).after s).host.tree := by
  rw [upsert_eq] at h ⊢
  rw [after_bind]
  cases hfound : (found path).result s with
  | error d => rfl
  | ok old =>
    rw [result_bind_of_ok _ hfound] at h
    simp only
    rw [after_bind]
    cases hreplace : (Files.replace path (Text.Utf8.encode (updated old values))).result
        ((found path).after s) with
    | error d => exact Files.replace_restores hreplace k
    | ok _ =>
      rw [result_bind_of_ok _ hreplace] at h
      cases h

/-- A saving that fails lets the tree grow by what it made, and changes nothing else. -/
theorem upsert_grown (h : (upsert path values).result s = .error e) :
    Grown path s ((upsert path values).after s) := by
  have htree := upsert_along isWay_treeOnly (fun _ _ => rfl) (fun _ _ _ _ => rfl) path values s
  refine isWay_grown.trans (found_grown s) (.of_same ?_ (upsert_restores h))
  have hfound : ((found path).after s).host =
      { s.host with tree := ((found path).after s).host.tree } := (found_grown s).host
  rw [hfound]
  exact htree

/-- A saving that fails leaves every entry as it was. -/
theorem upsert_keeps (h : (upsert path values).result s = .error e) :
    KeepsEntries s ((upsert path values).after s) := (upsert_grown h).kept

/-- A saving that fails, for whatever reason, leaves every entry and the rest of the host as they
were. What is new is a directory above the state file, or the one empty file that the path leads
to; where the new content was written before it could take its place, nothing stands. -/
theorem upsert_fails_clean (h : upsert path values s = .error e t) :
    Grown path s t ∧
      (∀ place place' c c', Pairs.get? place s.host.tree = none →
        Pairs.get? place' s.host.tree = none → Pairs.get? place t.host.tree = some (.file c) →
        Pairs.get? place' t.host.tree = some (.file c') → place = place' ∧ c = []) ∧
      ∀ new, (Files.beside path).result ((found path).after s) = .ok new →
        Pairs.get? new.1 t.host.tree = none := by
  obtain ⟨hfails, rfl⟩ := (eq_error_iff _ _ _ _).1 h
  have hgrown := upsert_grown hfails
  have hmade {place : Place} {c : Text.Octets} (hnew : Pairs.get? place s.host.tree = none)
      (hthere : Pairs.get? place ((upsert path values).after s).host.tree = some (.file c)) :
      Made path s.host.cwd ((upsert path values).after s).host.tree place (.file c) := by
    refine (hgrown.made place _ hthere).resolve_left fun hold => ?_
    cases hnew.symm.trans hold
  refine ⟨hgrown, fun place place' c c' hnew hnew' hthere hthere' => ?_, fun new hnew => ?_⟩
  · have hfile := hmade hnew hthere
    refine ⟨hfile.unique (hmade hnew' hthere'), ?_⟩
    cases hfile
    rfl
  · rw [upsert_restores hfails]
    exact Files.get?_of_beside hnew

/-- A host that does not rename, with a link into a directory that is missing a file. -/
def unrenamingHost : Host Unit where
  tree := [(["app"], .directory), (["app", "state"], .link "store"), (["app", "store"], .directory)]
  cwd := .live ["app"]
  env := []
  renameFault := some (.plain .system "[Errno 5] Input/output error")
  outside := ()

/-- Where the system does not rename, saving leaves the directories and the empty file that it made
behind the link, and nothing beside them. -/
theorem unrenamed_leaves : ∃ e t,
    upsert (.ofText "state/main/.env") [("A_CONTRACT_ID", "CAFE")] ⟨unrenamingHost, []⟩ =
      .error e t ∧
    t.host.tree = unrenamingHost.tree ++ [(["app", "store", "main"], .directory),
      (["app", "store", "main", ".env"], .file [])] ∧
    Grown (.ofText "state/main/.env") ⟨unrenamingHost, []⟩ t := by
  have hruns : ((upsert (.ofText "state/main/.env") [("A_CONTRACT_ID", "CAFE")]).result
        ⟨unrenamingHost, []⟩).toOption = none ∧
      ((upsert (.ofText "state/main/.env") [("A_CONTRACT_ID", "CAFE")]).after
        ⟨unrenamingHost, []⟩).host.tree = unrenamingHost.tree ++
          [(["app", "store", "main"], .directory),
            (["app", "store", "main", ".env"], .file [])] := by
    decide +kernel
  obtain ⟨hnone, htree⟩ := hruns
  cases hfails : (upsert (.ofText "state/main/.env") [("A_CONTRACT_ID", "CAFE")]).result
      ⟨unrenamingHost, []⟩ with
  | ok _ =>
    rw [hfails] at hnone
    cases hnone
  | error e =>
    have h := (eq_error_iff _ _ _ _).2 ⟨hfails, rfl⟩
    exact ⟨e, _, h, htree, (upsert_fails_clean h).1⟩

end StateFile

end SorobanDeploy
