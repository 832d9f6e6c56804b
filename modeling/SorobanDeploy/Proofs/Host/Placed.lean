import SorobanDeploy.Proofs.Host.Kept

/-!
# What a saving leaves

Making the state file follows a link at its path, and replacing it does not. So where the link leads
to nothing, once the directories above the file are made (`StateFile.Dangles`), the empty file that
is made at the end of the link is not the one that is replaced, and stays. In every other case a
saving that succeeds adds the directories above the state file and nothing else
(`StateFile.upsert_places`). A file that takes the place of the state file is on no walk to a
directory, so these are found where they were made (`Tree.Takes.status`).
-/

namespace SorobanDeploy

open Act

variable {σ : Type}

namespace Tree

variable {t u : Tree} {cwd q : Spot} {path : String} {dir place : Place} {name : String}

/-- A path that leads to a directory still does once a file took a held place. -/
theorem Takes.status {content : Text.Octets} (h : Takes t u place content)
    (hleads : t.status cwd path = .ok (q, .directory)) :
    u.status cwd path = .ok (q, .directory) := by
  obtain ⟨haccepts, n, hn, hwalk⟩ := (find_eq_ok_iff (by decide)).1 (status_eq_ok_iff.1 hleads)
  exact status_eq_ok_iff.2 ((find_eq_ok_iff (by decide)).2 ⟨haccepts, n, hn, hwalk.kept h⟩)

/-- Where a path leads to nothing through all links, it ends at that or at a link. -/
theorem find_entry_of_absent (h : t.find cwd .target path = .ok (.absent dir name)) :
    t.find cwd .entry path = .ok (.absent dir name) ∨
      ∃ k target, t.find cwd .entry path = .ok (.present (.live k) (.link target)) ∧
        Pairs.get? k t = some (.link target) := by
  obtain ⟨haccepts, n, hn, hleads⟩ := (find_eq_ok_iff (by decide)).1 h
  rcases hleads.entry_or_link with hentry | ⟨m, -, k, target, hm, hentry, hlink, -⟩
  · exact .inl ((find_eq_ok_iff (by decide)).2 ⟨haccepts, n, hn, hentry⟩)
  · exact .inr ⟨k, target,
      (find_eq_ok_iff (by decide)).2 ⟨haccepts, m, Nat.le_trans hm hn, hentry⟩, hlink⟩

/-- What a path ends at, it ends at in a tree with more entries. -/
theorem Extends.find {e : Entry} (h : Extends t u)
    (hfind : t.find cwd .entry path = .ok (.present q e)) :
    u.find cwd .entry path = .ok (.present q e) := by
  obtain ⟨haccepts, n, hn, hleads⟩ := (find_eq_ok_iff (by decide)).1 hfind
  exact (find_eq_ok_iff (by decide)).2 ⟨haccepts, n, hn, hleads.mono h⟩

end Tree

namespace StateFile

variable {path : Path} {values : Pairs String String} {s t : Session σ} {old : List Char}
  {place k : Place} {e : Entry}

/-! ## The directories above the state file -/

/-- A directory above the state file, at its place. -/
def IsAbove (path : Path) (cwd : Spot) (t : Tree) (place : Place) (e : Entry) : Prop :=
  e = .directory ∧ Made path cwd t place e

/-- All that is new, but for some places, is directories above the state file. -/
def NewAbove (path : Path) (s t : Session σ) (places : List Place) : Prop :=
  ∀ k e, k ∉ places → Pairs.get? k s.host.tree = none → Pairs.get? k t.host.tree = some e →
    IsAbove path s.host.cwd t.host.tree k e

/-- A way on which no file is new. -/
def NoNewFile (s t : Session σ) : Prop :=
  ∀ k c, Pairs.get? k t.host.tree = some (.file c) → Pairs.get? k s.host.tree = some (.file c)

theorem isWay_noNewFile : IsWay (σ := σ) NoNewFile :=
  ⟨fun _ _ _ h => h, fun h g k c hk => h k c (g k c hk)⟩

theorem makeDirectory_noNewFile (text : String) :
    (Files.makeDirectory text : Act σ Unit).Along NoNewFile := by
  refine Files.request_setTree_along isWay_noNewFile fun s u hmade k c hk => ?_
  obtain ⟨place, -, rfl, -⟩ := Tree.gains_makeDirectory hmade
  change Pairs.get? k (s.host.tree.assign place .directory) = some (.file c) at hk
  rw [Pairs.get?_assign] at hk
  split at hk
  · cases hk
  · exact hk

theorem withParents_grown (path : Path) (s : Session σ) : Grown path s (withParents path s) :=
  Files.ensureDirectories_along_each isWay_grown _ _ (fun _ habove => makeDirectory_grown habove) s

/-- Making the directories above the state file makes nothing else. -/
theorem withParents_newAbove (path : Path) (s : Session σ) :
    NewAbove path s (withParents path s) [] := by
  intro k e _ hnew hk
  have hmade := ((withParents_grown path s).made k e hk).resolve_left fun hold => by
    cases hnew.symm.trans hold
  refine ⟨?_, hmade⟩
  cases hmade with
  | directory _ _ => rfl
  | file _ =>
    have hold := Files.ensureDirectories_along_each isWay_noNewFile path.root path.parent.names
      (fun _ _ => makeDirectory_noNewFile _) s k [] hk
    cases hnew.symm.trans hold

/-! ## A link that leads to nothing -/

/-- Once the directories above the state file are made, a link is at its path and leads to
nothing. -/
def Dangles (path : Path) (s : Session σ) : Prop :=
  (∃ q target, (withParents path s).host.tree.find s.host.cwd .entry path.text =
    .ok (.present q (.link target))) ∧
  ∃ r, (withParents path s).host.tree.status s.host.cwd path.text = .error r

theorem NewAbove.mono {places places' : List Place} (h : NewAbove path s t places)
    (hsubset : places ⊆ places') : NewAbove path s t places' :=
  fun k e hk => h k e (mt (@hsubset k) hk)

/-- One more entry is all that is new besides directories above the state file. -/
theorem NewAbove.assign {u : Session σ} (h : NewAbove path s t []) (hkept : KeepsEntries t u)
    (htree : u.host.tree = t.host.tree.assign place e) : NewAbove path s u [place] := by
  intro k f hk hnew hthere
  have hne : place ≠ k := fun heq => hk (List.mem_singleton.2 heq.symm)
  rw [htree, Pairs.get?_assign, if_neg hne] at hthere
  obtain ⟨hdirectory, hmade⟩ := h k f List.not_mem_nil hnew hthere
  exact ⟨hdirectory, hmade.mono hkept⟩

/-- No link dangles at a path that leads to something. -/
theorem not_dangles_of_status {q : Spot}
    (h : (withParents path s).host.tree.status s.host.cwd path.text = .ok (q, e)) :
    ¬Dangles path s := by
  rintro ⟨-, r, hr⟩
  cases hr.symm.trans h

/-- What saving has made when it has found its text: nothing is new but directories above the state
file and that file itself, unless a link at its path dangles. Then what the link leads to is new
too. -/
theorem found_places (h : (found path).result s = .ok old) {f : Entry}
    (hends : ((found path).after s).host.tree.find s.host.cwd .entry path.text =
      .ok (.present (.live place) f)) :
    (¬Dangles path s ∧ NewAbove path s ((found path).after s) [place]) ∨
      (Dangles path s ∧ ∃ stray, stray ≠ place ∧ Pairs.get? stray s.host.tree = none ∧
        Pairs.get? stray ((found path).after s).host.tree = some (.file []) ∧
        NewAbove path s ((found path).after s) [place, stray]) := by
  have hparents := withParents_grown path s
  have habove := withParents_newAbove path s
  have hcwd : (withParents path s).host.cwd = s.host.cwd := by rw [hparents.host]
  rcases found_cases h with ⟨⟨q, e, hthere⟩, hafter⟩ | ⟨htouch, hafter, -⟩
  · -- Nothing was made.
    refine .inl ⟨not_dangles_of_status (hparents.kept.status hthere), fun k e _ hnew hk => ?_⟩
    rw [hafter] at hk
    cases hnew.symm.trans hk
  rw [hafter] at hends ⊢
  cases hstatus : (withParents path s).host.tree.status s.host.cwd path.text with
  | ok reached =>
    have hthere := hstatus
    rw [← hcwd] at hthere
    rw [Files.after_touch_of_status hthere]
    exact .inl ⟨not_dangles_of_status hstatus, habove.mono (List.nil_subset _)⟩
  | error r =>
    have hmissing := hstatus
    rw [← hcwd] at hmissing
    obtain ⟨dir, name, hfind, htree⟩ := Files.touch_of_missing hmissing htouch
    have hnew := Tree.get?_of_find (by decide) hfind
    have hgrown : Grown path (withParents path s)
        ((Files.touch path.text).after (withParents path s)) := touch_grown _
    have hkept := hgrown.kept
    rw [hcwd] at hfind
    rcases Tree.find_entry_of_absent hfind with hentry | ⟨link, target, hentry, hlink⟩
    · -- The path ends at the file that was made.
      have hfile := Tree.find_of_assign (by decide) (by decide) id
        (.inr (⟨by simp, by simp⟩ : Entry.Stops .entry (.file []))) hentry
      rw [htree, hfile] at hends
      cases hends
      refine .inl ⟨?_, habove.assign hkept htree⟩
      rintro ⟨⟨q, target, hdangles⟩, -⟩
      cases hentry.symm.trans hdangles
    · -- The path still ends at the link, and the file is where that leads.
      cases (Tree.Extends.find hkept hentry).symm.trans hends
      refine .inr ⟨⟨⟨_, target, hentry⟩, r, hstatus⟩, dir ++ [name], ?_, ?_, ?_,
        (habove.assign hkept htree).mono (List.subset_cons_self _ _)⟩
      · rintro rfl
        cases hnew.symm.trans hlink
      · cases hold : Pairs.get? (dir ++ [name]) s.host.tree with
        | none => rfl
        | some f => cases hnew.symm.trans (hparents.kept _ f hold)
      · rw [htree, Pairs.get?_assign, if_pos rfl]

/-! ## What a saving leaves -/

/-- All that was new beside the state file is all that is new once the file takes its place. -/
theorem NewAbove.takes {u : Session σ} {places : List Place} {content : Text.Octets}
    (h : NewAbove path s t places) (hplace : place ∈ places)
    (htakes : t.host.tree.Takes u.host.tree place content) : NewAbove path s u places := by
  intro k e hk hnew hthere
  have hne : k ≠ place := fun heq => hk (heq ▸ hplace)
  rw [htakes.rest k hne] at hthere
  obtain ⟨rfl, hmade⟩ := h k e hk hnew hthere
  cases hmade with
  | directory habove hleads => exact ⟨rfl, .directory habove (htakes.status hleads)⟩

/-- Where a saving succeeds, the path ends at a file with the new text, every other entry is as it
was, and nothing of the host has changed but the tree. Nothing else is new but directories above the
state file, unless a link at its path dangles: then the link has given way to the file, and what it
leads to is there too, empty. -/
theorem upsert_places (h : upsert path values s = .ok () t) :
    ∃ old place, (found path).result s = .ok old ∧
      t.host = { s.host with tree := t.host.tree } ∧
      (∀ aim, aim ≠ .file → t.host.tree.find s.host.cwd aim path.text =
        .ok (.present (.live place) (.file (Text.Utf8.encode (updated old values))))) ∧
      (∀ k e, k ≠ place → Pairs.get? k s.host.tree = some e → Pairs.get? k t.host.tree = some e) ∧
      (¬Dangles path s → NewAbove path s t [place]) ∧
      (Dangles path s → ∃ stray, stray ≠ place ∧ Pairs.get? stray s.host.tree = none ∧
        Pairs.get? stray t.host.tree = some (.file []) ∧ NewAbove path s t [place, stray]) := by
  obtain ⟨hresult, rfl⟩ := (eq_ok_iff _ _ _ _).1 h
  have hhost := upsert_along isWay_treeOnly (fun _ _ => rfl) (fun _ _ _ _ => rfl) path values s
  have hgrown : Grown path s ((found path).after s) := found_grown s
  obtain ⟨old, place, f, tree, hfound, hreplaced, hentry, htakes, hends⟩ := upsert_takes hresult
  have htree : tree = ((upsert path values).after s).host.tree := by rw [hreplaced]
  subst htree
  refine ⟨old, place, hfound, hhost, hends, fun k e hk hold => ?_, ?_⟩
  · rw [htakes.rest k hk]
    exact hgrown.kept k e hold
  rcases found_places hfound hentry with
    ⟨hnot, habove⟩ | ⟨hdangles, stray, hne, hfree, hstray, habove⟩
  · exact ⟨fun _ => habove.takes List.mem_cons_self htakes,
      fun hdangles => absurd hdangles hnot⟩
  · refine ⟨fun hnot => absurd hdangles hnot, fun _ => ⟨stray, hne, hfree, ?_, ?_⟩⟩
    · rw [htakes.rest stray hne]
      exact hstray
    · exact habove.takes List.mem_cons_self htakes

/-- A host with links: one at `state`, into a directory, and one at `current`, to nothing. -/
def linkedHost : Host Unit where
  tree := [(["app"], .directory), (["app", "state"], .link "store"), (["app", "store"], .directory),
    (["app", "current"], .link "store/old")]
  cwd := .live ["app"]
  env := []
  renameFault := none
  outside := ()

/-- What was saved below a link to a directory leaves the file and the directories above it. -/
theorem saved_below_link : ∃ t place,
    upsert (.ofText "state/main/.env") [("KEY", "1")] ⟨linkedHost, []⟩ = .ok () t ∧
      ¬Dangles (.ofText "state/main/.env") (⟨linkedHost, []⟩ : Session Unit) ∧
      t.host.tree.find linkedHost.cwd .entry "state/main/.env" =
        .ok (.present (.live place) (.file (Text.Utf8.encode "KEY=1\n".toList))) ∧
      NewAbove (.ofText "state/main/.env") ⟨linkedHost, []⟩ t [place] := by
  have hruns : ((upsert (.ofText "state/main/.env") [("KEY", "1")]).result
        ⟨linkedHost, []⟩).toOption = some () ∧
      ((found (.ofText "state/main/.env")).result ⟨linkedHost, []⟩).toOption = some [] := by
    decide +kernel
  obtain ⟨hsaves, hfinds⟩ := hruns
  have h := (eq_ok_iff _ _ _ _).2 ⟨result_eq_ok_of_toOption hsaves, rfl⟩
  have hnot : ¬Dangles (.ofText "state/main/.env") (⟨linkedHost, []⟩ : Session Unit) := by
    have habsent : ((withParents (.ofText "state/main/.env")
        (⟨linkedHost, []⟩ : Session Unit)).host.tree.find linkedHost.cwd .entry
          "state/main/.env").toOption = some (.absent ["app", "store", "main"] ".env") := by
      decide +kernel
    rintro ⟨⟨q, target, hlink⟩, -⟩
    cases habsent.symm.trans (congrArg Except.toOption hlink)
  obtain ⟨old, place, hfound, -, hends, -, hclean, -⟩ := upsert_places h
  cases hfound.symm.trans (result_eq_ok_of_toOption hfinds)
  exact ⟨_, place, h, hnot, hends .entry (by decide), hclean hnot⟩

/-- Where a link at the path leads to nothing, saving leaves an empty file at the end of that link,
which is neither the state file nor above it. -/
theorem dangling_link_leaves_stray : ∃ t,
    upsert (.ofText "current") [("KEY", "1")] ⟨linkedHost, []⟩ = .ok () t ∧
      Pairs.get? ["app", "store", "old"] linkedHost.tree = none ∧
      Pairs.get? ["app", "store", "old"] t.host.tree = some (.file []) ∧
      ¬∃ place e, t.host.tree.find linkedHost.cwd .entry "current" =
          .ok (.present (.live place) e) ∧
        NewAbove (.ofText "current") ⟨linkedHost, []⟩ t [place] := by
  have hruns : ((upsert (.ofText "current") [("KEY", "1")]).result
        ⟨linkedHost, []⟩).toOption = some () ∧
      Pairs.get? ["app", "store", "old"] linkedHost.tree = none ∧
      Pairs.get? ["app", "store", "old"] ((upsert (.ofText "current") [("KEY", "1")]).after
        ⟨linkedHost, []⟩).host.tree = some (.file []) ∧
      (((upsert (.ofText "current") [("KEY", "1")]).after ⟨linkedHost, []⟩).host.tree.find
        linkedHost.cwd .entry "current").toOption =
          some (.present (.live ["app", "current"]) (.file (Text.Utf8.encode "KEY=1\n".toList))) := by
    decide +kernel
  obtain ⟨hsaves, hfree, hstray, hends⟩ := hruns
  refine ⟨_, (eq_ok_iff _ _ _ _).2 ⟨result_eq_ok_of_toOption hsaves, rfl⟩, hfree, hstray, ?_⟩
  rintro ⟨place, e, hplace, habove⟩
  cases hends.symm.trans (congrArg Except.toOption hplace)
  obtain ⟨hdirectory, -⟩ := habove _ _ (by decide) hfree hstray
  cases hdirectory

end StateFile

end SorobanDeploy
