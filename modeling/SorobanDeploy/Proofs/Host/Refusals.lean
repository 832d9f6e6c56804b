import SorobanDeploy.Proofs.Host.Access

/-!
# How requests for files fail

What the system refuses fails with a failure of the system's classes, and what it gives may be no
text (`Failure.IsOfFiles`). There are two other ways to fail: a text with a NUL character is no path
at all, and the host may have a failure of its own for every renaming. `upsert_error` says that
saving to a state file fails in one of these ways only.
-/

namespace SorobanDeploy

open Act

variable {σ : Type}

/-- A failure that the system's requests have: one of its classes, or one of texts. -/
def Failure.IsOfFiles (e : Failure) : Prop := e.isA .system ∨ e.isA .badText

instance (e : Failure) : Decidable e.IsOfFiles := inferInstanceAs (Decidable (_ ∨ _))

namespace Act

variable {α β : Type} {I : Host σ → Prop} {P : Failure → Prop}

/-- An action that keeps an invariant of the host, and fails only as `P` says while it holds. -/
def FailsAs (I : Host σ → Prop) (P : Failure → Prop) (x : Act σ α) : Prop :=
  ∀ s, I s.host → I (x.after s).host ∧ ∀ e, x.result s = .error e → P e

namespace FailsAs

variable {x : Act σ α} {f : α → Act σ β}

theorem pure (a : α) : (Pure.pure a : Act σ α).FailsAs I P := fun _ hI => ⟨hI, nofun⟩

theorem fail {e : Failure} (he : P e) : (Act.fail e : Act σ α).FailsAs I P := by
  intro s hI
  refine ⟨hI, fun d hd => ?_⟩
  cases hd
  exact he

/-- What leaves the session as it is keeps every invariant. -/
theorem of_reads (hx : x.Reads) (hfails : ∀ s, I s.host → ∀ e, x.result s = .error e → P e) :
    x.FailsAs I P := by
  intro s hI
  rw [hx s]
  exact ⟨hI, hfails s hI⟩

/-- Two actions fail as the first one does, or as the second one does behind it. -/
theorem bind (hx : x.FailsAs I P) (hf : ∀ a, (f a).FailsAs I P) : (x >>= f).FailsAs I P := by
  intro s hI
  obtain ⟨hkept, hfails⟩ := hx s hI
  rw [after_bind, result_bind]
  cases hr : x.result s with
  | error d =>
    refine ⟨hkept, fun e he => ?_⟩
    cases he
    exact hfails d hr
  | ok a => exact hf a _ hkept

theorem host_bind {f : Host σ → Act σ α} (hf : ∀ h, I h → (f h).FailsAs I P) :
    (Act.host >>= f).FailsAs I P := fun s hI => hf s.host hI s hI

/-- The other action has to do only with failures that the first one can have. -/
theorem recover {other : Failure → Act σ α} (hx : x.FailsAs I P)
    (ho : ∀ e, P e → (other e).FailsAs I P) : (Act.recover x other).FailsAs I P := by
  intro s hI
  obtain ⟨hkept, hfails⟩ := hx s hI
  rw [after_recover, result_recover]
  cases hr : x.result s with
  | ok a => exact ⟨hkept, nofun⟩
  | error e => exact ho e (hfails e hr) _ hkept

theorem onFailure {undo : Act σ Unit} (hx : x.FailsAs I P) (hu : undo.FailsAs I P) :
    (Act.onFailure x undo).FailsAs I P := by
  intro s hI
  obtain ⟨hkept, hfails⟩ := hx s hI
  rw [after_onFailure, result_onFailure]
  cases hr : x.result s with
  | ok a => exact ⟨hkept, nofun⟩
  | error e =>
    obtain ⟨hundone, hundo⟩ := hu _ hkept
    refine ⟨hundone, fun g hg => ?_⟩
    simp only at hg
    cases hundid : undo.result (x.after s) with
    | ok _ =>
      rw [hundid] at hg
      cases hg
      exact hfails e hr
    | error d =>
      rw [hundid] at hg
      cases hg
      exact hundo _ hundid

theorem log (level : Log.Level) (logger message : String) :
    (Act.log level logger message : Act σ Unit).FailsAs I P := fun _ hI => ⟨hI, nofun⟩

/-- Nothing is said of what an action may do. -/
theorem any (x : Act σ α) : x.FailsAs (fun _ => True) fun _ => True :=
  fun _ _ => ⟨trivial, fun _ _ => trivial⟩

variable {Q : Failure → Prop}

theorem mono (hx : x.FailsAs I P) (hPQ : ∀ e, P e → Q e) : x.FailsAs I Q := fun s hI =>
  ⟨(hx s hI).1, fun e he => hPQ e ((hx s hI).2 e he)⟩

theorem mapFailure {f : Failure → Failure} (hx : x.FailsAs I P) (hf : ∀ e, P e → Q (f e)) :
    (Act.mapFailure f x).FailsAs I Q := by
  intro s hI
  obtain ⟨hkept, hfails⟩ := hx s hI
  rw [after_mapFailure, result_mapFailure]
  refine ⟨hkept, fun g hg => ?_⟩
  cases hr : x.result s with
  | ok a =>
    rw [hr] at hg
    cases hg
  | error e =>
    rw [hr] at hg
    cases hg
    exact hf e (hfails e hr)

/-- Failures of the class are values. -/
theorem attempt {c : FailureClass} (hx : x.FailsAs I P)
    (hc : ∀ e, P e → e.isA c = false → Q e) : (Act.attempt c x).FailsAs I Q := by
  intro s hI
  obtain ⟨hkept, hfails⟩ := hx s hI
  rw [after_attempt, result_attempt]
  refine ⟨hkept, fun g hg => ?_⟩
  cases hr : x.result s with
  | ok a =>
    rw [hr] at hg
    cases hg
  | error e =>
    rw [hr] at hg
    by_cases hclass : e.isA c = true
    · simp [hclass] at hg
    · simp only [hclass, Bool.false_eq_true, if_false] at hg
      cases hg
      exact hc _ (hfails _ hr) (by simpa using hclass)

theorem andFinally {last : Act σ Unit} (hx : x.FailsAs I P) (hl : last.FailsAs I P) :
    (Act.andFinally x last).FailsAs I P := by
  intro s hI
  obtain ⟨hkept, hfails⟩ := hx s hI
  obtain ⟨hlast, hends⟩ := hl _ hkept
  rw [after_andFinally, result_andFinally]
  refine ⟨hlast, fun e he => ?_⟩
  cases hr : last.result (x.after s) with
  | ok _ =>
    rw [hr] at he
    exact hfails e he
  | error d =>
    rw [hr] at he
    cases he
    exact hends _ hr

end FailsAs

end Act

/-- A class of failures that has room for all that the system refuses. -/
def Files.Refuses (P : Failure → Prop) : Prop :=
  ∀ (r : Refusal) (message : String), P (.plain (.ofErrorNumber r.number) message)

/-- An invariant and a class of failures that leave room for all that a request for files can do:
the tree may change, and the system and the host may refuse what they refuse. -/
structure Files.Allows (I : Host σ → Prop) (P : Failure → Prop) : Prop where
  tree : ∀ h t, I h → I { h with tree := t }
  refused : Files.Refuses P
  fault : ∀ h e, I h → h.renameFault = some e → P e
  /-- The working directory may have a name that is none. -/
  cwd : ∀ h, I h → (∃ n ∈ h.cwd.place, hasNul n = true) → P nulFailure

/-! ## Texts of paths -/

namespace Path

/-- A path has a NUL character in its text exactly if one of its names has. -/
theorem hasNul_text (path : Path) :
    Files.hasNul path.text = true ↔ ∃ n ∈ path.names, Files.hasNul n = true := by
  obtain ⟨root, names⟩ := path
  have hnames : ∀ ns : List String, '\x00' ∈ ("/".intercalate ns).toList ↔
      ∃ n ∈ ns, '\x00' ∈ n.toList := by
    intro ns
    rw [String.toList_intercalate]
    induction ns with
    | nil => simp
    | cons n ns ih =>
      cases ns with
      | nil => simp
      | cons m ns =>
        rw [List.map_cons] at ih
        rw [List.map_cons, List.map_cons, List.intercalate_cons_cons, List.mem_append,
          List.mem_append, ih]
        simp
  unfold Files.hasNul text
  simp only [List.contains_eq_mem, decide_eq_true_eq]
  rw [← hnames names]
  by_cases hempty : root = .relative ∧ names = []
  · obtain ⟨rfl, rfl⟩ := hempty
    simp
  · rw [if_neg hempty, String.toList_append, List.mem_append]
    have hroot : '\x00' ∉ root.text.toList := by cases root <;> decide
    simp [hroot]

/-- A path has no NUL character in its text exactly if none of its names has one. -/
theorem hasNul_text_eq_false_iff (path : Path) :
    Files.hasNul path.text = false ↔ ∀ n ∈ path.names, Files.hasNul n = false := by
  rw [← Bool.not_eq_true, hasNul_text]
  simp

/-- Taking names away for double points adds none. -/
theorem collapse_subset (names : List String) : collapse names ⊆ names := by
  unfold collapse
  suffices h : ∀ done : List String,
      names.foldl (fun done n => if n = ".." then done.dropLast else done ++ [n]) done ⊆
        done ++ names from h []
  induction names with
  | nil => exact fun done n hn => by simpa using hn
  | cons m rest ih =>
    intro done n hn
    rw [List.foldl_cons] at hn
    rcases List.mem_append.1 (ih _ hn) with hdone | hrest
    · split at hdone
      · exact List.mem_append_left _ (List.dropLast_subset _ hdone)
      · rcases List.mem_append.1 hdone with hdone | hm
        · exact List.mem_append_left _ hdone
        · exact List.mem_append_right _ (List.mem_cons.2 (.inl (List.mem_singleton.1 hm)))
    · exact List.mem_append_right _ (List.mem_cons_of_mem _ hrest)

end Path

/-! ## Requests -/

namespace Files

variable {I : Host σ → Prop} {P : Failure → Prop}

/-- What the system refuses is a failure of one of its classes. -/
theorem refuses_isOfFiles : Refuses Failure.IsOfFiles := by
  intro r message
  left
  cases r <;> rfl

theorem request_failsAs (hP : Refuses P) {α : Type} {path : String}
    {answer : Host σ → Except Refusal α} (hnul : hasNul path = true → P nulFailure) :
    (request path answer).FailsAs I P := by
  unfold request
  split
  · rename_i h
    exact .fail (hnul h)
  · refine .host_bind fun h _ => ?_
    split
    · exact .pure _
    · exact .fail (hP _ _)

theorem entry?_failsAs (hP : Refuses P) (path : String) :
    ( entry? path : Act σ (Option Entry)).FailsAs I P := by
  unfold entry?
  split
  · exact .pure _
  · refine .host_bind fun h _ => ?_
    split
    · exact .pure _
    · split
      · exact .pure _
      · exact .fail (hP _ _)

theorem setTree_failsAs (hA : Allows I P) (t : Tree) : (setTree t : Act σ Unit).FailsAs I P :=
  fun s hI => ⟨hA.tree s.host t hI, nofun⟩

theorem makeDirectory_failsAs (hA : Allows I P) {path : String}
    (hnul : hasNul path = true → P nulFailure) :
    (makeDirectory path : Act σ Unit).FailsAs I P :=
  .bind (request_failsAs hA.refused hnul) (setTree_failsAs hA)

theorem acceptPresent_failsAs (hP : Refuses P) (path : String) {e : Failure} (he : P e) :
    (acceptPresent path e : Act σ Unit).FailsAs I P := by
  unfold acceptPresent
  split
  · refine .bind (.bind (entry?_failsAs hP path) fun _ => .pure _) fun there => ?_
    split
    · exact .pure _
    · exact .fail he
  · exact .fail he

/-- The directories above are made first, so the names grow fewer. -/
theorem ensureDirectories_failsAs (hA : Allows I P) (root : PathRoot) (names : List String)
    (hnul : (∃ n ∈ names, hasNul n = true) → P nulFailure) :
    (ensureDirectories root names : Act σ Unit).FailsAs I P := by
  have hmake : (makeDirectory (Path.mk root names).text : Act σ Unit).FailsAs I P :=
    makeDirectory_failsAs hA fun h => hnul ((Path.hasNul_text ⟨root, names⟩).1 h)
  unfold ensureDirectories
  refine .recover hmake fun e he => ?_
  split
  · split
    · exact .fail he
    · refine .bind ?_ fun _ => .recover hmake fun d hd => acceptPresent_failsAs hA.refused _ hd
      refine ensureDirectories_failsAs hA root names.dropLast fun h => hnul ?_
      obtain ⟨n, hn, hnull⟩ := h
      exact ⟨n, List.dropLast_subset _ hn, hnull⟩
  · exact acceptPresent_failsAs hA.refused _ he
  termination_by names.length
  decreasing_by
    rename_i h
    have := List.length_pos_iff.mpr h
    simp only [List.length_dropLast]
    omega

theorem touch_failsAs (hA : Allows I P) {path : String}
    (hnul : hasNul path = true → P nulFailure) : (touch path : Act σ Unit).FailsAs I P := by
  unfold touch
  split
  · rename_i h
    exact .fail (hnul h)
  · refine .host_bind fun h _ => ?_
    split
    · exact .pure _
    · exact .bind (request_failsAs hA.refused hnul) (setTree_failsAs hA)

theorem textOf_failsAs (octets : Text.Octets)
    (htext : ∀ message, P (.plain .undecodable message)) :
    (textOf octets : Act σ (List Char)).FailsAs I P := by
  unfold textOf
  split
  · exact .pure _
  · exact .fail (htext _)

theorem readText_failsAs (hP : Refuses P) {path : String}
    (hnul : hasNul path = true → P nulFailure) (htext : ∀ message, P (.plain .undecodable message)) :
    (readText path : Act σ (List Char)).FailsAs I P :=
  .bind (request_failsAs hP hnul) fun octets => textOf_failsAs octets htext

/-- A path from the root on has the names of the path and of the working directory. -/
theorem absolute_names {path dir : Path} {s : Session σ}
    (h : (absolute path).result s = .ok dir) : dir.names ⊆ s.host.cwd.place ++ path.names := by
  unfold absolute at h
  split at h
  · cases h
    exact List.subset_append_right _ _
  · obtain ⟨cwd, hcwd, h⟩ := result_bind_eq_ok h
    obtain ⟨-, rfl⟩ := result_workingDirectory s hcwd
    cases h
    unfold Path.join
    split
    · exact List.subset_append_right _ _
    · exact List.Subset.refl _

theorem workingDirectory_failsAs (hP : Refuses P) :
    (workingDirectory : Act σ Path).FailsAs I P := by
  unfold workingDirectory
  refine .host_bind fun h _ => ?_
  split
  · exact .pure _
  · exact .fail (hP _ _)

theorem absolute_failsAs (hP : Refuses P) (path : Path) :
    (absolute path : Act σ Path).FailsAs I P := by
  unfold absolute
  split
  · exact .pure _
  · exact .bind (workingDirectory_failsAs hP) fun _ => .pure _

theorem move_failsAs (hA : Allows I P) (source : Place) (shown path : String) :
    (move source shown path : Act σ Unit).FailsAs I P := by
  unfold move
  refine .host_bind fun h hI => ?_
  split
  · rename_i e he
    exact .fail (hA.fault h e hI he)
  · split
    · exact setTree_failsAs hA _
    · exact .fail (hA.refused _ _)
    · exact .fail (hA.refused _ _)

/-- The path of a new file beside another one has a NUL character only if a name of its directory
or the name of the other file has. -/
theorem hasNul_besidePath {dir : Path} {name stamp : String} (hstamp : hasNul stamp = false)
    (h : hasNul (besidePath dir name stamp) = true) :
    (∃ n ∈ dir.names, hasNul n = true) ∨ hasNul name = true := by
  obtain ⟨n, hn, hnull⟩ := (Path.hasNul_text _).1 h
  rcases List.mem_append.1 hn with hdir | hbeside
  · exact .inl ⟨n, hdir, hnull⟩
  · obtain rfl := List.mem_singleton.1 hbeside
    unfold hasNul at hstamp hnull ⊢
    unfold besideName at hnull
    simp only [List.contains_eq_mem, decide_eq_true_eq, decide_eq_false_iff_not,
      String.toList_append, List.mem_append] at hstamp hnull ⊢
    have hdot : '\x00' ∉ ".".toList := by decide
    have hend : '\x00' ∉ ".tmp".toList := by decide
    exact .inr (((hnull.resolve_right hend).resolve_right hstamp).resolve_right hdot)

/-- The directory of the new file is told by the path and by the working directory, so the request
for it may fail for the names of either. -/
theorem replace_failsAs (hA : Allows I P) (path : Path) (content : Text.Octets)
    (hnul : (∃ n ∈ path.names, hasNul n = true) → P nulFailure) :
    (replace path content : Act σ Unit).FailsAs I P := by
  intro s hI
  have habsolute := absolute_failsAs hA.refused path.parent s hI
  unfold replace
  rw [after_bind, result_bind]
  cases hdir : (absolute path.parent).result s with
  | error e =>
    refine ⟨habsolute.1, fun d hd => ?_⟩
    cases hd
    exact habsolute.2 e hdir
  | ok dir =>
    -- The directory's names are those of the working directory and of the path, or some of them.
    have hbeside : hasNul (besidePath dir.normalized path.name maskedStamp) = true →
        P nulFailure := by
      intro h
      rcases hasNul_besidePath (by decide) h with ⟨n, hn, hnull⟩ | hname
      · rcases List.mem_append.1 (absolute_names hdir (Path.collapse_subset _ hn)) with
          hcwd | hparent
        · exact hA.cwd s.host hI ⟨n, hcwd, hnull⟩
        · exact hnul ⟨n, List.dropLast_subset _ hparent, hnull⟩
      · refine hnul ⟨path.name, ?_, hname⟩
        unfold Path.name at hname ⊢
        cases hlast : path.names.getLast? with
        | none =>
          rw [List.getLastD_eq_getLast?, hlast] at hname
          cases hname
        | some n =>
          rw [List.getLastD_eq_getLast?, hlast]
          exact List.mem_of_getLast? hlast
    refine FailsAs.bind (request_failsAs hA.refused hbeside) (fun place => ?_) _ habsolute.1
    refine .host_bind fun h _ => .bind (setTree_failsAs hA _) fun _ => ?_
    exact .onFailure (move_failsAs hA _ _ _) (.host_bind fun h _ => setTree_failsAs hA _)

end Files

namespace StateFile

variable {I : Host σ → Prop} {P : Failure → Prop}

/-- Saving fails as the system refuses, as the host refuses to rename, or because of a NUL character
in the path or in the working directory. -/
theorem upsert_failsAs (hA : Files.Allows I P) (path : Path) (values : Pairs String String)
    (hnul : Files.hasNul path.text = true → P Files.nulFailure)
    (htext : ∀ message, P (.plain .undecodable message)) :
    (upsert path values : Act σ Unit).FailsAs I P := by
  have hnames : (∃ n ∈ path.names, Files.hasNul n = true) → P Files.nulFailure :=
    fun h => hnul ((Path.hasNul_text path).2 h)
  have hensure : (ensure path : Act σ Unit).FailsAs I P := by
    unfold ensure
    refine .bind (.bind (Files.entry?_failsAs hA.refused _) fun _ => .pure _) fun there => ?_
    split
    · exact .pure _
    · refine .bind (Files.ensureDirectories_failsAs hA _ _ fun h => hnames ?_) fun _ =>
        Files.touch_failsAs hA hnul
      obtain ⟨n, hn, hnull⟩ := h
      exact ⟨n, List.dropLast_subset _ hn, hnull⟩
  unfold upsert
  refine .bind hensure fun _ => .bind (Files.readText_failsAs hA.refused hnul htext) fun old => ?_
  exact .bind (Files.replace_failsAs hA path _ hnames) fun _ => .log _ _ _

/-- What saving failed with is a failure of the system's requests, that of a NUL character in the
path or in the working directory, or the one that the host has for every renaming. -/
theorem upsert_error {path : Path} {values : Pairs String String} {s : Session σ} {e : Failure}
    (h : (upsert path values).result s = .error e) :
    e.IsOfFiles ∨
      (e = Files.nulFailure ∧ (Files.hasNul path.text = true ∨
        ∃ n ∈ s.host.cwd.place, Files.hasNul n = true)) ∨
      s.host.renameFault = some e := by
  -- Saving moves nowhere, and leaves the failure for renaming alone.
  have hallows : Files.Allows
      (fun k : Host σ => k.cwd = s.host.cwd ∧ k.renameFault = s.host.renameFault)
      (fun d => d.IsOfFiles ∨
        (d = Files.nulFailure ∧ (Files.hasNul path.text = true ∨
          ∃ n ∈ s.host.cwd.place, Files.hasNul n = true)) ∨
        s.host.renameFault = some d) :=
    { tree := fun _ _ h => h
      refused := fun r message => .inl (Files.refuses_isOfFiles r message)
      fault := fun _ _ hI h => .inr (.inr (hI.2.symm.trans h))
      cwd := fun _ hI h => .inr (.inl ⟨rfl, .inr (hI.1 ▸ h)⟩) }
  have hfails := upsert_failsAs hallows path values (fun h => .inr (.inl ⟨rfl, .inl h⟩))
    fun _ => .inl (.inr rfl)
  exact (hfails s ⟨rfl, rfl⟩).2 e h

end StateFile

end SorobanDeploy
