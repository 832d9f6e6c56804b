import SorobanDeploy.Proofs.Pipeline.Stopped

/-!
# Artifacts in turn

Artifacts are deployed one after the other, and the client may do to the host what it likes in
between. When the turn of an artifact comes, the host is as the client left it after the ones before
(`Pipeline.afterAsking`). The deployment goes on as long as each artifact gives an ID
(`Pipeline.Gives`) and stops at the first one that does not; nothing is asked for behind that
(`Pipeline.deployAll_in_turn`).
-/

namespace SorobanDeploy

open Act Event

variable {σ : Type}

namespace Pipeline

/-- The host as the client leaves it when it has been asked for artifacts, one after the other. -/
def afterAsking (p : Pipeline σ) (request : DeploymentRequest) (h : Host σ)
    (artifacts : List Artifact) : Host σ :=
  artifacts.foldl (fun h a => (p.client (deployCall request a) h).host) h

/-- The questions for artifacts, one after the other. -/
def asked (p : Pipeline σ) (request : DeploymentRequest) :
    Host σ → List Artifact → List (Exchange σ)
  | _, [] => []
  | h, a :: rest =>
    ⟨deployCall request a, h, (p.client (deployCall request a) h).answer⟩ ::
      asked p request (p.client (deployCall request a) h).host rest

/-- An artifact gives an ID on a host: its file is there, and the client answers the question for it
with the ID, which is accepted. -/
structure Gives (p : Pipeline σ) (request : DeploymentRequest) (h : Host σ) (a : Artifact)
    (id : String) : Prop where
  file : h.HasFile (Path.ofText a.wasmPath).text
  answer : (p.client (deployCall request a) h).answer = .ok (some id)
  accepted : AcceptedId id

variable {p : Pipeline σ} {request : DeploymentRequest} {h : Host σ} {s : Session σ}
  {live deployed : List DeployedContract} {a : Artifact} {artifacts : List Artifact}

theorem afterAsking_cons (p : Pipeline σ) (request : DeploymentRequest) (h : Host σ) (a : Artifact)
    (rest : List Artifact) : p.afterAsking request h (a :: rest) =
      p.afterAsking request (p.client (deployCall request a) h).host rest := rfl

theorem asked_append (p : Pipeline σ) (request : DeploymentRequest) (h : Host σ)
    (before rest : List Artifact) : p.asked request h (before ++ rest) =
      p.asked request h before ++ p.asked request (p.afterAsking request h before) rest := by
  induction before generalizing h with
  | nil => rfl
  | cons a before ih =>
    rw [List.cons_append, asked, asked, ih, List.cons_append, afterAsking_cons]

/-! ## One artifact -/

/-- An answer is taken exactly if it is an accepted ID, and becomes a contract with it. -/
theorem result_takeAnswer_eq_ok_iff {answer : Option String} {c : DeployedContract} :
    (takeAnswer a live answer).result s = .ok c ↔
      ∃ id, answer = some id ∧ AcceptedId id ∧ c = ⟨a.logicalName, id⟩ := by
  unfold takeAnswer
  cases haccept : acceptId a.packageName live answer with
  | error problem =>
    refine ⟨nofun, ?_⟩
    rintro ⟨id, hanswer, hid, -⟩
    cases haccept.symm.trans ((acceptId_eq_ok_iff _ _ _ _).2 ⟨hanswer, hid⟩)
  | ok id =>
    obtain ⟨rfl, hid⟩ := (acceptId_eq_ok_iff _ _ _ _).1 haccept
    constructor
    · intro hc
      cases hc
      exact ⟨id, rfl, hid, rfl⟩
    · rintro ⟨id', hanswer, -, rfl⟩
      cases hanswer
      rfl

/-- What is done with an answer leaves the host. -/
theorem takeAnswer_host (a : Artifact) (live : List DeployedContract) (answer : Option String)
    (s : Session σ) : ((takeAnswer a live answer).after s).host = s.host := by
  unfold takeAnswer
  split <;> rfl

theorem askFor_host (p : Pipeline σ) (request : DeploymentRequest) (live : List DeployedContract)
    (a : Artifact) (s : Session σ) :
    ((p.askFor request live a).after s).host = (p.client (deployCall request a) s.host).host := by
  have hasked : ((explain (fun e => .deployFailed a.packageName e.message live)
      (ask p.client (deployCall request a))).after s).host =
        (p.client (deployCall request a) s.host).host := by
    rw [after_explain, after_ask]
  unfold askFor
  rw [after_bind]
  split
  · rw [takeAnswer_host, hasked]
  · exact hasked

/-- The question for an artifact succeeds exactly if the client answers with an accepted ID. -/
theorem result_askFor_eq_ok_iff {c : DeployedContract} :
    (p.askFor request live a).result s = .ok c ↔
      ∃ id, (p.client (deployCall request a) s.host).answer = .ok (some id) ∧ AcceptedId id ∧
        c = ⟨a.logicalName, id⟩ := by
  unfold askFor
  rw [result_bind]
  cases hasked : (explain (fun e => .deployFailed a.packageName e.message live)
      (ask p.client (deployCall request a))).result s with
  | error e =>
    refine ⟨nofun, ?_⟩
    rintro ⟨id, hanswer, -, -⟩
    rw [← result_ask, ← result_explain_eq_ok_iff, hasked] at hanswer
    cases hanswer
  | ok answer =>
    have hanswer := (result_explain_eq_ok_iff _ _ _ _).1 hasked
    rw [result_ask] at hanswer
    simp only [result_takeAnswer_eq_ok_iff, hanswer, Except.ok.injEq]

/-- An artifact whose file is there is asked for once. It is deployed exactly if it gives an ID. -/
theorem deployOne_of_hasFile (p : Pipeline σ) (request : DeploymentRequest)
    (live : List DeployedContract) (hfile : s.host.HasFile (Path.ofText a.wasmPath).text) :
    exchanges ((p.deployOne request live a).events s) = p.asked request s.host [a] ∧
      ((p.deployOne request live a).after s).host = p.afterAsking request s.host [a] ∧
      ∀ c, (p.deployOne request live a).result s = .ok c ↔
        ∃ id, p.Gives request s.host a id ∧ c = ⟨a.logicalName, id⟩ := by
  have hdeploys : p.deployOne request live a s = _ :=
    deployOne_of_isFile ((Files.result_isFile_eq_true_iff _ s).2 hfile)
  obtain ⟨hresult, hafter, hevents⟩ := congr_of_apply hdeploys
  have htell : (tell ("- Deploying " ++ a.packageName ++ "...") : Act σ Unit).Along Silent :=
    log_silent _ _ _
  have hgrows : (p.askFor request live a).Along Grows :=
    .bind isWay_grows (.explain _ (ask_grows _ _)) fun answer =>
      (takeAnswer_silent a live answer).grows
  refine ⟨?_, ?_, fun c => ?_⟩
  · rw [hevents, exchanges_silent_bind htell rfl hgrows, exchanges_askFor]
    rfl
  · rw [hafter, after_bind_of_ok _ rfl, askFor_host]
    rfl
  · rw [hresult, result_bind_of_ok _ rfl, result_askFor_eq_ok_iff]
    constructor
    · rintro ⟨id, hanswer, hid, hc⟩
      exact ⟨id, ⟨hfile, hanswer, hid⟩, hc⟩
    · rintro ⟨id, ⟨-, hanswer, hid⟩, hc⟩
      exact ⟨id, hanswer, hid, hc⟩

/-- An artifact whose file is missing is not asked for, and stops the deployment. -/
theorem deployOne_of_missing (p : Pipeline σ) (request : DeploymentRequest)
    (live : List DeployedContract) (hmissing : ¬s.host.HasFile (Path.ofText a.wasmPath).text) :
    ∃ e, p.deployOne request live a s = .error e s := by
  have hreads := Files.isFile_reads (Path.ofText a.wasmPath).text s
  unfold deployOne
  cases hfound : (Files.isFile (Path.ofText a.wasmPath).text).result s with
  | error e =>
    have hfails := (eq_error_iff _ _ _ _).2 ⟨hfound, hreads⟩
    exact ⟨e, by rw [bind_apply, hfails]⟩
  | ok found =>
    cases found with
    | true => exact absurd ((Files.result_isFile_eq_true_iff _ s).1 hfound) hmissing
    | false =>
      have hends := (eq_ok_iff _ _ _ _).2 ⟨hfound, hreads⟩
      exact ⟨_, by rw [bind_apply, hends]; rfl⟩

/-- An artifact is deployed exactly if it gives an ID. -/
theorem result_deployOne_eq_ok_iff (live : List DeployedContract) {c : DeployedContract} :
    (p.deployOne request live a).result s = .ok c ↔
      ∃ id, p.Gives request s.host a id ∧ c = ⟨a.logicalName, id⟩ := by
  by_cases hfile : s.host.HasFile (Path.ofText a.wasmPath).text
  · exact (deployOne_of_hasFile p request live hfile).2.2 c
  · obtain ⟨e, hfails⟩ := deployOne_of_missing p request live hfile
    rw [((eq_error_iff _ _ _ _).1 hfails).1]
    exact ⟨nofun, fun ⟨_, hgives, _⟩ => absurd hgives.file hfile⟩

/-! ## All artifacts -/

/-- Artifacts behind others are deployed when these are live. -/
theorem deployFrom_append (p : Pipeline σ) (request : DeploymentRequest)
    (live : List DeployedContract) (before rest : List Artifact) :
    p.deployFrom request live (before ++ rest) =
      p.deployFrom request live before >>= fun live => p.deployFrom request live rest := by
  induction before generalizing live with
  | nil => rfl
  | cons a before ih =>
    rw [List.cons_append, deployFrom, deployFrom, bind_assoc]
    exact bind_congr fun contract => ih _

/-- Artifacts are deployed exactly if each of them gives an ID when its turn comes. They are live
under these IDs, behind what was live before. -/
theorem result_deployFrom_eq_ok_iff :
    (p.deployFrom request live artifacts).result s = .ok deployed ↔
      ∃ new, deployed = live ++ new ∧ new.length = artifacts.length ∧
        ∀ i (hi : i < artifacts.length), ∃ id,
          p.Gives request (p.afterAsking request s.host (artifacts.take i)) artifacts[i] id ∧
            new[i]? = some ⟨artifacts[i].logicalName, id⟩ := by
  induction artifacts generalizing live s with
  | nil =>
    constructor
    · intro hdeployed
      cases hdeployed
      exact ⟨[], by simp, rfl, nofun⟩
    · rintro ⟨new, rfl, hlength, -⟩
      rw [List.eq_nil_of_length_eq_zero hlength, List.append_nil]
      rfl
  | cons a rest ih =>
    -- The turns of the rest begin on the host that the client leaves after this artifact.
    have hleft : ∀ c, (p.deployOne request live a).result s = .ok c →
        ((p.deployOne request live a).after s).host =
          (p.client (deployCall request a) s.host).host := by
      intro c hc
      obtain ⟨id, hgives, -⟩ := (result_deployOne_eq_ok_iff live).1 hc
      exact (deployOne_of_hasFile p request live hgives.file).2.1
    unfold deployFrom
    constructor
    · intro hdeployed
      obtain ⟨c, hone, hrest⟩ := result_bind_eq_ok hdeployed
      obtain ⟨new, rfl, hlength, hgiven⟩ := ih.1 hrest
      rw [hleft c hone] at hgiven
      obtain ⟨id, hgives, rfl⟩ := (result_deployOne_eq_ok_iff live).1 hone
      refine ⟨⟨a.logicalName, id⟩ :: new, by simp, by simp [hlength], fun i hi => ?_⟩
      cases i with
      | zero => exact ⟨id, hgives, rfl⟩
      | succ i => exact hgiven i (Nat.lt_of_succ_lt_succ hi)
    · rintro ⟨new, rfl, hlength, hgiven⟩
      obtain ⟨id, hgives, hfirst⟩ : ∃ id, p.Gives request s.host a id ∧
          new[0]? = some (DeployedContract.mk a.logicalName id) := hgiven 0 (Nat.succ_pos _)
      cases new with
      | nil => cases hfirst
      | cons c new =>
        cases hfirst
        have hone := (result_deployOne_eq_ok_iff live).2 ⟨id, hgives, rfl⟩
        rw [result_bind_of_ok _ hone, ih]
        refine ⟨new, by simp, by simpa using hlength, fun i hi => ?_⟩
        rw [hleft _ hone]
        exact hgiven (i + 1) (Nat.succ_lt_succ hi)

/-- Where each artifact gives an ID when its turn comes, all are deployed. -/
theorem exists_deployFrom_ok (hgives : ∀ i (hi : i < artifacts.length), ∃ id,
      p.Gives request (p.afterAsking request s.host (artifacts.take i)) artifacts[i] id) :
    ∃ deployed, (p.deployFrom request live artifacts).result s = .ok deployed := by
  choose ids hids using hgives
  refine ⟨_, result_deployFrom_eq_ok_iff.2
    ⟨List.ofFn fun i : Fin artifacts.length => ⟨artifacts[i].logicalName, ids i i.2⟩, rfl,
      List.length_ofFn, fun i hi => ⟨ids i hi, hids i hi, ?_⟩⟩⟩
  rw [List.getElem?_ofFn, dif_pos hi]
  rfl

/-- Artifacts that are deployed were asked for in order, and the host is as the client leaves it. -/
theorem deployFrom_asks
    (hdeployed : (p.deployFrom request live artifacts).result s = .ok deployed) :
    exchanges ((p.deployFrom request live artifacts).events s) = p.asked request s.host artifacts ∧
      ((p.deployFrom request live artifacts).after s).host =
        p.afterAsking request s.host artifacts := by
  induction artifacts generalizing live s with
  | nil =>
    have hnone : (p.deployFrom request live []).events s = [] :=
      events_eq (List.append_nil s.trace).symm
    rw [hnone]
    exact ⟨rfl, rfl⟩
  | cons a rest ih =>
    unfold deployFrom at hdeployed ⊢
    obtain ⟨c, hone, hrest⟩ := result_bind_eq_ok hdeployed
    obtain ⟨id, hgives, -⟩ := (result_deployOne_eq_ok_iff live).1 hone
    obtain ⟨hasked, hleft, -⟩ := deployOne_of_hasFile p request live hgives.file
    have hgrows : (p.deployOne request live a).Along Grows :=
      deployOne_along isWay_grows log_grows (fun _ _ _ => ask_grows p.client _) request live a
    obtain ⟨hexchanges, hafter⟩ := ih hrest
    rw [after_bind_of_ok _ hone, hafter, hleft]
    rw [events_bind (hgrows s) fun _ _ => deployFrom_grows p request _ rest _, exchanges_append,
      hasked]
    simp only [hone]
    rw [hexchanges, hleft]
    exact ⟨rfl, rfl⟩

/-- An artifact that gives no ID when its turn comes stops the deployment. It is asked for only if
its file is there, and nothing is asked for behind it. -/
theorem deployFrom_stops_at {before : List Artifact} (rest : List Artifact)
    (hbefore : (p.deployFrom request live before).result s = .ok deployed)
    (hfails : ∀ id, ¬p.Gives request (p.afterAsking request s.host before) a id) :
    (∃ e, (p.deployFrom request live (before ++ a :: rest)).result s = .error e) ∧
      ((p.afterAsking request s.host before).HasFile (Path.ofText a.wasmPath).text →
        exchanges ((p.deployFrom request live (before ++ a :: rest)).events s) =
          p.asked request s.host (before ++ [a])) ∧
      (¬(p.afterAsking request s.host before).HasFile (Path.ofText a.wasmPath).text →
        exchanges ((p.deployFrom request live (before ++ a :: rest)).events s) =
          p.asked request s.host before) := by
  obtain ⟨hasked, hleft⟩ := deployFrom_asks hbefore
  rw [deployFrom_append, result_bind_of_ok _ hbefore,
    events_bind (deployFrom_grows p request live before s) fun _ _ =>
      deployFrom_grows p request _ _ _, hbefore]
  simp only
  rw [exchanges_append, hasked]
  rw [← hleft] at hfails ⊢
  generalize (p.deployFrom request live before).after s = t at hleft hfails ⊢
  have hone : ∃ e, (p.deployOne request deployed a).result t = .error e := by
    cases hresult : (p.deployOne request deployed a).result t with
    | error e => exact ⟨e, rfl⟩
    | ok c =>
      obtain ⟨id, hgives, -⟩ := (result_deployOne_eq_ok_iff deployed).1 hresult
      exact absurd hgives (hfails id)
  obtain ⟨e, he⟩ := hone
  have hgrows : (p.deployOne request deployed a).Along Grows :=
    deployOne_along isWay_grows log_grows (fun _ _ _ => ask_grows p.client _) request deployed a
  -- The rest is not reached, so what is asked for is what the one artifact asks for.
  have hlast : exchanges ((p.deployFrom request deployed (a :: rest)).events t) =
      exchanges ((p.deployOne request deployed a).events t) := by
    unfold deployFrom
    rw [events_bind (hgrows t) fun _ _ => deployFrom_grows p request _ rest _, he, List.append_nil]
  refine ⟨⟨e, by rw [deployFrom, result_bind, he]⟩, fun hfile => ?_, fun hmissing => ?_⟩
  · rw [hlast, (deployOne_of_hasFile p request deployed hfile).1, asked_append, hleft]
  · obtain ⟨d, hends⟩ := deployOne_of_missing p request deployed hmissing
    rw [hlast, events_of_fails hends, exchanges_nil, List.append_nil]

/-- A deployment succeeds exactly if each artifact gives an ID when its turn comes, and then each
artifact is live under the ID that it gave, in order. Otherwise the first artifact that gives none
ends it: those before were asked for and that one too, if its file is there, and no other. -/
theorem deployAll_in_turn (p : Pipeline σ) (request : DeploymentRequest) (artifacts : List Artifact)
    (s : Session σ) :
    (∀ deployed, (p.deployAll request artifacts).result s = .ok deployed ↔
      deployed.length = artifacts.length ∧ ∀ i (hi : i < artifacts.length), ∃ id,
        p.Gives request (p.afterAsking request s.host (artifacts.take i)) artifacts[i] id ∧
          deployed[i]? = some ⟨artifacts[i].logicalName, id⟩) ∧
    ((∃ deployed, (p.deployAll request artifacts).result s = .ok deployed) ↔
      ∀ i (hi : i < artifacts.length), ∃ id,
        p.Gives request (p.afterAsking request s.host (artifacts.take i)) artifacts[i] id) ∧
    (∀ deployed, (p.deployAll request artifacts).result s = .ok deployed →
      exchanges ((p.deployAll request artifacts).events s) = p.asked request s.host artifacts) ∧
    (∀ i (hi : i < artifacts.length),
      (∀ j (hj : j < i), ∃ id,
        p.Gives request (p.afterAsking request s.host (artifacts.take j)) artifacts[j] id) →
      (∀ id, ¬p.Gives request (p.afterAsking request s.host (artifacts.take i)) artifacts[i] id) →
      (∃ e, (p.deployAll request artifacts).result s = .error e) ∧
        ((p.afterAsking request s.host (artifacts.take i)).HasFile
            (Path.ofText artifacts[i].wasmPath).text →
          exchanges ((p.deployAll request artifacts).events s) =
            p.asked request s.host (artifacts.take (i + 1))) ∧
        (¬(p.afterAsking request s.host (artifacts.take i)).HasFile
            (Path.ofText artifacts[i].wasmPath).text →
          exchanges ((p.deployAll request artifacts).events s) =
            p.asked request s.host (artifacts.take i))) := by
  have htell : (tell "[3/4] Deploying contracts..." : Act σ Unit).Along Silent :=
    log_silent _ _ _
  unfold deployAll
  rw [exchanges_silent_bind htell rfl (deployFrom_grows p request [] artifacts),
    result_bind_of_ok _ rfl]
  have hhost : s.host = ((tell "[3/4] Deploying contracts..." : Act σ Unit).after s).host := rfl
  rw [hhost]
  generalize (tell "[3/4] Deploying contracts..." : Act σ Unit).after s = t
  refine ⟨fun deployed => ?_, ⟨?_, exists_deployFrom_ok⟩, fun deployed hdeployed => ?_,
    fun i hi hbefore hfails => ?_⟩
  · rw [result_deployFrom_eq_ok_iff]
    simp
  · rintro ⟨deployed, hdeployed⟩ i hi
    obtain ⟨new, -, -, hgiven⟩ := result_deployFrom_eq_ok_iff.1 hdeployed
    obtain ⟨id, hgives, -⟩ := hgiven i hi
    exact ⟨id, hgives⟩
  · exact (deployFrom_asks hdeployed).1
  · -- Up to `i` all are deployed, so what stops is the turn of `i`.
    obtain ⟨deployed, hdeployed⟩ : ∃ deployed,
        (p.deployFrom request [] (artifacts.take i)).result t = .ok deployed := by
      refine exists_deployFrom_ok fun j hj => ?_
      have hji : j < i := Nat.lt_of_lt_of_le hj (List.length_take_le i artifacts)
      rw [List.take_take, Nat.min_eq_left (Nat.le_of_lt hji), List.getElem_take]
      exact hbefore j hji
    have hstops := deployFrom_stops_at (artifacts.drop (i + 1)) hdeployed hfails
    rwa [List.getElem_cons_drop hi, List.take_append_drop, List.take_append_getElem hi] at hstops

end Pipeline

end SorobanDeploy
