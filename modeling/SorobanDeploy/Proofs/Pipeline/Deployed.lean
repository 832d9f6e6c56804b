import SorobanDeploy.Proofs.Pipeline.Stages
import SorobanDeploy.Proofs.Session.Steps

/-!
# What a deployment leaves

A contract is live when the client answered the call for its deployment with an accepted ID: text
that is not empty and has no newline and no carriage return in it. A deployment of artifacts that
succeeds asked for each of them once, in order, and ends with the IDs that the answers gave
(`deployFrom_ok`).
-/

namespace SorobanDeploy

open Act Event

variable {σ : Type}

/-- A text that is taken as the ID of a contract. -/
def AcceptedId (id : String) : Prop := id ≠ "" ∧ '\n' ∉ id.toList ∧ '\r' ∉ id.toList

instance (id : String) : Decidable (AcceptedId id) := inferInstanceAs (Decidable (_ ∧ _ ∧ _))

/-- The contracts that artifacts become under IDs, in order. -/
def contractsUnder (artifacts : List Artifact) (ids : List String) : List DeployedContract :=
  (artifacts.zip ids).map fun x => ⟨x.1.logicalName, x.2⟩

/-- The first contract of a name is that of the first artifact of the name. -/
theorem contractNamed?_contractsUnder (artifacts : List Artifact) (ids : List String)
    (name : String) :
    DeployedContract.contractNamed? (contractsUnder artifacts ids) name =
      ((artifacts.zip ids).find? (·.1.logicalName = name)).map (·.2) := by
  unfold DeployedContract.contractNamed? contractsUnder
  rw [List.find?_map, Option.map_map]
  rfl

/-- If answers are IDs, the first artifact of a name has the answer that is its ID. -/
theorem find?_zip_answers {artifacts : List Artifact} {ids : List String} {xs : List (Exchange σ)}
    (h : xs.map (·.answer) = ids.map fun i => .ok (some i)) {name i : String}
    (hi : DeployedContract.contractNamed? (contractsUnder artifacts ids) name = some i) :
    ∃ a x, (artifacts.zip xs).find? (·.1.logicalName = name) = some (a, x) ∧
      x.answer = .ok (some i) := by
  -- Both lists are the artifacts with their answers.
  have hzip : (artifacts.zip xs).map (Prod.map id (·.answer)) =
      (artifacts.zip ids).map (Prod.map id fun i => .ok (some i)) := by
    rw [← List.zip_map_right, ← List.zip_map_right, h]
  have hfind := congrArg (List.find? fun y => decide (y.1.logicalName = name)) hzip
  rw [List.find?_map, List.find?_map] at hfind
  rw [contractNamed?_contractsUnder] at hi
  obtain ⟨⟨a, j⟩, ha, rfl⟩ := Option.map_eq_some_iff.1 hi
  have hleft := hfind.trans (congrArg (Option.map _) ha)
  obtain ⟨⟨b, x⟩, hx, heq⟩ := Option.map_eq_some_iff.1 hleft
  exact ⟨b, x, hx, congrArg Prod.snd heq⟩

/-- Where the files of artifacts are does not matter for their names. -/
theorem contractsUnder_placed (contracts : Path) (artifacts : List Artifact) (ids : List String) :
    contractsUnder (artifacts.map (Pipeline.placed contracts)) ids =
      contractsUnder artifacts ids := by
  unfold contractsUnder
  rw [List.zip_map_left, List.map_map]
  rfl

namespace Pipeline

variable {p : Pipeline σ} {request : DeploymentRequest}

/-- An answer gives an ID exactly if it is an accepted text. -/
theorem acceptId_eq_ok_iff (package : String) (live : List DeployedContract)
    (answer : Option String) (id : String) :
    acceptId package live answer = .ok id ↔ answer = some id ∧ AcceptedId id := by
  cases answer with
  | none => simp [acceptId]
  | some text =>
    simp only [acceptId, AcceptedId, Option.some.injEq, List.contains_eq_mem, Bool.or_eq_true,
      decide_eq_true_eq, String.isEmpty_iff]
    by_cases he : text = ""
    · simp [he]
      rintro rfl
      simp
    · by_cases hb : '\n' ∈ text.toList ∨ '\r' ∈ text.toList
      · simp only [he, hb, if_true, if_false]
        constructor
        · intro h; cases h
        · rintro ⟨rfl, -, hn, hr⟩
          exact (hb.elim hn hr).elim
      · simp only [he, hb, if_false, Except.ok.injEq]
        constructor
        · rintro rfl
          exact ⟨rfl, he, fun h => hb (.inl h), fun h => hb (.inr h)⟩
        · exact fun h => h.1

/-- A deployment of one artifact that succeeds asked for it once. The answer was an accepted ID, and
the contract has it. -/
theorem deployOne_ok {live : List DeployedContract} {a : Artifact} {s : Session σ}
    {contract : DeployedContract} (h : (p.deployOne request live a).result s = .ok contract) :
    ∃ id, AcceptedId id ∧ contract = ⟨a.logicalName, id⟩ ∧
      (exchanges ((p.deployOne request live a).events s)).map (·.answer) = [.ok (some id)] := by
  obtain ⟨t, ht⟩ : ∃ t, p.deployOne request live a s = .ok contract t :=
    ⟨_, (eq_ok_iff _ _ _ _).2 ⟨h, rfl⟩⟩
  have hafter := after_of_ok ht
  unfold deployOne at ht
  obtain ⟨found, s₁, hfound, ht⟩ := (bind_eq_ok_iff _ _ _ _ _).1 ht
  have hs₁ : s = s₁ := (Files.isFile_reads _ s).symm.trans (after_of_ok hfound)
  subst hs₁
  cases found with
  | false => simp [Act.refuse] at ht
  | true =>
    simp only [if_true] at ht
    obtain ⟨_, s₂, htell, ht⟩ := (bind_eq_ok_iff _ _ _ _ _).1 ht
    obtain ⟨answer, s₃, hask, ht⟩ := (bind_eq_ok_iff _ _ _ _ _).1 ht
    obtain ⟨hanswer, hs₃⟩ := (ask_eq_ok_iff _ _ _ _ _).1 ((explain_eq_ok_iff _ _ _ _ _).1 hask)
    cases haccept : acceptId a.packageName live answer with
    | error problem => rw [haccept] at ht; simp [Act.refuse] at ht
    | ok id =>
      rw [haccept] at ht
      obtain ⟨_, s₄, htell', ht⟩ := (bind_eq_ok_iff _ _ _ _ _).1 ht
      obtain ⟨rfl, hid⟩ := (acceptId_eq_ok_iff _ _ _ _).1 haccept
      rw [pure_apply, EStateM.Result.ok.injEq] at ht
      obtain ⟨hcontract, rfl⟩ := ht
      refine ⟨id, hid, hcontract.symm, ?_⟩
      rw [after_ask, hanswer] at hs₃
      have htrace := congrArg Session.trace (after_of_ok htell')
      rw [← hs₃, ← after_of_ok htell] at htrace
      simp only [tell, log, after_emit, List.append_assoc] at htrace
      rw [events_eq ((congrArg Session.trace hafter).trans htrace.symm)]
      simp

theorem deployFrom_grows (p : Pipeline σ) (request : DeploymentRequest)
    (live : List DeployedContract) (artifacts : List Artifact) :
    (p.deployFrom request live artifacts).Along Grows :=
  deployFrom_along isWay_grows log_grows (fun _ _ _ => ask_grows p.client _) request live artifacts

/-- A deployment of artifacts that succeeds asked for each of them once, in order. The answers were
accepted IDs, and the artifacts are live under them behind those that were live before. -/
theorem deployFrom_ok {live deployed : List DeployedContract} {artifacts : List Artifact}
    {s : Session σ} (h : (p.deployFrom request live artifacts).result s = .ok deployed) :
    ∃ ids, ids.length = artifacts.length ∧ (∀ id ∈ ids, AcceptedId id) ∧
      deployed = live ++ contractsUnder artifacts ids ∧
      (exchanges ((p.deployFrom request live artifacts).events s)).map (·.answer) =
        ids.map fun id => .ok (some id) := by
  induction artifacts generalizing live s with
  | nil =>
    have hdeployed : live = deployed := by simpa [deployFrom] using h
    refine ⟨[], rfl, by simp, by simp [contractsUnder, hdeployed], ?_⟩
    rw [events_eq (show _ = s.trace ++ [] by simp [deployFrom])]
    rfl
  | cons a rest ih =>
    unfold deployFrom at h ⊢
    have hgrows : (p.deployOne request live a).Along Grows :=
      deployOne_along isWay_grows log_grows (fun _ _ _ => ask_grows p.client _) request live a
    have hevents := events_bind (hgrows s) fun contract _ =>
      p.deployFrom_grows request (live ++ [contract]) rest _
    rw [result_bind] at h
    cases hone : (p.deployOne request live a).result s with
    | error e => rw [hone] at h; cases h
    | ok contract =>
      rw [hone] at h hevents
      obtain ⟨id, hid, rfl, hanswer⟩ := deployOne_ok hone
      obtain ⟨ids, hlen, hids, rfl, hanswers⟩ := ih h
      refine ⟨id :: ids, by simp [hlen], ?_, by simp [contractsUnder], ?_⟩
      · intro i hi
        rcases List.mem_cons.1 hi with rfl | hi
        · exact hid
        · exact hids i hi
      · rw [hevents, exchanges_append, List.map_append, hanswer, hanswers]
        rfl

/-- A deployment stage that succeeds asked for each artifact once, in order. The answers were
accepted IDs, and the artifacts are live under them. -/
theorem deployAll_ok {deployed : List DeployedContract} {contracts : Path} {s : Session σ}
    (h : (p.deployAll request (p.artifacts.map (placed contracts))).result s = .ok deployed) :
    ∃ ids, ids.length = p.artifacts.length ∧ (∀ id ∈ ids, AcceptedId id) ∧
      deployed = contractsUnder p.artifacts ids ∧
      (exchanges ((p.deployAll request (p.artifacts.map (placed contracts))).events s)).map
        (·.answer) = ids.map fun id => .ok (some id) := by
  unfold deployAll at h ⊢
  obtain ⟨ids, hlen, hids, rfl, hanswers⟩ := deployFrom_ok h
  refine ⟨ids, by simpa using hlen, hids, contractsUnder_placed _ _ _, ?_⟩
  have hsilent : (tell "[3/4] Deploying contracts..." : Act σ Unit).Along Silent :=
    log_silent _ _ _
  rw [exchanges_silent_bind hsilent rfl (deployFrom_grows _ _ _ _)]
  exact hanswers

end Pipeline

end SorobanDeploy
