import SorobanDeploy.Proofs.CommandLine.Outcome

/-!
# What the words order

The words of a command line order a deployment if their options name a profile of the table and an
identity that is not blank (`CommandLine.Orders`). All that a program asks of its client and of the
network is then for that profile and that identity, and a program without such an order does nothing
that is seen outside (`CommandLine.run_as_ordered`). It ends with a status that tells so, unless the
name of the network was dropped: what is dropped cannot be looked up, and this failure leaves the
program (`CommandLine.dropped_network_unreported`). A name is dropped only by a word that joins the
separator to the option of the network (`CommandLine.DropsNetwork.joined`).
-/

namespace SorobanDeploy

open Act Event

variable {σ : Type}

/-- Whether an event is seen outside of the program: the client is asked, the network is checked,
the tree is changed, a program is started or a request is sent. -/
def Event.isEffect : Event σ → Bool
  | .exchange _ | .check _ | .change _ | .note (.launch _) | .note (.request _) => true
  | .note (.record _) | .print .. | .configure _ => false

/-- A call for a profile and an identity. All calls but builds name the identity. A deployment and a
call of a contract carry the profile, and a call for funds names its network. -/
def Call.IsFor (profile : NetworkProfile) (admin : String) : Call → Prop
  | .resolveAddress identity => identity = admin
  | .fund identity network => identity = admin ∧ network = profile.name.text
  | .build .. => True
  | .deploy _ target identity | .invoke _ _ _ target identity =>
    target = profile ∧ identity = admin

/-- A step for a profile and an identity. -/
def Step.IsFor (profile : NetworkProfile) (admin : String) : Step → Prop
  | .call c => c.IsFor profile admin
  | .check target => target = profile

namespace Pipeline

variable {p : Pipeline σ} {request : DeploymentRequest}

/-- Each step up to the last build is for the request. -/
theorem isFor_of_mem_preparation {step : Step} (h : step ∈ p.preparation request) :
    step.IsFor request.network request.adminIdentity := by
  simp only [preparation, List.mem_append, List.mem_singleton, List.mem_map] at h
  rcases h with rfl | h | h | rfl | ⟨a, -, rfl⟩
  · rfl
  · split at h
    · rw [List.mem_singleton.1 h]
      exact ⟨rfl, rfl⟩
    · cases h
  · split at h
    · rw [List.mem_singleton.1 h]
      rfl
    · cases h
  · trivial
  · trivial

/-- Each step of the plan of a run is for its request. -/
theorem isFor_of_mem_plan {contracts : Path} {address id : String} {step : Step}
    (h : step ∈ p.plan request contracts address id) :
    step.IsFor request.network request.adminIdentity := by
  rcases List.mem_append.1 h with h | h
  · exact isFor_of_mem_preparation h
  · rcases List.mem_append.1 h with h | h
    · obtain ⟨a, -, rfl⟩ := List.mem_map.1 h
      exact ⟨rfl, rfl⟩
    · rw [List.mem_singleton.1 h]
      exact ⟨rfl, rfl⟩

/-- Each step of a run is for its request, whatever the client answers. -/
theorem isFor_of_mem_run {s : Session σ} {step : Step}
    (h : step ∈ steps ((p.run request).events s)) :
    step.IsFor request.network request.adminIdentity := by
  obtain ⟨contracts, address, id, htakes⟩ := run_takes p request s
  exact isFor_of_mem_plan (htakes.begins.subset h)

end Pipeline

namespace CommandLine

variable {sur : Surroundings σ} {o : Options} {s : Session σ} {e : Failure} {words : List String}

/-! ## The words -/

/-- What each switch keeps, several of them keep. -/
theorem turnOnAll_keeps {P : Options → Prop} (hturn : ∀ o f, P o → P (o.turnOn f)) {o' : Options}
    {flags : List Flag} (ho : P o) (h : turnOnAll o flags = some o') : P o' := by
  induction flags generalizing o with
  | nil =>
    cases h
    exact ho
  | cons f rest ih =>
    cases f with
    | help => cases h
    | network | admin | stateFile | stellarBin | checkRpc | verbose => exact ih (hturn o _ ho) h

/-- Each option of some words that is joined with its value keeps what `P` says of the options. -/
def JoinedKeep (P : Options → Prop) (ws : List Word) : Prop :=
  ∀ f short value, .option f short (some value) ∈ ws → ∀ o, P o → P (o.set (.ofText value) f)

theorem JoinedKeep.tail {P : Options → Prop} {w : Word} {ws : List Word}
    (h : JoinedKeep P (w :: ws)) : JoinedKeep P ws :=
  fun f short value hmem => h f short value (List.mem_cons_of_mem w hmem)

/-- What each option with a value keeps, and each switch, a command line keeps. -/
theorem take_keeps {P : Options → Prop} (hturn : ∀ o f, P o → P (o.turnOn f))
    (htext : ∀ o f value, P o → P (o.set (.text value) f)) {extras : List String} {ws : List Word}
    (hjoined : JoinedKeep P ws) {o' : Options} (ho : P o)
    (h : take o extras ws = .ok (.options o')) : P o' := by
  fun_induction take o extras ws with
  | case1 o extras hnone =>
    cases h
    exact ho
  | case3 o extras text rest ih | case4 o extras text rest ih | case5 o extras rest ih =>
    exact ih hjoined.tail ho h
  | case6 o extras f short value rest htakes ih =>
    exact ih hjoined.tail (hjoined f short value List.mem_cons_self o ho) h
  | case8 o extras f short value rest htakes hshort flags hbundle o' hon ih =>
    exact ih hjoined.tail (turnOnAll_keeps hturn ho hon) h
  | case11 o extras f short value rest htakes ih =>
    exact ih hjoined.tail.tail (htext o f value ho) h
  | case12 o extras f short value rest htakes o' hon ih =>
    exact ih hjoined.tail.tail (turnOnAll_keeps hturn ho hon) h
  | case15 o extras f short rest hplain htakes o' hon ih =>
    exact ih hjoined.tail (turnOnAll_keeps hturn ho hon) h
  | case2 | case7 | case9 | case10 | case13 | case14 | case16 => cases h

/-- An option among the classes of words is the class of one of them. -/
theorem exists_classWord {ws : List Word} (h : classWords words = .ok ws) {f : Flag} {short : Bool}
    {value : Option String} (hmem : .option f short value ∈ ws) :
    ∃ word ∈ words, classWord word = .ok (.option f short value) := by
  induction words generalizing ws with
  | nil =>
    cases h
    cases hmem
  | cons word rest ih =>
    unfold classWords at h
    split at h
    · -- Behind the separator all words are plain.
      cases h
      simp at hmem
    · cases hword : classWord word with
      | error e =>
        rw [hword] at h
        cases h
      | ok w =>
        cases hrest : classWords rest with
        | error e =>
          rw [hword, hrest] at h
          cases h
        | ok ws' =>
          rw [hword, hrest] at h
          cases h
          rcases List.mem_cons.1 hmem with rfl | hmem
          · exact ⟨word, List.mem_cons_self, hword⟩
          · obtain ⟨later, hlater, hclass⟩ := ih hrest hmem
            exact ⟨later, List.mem_cons_of_mem _ hlater, hclass⟩

/-! ## The order -/

/-- Options that name a profile of the table exactly, and an identity that is not blank. -/
structure Options.Names (o : Options) (profile : NetworkProfile) (admin : String) : Prop where
  listed : profile ∈ NetworkProfile.table
  network : o.network = .text profile.name.text
  given : ∃ text, o.admin = some (.text text) ∧ admin = Text.strip text
  named : admin ≠ ""

/-- Words that order a deployment with a profile by an identity. -/
def Orders (words : List String) (profile : NetworkProfile) (admin : String) : Prop :=
  ∃ o, parse words = .ok (.options o) ∧ o.Names profile admin

/-- Words that leave nothing of the name of the network. -/
def DropsNetwork (words : List String) : Prop :=
  ∃ o, parse words = .ok (.options o) ∧ o.network = .dropped

/-- The name of the network is dropped only by a word that joins the separator to its option. -/
theorem DropsNetwork.joined (h : DropsNetwork words) : ∃ word ∈ words, ∃ short,
    classWord word = .ok (.option .network short (some OptionValue.separator)) := by
  obtain ⟨o, hparse, hdropped⟩ := h
  obtain ⟨ws, hws, htake⟩ : ∃ ws, classWords words = .ok ws ∧
      take .empty [] ws = .ok (.options o) := by
    unfold parse at hparse
    cases hws : classWords words with
    | error e =>
      rw [hws] at hparse
      cases hparse
    | ok ws =>
      rw [hws] at hparse
      exact ⟨ws, rfl, hparse⟩
  by_contra hnone
  have hjoined : JoinedKeep (fun o => o.network ≠ .dropped) ws := by
    intro f short value hmem o ho
    cases f with
    | network =>
      have hvalue : value ≠ OptionValue.separator := by
        rintro rfl
        obtain ⟨word, hword, hclass⟩ := exists_classWord hws hmem
        exact hnone ⟨word, hword, short, hclass⟩
      have hset : (o.set (.ofText value) .network).network = .ofText value := rfl
      rw [hset, OptionValue.ofText, if_neg hvalue]
      exact nofun
    | _ => exact ho
  refine take_keeps (fun o f ho => ?_) (fun o f value ho => ?_) hjoined ?_ htake hdropped
  · cases f <;> exact ho
  · cases f with
    | network => exact nofun
    | _ => exact ho
  · exact nofun

/-- The failure to look up a name of which nothing is left. -/
def lookUpFailure : Failure := .plain .badKind "unhashable type: 'list'"

/-- The profile of options is the one of the table under exactly the name that they give. -/
theorem profileOf_eq_ok_iff (o : Options) (profile : NetworkProfile) :
    profileOf o = .ok profile ↔
      profile ∈ NetworkProfile.table ∧ o.network = .text profile.name.text := by
  unfold profileOf
  cases o.network with
  | dropped => exact ⟨nofun, nofun⟩
  | text name =>
    rw [OptionValue.text.injEq, eq_comm (a := name), ← NetworkProfile.resolve_eq_ok_iff]
    dsimp only
    cases NetworkProfile.resolve name with
    | ok found => simp only [Except.ok.injEq]
    | error problem => exact ⟨nofun, nofun⟩

/-- Options without a profile fail with a failure of the tool, unless the name was dropped. -/
theorem profileOf_eq_error (h : profileOf o = .error e) :
    o.network ≠ .dropped ∧ e.isA .pipeline = true ∨ o.network = .dropped ∧ e = lookUpFailure := by
  unfold profileOf at h
  cases hnetwork : o.network with
  | dropped =>
    rw [hnetwork] at h
    cases h
    exact .inr ⟨rfl, rfl⟩
  | text name =>
    rw [hnetwork] at h
    cases hresolve : NetworkProfile.resolve name with
    | ok found =>
      simp only [hresolve] at h
      cases h
    | error problem =>
      simp only [hresolve] at h
      cases h
      exact .inl ⟨nofun, problem.failure_isA_pipeline⟩

/-- The identity of options is the stripped text that they give, and empty if they give none. -/
def adminOf (o : Options) : String := Text.strip ((o.admin.bind OptionValue.text?).getD "")

/-- An identity that is not empty was given. -/
theorem given_of_adminOf (h : adminOf o ≠ "") :
    ∃ text, o.admin = some (.text text) ∧ adminOf o = Text.strip text := by
  have hnothing : Text.strip "" = "" := by decide
  unfold adminOf at h ⊢
  cases hadmin : o.admin with
  | none =>
    rw [hadmin] at h
    exact absurd hnothing h
  | some value =>
    cases value with
    | text text => exact ⟨text, rfl, rfl⟩
    | dropped =>
      rw [hadmin] at h
      exact absurd hnothing h

/-- A request takes a profile and an identity. -/
theorem requestOf_eq (o : Options) : requestOf o = match profileOf o with
    | .ok profile => if adminOf o = "" then .error Problem.noAdmin.failure
      else .ok ⟨profile, adminOf o⟩
    | .error e => .error e := by
  unfold requestOf adminOf
  cases profileOf o with
  | error e => rfl
  | ok profile =>
    simp only [bind, Except.bind, pure, Except.pure, throw, throwThe, MonadExceptOf.throw,
      String.isEmpty_iff]

/-- Options make a request exactly if they name its profile and its identity. -/
theorem requestOf_eq_ok_iff (o : Options) (request : DeploymentRequest) :
    requestOf o = .ok request ↔ o.Names request.network request.adminIdentity := by
  rw [requestOf_eq]
  constructor
  · intro h
    cases hprofile : profileOf o with
    | error e =>
      rw [hprofile] at h
      cases h
    | ok profile =>
      obtain ⟨hlisted, hnetwork⟩ := (profileOf_eq_ok_iff o profile).1 hprofile
      simp only [hprofile] at h
      split at h
      · cases h
      · rename_i hnamed
        cases h
        exact ⟨hlisted, hnetwork, given_of_adminOf hnamed, hnamed⟩
  · rintro ⟨hlisted, hnetwork, ⟨text, htext, hadmin⟩, hnamed⟩
    have hgiven : adminOf o = request.adminIdentity := by
      rw [adminOf, htext, hadmin]
      rfl
    rw [(profileOf_eq_ok_iff o _).2 ⟨hlisted, hnetwork⟩, hgiven]
    exact if_neg hnamed

/-- Options without a request fail with a failure of the tool, unless the name of the network was
dropped. -/
theorem requestOf_eq_error (h : requestOf o = .error e) :
    o.network ≠ .dropped ∧ e.isA .pipeline = true ∨ o.network = .dropped ∧ e = lookUpFailure := by
  rw [requestOf_eq] at h
  cases hprofile : profileOf o with
  | error d =>
    rw [hprofile] at h
    cases h
    exact profileOf_eq_error hprofile
  | ok profile =>
    obtain ⟨-, hnetwork⟩ := (profileOf_eq_ok_iff o profile).1 hprofile
    simp only [hprofile] at h
    split at h
    · cases h
      exact .inl ⟨by rw [hnetwork]; exact nofun, Problem.failure_isA_pipeline _⟩
    · cases h

/-! ## A program without an order -/

/-- An action that nothing outside sees: it leaves the host, and none of its events is an effect. -/
structure Unseen {α : Type} (x : Act σ α) (s : Session σ) : Prop where
  host : (x.after s).host = s.host
  events : ∀ event ∈ x.events s, event.isEffect = false

/-- Nothing outside sees an action that adds events to the trace which are no effects. -/
theorem Unseen.of_after {α : Type} {x : Act σ α} {es : List (Event σ)}
    (h : x.after s = ⟨s.host, s.trace ++ es⟩) (hes : ∀ event ∈ es, event.isEffect = false) :
    Unseen x s := by
  refine ⟨by rw [h], ?_⟩
  rw [events_eq (by rw [h])]
  exact hes

/-- A run with options that make no request ends as its failure says. -/
theorem runOptions_of_unrequested (sur : Surroundings σ) (h : requestOf o = .error e)
    (s : Session σ) : runOptions sur o s = endFailed e (configured o s) := by
  refine runOptions_of_error ?_
  unfold deploy
  rw [h]
  rfl

/-- A failure of the tool ends the program with status 1 and a message. -/
theorem endFailed_of_pipeline (he : e.isA .pipeline = true) (t : Session σ) :
    endFailed e t =
      .ok ⟨1, false⟩ ⟨t.host, t.trace ++ [.print .errors ("Error: " ++ e.message ++ "\n")]⟩ := by
  unfold endFailed
  rw [if_pos he]
  rfl

/-- A run with options that make no request is not seen outside. It ends with status 1, unless the
name of the network was dropped. -/
theorem runOptions_unrequested (sur : Surroundings σ) (h : requestOf o = .error e)
    (s : Session σ) : Unseen (runOptions sur o) s ∧
      (o.network ≠ .dropped → (runOptions sur o).result s = .ok ⟨1, false⟩) ∧
      (o.network = .dropped → (runOptions sur o).result s = .error lookUpFailure) := by
  have hruns := runOptions_of_unrequested sur h s
  rcases requestOf_eq_error h with ⟨hkept, he⟩ | ⟨hdropped, rfl⟩
  · rw [endFailed_of_pipeline he] at hruns
    have hafter := after_of_ok hruns
    rw [configured, List.append_assoc] at hafter
    exact ⟨.of_after hafter (by simp [isEffect]), fun _ => result_of_ok hruns,
      fun hdropped => absurd hdropped hkept⟩
  · have hfails : runOptions sur o s = .error lookUpFailure (configured o s) := hruns
    obtain ⟨hresult, hafter⟩ := (eq_error_iff _ _ _ _).1 hfails
    exact ⟨.of_after hafter (by simp [isEffect]), fun hkept => absurd hdropped hkept,
      fun _ => hresult⟩

/-- Each step of a run with options is for what they name. -/
theorem isFor_of_mem_runOptions {profile : NetworkProfile} {admin : String}
    (hname : o.Names profile admin) {step : Step}
    (hstep : step ∈ steps ((runOptions sur o).events s)) : step.IsFor profile admin := by
  obtain ⟨fs, hevents, hsteps, -⟩ := events_runOptions sur o s
  have hdeploy : step ∈ steps ((deploy sur o).events (configured o s)) := by
    rw [hevents] at hstep
    have happend : step ∈ steps ((deploy sur o).events (configured o s) ++ fs) := hstep
    rwa [steps_append, hsteps, List.append_nil] at happend
  rcases deploy_cases sur o (configured o s) with ⟨d, hd⟩ | ⟨p, request, hrequest, -, hrun⟩
  · rw [events_of_fails hd] at hdeploy
    cases hdeploy
  · rw [(congr_of_apply hrun).2.2] at hdeploy
    -- The options name one profile and one identity, those of the request.
    obtain rfl : request = ⟨profile, admin⟩ :=
      Except.ok.inj (hrequest.symm.trans ((requestOf_eq_ok_iff o ⟨profile, admin⟩).2 hname))
    exact Pipeline.isFor_of_mem_run hdeploy

/-- Words that order a deployment have every call of the client and every check made for the profile
and the identity of the order. A program without an order is not seen outside; it ends with status 0
if its words ask for help, and otherwise with another one, unless the name of the network was
dropped. Then the failure to look it up leaves the program. -/
theorem run_as_ordered (sur : Surroundings σ) (words : List String) (s : Session σ) :
    (∀ profile admin, Orders words profile admin →
      ∀ step ∈ steps ((run sur words).events s), step.IsFor profile admin) ∧
    ((∀ profile admin, ¬ Orders words profile admin) → Unseen (run sur words) s ∧
      (parse words = .ok .help → (run sur words).result s = .ok ⟨0, true⟩) ∧
      (parse words ≠ .ok .help → ¬ DropsNetwork words →
        ∃ ending, ending.status ≠ 0 ∧ (run sur words).result s = .ok ending) ∧
      (DropsNetwork words → (run sur words).result s = .error lookUpFailure)) := by
  constructor
  · rintro profile admin ⟨o, ho, hname⟩ step hstep
    rw [run_of_options ho] at hstep
    exact isFor_of_mem_runOptions hname hstep
  · intro hnone
    by_cases hoptions : ∃ o, parse words = .ok (.options o)
    · -- Options without an order make no request, and the run ends with the failure to make one.
      obtain ⟨o, ho⟩ := hoptions
      obtain ⟨e, he⟩ : ∃ e, requestOf o = .error e := by
        cases hrequest : requestOf o with
        | error e => exact ⟨e, rfl⟩
        | ok request =>
          exact absurd ⟨o, ho, (requestOf_eq_ok_iff o request).1 hrequest⟩ (hnone _ _)
      obtain ⟨hunseen, hkept, hdropped⟩ := runOptions_unrequested sur he s
      rw [run_of_options ho]
      refine ⟨hunseen, fun hhelp => ?_, fun _ hdrops => ?_, ?_⟩
      · cases ho.symm.trans hhelp
      · exact ⟨⟨1, false⟩, Nat.one_ne_zero, hkept fun hdrop => hdrops ⟨o, ho, hdrop⟩⟩
      · rintro ⟨o', ho', hdrop⟩
        cases ho.symm.trans ho'
        exact hdropped hdrop
    · obtain ⟨status, channel, text, hruns, hstatus⟩ :=
        run_unoptioned sur (not_exists.1 hoptions) s
      refine ⟨.of_after (after_of_ok hruns) (by simp [isEffect]), fun hhelp => ?_,
        fun hother _ => ⟨_, hstatus hother, result_of_ok hruns⟩, ?_⟩
      · exact result_of_ok (run_of_help sur hhelp s)
      · rintro ⟨o, ho, -⟩
        exact absurd ⟨o, ho⟩ hoptions

/-- A deployment with the main network is ordered by an identity between blanks, and none with a
network that is not in the table. -/
theorem ordered_by_alice :
    (∃ profile ∈ NetworkProfile.table, profile.name = .mainnet ∧
      ∀ step ∈ steps ((run (surroundedBy (.ok none))
        ["--network=mainnet", "--admin", " alice "]).events ⟨Pipeline.builtHost, []⟩),
        step.IsFor profile "alice") ∧
    ∃ ending, ending.status ≠ 0 ∧
      (run (surroundedBy (.ok none)) ["--network=futurenet", "--admin", "alice"]).result
        ⟨Pipeline.builtHost, []⟩ = .ok ending := by
  constructor
  · obtain ⟨profile, hprofile⟩ : ∃ profile, NetworkProfile.resolve "mainnet" = .ok profile :=
      ⟨_, rfl⟩
    obtain ⟨hlisted, hname⟩ := (NetworkProfile.resolve_eq_ok_iff _ _).1 hprofile
    have horders : Orders ["--network=mainnet", "--admin", " alice "] profile "alice" :=
      ⟨⟨.text "mainnet", some (.text " alice "), none, none, false, false⟩, by rfl,
        hlisted, by rw [hname], ⟨_, rfl, by decide⟩, by decide⟩
    exact ⟨profile, hlisted, NetworkName.text_injective _ _ hname,
      (run_as_ordered _ _ _).1 profile "alice" horders⟩
  · have hparse : parse ["--network=futurenet", "--admin", "alice"] =
        .ok (.options ⟨.text "futurenet", some (.text "alice"), none, none, false, false⟩) := by rfl
    have hnone : ∀ profile admin,
        ¬ Orders ["--network=futurenet", "--admin", "alice"] profile admin := by
      rintro profile admin ⟨o, ho, hname⟩
      cases hparse.symm.trans ho
      have hunlisted : ∀ profile ∈ NetworkProfile.table, "futurenet" ≠ profile.name.text := by
        decide
      exact hunlisted profile hname.listed (OptionValue.text.inj hname.network)
    obtain ⟨-, -, hends, -⟩ := (run_as_ordered _ _ _).2 hnone
    refine hends (by rw [hparse]; exact nofun) ?_
    rintro ⟨o, ho, hdropped⟩
    cases hparse.symm.trans ho
    cases hdropped

/-- A separator that is joined to the option of the network leaves nothing of the name. The program
has no order then, but it does not end with a status. -/
theorem dropped_network_unreported :
    (∀ profile admin, ¬ Orders ["--network=--", "--admin", "alice"] profile admin) ∧
    parse ["--network=--", "--admin", "alice"] ≠ .ok .help ∧
    ¬ ∃ ending, (run (surroundedBy (.ok none)) ["--network=--", "--admin", "alice"]).result
      ⟨Pipeline.builtHost, []⟩ = .ok ending := by
  have hparse : parse ["--network=--", "--admin", "alice"] =
      .ok (.options ⟨.dropped, some (.text "alice"), none, none, false, false⟩) := by rfl
  refine ⟨?_, ?_, ?_⟩
  · rintro profile admin ⟨o, ho, hname⟩
    cases hparse.symm.trans ho
    cases hname.network
  · rw [hparse]
    exact nofun
  · rintro ⟨ending, hending⟩
    rw [run_of_options hparse] at hending
    have hrequest : requestOf ⟨.dropped, some (.text "alice"), none, none, false, false⟩ =
      .error lookUpFailure := rfl
    obtain ⟨-, -, hfails⟩ := runOptions_unrequested (surroundedBy (.ok none)) hrequest
      ⟨Pipeline.builtHost, []⟩
    cases hending.symm.trans (hfails rfl)

end CommandLine

end SorobanDeploy
