import Mathlib.Data.List.DropRight
import SorobanDeploy.Proofs.Pipeline.Commands
import SorobanDeploy.Proofs.Pipeline.Turns
import SorobanDeploy.Proofs.Text.Lines
import SorobanDeploy.Proofs.Text.Utf8

/-!
# IDs that a program prints

A program prints the ID of a contract if it writes the ID and nothing behind it but line ends
(`StellarCli.Prints`). Its octets take three steps before they are an ID: they are read as text,
with every spelling of a newline folded; the line ends at the end are dropped; and what is left is
accepted if it is not empty and has no line end in it. Folding changes no character in front of the
first line end, so what is accepted is what was printed (`Pipeline.deployAll_records_printed`).
-/

namespace SorobanDeploy

open Act Event

variable {σ : Type}

namespace StellarCli

open Text

/-! ## Line ends at the end -/

/-- Line ends at the end of a text are dropped. -/
theorem dropLineEnds_append {ends : List Char} (hends : LineEnds ends) (cs : List Char) :
    dropLineEnds (cs ++ ends) = dropLineEnds cs := by
  unfold dropLineEnds
  rw [List.reverse_append, List.dropWhile_append_of_pos]
  intro c hc
  simpa using hends c (List.mem_reverse.1 hc)

/-- A text without line ends keeps all that it has. -/
theorem dropLineEnds_of_not_mem {cs : List Char} (hnewline : '\n' ∉ cs) (hreturn : '\r' ∉ cs) :
    dropLineEnds cs = cs := by
  refine List.rdropWhile_eq_self_iff.2 fun hne hend => ?_
  have hlast := List.getLast_mem hne
  simp only [Bool.or_eq_true, decide_eq_true_eq] at hend
  rcases hend with heq | heq
  · exact hnewline (heq ▸ hlast)
  · exact hreturn (heq ▸ hlast)

/-- What is dropped of a text are line ends. -/
theorem exists_lineEnds (cs : List Char) :
    ∃ ends, LineEnds ends ∧ cs = dropLineEnds cs ++ ends := by
  refine ⟨cs.rtakeWhile fun c => c = '\n' || c = '\r', fun c hc => ?_, ?_⟩
  · simpa using List.mem_rtakeWhile_imp hc
  · exact List.rdropWhile_append_rtakeWhile.symm

/-- A text without line ends is what is left of a folded text exactly if that has it in front, and
nothing but line ends behind it. -/
theorem dropLineEnds_foldNewlines_eq_iff {l cs : List Char} (hnewline : '\n' ∉ l)
    (hreturn : '\r' ∉ l) :
    dropLineEnds (foldNewlines cs) = l ↔ ∃ ends, LineEnds ends ∧ cs = l ++ ends := by
  constructor
  · intro hleft
    obtain ⟨folded, hfolded, hcs⟩ := exists_lineEnds (foldNewlines cs)
    rw [hleft] at hcs
    obtain ⟨ends, rfl, rfl⟩ := exists_append_of_foldNewlines hnewline hcs
    exact ⟨ends, lineEnds_foldNewlines.1 hfolded, rfl⟩
  · rintro ⟨ends, hends, rfl⟩
    rw [foldNewlines_append hreturn, dropLineEnds_append (lineEnds_foldNewlines.2 hends),
      dropLineEnds_of_not_mem hnewline hreturn]

/-- The octets of line ends are line feeds and carriage returns, and all of these are such. -/
theorem exists_lineEnds_iff {bs : Octets} :
    (∃ cs, LineEnds cs ∧ bs = Utf8.encode cs) ↔ ∀ b ∈ bs, b = 0x0A ∨ b = 0x0D := by
  constructor
  · rintro ⟨cs, hcs, rfl⟩ b hb
    obtain ⟨c, hc, hb⟩ := List.mem_flatMap.1 hb
    rcases hcs c hc with rfl | rfl
    · exact .inl (List.mem_singleton.1 hb)
    · exact .inr (List.mem_singleton.1 hb)
  · intro hbs
    induction bs with
    | nil => exact ⟨[], nofun, rfl⟩
    | cons b bs ih =>
      obtain ⟨hb, hrest⟩ := List.forall_mem_cons.1 hbs
      obtain ⟨cs, hcs, rfl⟩ := ih hrest
      rcases hb with rfl | rfl
      · exact ⟨'\n' :: cs, List.forall_mem_cons.2 ⟨.inl rfl, hcs⟩, rfl⟩
      · exact ⟨'\r' :: cs, List.forall_mem_cons.2 ⟨.inr rfl, hcs⟩, rfl⟩

/-! ## What is printed -/

/-- Octets print an ID: they are those of the ID, which is accepted, and line feeds and carriage
returns behind it. -/
def Prints (bs : Octets) (id : String) : Prop :=
  AcceptedId id ∧
    ∃ ends, (∀ b ∈ ends, b = 0x0A ∨ b = 0x0D) ∧ bs = Utf8.ofString id ++ ends

/-- The octets of a text print the ID that is left of it, if this is accepted, and no other. -/
theorem prints_encode_iff {cs : List Char} {id : String} :
    Prints (Utf8.encode cs) id ↔
      AcceptedId id ∧ dropLineEnds (foldNewlines cs) = id.toList := by
  refine and_congr_right fun hid => ?_
  -- An accepted ID has no line end in it, so it is cut off exactly where line ends begin.
  rw [dropLineEnds_foldNewlines_eq_iff hid.2.1 hid.2.2]
  constructor
  · rintro ⟨octets, hoctets, hcs⟩
    obtain ⟨ends, hends, rfl⟩ := exists_lineEnds_iff.2 hoctets
    refine ⟨ends, hends, Utf8.encode_inj.1 ?_⟩
    rw [hcs, Utf8.ofString, Utf8.encode_append]
  · rintro ⟨ends, hends, rfl⟩
    refine ⟨Utf8.encode ends, exists_lineEnds_iff.1 ⟨ends, hends, rfl⟩, ?_⟩
    rw [Utf8.ofString, Utf8.encode_append]

/-- The command of a call ran a program that ended with the status zero. -/
def EndedWell (programs : Programs σ) (binary : String) (call : Call) (h : Host σ) (exit : Exit) :
    Prop :=
  ∃ l, launchFor binary call h = some l ∧ (programs l h.outside).1 = exit ∧ exit.status = 0

/-- A program that ended well and wrote text answers a call for text with one, and this is an
accepted ID exactly if the program printed it. -/
theorem answer_of_endedWell {programs : Programs σ} {binary : String} {call : Call} {h : Host σ}
    {exit : Exit} (hended : EndedWell programs binary call h exit) (htext : exit.IsText)
    (hcall : answersText call = true) :
    ∃ text, (client programs binary call h).answer = .ok (some text) ∧
      ∀ id, text = id ∧ AcceptedId id ↔ Prints exit.stdout id := by
  obtain ⟨l, hlaunch, hexit, hstatus⟩ := hended
  obtain ⟨⟨out, hout⟩, err, herr⟩ := htext
  have hanswer : exit.answer (binary :: commandWords call) =
      .ok (String.ofList (dropLineEnds (foldNewlines out))) := by
    rw [Exit.answer_of_decode _ hout herr, if_pos hstatus]
  refine ⟨String.ofList (dropLineEnds (foldNewlines out)), ?_, fun id => ?_⟩
  · rw [answer_of_launchFor hlaunch, hexit, hanswer]
    simp only [Except.map, hcall, if_true]
  · rw [Utf8.decode_eq_ok_iff.1 hout, prints_encode_iff, ← String.toList_inj,
      String.toList_ofList, and_comm]

end StellarCli

namespace Pipeline

open StellarCli

variable {p : Pipeline σ} {request : DeploymentRequest} {s : Session σ}
  {live : List DeployedContract} {a : Artifact} {before : List Artifact}

/-- Artifacts behind others are deployed when these are live. -/
theorem deployAll_append (p : Pipeline σ) (request : DeploymentRequest)
    (before rest : List Artifact) : p.deployAll request (before ++ rest) =
      p.deployAll request before >>= fun live => p.deployFrom request live rest := by
  unfold deployAll
  rw [deployFrom_append, bind_assoc]

/-- An answer that is no accepted ID stops the deployment. -/
theorem deployOne_rejects {text : String} (live : List DeployedContract)
    (hfile : s.host.HasFile (Path.ofText a.wasmPath).text)
    (hanswer : (p.client (deployCall request a) s.host).answer = .ok (some text))
    (hrejected : ¬AcceptedId text) :
    ∃ e, (p.deployOne request live a).result s = .error e ∧ e.kind = .deployment := by
  have hdeploys : p.deployOne request live a s = _ :=
    deployOne_of_isFile ((Files.result_isFile_eq_true_iff _ s).2 hfile)
  obtain ⟨hresult, -, -⟩ := congr_of_apply hdeploys
  have hasked : (explain (fun e => .deployFailed a.packageName e.message live)
      (ask p.client (deployCall request a))).result
        ((tell ("- Deploying " ++ a.packageName ++ "...") : Act σ Unit).after s) =
          .ok (some text) := by
    rw [result_explain_eq_ok_iff, result_ask]
    exact hanswer
  rw [hresult, result_bind_of_ok _ rfl, askFor, result_bind_of_ok _ hasked, takeAnswer]
  cases haccept : acceptId a.packageName live (some text) with
  | error problem => exact ⟨_, rfl, (acceptId_eq_error haccept).1⟩
  | ok id =>
    obtain ⟨hid, haccepted⟩ := (acceptId_eq_ok_iff _ _ _ _).1 haccept
    cases hid
    exact absurd haccepted hrejected

/-- Where the program that deploys an artifact ends well and writes text, the artifact is live under
an ID exactly if the program printed that ID, and the deployment goes on with it. A program that
printed no ID stops the deployment. -/
theorem deployAll_records_printed {programs : Programs σ} {binary : String} {exit : Exit}
    (hclient : p.client = StellarCli.client programs binary)
    (hbefore : (p.deployAll request before).result s = .ok live)
    (hfile : ((p.deployAll request before).after s).host.HasFile (Path.ofText a.wasmPath).text)
    (hended : EndedWell programs binary (deployCall request a)
      ((p.deployAll request before).after s).host exit)
    (htext : exit.IsText) :
    (∀ id, (p.deployAll request (before ++ [a])).result s =
      .ok (live ++ [⟨a.logicalName, id⟩]) ↔ Prints exit.stdout id) ∧
    (∀ id, Prints exit.stdout id → ∀ rest,
      (p.deployAll request (before ++ a :: rest)).result s =
        (p.deployFrom request (live ++ [⟨a.logicalName, id⟩]) rest).result
          ((p.deployAll request (before ++ [a])).after s)) ∧
    (∀ rest deployed, (p.deployAll request (before ++ a :: rest)).result s = .ok deployed →
      ∃ id, Prints exit.stdout id ∧ live ++ [⟨a.logicalName, id⟩] <+: deployed) ∧
    ((∀ id, ¬Prints exit.stdout id) → ∀ rest, ∃ e,
      (p.deployAll request (before ++ a :: rest)).result s = .error e ∧ e.kind = .deployment) := by
  obtain ⟨text, hanswer, hprints⟩ := answer_of_endedWell hended htext rfl
  rw [← hclient] at hanswer
  -- The artifacts before are deployed whatever follows, so all is decided in the turn of `a`.
  have hall (rest : List Artifact) : (p.deployAll request (before ++ rest)).result s =
      (p.deployFrom request live rest).result ((p.deployAll request before).after s) := by
    rw [deployAll_append, result_bind_of_ok _ hbefore]
  have hone (id : String) : (p.deployOne request live a).result
      ((p.deployAll request before).after s) = .ok ⟨a.logicalName, id⟩ ↔
        Prints exit.stdout id := by
    rw [result_deployOne_eq_ok_iff, ← hprints]
    constructor
    · rintro ⟨id', hgives, hsame⟩
      cases hsame
      cases hanswer.symm.trans hgives.answer
      exact ⟨rfl, hgives.accepted⟩
    · rintro ⟨rfl, hid⟩
      exact ⟨text, ⟨hfile, hanswer, hid⟩, rfl⟩
  refine ⟨fun id => ⟨fun hdeployed => ?_, fun hid => ?_⟩, fun id hid rest => ?_,
    fun rest deployed hdeployed => ?_, fun hnone rest => ?_⟩
  · rw [hall, deployFrom] at hdeployed
    obtain ⟨c, hc, hend⟩ := result_bind_eq_ok hdeployed
    obtain ⟨-, hsame⟩ := List.append_inj' (Except.ok.inj hend) rfl
    exact (hone id).1 (List.singleton_inj.1 hsame ▸ hc)
  · rw [hall, deployFrom, result_bind_of_ok _ ((hone id).2 hid)]
    rfl
  · have hafter : (p.deployAll request (before ++ [a])).after s =
        (p.deployOne request live a).after ((p.deployAll request before).after s) := by
      rw [deployAll_append, after_bind_of_ok _ hbefore, deployFrom,
        after_bind_of_ok _ ((hone id).2 hid)]
      rfl
    rw [hall, deployFrom, result_bind_of_ok _ ((hone id).2 hid), hafter]
  · rw [hall, deployFrom] at hdeployed
    obtain ⟨c, hc, hrest⟩ := result_bind_eq_ok hdeployed
    obtain ⟨id, -, rfl⟩ := (result_deployOne_eq_ok_iff live).1 hc
    obtain ⟨new, rfl, -, -⟩ := result_deployFrom_eq_ok_iff.1 hrest
    exact ⟨id, (hone id).1 hc, new, rfl⟩
  · have hrejected : ¬AcceptedId text := fun hid => hnone text ((hprints text).1 ⟨rfl, hid⟩)
    obtain ⟨e, he, hkind⟩ := deployOne_rejects live hfile hanswer hrejected
    refine ⟨e, ?_, hkind⟩
    rw [hall, deployFrom, result_bind, he]

/-- A pipeline whose client runs a program that prints a text. -/
def runningPrinter (text : String) : Pipeline Unit :=
  { running "/stellar" with client := StellarCli.client (printing text) "/stellar" }

/-- An ID between blanks with three line ends behind it is recorded with its blanks. -/
theorem blanks_recorded :
    ((runningPrinter " CAFE \r\n\r").deployAll mainnetRequest builtArtifacts).result
      ⟨twinHost, []⟩ = .ok (contractsUnder builtArtifacts [" CAFE ", " CAFE "]) := by
  have hprints : Prints (Text.Utf8.encode " CAFE \r\n\r".toList) " CAFE " :=
    prints_encode_iff.2 (by decide)
  have hbefore : ((runningPrinter " CAFE \r\n\r").deployAll mainnetRequest
      (builtArtifacts.take 1)).result ⟨twinHost, []⟩ =
        .ok (contractsUnder builtArtifacts [" CAFE "]) :=
    result_eq_ok_of_toOption (by decide +kernel)
  have hlaunch : launchFor "/stellar" (deployCall mainnetRequest builtArtifacts[1])
      (((runningPrinter " CAFE \r\n\r").deployAll mainnetRequest
        (builtArtifacts.take 1)).after ⟨twinHost, []⟩).host =
      some ⟨"/stellar", commandWords (deployCall mainnetRequest builtArtifacts[1]), some "/"⟩ := by
    decide +kernel
  have hfile : (((runningPrinter " CAFE \r\n\r").deployAll mainnetRequest
      (builtArtifacts.take 1)).after ⟨twinHost, []⟩).host.HasFile
        (Path.ofText builtArtifacts[1].wasmPath).text :=
    (Files.result_isFile_eq_true_iff _ _).1 (result_eq_ok_of_toOption (by decide +kernel))
  have hrecords := (deployAll_records_printed rfl hbefore hfile ⟨_, hlaunch, rfl, rfl⟩
    ⟨⟨_, Text.Utf8.decode_encode _⟩, [], rfl⟩).1 " CAFE "
  exact hrecords.2 hprints

end Pipeline

end SorobanDeploy
