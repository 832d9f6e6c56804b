import SorobanDeploy.Proofs.Client.Launching
import SorobanDeploy.Proofs.Pipeline.Attributed

/-!
# Commands that fail

A command whose program ends with another status than zero fails with a report of its words, its
status and what it wrote of the failure, if it wrote text; if not, it fails as octets that are no
text, whatever its status is. A command whose program is missing fails with a report as well, unless
the last of the files that were tried is missing because the path to it leads through a file.

A run tells a report as the cause of the failure of its stage (`failed_commands_told`). Octets that
are no text are expected by no stage, so they reach the caller as they are.
-/

namespace SorobanDeploy

open Act Event

variable {σ : Type}

namespace StellarCli

variable {programs : Programs σ} {binary : String} {call : Call} {h : Host σ} {exit : Exit}

/-! ## What a program wrote -/

/-- What a program wrote is text. -/
structure Exit.IsText (e : Exit) : Prop where
  stdout : ∃ cs, Text.Utf8.decode e.stdout = .ok cs
  stderr : ∃ cs, Text.Utf8.decode e.stderr = .ok cs

/-- What a program wrote of its failure, without the blanks around it. -/
def Exit.errorText (e : Exit) : String :=
  match Text.Utf8.decode e.stderr with
  | .ok cs => Text.strip (String.ofList (Text.foldNewlines cs))
  | .error _ => ""

/-- The command of a call ran a program that ended with another status than zero. -/
def Ended (programs : Programs σ) (binary : String) (call : Call) (h : Host σ) (exit : Exit) :
    Prop :=
  ∃ l, launchFor binary call h = some l ∧ (programs l h.outside).1 = exit ∧ exit.status ≠ 0

/-- None of the files that a name can mean is there. -/
def Missing (binary : String) (h : Host σ) : Prop :=
  ∀ path ∈ candidates h.env binary,
    execute h path = .error .noEntry ∨ execute h path = .error .notDirectory

/-- Text is read, and nothing else is. -/
theorem readOutput_cases (bs : Text.Octets) :
    (∃ cs, Text.Utf8.decode bs = .ok cs ∧ readOutput bs = .ok (Text.foldNewlines cs)) ∨
      (¬∃ cs, Text.Utf8.decode bs = .ok cs) ∧
        ∃ m, readOutput bs = .error (.plain .undecodable m) := by
  unfold readOutput
  cases Text.Utf8.decode bs with
  | ok cs => exact .inl ⟨cs, rfl, rfl⟩
  | error m => exact .inr ⟨nofun, _, rfl⟩

/-- What a program wrote, if it is text, answers or is reported, as the program ended. -/
theorem Exit.answer_of_decode {out err : List Char} (words : List String)
    (hout : Text.Utf8.decode exit.stdout = .ok out)
    (herr : Text.Utf8.decode exit.stderr = .ok err) :
    exit.answer words =
      if exit.status = 0 then .ok (String.ofList (dropLineEnds (Text.foldNewlines out)))
      else .error (failedCommand words exit.status
        (Text.strip (String.ofList (Text.foldNewlines err)))) := by
  unfold answer readOutput
  rw [hout, herr]
  rfl

/-- A program that ended with another status than zero is reported if it wrote text. -/
theorem Exit.answer_of_isText {words : List String} (hstatus : exit.status ≠ 0)
    (htext : exit.IsText) :
    exit.answer words = .error (failedCommand words exit.status exit.errorText) := by
  obtain ⟨⟨out, hout⟩, err, herr⟩ := htext
  unfold errorText
  rw [Exit.answer_of_decode words hout herr, if_neg hstatus, herr]

/-- A program that did not write text is not reported. -/
theorem Exit.answer_of_not_isText {words : List String} (htext : ¬exit.IsText) :
    ∃ m, exit.answer words = .error (.plain .undecodable m) := by
  unfold answer
  rcases readOutput_cases exit.stdout with ⟨out, hdecode, hout⟩ | ⟨-, m, hout⟩
  · rcases readOutput_cases exit.stderr with ⟨err, hdecode', -⟩ | ⟨-, m, herr⟩
    · exact absurd ⟨⟨out, hdecode⟩, err, hdecode'⟩ htext
    · exact ⟨m, by rw [hout, herr]; rfl⟩
  · exact ⟨m, by rw [hout]; rfl⟩

/-! ## What a command answers -/

/-- A command that was run is answered as its program ended. -/
theorem answer_of_launchFor {l : Launch} (hlaunch : launchFor binary call h = some l) :
    (client programs binary call h).answer =
      ((programs l h.outside).1.answer (binary :: commandWords call)).map fun s =>
        if answersText call then some s else none := by
  unfold launchFor at hlaunch
  unfold client run
  split at hlaunch
  · cases hlaunch
  · rename_i hplain
    rw [if_neg hplain]
    cases hlocate : locate h binary with
    | error r => rw [hlocate] at hlaunch; cases hlaunch
    | ok program =>
      rw [hlocate] at hlaunch
      cases hlaunch
      rfl

/-- A program that ended with another status than zero is told by a report of its command, if it
wrote text, and by the octets that are no text otherwise. -/
theorem answer_of_ended (hended : Ended programs binary call h exit) :
    (exit.IsText → (client programs binary call h).answer = .error
      (failedCommand (binary :: commandWords call) exit.status exit.errorText)) ∧
    (¬exit.IsText → ∃ m, (client programs binary call h).answer =
      .error (.plain .undecodable m)) := by
  obtain ⟨l, hlaunch, hexit, hstatus⟩ := hended
  have hanswer : (client programs binary call h).answer = _ := answer_of_launchFor hlaunch
  rw [hexit] at hanswer
  constructor
  · intro htext
    rw [hanswer, Exit.answer_of_isText hstatus htext]
    rfl
  · intro htext
    obtain ⟨m, hm⟩ : ∃ m, exit.answer (binary :: commandWords call) =
        .error (.plain .undecodable m) := Exit.answer_of_not_isText htext
    refine ⟨m, ?_⟩
    rw [hanswer, hm]
    rfl

/-- Of files that are all missing, the last one decides what is said of them. -/
theorem firstRunnable_of_missing {before r : Refusal} {paths : List String} {last : String}
    (hmissing : ∀ path ∈ paths, execute h path = .error .noEntry ∨
      execute h path = .error .notDirectory)
    (hlast : paths.getLast? = some last) (hrefused : execute h last = .error r) :
    firstRunnable h none before paths = .error r := by
  induction paths generalizing before with
  | nil => cases hlast
  | cons path rest ih =>
    have hskip : ∃ d, execute h path = .error d ∧
        firstRunnable h none before (path :: rest) = firstRunnable h none d rest := by
      rcases hmissing path List.mem_cons_self with hpath | hpath
      · exact ⟨_, hpath, by rw [firstRunnable, hpath]; rfl⟩
      · exact ⟨_, hpath, by rw [firstRunnable, hpath]; rfl⟩
    obtain ⟨d, hpath, hrest⟩ := hskip
    rw [hrest]
    cases rest with
    | nil =>
      cases hlast
      cases hpath.symm.trans hrefused
      rfl
    | cons next more =>
      rw [List.getLast?_cons_cons] at hlast
      exact ih (fun q hq => hmissing q (List.mem_cons_of_mem _ hq)) hlast

/-- A command without a program is not run. -/
theorem answer_of_missing {last : String} {r : Refusal}
    (hplain : (binary :: commandWords call).any Files.hasNul = false) (hmissing : Missing binary h)
    (hlast : (candidates h.env binary).getLast? = some last)
    (hrefused : execute h last = .error r) : (client programs binary call h).answer = .error
      (if r = .noEntry then missingProgram binary (binary :: commandWords call)
        else Files.refusalAt r binary) := by
  have hlocate : locate h binary = .error r := firstRunnable_of_missing hmissing hlast hrefused
  unfold client run
  dsimp only
  rw [hplain, if_neg Bool.false_ne_true, hlocate]
  cases r <;> rfl

end StellarCli

namespace Pipeline

open StellarCli

/-- A client that runs a program leaves the files where they are. -/
theorem hasDirectory_client (programs : Programs σ) (binary : String) (call : Call) (h : Host σ)
    (path : String) :
    (StellarCli.client programs binary call h).host.HasDirectory path ↔ h.HasDirectory path := by
  obtain ⟨outside, hhost⟩ := client_host programs binary call h
  rw [hhost]
  exact Iff.rfl

/-- What a command fails with ends a run, as the stage of its call takes it. -/
theorem run_of_failed_command {programs : Programs σ} {binary : String} {p : Pipeline σ}
    {request : DeploymentRequest} {s : Session σ} {x : Exchange σ} {c : FailureClass} {e : Failure}
    (hclient : p.client = StellarCli.client programs binary)
    (hx : x ∈ exchanges ((p.run request).events s)) (hstage : x.call.stage? = some c)
    (hfails : (StellarCli.client programs binary x.call x.host).answer = .error e)
    (hback : x.call.isBuild = true → x.host.HasDirectory (p.home request s).text) :
    ∃ g, (p.run request).result s = .error g ∧ e.Becomes x.call g := by
  have hanswer : x.answer = .error e := by
    rw [(run_answered p request s).of_mem hx, hclient]
    exact hfails
  have hunfunded : ¬x.IsFunding := by
    rintro ⟨identity, network, hcall⟩
    rw [hcall] at hstage
    cases hstage
  obtain ⟨g, hg, htold⟩ := run_ends_told hx ⟨hanswer, fun h => absurd h hunfunded⟩
  refine ⟨g, hg, htold.told fun hbuild => ?_⟩
  rw [hclient]
  exact (hasDirectory_client programs binary x.call x.host _).2 (hback hbuild)

/-- A program that ends with another status than zero is told by a report of the command, if it
wrote text, and by the octets that are no text otherwise. A program that is missing is told by a
report if the last file that was tried has no entry, and by a refusal if the path to that file leads
through another file. A run tells a report as the cause of the failure of the stage, and anything
that its stages do not expect as it is; a build needs a directory at home for it, where the run goes
back to. -/
theorem failed_commands_told (programs : Programs σ) (binary : String) :
    (∀ call h exit, Ended programs binary call h exit →
      (exit.IsText → ∃ e, (StellarCli.client programs binary call h).answer = .error e ∧
        e.kind = .command ∧
        e.report = ⟨binary :: commandWords call, some exit.status, exit.errorText⟩) ∧
      (¬exit.IsText → ∃ e, (StellarCli.client programs binary call h).answer = .error e ∧
        e.kind = .undecodable)) ∧
    (∀ call h last, (binary :: commandWords call).any Files.hasNul = false → Missing binary h →
      (candidates h.env binary).getLast? = some last →
      (execute h last = .error .noEntry →
        ∃ e, (StellarCli.client programs binary call h).answer = .error e ∧ e.kind = .command ∧
          e.report = ⟨binary :: commandWords call, none, ""⟩) ∧
      (execute h last = .error .notDirectory →
        (StellarCli.client programs binary call h).answer =
          .error (Files.refusalAt .notDirectory binary))) ∧
    ∀ (p : Pipeline σ) request s x c e, p.client = StellarCli.client programs binary →
      x ∈ exchanges ((p.run request).events s) → x.call.stage? = some c →
      (StellarCli.client programs binary x.call x.host).answer = .error e →
      (x.call.isBuild = true → x.host.HasDirectory (p.home request s).text) →
      ∃ g, (p.run request).result s = .error g ∧
        (e.kind = .command → g.kind = c ∧ g.cause = some e) ∧ (e.kind = .undecodable → g = e) := by
  refine ⟨fun call h exit hended => ?_, fun call h last hplain hmissing hlast => ?_,
    fun p request s x c e hclient hx hstage hfails hback => ?_⟩
  · obtain ⟨htext, hraw⟩ := answer_of_ended hended
    refine ⟨fun h => ⟨_, htext h, rfl, rfl⟩, fun h => ?_⟩
    obtain ⟨m, hm⟩ := hraw h
    exact ⟨_, hm, rfl⟩
  · have hanswer (r : Refusal) (hrefused : execute h last = .error r) :
        (StellarCli.client programs binary call h).answer = _ :=
      answer_of_missing hplain hmissing hlast hrefused
    constructor
    · intro hrefused
      exact ⟨_, hanswer _ hrefused, rfl, rfl⟩
    · intro hrefused
      exact hanswer _ hrefused
  · obtain ⟨g, hg, hbecomes⟩ := run_of_failed_command hclient hx hstage hfails hback
    refine ⟨g, hg, fun hkind => ?_, fun hkind => ?_⟩
    · have hexpected : e.isExpected = true := Failure.isExpected_eq hkind
      exact hbecomes.staged hstage hexpected
    · have hunexpected : e.isExpected = false := Failure.isExpected_eq hkind
      exact hbecomes.eq hunexpected

/-- A host with the program and nothing else. -/
def programHost : Host Unit where
  tree := [(["bin"], .directory), (["bin", "stellar"], .program [])]
  cwd := .live []
  env := []
  renameFault := none
  outside := ()

/-- How a program ends that does not know an identity, once it has written some octets. -/
def unknownIdentity (octets : Text.Octets) : Exit :=
  ⟨octets, Text.Utf8.encode "error: no such identity\n".toList, 1⟩

/-- A program that knows no identity. -/
def refusing (octets : Text.Octets) : Programs Unit := fun _ _ => (unknownIdentity octets, ())

/-- A pipeline that runs such a program. -/
def refused (octets : Text.Octets) : Pipeline Unit where
  client := StellarCli.client (refusing octets) "stellar"
  statePath := .ofText ".env"
  contractsRoot := none
  artifacts := Artifact.standard
  check := none

/-- What an unknown identity makes the program fail with is told with its report. -/
theorem refused_told : ∃ g e,
    ((refused []).run mainnetRequest).result ⟨programHost, []⟩ = .error g ∧
      g.kind = .identity ∧ g.cause = some e ∧
      e.report = ⟨["stellar", "keys", "address", "alice"], some 1, "error: no such identity"⟩ := by
  have hlaunches : (exchanges (((refused []).run mainnetRequest).events ⟨programHost, []⟩)).map
      (fun x => (x.call, launchFor "stellar" x.call x.host)) = [(.resolveAddress "alice",
        some ⟨"/bin/stellar", ["keys", "address", "alice"], some "/"⟩)] := by
    decide +kernel
  obtain ⟨x, hx, hlaunch⟩ := List.mem_map.1 (hlaunches ▸ List.mem_singleton_self _)
  obtain ⟨hcall, hlaunch⟩ := Prod.mk.inj hlaunch
  obtain ⟨hended, -, htold⟩ := failed_commands_told (refusing []) "stellar"
  have hexit : Ended (refusing []) "stellar" x.call x.host (unknownIdentity []) :=
    ⟨_, hlaunch, rfl, by decide⟩
  obtain ⟨e, hfails, hkind, hreport⟩ := (hended _ _ _ hexit).1
    ⟨⟨[], rfl⟩, _, Text.Utf8.decode_encode _⟩
  obtain ⟨g, hg, hcommand, -⟩ := htold (refused []) mainnetRequest ⟨programHost, []⟩ x .identity e
    rfl hx (by rw [hcall]; rfl) hfails (by rw [hcall]; nofun)
  obtain ⟨hstage, hcause⟩ := hcommand hkind
  refine ⟨g, e, hg, hstage, hcause, ?_⟩
  rw [hreport, hcall]
  decide +kernel

/-- Where the program writes an octet that is no text, neither its status nor what it wrote of its
failure is told. -/
theorem refused_untold :
    Ended (refusing [0xFF]) "stellar" (.resolveAddress "alice") programHost
      (unknownIdentity [0xFF]) ∧
    (match ((refused [0xFF]).client (.resolveAddress "alice") programHost).answer with
      | .error e => some e.kind
      | .ok _ => none) = some .undecodable ∧
    FailureClass.undecodable.isA .command = false := by
  refine ⟨⟨⟨"/bin/stellar", ["keys", "address", "alice"], some "/"⟩, ?_, rfl, ?_⟩, ?_, ?_⟩
  · decide +kernel
  · decide
  · decide +kernel
  · decide

end Pipeline

end SorobanDeploy
