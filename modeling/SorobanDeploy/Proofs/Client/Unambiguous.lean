import SorobanDeploy.Proofs.Client.Launching

/-!
# What the words of a command say

Two commands have the same words exactly if they are for the same operation with the same arguments
(`StellarCli.commands_unambiguous`). The first two words are the verb, and there is one for each
operation; behind the verb every argument has a place of its own, so that a text which reads like an
option, or like the separator, stands for nothing but itself. Of a profile a command has the address
and the passphrase, and not the name (`Call.Alike`).
-/

namespace SorobanDeploy

variable {σ : Type}

/-- Profiles with one address and one passphrase, under whatever name. -/
structure NetworkProfile.SameServer (p q : NetworkProfile) : Prop where
  rpcUrl : p.rpcUrl = q.rpcUrl
  passphrase : p.passphrase = q.passphrase

/-- Calls of one operation with the same arguments, but for the names of profiles. -/
def Call.Alike : Call → Call → Prop
  | .resolveAddress identity, .resolveAddress identity' => identity = identity'
  | .fund identity network, .fund identity' network' => identity = identity' ∧ network = network'
  | .build package optimize, .build package' optimize' =>
    package = package' ∧ optimize = optimize'
  | .deploy wasm profile identity, .deploy wasm' profile' identity' =>
    wasm = wasm' ∧ profile.SameServer profile' ∧ identity = identity'
  | .invoke contractId function arguments profile identity,
      .invoke contractId' function' arguments' profile' identity' =>
    contractId = contractId' ∧ function = function' ∧ arguments = arguments' ∧
      profile.SameServer profile' ∧ identity = identity'
  | _, _ => False

namespace StellarCli

/-! ## The parts of a command -/

/-- The words that name the operation of a command. -/
def verb : Call → List String
  | .resolveAddress .. => ["keys", "address"]
  | .fund .. => ["keys", "fund"]
  | .build .. => ["contract", "build"]
  | .deploy .. => ["contract", "deploy"]
  | .invoke .. => ["contract", "invoke"]

/-- A command begins with its verb. -/
theorem take_commandWords (call : Call) : (commandWords call).take 2 = verb call := by
  cases call <;> rfl

/-- Commands with other verbs have other words. -/
theorem commandWords_ne {c d : Call} (h : verb c ≠ verb d) : commandWords c ≠ commandWords d := by
  intro hwords
  rw [← take_commandWords, ← take_commandWords, hwords] at h
  exact h rfl

/-- The words for a network and an account tell both. -/
theorem networkWords_eq_iff {p q : NetworkProfile} {identity identity' : String} :
    networkWords p identity = networkWords q identity' ↔ p.SameServer q ∧ identity = identity' := by
  constructor
  · intro h
    simp only [networkWords, List.cons.injEq, true_and, and_true] at h
    obtain ⟨hurl, hpassphrase, hidentity⟩ := h
    exact ⟨⟨hurl, hpassphrase⟩, hidentity⟩
  · rintro ⟨⟨hurl, hpassphrase⟩, rfl⟩
    rw [networkWords, networkWords, hurl, hpassphrase]

/-- The words for a build tell the package and the mode: a package has two words, and the mode has
at most one. -/
theorem buildWords_eq_iff {package package' : Option String} {optimize optimize' : Bool} :
    commandWords (.build package optimize) = commandWords (.build package' optimize') ↔
      package = package' ∧ optimize = optimize' := by
  cases package <;> cases package' <;> cases optimize <;> cases optimize' <;>
    simp [commandWords]

/-- The words for the arguments of a function tell each name and each value, in their order. -/
theorem argumentWords_inj {xs ys : Pairs String String}
    (h : (xs.flatMap fun p => ["--" ++ p.1, p.2]) = ys.flatMap fun p => ["--" ++ p.1, p.2]) :
    xs = ys := by
  induction xs generalizing ys with
  | nil =>
    cases ys with
    | nil => rfl
    | cons y ys => cases h
  | cons x xs ih =>
    cases ys with
    | nil => cases h
    | cons y ys =>
      -- Every argument has two words, so that the first two of both lists are of the first ones.
      simp only [List.flatMap_cons, List.cons_append, List.nil_append, List.cons.injEq] at h
      obtain ⟨hname, hvalue, hrest⟩ := h
      rw [ih hrest, Prod.ext ((String.append_right_inj "--").1 hname) hvalue]

/-- The words for a call of a contract's function tell all that it is called with. -/
theorem invokeWords_eq_iff {contractId contractId' function function' : String}
    {arguments arguments' : Pairs String String} {profile profile' : NetworkProfile}
    {identity identity' : String} :
    commandWords (.invoke contractId function arguments profile identity) =
        commandWords (.invoke contractId' function' arguments' profile' identity') ↔
      contractId = contractId' ∧ function = function' ∧ arguments = arguments' ∧
        profile.SameServer profile' ∧ identity = identity' := by
  constructor
  · intro h
    simp only [commandWords, List.append_assoc, List.cons_append, List.nil_append,
      List.cons.injEq, true_and] at h
    obtain ⟨hid, hbehind⟩ := h
    -- The words for a network are always as many, so what is behind them begins at one place.
    obtain ⟨hnetwork, htail⟩ := List.append_inj hbehind rfl
    simp only [List.cons.injEq, true_and] at htail
    obtain ⟨hfunction, harguments⟩ := htail
    exact ⟨hid, hfunction, argumentWords_inj harguments, networkWords_eq_iff.1 hnetwork⟩
  · rintro ⟨rfl, rfl, rfl, hnetwork⟩
    rw [commandWords, commandWords, networkWords_eq_iff.2 hnetwork]

/-! ## Whole commands -/

/-- Commands have the same words exactly if their calls are alike. -/
theorem commandWords_eq_iff (c d : Call) : commandWords c = commandWords d ↔ c.Alike d := by
  -- Another operation has another verb, so only calls of one operation are left to compare.
  cases c with
  | resolveAddress identity =>
    cases d with
    | resolveAddress identity' => simp [commandWords, Call.Alike]
    | _ => exact iff_of_false (commandWords_ne (by simp [verb])) id
  | fund identity network =>
    cases d with
    | fund identity' network' => simp [commandWords, Call.Alike]
    | _ => exact iff_of_false (commandWords_ne (by simp [verb])) id
  | build package optimize =>
    cases d with
    | build package' optimize' => exact buildWords_eq_iff
    | _ => exact iff_of_false (commandWords_ne (by simp [verb])) id
  | deploy wasm profile identity =>
    cases d with
    | deploy wasm' profile' identity' => simp [commandWords, Call.Alike, networkWords_eq_iff]
    | _ => exact iff_of_false (commandWords_ne (by simp [verb])) id
  | invoke contractId function arguments profile identity =>
    cases d with
    | invoke contractId' function' arguments' profile' identity' => exact invokeWords_eq_iff
    | _ => exact iff_of_false (commandWords_ne (by simp [verb])) id

/-- A command shows that it starts a program exactly if it starts one. -/
theorem launch_mem_notes_iff {programs : Programs σ} {binary : String} {call : Call} {h : Host σ}
    {l : Launch} : .launch l ∈ (client programs binary call h).notes ↔
      launchFor binary call h = some l := by
  obtain ⟨r, hnotes⟩ := client_notes programs binary call h
  rw [hnotes]
  simp

/-- A program is started with the words of the command. -/
theorem arguments_of_launchFor {binary : String} {call : Call} {h : Host σ} {l : Launch}
    (hl : launchFor binary call h = some l) : l.arguments = commandWords call := by
  unfold launchFor at hl
  split at hl
  · cases hl
  · split at hl
    · cases hl
    · cases hl
      rfl

/-- Two commands have the same words exactly if they are for one operation with the same arguments,
and so have the programs that they start, whatever programs these are and wherever they run. -/
theorem commands_unambiguous (programs programs' : Programs σ) (binary binary' : String)
    (c d : Call) (h k : Host σ) :
    (commandWords c = commandWords d ↔ c.Alike d) ∧
      ∀ l m, .launch l ∈ (client programs binary c h).notes →
        .launch m ∈ (client programs' binary' d k).notes →
          (l.arguments = m.arguments ↔ c.Alike d) := by
  refine ⟨commandWords_eq_iff c d, fun l m hl hm => ?_⟩
  rw [arguments_of_launchFor (launch_mem_notes_iff.1 hl),
    arguments_of_launchFor (launch_mem_notes_iff.1 hm)]
  exact commandWords_eq_iff c d

/-- A host with the program in its root. -/
def rootHost : Host Unit where
  tree := [(["stellar"], .program [])]
  cwd := .live []
  env := []
  renameFault := none
  outside := ()

/-- A program that writes nothing. -/
def quiet : Programs Unit := fun _ outside => (⟨[], [], 0⟩, outside)

/-- The build of a package that is called like the option for the mode is not started with the words
of the optimizing build of all packages. -/
theorem package_told_from_mode : ∃ l m,
    .launch l ∈ (client quiet "/stellar" (.build (some "--optimize") false) rootHost).notes ∧
    .launch m ∈ (client quiet "/stellar" (.build none true) rootHost).notes ∧
    l.arguments ≠ m.arguments := by
  have hl : launchFor "/stellar" (.build (some "--optimize") false) rootHost = some
      ⟨"/stellar", ["contract", "build", "--package", "--optimize"], some "/"⟩ := by
    decide +kernel
  have hm : launchFor "/stellar" (.build none true) rootHost =
      some ⟨"/stellar", ["contract", "build", "--optimize"], some "/"⟩ := by
    decide +kernel
  refine ⟨_, _, launch_mem_notes_iff.2 hl, launch_mem_notes_iff.2 hm, fun hwords => ?_⟩
  obtain ⟨-, hstarted⟩ := commands_unambiguous quiet quiet "/stellar" "/stellar"
    (.build (some "--optimize") false) (.build none true) rootHost rootHost
  have halike := (hstarted _ _ (launch_mem_notes_iff.2 hl) (launch_mem_notes_iff.2 hm)).1 hwords
  exact absurd halike.2 Bool.false_ne_true

end StellarCli

end SorobanDeploy
