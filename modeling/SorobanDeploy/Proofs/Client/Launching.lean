import Mathlib.Data.List.Basic
import SorobanDeploy.Client.StellarCli
import SorobanDeploy.Proofs.Host.Walk

/-!
# Which program a command starts

A command of the client starts the program that the name of the program leads to at that moment, or
nothing (`launchFor`), and changes nothing of the host but what is outside of it. Which file that is
depends on the files, the environment and the working directory (`programAt_congr`). From every
directory it is the same one if the name is a path from the root, or a bare name while the search
path names its directories from the root (`programAt_of_fixed`).
-/

namespace SorobanDeploy

namespace StellarCli

variable {σ : Type} {h g : Host σ} {binary : String}

/-! ## What a command does -/

/-- What a command of the client starts on a host, if it starts anything. -/
def launchFor (binary : String) (call : Call) (h : Host σ) : Option Launch :=
  if (binary :: commandWords call).any Files.hasNul then none
  else match locate h binary with
    | .error _ => none
    | .ok program => some ⟨program, commandWords call, h.cwd.path?.map Path.text⟩

/-- A command leaves the host as it is, but for what is outside. -/
theorem client_host (programs : Programs σ) (binary : String) (call : Call) (h : Host σ) :
    ∃ outside, (client programs binary call h).host = { h with outside := outside } := by
  unfold client run
  dsimp only
  split
  · exact ⟨h.outside, rfl⟩
  · cases locate h binary with
    | error r => cases r <;> exact ⟨h.outside, rfl⟩
    | ok program => exact ⟨_, rfl⟩

/-- A command shows its words, and then what it starts. -/
theorem client_notes (programs : Programs σ) (binary : String) (call : Call) (h : Host σ) :
    ∃ r, (client programs binary call h).notes =
      .record r :: (launchFor binary call h).toList.map .launch := by
  unfold client run launchFor
  dsimp only
  split
  · exact ⟨_, rfl⟩
  · cases locate h binary with
    | error r => cases r <;> exact ⟨_, rfl⟩
    | ok program => exact ⟨_, rfl⟩

/-- A command that is answered was started. -/
theorem launchFor_of_answered {programs : Programs σ} {call : Call} {a : Option String}
    (hanswer : (client programs binary call h).answer = .ok a) :
    ∃ l, launchFor binary call h = some l := by
  unfold client run at hanswer
  unfold launchFor
  dsimp only at hanswer
  by_cases hnul : (binary :: commandWords call).any Files.hasNul = true
  · rw [if_pos hnul] at hanswer
    cases hanswer
  · rw [if_neg hnul] at hanswer ⊢
    cases hlocate : locate h binary with
    | error r => rw [hlocate] at hanswer; cases r <;> cases hanswer
    | ok program => exact ⟨_, rfl⟩

/-! ## The file of the program -/

/-- The place of the program at the end of a path. -/
def programFile (h : Host σ) (path : String) : Option Spot :=
  match h.tree.status h.cwd path with
  | .ok (place, .program _) => some place
  | _ => none

/-- The place of the program that a name leads to. -/
def programAt (h : Host σ) (binary : String) : Option Spot :=
  match locate h binary with
  | .error _ => none
  | .ok path => programFile h path

/-- The place of the program that a command executes, if it executes any. -/
def executed (binary : String) (call : Call) (h : Host σ) : Option Spot :=
  (launchFor binary call h).bind fun l => programFile h l.program

/-- What is found among candidates is one of them, and can be run. -/
theorem mem_of_firstRunnable {kept : Option Refusal} {last : Refusal} {paths : List String}
    {path : String} (hfirst : firstRunnable h kept last paths = .ok path) :
    path ∈ paths ∧ execute h path = .ok () := by
  induction paths generalizing kept last with
  | nil => cases hfirst
  | cons candidate rest ih =>
    unfold firstRunnable at hfirst
    cases hexecute : execute h candidate with
    | error r =>
      rw [hexecute] at hfirst
      obtain ⟨hmem, hruns⟩ := ih hfirst
      exact ⟨List.mem_cons_of_mem _ hmem, hruns⟩
    | ok _ =>
      rw [hexecute] at hfirst
      cases hfirst
      exact ⟨List.mem_cons_self, hexecute⟩

/-- What is found is the same where the candidates are. -/
theorem firstRunnable_congr {kept : Option Refusal} {last : Refusal} {paths : List String}
    (hpaths : ∀ path ∈ paths, execute h path = execute g path) :
    firstRunnable h kept last paths = firstRunnable g kept last paths := by
  induction paths generalizing kept last with
  | nil => rfl
  | cons path rest ih =>
    have hrest : ∀ kept last, firstRunnable h kept last rest = firstRunnable g kept last rest :=
      fun _ _ => ih fun q hq => hpaths q (List.mem_cons_of_mem _ hq)
    unfold firstRunnable
    rw [hpaths path List.mem_cons_self]
    cases execute g path with
    | error r => exact hrest _ _
    | ok _ => rfl

/-- A name leads to a program. -/
theorem programFile_of_locate {path : String} (hlocate : locate h binary = .ok path) :
    path ∈ candidates h.env binary ∧ ∃ place, programFile h path = some place := by
  obtain ⟨hmem, hruns⟩ := mem_of_firstRunnable hlocate
  refine ⟨hmem, ?_⟩
  unfold execute at hruns
  unfold programFile
  split at hruns
  · rename_i place content hstatus
    exact ⟨place, by rw [hstatus]⟩
  · cases hruns
  · cases hruns

/-- A command whose words can be written executes the program that the name leads to. -/
theorem executed_eq (binary : String) (call : Call) (h : Host σ) :
    executed binary call h =
      if (binary :: commandWords call).any Files.hasNul then none else programAt h binary := by
  unfold executed launchFor programAt
  split
  · rfl
  · cases locate h binary <;> rfl

/-- What a command executes is what the name leads to. -/
theorem programAt_of_executed {call : Call} {place : Spot}
    (hexecuted : executed binary call h = some place) : programAt h binary = some place := by
  rw [executed_eq] at hexecuted
  split at hexecuted
  · cases hexecuted
  · exact hexecuted

/-- What is started is a program. -/
theorem executed_of_launchFor {call : Call} {l : Launch}
    (hlaunch : launchFor binary call h = some l) :
    ∃ place, executed binary call h = some place := by
  unfold executed
  rw [hlaunch]
  unfold launchFor at hlaunch
  split at hlaunch
  · cases hlaunch
  · cases hlocate : locate h binary with
    | error r => rw [hlocate] at hlaunch; cases hlaunch
    | ok path =>
      rw [hlocate] at hlaunch
      cases hlaunch
      exact (programFile_of_locate hlocate).2

/-- A name under which something is started can be written down. -/
theorem hasNul_of_launchFor {call : Call} {l : Launch}
    (hlaunch : launchFor binary call h = some l) : Files.hasNul binary = false := by
  unfold launchFor at hlaunch
  split at hlaunch
  · cases hlaunch
  · rename_i hnul
    rw [List.any_cons, Bool.or_eq_true] at hnul
    exact Bool.eq_false_iff.2 fun hbinary => hnul (.inl hbinary)

/-- A name leads to the same program where the environment is the same and each file that it can
mean is the same. -/
theorem programAt_congr (henv : h.env = g.env)
    (hstatus : ∀ path ∈ candidates g.env binary,
      h.tree.status h.cwd path = g.tree.status g.cwd path) :
    programAt h binary = programAt g binary := by
  have hlocate : locate h binary = locate g binary := by
    unfold locate
    rw [henv]
    refine firstRunnable_congr fun path hpath => ?_
    unfold execute
    rw [hstatus path hpath]
  unfold programAt
  rw [hlocate]
  cases hpath : locate g binary with
  | error r => rfl
  | ok path =>
    have hmem := (programFile_of_locate hpath).1
    dsimp only
    unfold programFile
    rw [hstatus path hmem]

/-- A name that means the same files from every directory: a path from the root, or a bare name
while the search path names its directories from the root. -/
def Fixed (env : Pairs String String) (binary : String) : Prop :=
  binary.toList.head? = some '/' ∨
    '/' ∉ binary.toList ∧
      ∀ dir ∈ searchDirectories (searchPath env), dir.toList.head? = some '/'

/-- What a fixed name can mean are paths from the root. -/
theorem Fixed.absolute {env : Pairs String String} (hfixed : Fixed env binary) {path : String}
    (hpath : path ∈ candidates env binary) : path.toList.head? = some '/' := by
  unfold candidates at hpath
  rcases hfixed with habsolute | ⟨hbare, hdirectories⟩
  · have hslash : binary.toList.contains '/' = true := by
      simpa using List.mem_of_head? habsolute
    rw [if_pos hslash, List.mem_singleton] at hpath
    rw [hpath]
    exact habsolute
  · rw [if_neg (by simpa using hbare)] at hpath
    obtain ⟨dir, hdir, rfl⟩ := List.mem_map.1 hpath
    have hroot := hdirectories dir hdir
    have hne : dir.isEmpty = false := by
      refine Bool.eq_false_iff.2 fun hempty => ?_
      rw [String.isEmpty_iff.1 hempty] at hroot
      cases hroot
    have hhead : ∀ rest : String, (dir ++ rest).toList.head? = some '/' := fun rest => by
      rw [String.toList_append, List.head?_append, hroot]
      rfl
    unfold inSearchDirectory
    rw [hne, if_neg Bool.false_ne_true]
    split
    · exact hhead binary
    · rw [String.append_assoc]
      exact hhead _

/-- A fixed name leads to one program from every directory. -/
theorem programAt_of_fixed (hfixed : Fixed h.env binary) (dir : Spot) :
    programAt { h with cwd := dir } binary = programAt h binary := by
  refine programAt_congr rfl fun path hpath => ?_
  exact Tree.status_of_absolute (hfixed.absolute hpath) h.tree dir h.cwd

end StellarCli

end SorobanDeploy
