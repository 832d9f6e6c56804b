import SorobanDeploy.Proofs.Host.Length
import SorobanDeploy.Proofs.StateFile.Grammar
import SorobanDeploy.Proofs.StateFile.Store

/-!
# What loading gives

Loading a state file gives the values of the text that its path leads to, and none if the path leads
to no file. Octets that are no text are a matter of configuration, and the failure names the path
(`StateFile.result_load`). There is one exception. Whether anything is there is asked before the
file is read, and a failure of that question is passed on as it is: that of a path which is too long
(`StateFile.answers_load_iff`).
-/

namespace SorobanDeploy

open Act

variable {σ : Type}

/-- A path that the system refuses to look at because it is too long. -/
def Host.Overlong (h : Host σ) (path : Path) : Prop :=
  Files.hasNul path.text = false ∧ h.tree.status h.cwd path.text = .error .nameTooLong

/-- The octets that a state file is read from. Where nothing stands there are none. -/
def Host.stateOctets (h : Host σ) (path : Path) : Except Refusal Text.Octets :=
  if Files.hasNul path.text then .ok []
  else match h.tree.status h.cwd path.text with
    | .ok (_, entry) => .ok entry.stateOctets
    | .error r => if Files.meansAbsent r then .ok [] else .error r

namespace Host

variable {h : Host σ} {path : Path}

/-- A state file is refused only for the length of its path. -/
theorem stateOctets_eq_error_iff {r : Refusal} :
    h.stateOctets path = .error r ↔ r = .nameTooLong ∧ h.Overlong path := by
  cases hnul : Files.hasNul path.text with
  | true => simp [stateOctets, Overlong, hnul]
  | false =>
    cases hstatus : h.tree.status h.cwd path.text with
    | ok reached => simp [stateOctets, Overlong, hnul, hstatus]
    | error d =>
      rcases Tree.status_refused hstatus with habsent | rfl
      · have hother : d ≠ .nameTooLong := by
          rintro rfl
          cases habsent
        simp [stateOctets, Overlong, hnul, hstatus, habsent, hother]
      · simp [stateOctets, Overlong, hnul, hstatus, Files.meansAbsent, eq_comm]

/-- A name that is too long is a path that is, in a working directory that stands. -/
theorem overlong_of_name {name : String} (hname : Path.IsName name)
    (hnul : Files.hasNul name = false) (hlong : Tree.LongName name) (hlive : h.cwd.lost = 0) :
    h.Overlong (.ofText name) := by
  unfold Overlong
  rw [Path.text_ofText_of_name hname]
  exact ⟨hnul, Tree.status_of_longName hname hlong hlive⟩

end Host

namespace StateFile

variable {path : Path} {s : Session σ}

/-- Where nothing stands there are no values. -/
theorem result_load_of_absent (h : ( Files.entry? path.text).result s = .ok none) :
    (load path).result s = .ok [] := by
  unfold load Files.exists?
  rw [bind_assoc, result_bind_of_ok _ h]
  rfl

/-- Where the system refuses to tell what stands at the path, its refusal is passed on. -/
theorem result_load_of_entry_error {e : Failure}
    (h : ( Files.entry? path.text).result s = .error e) : (load path).result s = .error e := by
  unfold load Files.exists?
  rw [bind_assoc, result_bind, h]

/-- A directory is loaded as a state file without values, but saving finds no text in it. -/
theorem result_of_directory {q : Spot} (hnul : Files.hasNul path.text = false)
    (hstatus : s.host.tree.status s.host.cwd path.text = .ok (q, .directory)) :
    (load path).result s = .ok [] ∧
      (found path).result s = .error (Files.refusalAt .isDirectory path.text) := by
  constructor
  · rw [result_load_of_status hnul hstatus, Files.result_textOf]
    exact congrArg Except.ok valuesOf_statements_nil
  · rw [result_found_of_status hnul hstatus, Files.result_readText hnul,
      Tree.contentOf_of_status hstatus]
    rfl

/-- What loading gives is told by the octets that the state file is read from. -/
theorem result_load (path : Path) (s : Session σ) :
    (load path).result s = match s.host.stateOctets path with
      | .error r => .error (Files.refusalAt r path.text)
      | .ok octets => match Text.Utf8.decode octets with
        | .ok cs => .ok (valuesOf (statements (Text.foldNewlines cs)))
        | .error m => .error ((Problem.unreadableState path.text m.message).because
            (.plain .undecodable m.message)) := by
  -- What has no octets loads as an empty text, which is what loading gives where there is no file.
  have hnone : Text.Utf8.decode [] = .ok [] := rfl
  have hempty : valuesOf (statements (Text.foldNewlines [])) = [] := valuesOf_statements_nil
  have hentry := Files.result_entry_of_path path.text s
  cases hnul : Files.hasNul path.text with
  | true =>
    rw [hnul, if_pos rfl] at hentry
    simp only [Host.stateOctets, hnul, if_true, hnone, hempty]
    exact result_load_of_absent hentry
  | false =>
    cases hstatus : s.host.tree.status s.host.cwd path.text with
    | ok reached =>
      obtain ⟨q, entry⟩ := reached
      simp only [Host.stateOctets, hnul, Bool.false_eq_true, if_false, hstatus]
      rw [result_load_of_status hnul hstatus, Files.result_textOf]
      cases Text.Utf8.decode entry.stateOctets <;> rfl
    | error r =>
      rw [hnul, if_neg Bool.false_ne_true, hstatus] at hentry
      cases habsent : Files.meansAbsent r with
      | true =>
        simp only [habsent, if_true] at hentry
        simp only [Host.stateOctets, hnul, hstatus, habsent, if_true, Bool.false_eq_true, if_false,
          hnone, hempty]
        exact result_load_of_absent hentry
      | false =>
        simp only [habsent, Bool.false_eq_true, if_false] at hentry
        simp only [Host.stateOctets, hnul, hstatus, habsent, Bool.false_eq_true, if_false]
        exact result_load_of_entry_error hentry

/-- What loading gives depends on the host alone. -/
theorem result_load_congr {t : Session σ} (h : s.host = t.host) :
    (load path).result s = (load path).result t := by
  rw [result_load, result_load, h]

/-- An outcome of loading that a user can act on: values, or a failure of the configuration that
names the path. -/
def Answers (path : Path) : Except Failure (Pairs String String) → Prop
  | .ok _ => True
  | .error e => e.kind = .configuration ∧ path.text.toList <:+: e.message.toList

/-- A path that is too long is refused, and the refusal is passed on. -/
theorem result_load_of_overlong (h : s.host.Overlong path) :
    (load path).result s = .error (Files.refusalAt .nameTooLong path.text) := by
  rw [result_load, Host.stateOctets_eq_error_iff.2 ⟨rfl, h⟩]

/-- Loading answers with values or with a failure of the configuration that names the path, exactly
if the path is not too long. -/
theorem answers_load_iff (path : Path) (s : Session σ) :
    Answers path ((load path).result s) ↔ ¬s.host.Overlong path := by
  constructor
  · intro hanswers hlong
    rw [result_load_of_overlong hlong] at hanswers
    exact absurd hanswers.1 (by decide : FailureClass.ofErrorNumber 36 ≠ .configuration)
  · intro hshort
    rw [result_load]
    cases hoctets : s.host.stateOctets path with
    | error r => exact absurd (Host.stateOctets_eq_error_iff.1 hoctets).2 hshort
    | ok octets =>
      dsimp only
      cases Text.Utf8.decode octets with
      | ok cs => trivial
      | error m =>
        have hmessage : ((Problem.unreadableState path.text m.message).because
            (.plain .undecodable m.message)).message =
              "Could not read state file " ++ path.text ++ ": " ++ m.message := rfl
        refine ⟨rfl, "Could not read state file ".toList, (": " ++ m.message).toList, ?_⟩
        simp only [hmessage, String.toList_append, List.append_assoc]

end StateFile

end SorobanDeploy
