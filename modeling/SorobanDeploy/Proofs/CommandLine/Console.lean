import SorobanDeploy.CommandLine.Run
import SorobanDeploy.Proofs.Pipeline.Stages
import SorobanDeploy.Proofs.Session.Steps

/-!
# What is printed on the output

The output of a console is what was printed on it and nothing else: the log goes to the errors
(`CommandLine.console_fst`). A run of a pipeline prints nothing there, whatever its client shows
(`Pipeline.run_mute`).
-/

namespace SorobanDeploy

open Act

variable {σ : Type}

namespace Event

/-- The text that an event prints on the output. -/
def output? : Event σ → Option String
  | .print .output text => some text
  | _ => none

/-- What events print on the output. -/
def output (es : List (Event σ)) : String := String.join (es.filterMap output?)

@[simp] theorem output_append (es fs : List (Event σ)) :
    output (es ++ fs) = output es ++ output fs := by
  unfold output
  rw [List.filterMap_append, String.join_append]

theorem output_configure_cons (level : Log.Level) (es : List (Event σ)) :
    output (.configure level :: es) = output es := rfl

theorem exchanges_configure_cons (level : Log.Level) (es : List (Event σ)) :
    exchanges (.configure level :: es) = exchanges es := rfl

@[simp] theorem output_notes (ns : List Note) : output (ns.map .note : List (Event σ)) = "" := by
  have hnone : (ns.map .note : List (Event σ)).filterMap output? = [] := by
    simp [output?]
  rw [output, hnone, String.join_nil]

end Event

open Event

namespace CommandLine

/-- The output of a console, however its log is set up. -/
theorem consoleFrom_fst (time : String) (log : Log.Settings) (es : List (Event σ)) :
    (consoleFrom time log es).1 = output es := by
  induction es generalizing log with
  | nil => rfl
  | cons e es ih =>
    have hoff : e.output? = none → output (e :: es) = output es := fun h => by
      rw [output, List.filterMap_cons_none h, output]
    cases e with
    | configure level => exact (ih _).trans (hoff rfl).symm
    | print channel text =>
      cases channel with
      | output =>
        have hon : output (.print .output text :: es) = text ++ output es := String.join_cons
        rw [hon, ← ih log]
        rfl
      | errors => exact (ih _).trans (hoff rfl).symm
    | note n => cases n <;> exact (ih _).trans (hoff rfl).symm
    | exchange x => exact (ih _).trans (hoff rfl).symm
    | check profile => exact (ih _).trans (hoff rfl).symm
    | change tree => exact (ih _).trans (hoff rfl).symm

/-- The output of a console is what was printed on it. -/
theorem console_fst (time : String) (es : List (Event σ)) : (console time es).1 = output es :=
  consoleFrom_fst time _ es

end CommandLine

/-- A way on which nothing is printed on the output. -/
def Mute (s t : Session σ) : Prop := ∃ es, t.trace = s.trace ++ es ∧ output es = ""

theorem isWay_mute : IsWay (σ := σ) Mute :=
  isWay_added rfl fun hes hfs => by rw [output_append, hes, hfs, String.append_empty]

theorem log_mute (level : Log.Level) (logger message : String) :
    (log level logger message : Act σ Unit).Along Mute := fun _ => ⟨[_], rfl, rfl⟩

theorem setTree_mute (t : Tree) : (setTree t : Act σ Unit).Along Mute := fun _ => ⟨[_], rfl, rfl⟩

theorem setCwd_mute (dir : Spot) : (setCwd dir : Act σ Unit).Along Mute :=
  fun s => ⟨[], by simp [after, setCwd], rfl⟩

theorem ask_mute (client : Client σ) (call : Call) : (ask client call).Along Mute := by
  intro s
  rw [after_ask]
  exact ⟨_, rfl, output_notes _⟩

/-- A run prints nothing on the output. -/
theorem Pipeline.run_mute (p : Pipeline σ) (request : DeploymentRequest) :
    (p.run request).Along Mute := by
  rw [run_eq]
  refine .bind isWay_mute (goLive_along isWay_mute log_mute setCwd_mute (ask_mute p.client)
    (fun _ => checkNetwork_along isWay_mute fun _ _ _ => ⟨_, rfl, output_notes _⟩) request)
    fun live => ?_
  exact save_along isWay_mute log_mute setTree_mute request live.1 live.2

end SorobanDeploy
