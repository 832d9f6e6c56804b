import SorobanDeploy.Pairs
import SorobanDeploy.Text.Lines

/-!
# Writing values into a state file

Writing a key takes away every line that begins with the key and an equals sign, and adds one line
at the end. The other lines stay as they are.
-/

namespace SorobanDeploy.StateFile

open Text

/-- The line of a key and its value. -/
def line (key value : String) : List Char := key.toList ++ '=' :: value.toList

/-- Whether a line begins with a key and an equals sign. -/
def bindsKey (key : String) (l : List Char) : Bool := (key.toList ++ ['=']).isPrefixOf l

/-- The lines with one key written. -/
def putLine (ls : List (List Char)) (key value : String) : List (List Char) :=
  ls.filter (fun l => !bindsKey key l) ++ [line key value]

/-- The lines with all keys written, one after the other. -/
def putLines (ls : List (List Char)) (values : Pairs String String) : List (List Char) :=
  values.foldl (fun done p => putLine done p.1 p.2) ls

/-- The text of a state file with all keys written. -/
def updated (text : List Char) (values : Pairs String String) : List Char :=
  unlines (putLines (lines text) values)

/-- The line of a key binds it. -/
theorem bindsKey_line (key value : String) : bindsKey key (line key value) = true := by
  simp [bindsKey, line, List.prefix_append_right_inj]

end SorobanDeploy.StateFile
