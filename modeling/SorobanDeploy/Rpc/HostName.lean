import SorobanDeploy.Rpc.HostName.Label
import SorobanDeploy.Rpc.HostName.Mapping
import SorobanDeploy.Text.Lower

/-!
# Host names

A host name is sent in ASCII, label by label. The host names of addresses that are served are taken
as they are written, but for capital letters; those of other addresses are put into their form
first. A label that cannot be sent is told.
-/

namespace SorobanDeploy.Rpc.HostName

open Text

/-- A label in ASCII with small letters, where the digits of written octets stay capital. -/
def lowerAscii : List Char → List Char
  | '%' :: a :: b :: rest => '%' :: a :: b :: lowerAscii rest
  | c :: rest => c.toLower :: lowerAscii rest
  | [] => []

/-- A label of a served address as it is sent, if it can be. -/
def servedLabel? (label : List Char) : Option (List Char) :=
  if isAscii label then some (lowerAscii label) else sentLabel? (lower label)

/-- The labels of a served address as they are sent, or the first one that cannot be. -/
def servedLabels : List (List Char) → Except (List Char) (List (List Char))
  | [] => .ok []
  | label :: rest =>
    match servedLabel? label with
    | none => .error label
    | some sent => (servedLabels rest).map (sent :: ·)

/-- The host name of a served address as it is sent, or the label that cannot be. -/
def served (host : List Char) : Except (List Char) (List Char) :=
  (servedLabels (splitOn '.' host)).map (List.intercalate ['.'])

/-- Labels as they are sent, if all of them can be. -/
def sentLabels? : List (List Char) → Option (List (List Char))
  | [] => some []
  | label :: rest => do pure ((← sentLabel? label) :: (← sentLabels? rest))

/-- A host name in its form as it is sent, if it can be. A point at the end counts for one more
character. -/
def sentName? (host : List Char) : Option (List Char) :=
  let isEnded := host.getLast? = some '.'
  let labels := splitOn '.' (if isEnded then host.dropLast else host)
  if maxName < host.length then none
  else
    (sentLabels? labels).bind fun sent =>
      let name := List.intercalate ['.'] sent
      if name.length < maxName then some (if isEnded then name ++ ['.'] else name) else none

/-- The host name of any address as it is sent, if it can be. -/
def sent? (host : List Char) : Option (List Char) := (mapped? host).bind sentName?

end SorobanDeploy.Rpc.HostName
