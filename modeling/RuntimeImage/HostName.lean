import RuntimeImage.HostName.Label

/-!
Host names: labels with dots between them. A name goes out in ASCII. Of the labels only the last
may be empty.
-/

namespace RuntimeImage.HostName

/-- The full stops that separate labels: ASCII's, and the ideographic and wide ones. -/
def isStop (c : Char) : Bool := c = '.' || c = '\u3002' || c = '\uFF0E' || c = '\uFF61'

/-- Checks a name that is in ASCII already. -/
def checkAscii (name : List Char) : Except Problem Unit :=
  let labels := name.splitOn '.'
  if labels.dropLast.any (fun l => l = [] || Label.limit ≤ l.length) then .error .emptyOrTooLong
  else if (labels.getLast?.getD []).length < Label.limit then .ok ()
  else .error .tooLong

def ascii (name : List Char) : Except Problem (List Char) :=
  if Label.isAscii name then
    match checkAscii name with
    | .error problem => .error problem
    | .ok () => .ok name
  else
    let labels := (name.map (fun c => if isStop c then '.' else c)).splitOn '.'
    let closed := labels.getLast? = some []
    match (if closed then labels.dropLast else labels).mapM Label.ascii with
    | .error problem => .error problem
    | .ok labels => .ok (['.'].intercalate labels ++ if closed then ['.'] else [])

end RuntimeImage.HostName
