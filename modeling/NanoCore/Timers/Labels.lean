import NanoCore.Memory.Models

namespace NanoCore.Timers.Labels

open NanoCore.Foundation.PythonText
open NanoCore.Memory.Models

def maxTimerLabelLength : Nat := 64

/-- The label to store, or the text of an `InvalidTimerLabelError`. -/
def normalizeTimerLabel (raw : Text) (default : String) : Except Text Text :=
  let label := if strip raw = [] then default.toList else strip raw
  if maxTimerLabelLength < label.length then
    .error "Label must be at most 64 characters.".toList
  else if label.any fun c => c.toNat < 32 then
    .error "Label cannot contain control characters.".toList
  else .ok label

def normalizeLabel (raw : Text) (default : String) : Except PyError Text :=
  match normalizeTimerLabel raw default with
  | .ok label => .ok label
  | .error message => .error (.toolError message)

/-- The argument unless it is `None` or the empty text. -/
def givenId : Option PyScalar → Option PyScalar
  | some (.text []) => none
  | value => value

variable (u : PyData)

def resolveRenameTarget (items : List Timer) (itemId : Option PyScalar) (oldLabel : Text)
    (itemNoun : String) : Except PyError Timer :=
  let noMatch : Except PyError Timer :=
    .error (.toolError ("No matching active " ++ itemNoun ++ " to rename.").toList)
  match givenId itemId with
  | some value =>
      match u.intOfScalar value with
      | .error _ => .error (.toolError ("Invalid " ++ itemNoun ++ " id.").toList)
      | .ok requestedId =>
          match items.find? fun item => item.id = requestedId with
          | some item => .ok item
          | none => noMatch
  | none =>
      if oldLabel = [] then
        .error (.toolError ("Specify which " ++ itemNoun ++ " to rename.").toList)
      else
        match items.filter fun item => u.lower (strip item.label) = u.lower oldLabel with
        | [] => noMatch
        | [item] => .ok item
        | _ :: _ :: _ =>
            .error (.toolError ("Multiple ".toList ++ itemNoun.toList ++ "s labeled \"".toList ++
              oldLabel ++ "\". Specify ".toList ++ itemNoun.toList ++ " id.".toList))

def timerMatchesCancelRequest (timerId : Int) (timerLabel : Text)
    (requestedId : Option PyScalar) (requestedLabel : Text) : Bool :=
  let labelMatches := requestedLabel ≠ [] && u.lower timerLabel = requestedLabel
  match givenId requestedId with
  | none => if requestedLabel = [] then true else labelMatches
  | some value =>
      match u.intOfScalar value with
      | .error _ => false
      | .ok n => timerId = n || labelMatches

end NanoCore.Timers.Labels
