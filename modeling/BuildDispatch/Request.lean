import BuildDispatch.Command
import BuildDispatch.Text.Quoted

/-!
Splitting captured words into an action and the arguments behind it.
-/

namespace BuildDispatch

/-- Why words are no request. -/
inductive RequestError where
  | noWords
  | actionNotText (word : Bytes)
  | emptyAction
  deriving Repr, DecidableEq

/-- The wording of an error. -/
def RequestError.message : RequestError → String
  | .noWords => "usage: x <action> [args...]"
  | .actionNotText word => "action " ++ Text.Quoted.ofBytes word ++ " is not valid UTF-8"
  | .emptyAction => "usage: x <action> [args...] (the action must not be empty)"

/-- The first word is the action, which must be text and not empty; the rest is left as it is. -/
def Request.ofWords : List Bytes → Except RequestError Request
  | [] => .error .noWords
  | word :: trailing =>
    match word.text? with
    | none => .error (.actionNotText word)
    | some action => if action.isEmpty then .error .emptyAction else .ok ⟨action, trailing⟩

end BuildDispatch
