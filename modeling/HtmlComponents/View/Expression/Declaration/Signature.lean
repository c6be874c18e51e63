import HtmlComponents.View.Expression.Generics
import HtmlComponents.View.Expression.Pattern

/-!
# Signatures of functions

What a function is called, what it is given and what it returns, and who can see
it.
-/

namespace HtmlComponents.View.Expression

open Copying

/-! ## Visibility -/

/-- From where a thing can be seen, if it says so. The answer says whether it
does. -/
def visibility? : Copying Bool := do
  if !(← keyword? "pub") then return false
  match ← rest with
  | .group .parenthesis content :: _ =>
    if beginsWord "in" content then
      inside .parenthesis do
        keyword "in"
        modulePath
    else if beginsOneOf ["crate", "self", "super"] content && (behind content).isEmpty then one
  | _ => pure ()
  return true

/-! ## Inputs -/

/-- The receiver of a method. -/
def receiver : Copying Unit := do
  let borrowed ← symbol? "&"
  if borrowed then lifetime?
  let _ ← keyword? "mut"
  keyword "self"
  if !borrowed then
    if ← symbol? ":" then copy (.type true)

/-- What an input of a function is. -/
inductive Input where
  | receiver
  | typed
  /-- Any number of inputs. -/
  | unbounded
  deriving DecidableEq

/-- An input of a function: its receiver, or a pattern and a type. A type alone
that begins with a name and its arguments is given the pattern for anything. -/
def signatureInput : Copying Input := do
  if ← attempt receiver then return .receiver
  let tokens ← rest
  if beginsIdent tokens && begins "<" (behind tokens) then
    write [.word "_", .punct ':' .alone]
    copy (.type true)
    return .typed
  copy .pattern
  symbol ":"
  if ← symbol? "..." then return .unbounded
  copy (.type true)
  return .typed

/-- The inputs of a function. A receiver has to be the first one. -/
def signatureInputs : Copying Unit := inside .parenthesis do
  discard <| iterate (⟨true, false⟩ : Bool × Bool) fun (first, received) => do
    if ← finished then return ((first, received), false)
    outerAttributes
    let input ← if ← symbol? "..." then pure .unbounded else signatureInput
    if input = .receiver && received then refuse (.unmet "unexpected second method receiver")
    if input = .receiver && !first then refuse (.unmet "unexpected method receiver")
    if ← finished then return ((false, received), false)
    symbol ","
    return ((false, received || input = .receiver), input ≠ .unbounded)

/-! ## Signatures -/

/-- Whether tokens begin with a signature. `safety` says whether it may call the
function safe. -/
def beginsSignature (safety : Bool) (tokens : List Token) : Bool :=
  let qualified := behindWord "async" (behindWord "const" tokens)
  let called :=
    if safety && beginsWord "safe" qualified then behind qualified
    else behindWord "unsafe" qualified
  let plain :=
    if !beginsWord "extern" called then called
    else if beginsString (behind called) then behind (behind called)
    else behind called
  beginsWord "fn" plain

/-- A signature. The answer says whether it calls the function safe. -/
def signature (safety : Bool) : Copying Bool := do
  let _ ← keyword? "const"
  let _ ← keyword? "async"
  let guarded ← keyword? "unsafe"
  let safe ← if safety && !guarded then keyword? "safe" else pure false
  convention?
  keyword "fn"
  identifier
  let _ ← parameters?
  signatureInputs
  let _ ← output? true
  let _ ← conditions?
  return safe

end HtmlComponents.View.Expression
