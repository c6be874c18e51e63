import HtmlComponents.View.Expression.Transcript
import HtmlComponents.View.Number

/-!
# Members

A member of a structure has a name, and a member of a tuple a number. A number is
copied in base ten. Where members of members are asked for, `0.1` is no decimal
number but two numbers with a point between them.
-/

namespace HtmlComponents.View.Expression

open Copying

/-- The number of an integer without a suffix. -/
def index? (written : String) : Option Nat :=
  match Number.integer? written.toList with
  | some (base, digits, []) => some (Number.ofDigits base digits)
  | _ => none

/-- The largest number of a member. -/
def indexLimit : Nat := 4294967295

/-- Write the number of a member in base ten. A number with a sign is none. -/
def writeIndex (signed : Bool) (written : String) : Copying Unit := do
  match index? written with
  | none =>
    let fractional := (Number.afterDecimal? written.toList).isSome
    refuse (.unmet (if fractional then "expected integer literal"
      else "expected unsuffixed integer"))
  | some number =>
    if signed then refuse (.unmet "invalid digit found in string")
    else if number ≤ indexLimit then write [.literal ⟨toString number, .integer⟩]
    else refuse (.unmet "number too large to fit in target type")

/-- Write the numbers of members of members. Only the first one can have a sign. -/
def writeIndices (signed : Bool) : List String → Copying Unit
  | [] => pure ()
  | [written] => writeIndex signed written
  | written :: next :: more => do
    writeIndex signed written
    write [.punct '.' .alone]
    writeIndices false (next :: more)

/-- Copy the numbers that a decimal number stands for, if one comes next, and say
whether a member has still to follow: because there was no decimal number, or
because it ends with a point. -/
def awaitsMember : Copying Bool := do
  let tokens ← rest
  let signed := begins "-" tokens
  match if signed then behind tokens else tokens with
  | .literal ⟨written, .decimal⟩ :: later =>
    modify fun t => { t with rest := later }
    let parts := written.splitOn "."
    if parts.getLast? = some "" then
      writeIndices signed parts.dropLast
      write [.punct '.' .alone]
      return true
    else
      writeIndices signed parts
      return false
  | _ => return true

/-- Copy the name or the number of a member, and say whether it is a name. -/
def member : Copying Bool := do
  let tokens ← rest
  if beginsIdent tokens then
    one
    return true
  let signed := begins "-" tokens
  match if signed then behind tokens else tokens with
  | .literal ⟨written, .integer⟩ :: later =>
    modify fun t => { t with rest := later }
    writeIndex signed written
    return false
  | _ => fail .noMember

end HtmlComponents.View.Expression
