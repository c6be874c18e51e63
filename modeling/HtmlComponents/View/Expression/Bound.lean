import HtmlComponents.View.Expression.Path

/-!
# Bounds

What a type is asked to have: a lifetime, or what a path names, the latter
perhaps in parentheses. In some places a bound can say which parameters are
captured, and in some it can hold under a condition.
-/

namespace HtmlComponents.View.Expression

open Copying

/-! ## Rows in angle brackets -/

/-- A thing from a row in angle brackets. -/
structure Listed where
  isLifetime : Bool
  tokens : List Token
  /-- Whether a comma follows it. -/
  comma : Bool

/-- Listed things with commas between them. A comma behind the last one is kept. -/
def Listed.joined : List Listed → List Token
  | [] => []
  | [last] => last.tokens ++ if last.comma then [.punct ',' .alone] else []
  | first :: next :: more => first.tokens ++ .punct ',' .alone :: joined (next :: more)

/-- Read things up to a closing angle bracket, with a separator between them. The
reader of a thing says whether it is a lifetime. -/
def listed (item : Copying Bool) (separator : Copying Unit) : Copying (List Listed) := do
  let row ← iterate [] fun row => do
    if ← sees ">" then return (row, false)
    let (isLifetime, tokens) ← captured item
    let closed ← sees ">"
    if !closed then silently separator
    return (⟨isLifetime, tokens, !closed⟩ :: row, true)
  return row.reverse

/-- Copy a row of things in angle brackets, the lifetimes in front of the others.
A row of nothing is left out, unless `keepEmpty` says otherwise. -/
def angleBrackets (item : Copying Bool) (separator : Copying Unit) (keepEmpty : Bool) :
    Copying Unit := do
  silently (symbol "<")
  let row ← listed item separator
  silently (symbol ">")
  let (lifetimes, others) := row.partition Listed.isLifetime
  if keepEmpty || !row.isEmpty then
    write (Token.symbol ['<'] ++ Listed.joined (lifetimes ++ others) ++ Token.symbol ['>'])

/-! ## Bounds -/

/-- Lifetimes that hold for all, if there are some. -/
def binder? : Copying Bool := do
  if !(← keyword? "for") then return false
  symbol "<"
  repeated do
    if ← sees ">" then return false
    outerAttributes
    lifetime
    if ← sees ">" then return false
    symbol ","
    return true
  symbol ">"
  return true

/-- A parameter that is captured. -/
def capturedParameter : Copying Bool := do
  let tokens ← rest
  if beginsLifetime tokens then
    lifetime
    return true
  else if beginsIdent tokens || beginsWord "Self" tokens then
    one
    return false
  else failOneOf [.lifetime, .identifier, .symbol ">"]

/-- The parameters that are captured. -/
def capture : Copying Unit := do
  keyword "use"
  angleBrackets capturedParameter
    (do if ← sees "," then symbol "," else failOneOf [.symbol ",", .symbol ">"]) true

/-- The condition under which a bound holds, if there is one. -/
def condition? (allowed : Bool) : Copying Bool := do
  if ← seesGroup .bracket then
    inside .bracket (keyword "const")
    if !allowed then refuse (.unmet "`[const]` is not allowed here")
    return true
  if ← keyword? "const" then
    if !allowed then refuse (.unmet "`const` is not allowed here")
    return true
  return false

/-- A bound that a path names. The answer says whether it holds under a condition. -/
def pathBound (conditions : Bool) : Copying Bool := do
  let early ← binder?
  let conditional ← condition? conditions
  let negated ← symbol? "?"
  let bound ← if negated && !early then binder? else pure early
  let _ ← inputs? (← namePath false)
  if bound && negated then
    refuse (.unmet "`for<...>` binder not allowed with `?` trait polarity modifier")
  return conditional

/-- A bound. The answer says whether a path names it. `captures` and `conditions`
say what is allowed in it; a bound under a condition is kept as it is written. -/
def bound (captures conditions : Bool) : Copying Bool := do
  let start ← get
  let tokens ← rest
  if beginsLifetime tokens then
    lifetime
    return false
  else if beginsWord "use" tokens then
    capture
    if !captures then refuse (.unmet "`use<...>` precise capturing syntax is not allowed here")
    return false
  else
    let conditional ←
      if beginsGroup .parenthesis tokens then inside .parenthesis (pathBound conditions)
      else pathBound conditions
    if conditional then asWrittenSince start
    return true

/-! ## Several bounds -/

/-- Whether tokens begin with a further bound. -/
def beginsBound (conditions : Bool) (tokens : List Token) : Bool :=
  beginsAnyWord tokens || begins "::" tokens || begins "?" tokens || beginsLifetime tokens ||
    beginsGroup .parenthesis tokens || (conditions && beginsGroup .bracket tokens)

/-- Further bounds with plus signs in front of them. A plus sign may follow the
last one. The answer says whether a path names one of them. -/
def furtherBounds (captures conditions : Bool) : Copying Bool :=
  iterate false fun found => do
    if !(← symbol? "+") then return (found, false)
    if !beginsBound conditions (← rest) then return (found, false)
    return ((← bound captures conditions) || found, true)

/-- One bound, or several with plus signs between them. The answer says whether a
path names one of them. -/
def bounds (several captures conditions : Bool) : Copying Bool := do
  let first ← bound captures conditions
  if several then return (← furtherBounds captures conditions) || first else return first

/-- Bounds with plus signs between them, up to a place where `ends` holds or where
there is no plus sign. -/
def boundsUntil (ends : List Token → Bool) : Copying Unit := repeated do
  if ends (← rest) then return false
  let _ ← bound false true
  symbol? "+"

/-- Bounds with plus signs between them, up to a place where `ends` holds. -/
def boundsBefore (conditions : Bool) (ends : List Token → Bool) : Copying Unit := repeated do
  if ends (← rest) then return false
  let _ ← bound false conditions
  if ends (← rest) then return false
  symbol "+"
  return true

/-- Lifetimes with plus signs between them, up to a place where `ends` holds or
where there is no plus sign. -/
def lifetimesUntil (ends : List Token → Bool) : Copying Unit := repeated do
  if ends (← rest) then return false
  lifetime
  symbol? "+"

/-- A colon with bounds behind it, if a colon comes next. It is left out if there
are no bounds. The answer says whether it was there. -/
def boundsBehindColon? (bounds : Copying Unit) : Copying Bool := do
  if !(← sees ":") then return false
  let (_, colon) ← captured (symbol ":")
  let (_, tokens) ← captured bounds
  if !tokens.isEmpty then write (colon ++ tokens)
  return true

end HtmlComponents.View.Expression
