import HtmlComponents.View.Expression.Goal
import HtmlComponents.View.Expression.Lookahead

/-!
# Transcripts of expressions

An expression is not built as a tree: nothing later asks for its parts. It is
copied token by token while a grammar checks it, and what it needs to be checked
for is whether it is complete and where it ends. The copy differs from what was
read in its spacing, since a symbol of several characters is copied with its
characters touching, and apart from what follows it. There are also a few things
that are put in order or left out.

A rule of the grammar is a step of copying. Steps may ask for goals; the knot is
tied once, for all rules together.
-/

namespace HtmlComponents.View.Expression

/-- A transcript on the way. -/
structure Transcript where
  /-- What is still to be read. -/
  rest : List Token
  /-- What has been copied, in reverse. -/
  copied : List Token := []
  /-- The brackets around the first token that could not be used for anything. -/
  excess : Option Delimiter := none

/-- The rules of a grammar. -/
structure Rules where
  /-- How each goal is met. -/
  meet : Goal → StateT Transcript (Except GrammarError) Shape
  /-- A number of tokens that no transcript exceeds. -/
  limit : Nat

/-- A step of copying under some rules. -/
abbrev Copying := ReaderT Rules (StateT Transcript (Except GrammarError))

namespace Copying

/-! ## Reading and writing -/

/-- What is still to be read. -/
def rest : Copying (List Token) := do return (← get).rest

/-- Put tokens into the copy. -/
def write (tokens : List Token) : Copying Unit :=
  modify fun t => { t with copied := tokens.reverse ++ t.copied }

/-- Give up with a complaint about the place that has been reached. -/
def fail {α : Type} (complaint : Complaint) : Copying α := do
  throw (.here complaint (← rest))

/-- Give up with a complaint about something that has been read. -/
def refuse {α : Type} (complaint : Complaint) : Copying α := throw ⟨complaint, false⟩

/-- Give up because none of several things comes next. -/
def failOneOf {α : Type} (options : List Expectation) : Copying α := do
  throw (Expectation.unmet options (← rest))

/-- Meet a goal, and say what its shape is. -/
def goal (wanted : Goal) : Copying Shape := fun rules => rules.meet wanted

/-- Meet a goal of whatever shape. -/
def copy (wanted : Goal) : Copying Unit := discard (goal wanted)

/-! ## Single tokens -/

/-- Copy the next token as it is. -/
def one : Copying Unit :=
  modify fun t =>
    match t.rest with
    | [] => t
    | token :: rest => { t with rest := rest, copied := token :: t.copied }

/-- Whether a symbol comes next. -/
def sees (text : String) : Copying Bool := do return begins text (← rest)

/-- Whether a word comes next. -/
def seesWord (word : String) : Copying Bool := do return beginsWord word (← rest)

/-- Whether a group in the given brackets comes next. -/
def seesGroup (delimiter : Delimiter) : Copying Bool := do
  return beginsGroup delimiter (← rest)

/-- Whether the tokens have come to their end. -/
def finished : Copying Bool := do return (← rest).isEmpty

/-- Copy a symbol. -/
def symbol (text : String) : Copying Unit := do
  match afterSymbol? text.toList (← rest) with
  | none => refuse (.missing text)
  | some behind =>
    write (Token.symbol text.toList)
    modify fun t => { t with rest := behind }

/-- Copy a symbol if it is there, and say whether it was. -/
def symbol? (text : String) : Copying Bool := do
  let found ← sees text
  if found then symbol text
  return found

/-- Copy a keyword. -/
def keyword (word : String) : Copying Unit := do
  if ← seesWord word then one else fail (.missing word)

/-- Copy a keyword if it is there, and say whether it was. -/
def keyword? (word : String) : Copying Bool := do
  let found ← seesWord word
  if found then one
  return found

/-- Copy an identifier. -/
def identifier : Copying Unit := do
  let (_, _) ← (Reading.ident (← rest) : Except GrammarError _)
  one

/-- Copy an identifier, or the sign that stands for none. -/
def identifierOrNone : Copying Unit := do
  if beginsIdent (← rest) then one
  else if ← seesWord "_" then one
  else failOneOf [.identifier, .word "_"]

/-- Copy a lifetime. -/
def lifetime : Copying Unit := do
  if beginsLifetime (← rest) then
    one
    one
  else fail (.unmet "expected lifetime")

/-- Copy a lifetime if it is there. -/
def lifetime? : Copying Unit := do
  if beginsLifetime (← rest) then lifetime

/-- Copy a literal. -/
def literal : Copying Unit := do
  if beginsLiteral (← rest) then
    let _ ← symbol? "-"
    one
  else fail (.unmet "expected literal")

/-! ## Groups -/

/-- Copy a group, its content by a step of its own. Tokens that the step leaves
over are noted, unless some have been noted already. -/
def inside {α : Type} (delimiter : Delimiter) (content : Copying α) : Copying α := do
  match ← rest with
  | .group d tokens :: behind =>
    if d ≠ delimiter then fail (.unmet ("expected " ++ brackets delimiter))
    else
      let outer ← get
      set { outer with rest := tokens, copied := [] }
      let answer ← content
      let inner ← get
      let left := if inner.rest.isEmpty then none else some delimiter
      set { inner with
        rest := behind
        copied := .group delimiter inner.copied.reverse :: outer.copied
        excess := inner.excess.or left }
      return answer
  | _ => fail (.unmet ("expected " ++ brackets delimiter))

/-- Copy a group in any brackets as it is, and say whether they are braces. -/
def anyGroup : Copying Bool := do
  match ← rest with
  | .group delimiter _ :: _ =>
    one
    return delimiter = .brace
  | _ => fail (.unmet "expected delimiter")

/-! ## Changes to the copy -/

/-- Take a step, and give what it copied instead of putting it into the copy. -/
def captured {α : Type} (step : Copying α) : Copying (α × List Token) := do
  let outer ← get
  set { outer with copied := [] }
  let answer ← step
  let inner ← get
  set { inner with copied := outer.copied }
  return (answer, inner.copied.reverse)

/-- Take a step without copying anything. -/
def silently {α : Type} (step : Copying α) : Copying α := do
  let (answer, _) ← captured step
  return answer

/-- Take a step only to see where it leads: what it answers, and what is behind
it. -/
def ahead {α : Type} (step : Copying α) : Copying (α × List Token) := do
  let start ← get
  let answer ← step
  let behind ← rest
  set start
  return (answer, behind)

/-- Take a step if it succeeds, and say whether it did. -/
def attempt (step : Copying Unit) : Copying Bool :=
  tryCatch (step *> pure true) fun _ => pure false

/-- Replace what has been copied since an earlier time by what has been read. -/
def asWrittenSince (start : Transcript) : Copying Unit :=
  modify fun t =>
    let read := start.rest.take (start.rest.length - t.rest.length)
    { t with copied := read.reverse ++ start.copied }

/-! ## Repetition -/

/-- Repeat a step that says whether it wants to be repeated, with fuel for the
number of times. -/
def iterateFor {σ : Type} (step : σ → Copying (σ × Bool)) : (fuel : Nat) → σ → Copying σ
  | 0, s => pure s
  | fuel + 1, s => do
    let (s, again) ← step s
    if again then iterateFor step fuel s else return s

/-- Repeat a step that says whether it wants to be repeated. Each time but the
last it has to read something. -/
def iterate {σ : Type} (start : σ) (step : σ → Copying (σ × Bool)) : Copying σ := do
  iterateFor step ((← read).limit + 1) start

/-- Repeat a step that keeps nothing in mind. -/
def repeated (step : Copying Bool) : Copying Unit :=
  iterate () fun _ => return ((), ← step)

/-- Copy things up to the end of the tokens. -/
def many (item : Copying Unit) : Copying Unit := repeated do
  if ← finished then return false
  item
  return true

/-- Copy things with commas between them, up to the end of the tokens. A comma may
follow the last one. -/
def commaSeparated (item : Copying Unit) : Copying Unit := repeated do
  if ← finished then return false
  item
  if ← finished then return false
  symbol ","
  return true

end Copying

end HtmlComponents.View.Expression
