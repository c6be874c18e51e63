import HtmlComponents.Text.Outline

/-!
# Environments

An environment is what a component sees of its surroundings: a value for every
key, most of them defaults. Deriving an environment puts a frame of entries in
front of the frames that are there and never touches them, so what is set for
one part of a page cannot be seen from another part.

The keys are a type of their own, given together with the type of each key's
values. A key finds its entries by being the same key; that two keys are shown
under one name does not make them one.
-/

namespace HtmlComponents

open HtmlComponents.Text

/-- A family of keys, each with the type of its values, its default and the name
under which it is shown. -/
class KeyFamily (κ : Type) where
  Value : κ → Type
  defaultValue : (key : κ) → Value key
  name : κ → String
  decidableEq : DecidableEq κ

/-- The family without keys. -/
instance : KeyFamily Empty where
  Value := nofun
  defaultValue := nofun
  name := nofun
  decidableEq := nofun

/-- The keys of an environment: those of the family, and the one key that the
built-in elements themselves consult. -/
inductive Key (κ : Type) where
  /-- Whether form controls are disabled. -/
  | formDisabled
  | custom (key : κ)

namespace Key

variable {κ : Type} [KeyFamily κ]

instance decidableEq : DecidableEq (Key κ)
  | formDisabled, formDisabled => .isTrue rfl
  | formDisabled, custom _ => .isFalse nofun
  | custom _, formDisabled => .isFalse nofun
  | custom a, custom b =>
    match KeyFamily.decidableEq a b with
    | .isTrue same => .isTrue (same ▸ rfl)
    | .isFalse differ => .isFalse fun same => differ (Key.custom.inj same)

/-- The type of a key's values. -/
def Value : Key κ → Type
  | formDisabled => Bool
  | custom key => KeyFamily.Value key

/-- The value of a key that nobody has set. Controls are enabled by default. -/
def defaultValue : (key : Key κ) → key.Value
  | formDisabled => false
  | custom key => KeyFamily.defaultValue key

/-- The name under which a key is shown. -/
def name : Key κ → String
  | formDisabled => "FormDisabled"
  | custom key => KeyFamily.name key

end Key

/-- A key set to a value. -/
structure Entry (κ : Type) [KeyFamily κ] where
  key : Key κ
  value : key.Value

/-- The value that an entry gives to a key, if it is the key's. -/
def Entry.value? {κ : Type} [KeyFamily κ] (entry : Entry κ) (key : Key κ) :
    Option key.Value :=
  if same : entry.key = key then some (same ▸ entry.value) else none

/-- A batch of entries that are set together, in the order in which they were
added. Of two entries for one key the later one counts. -/
structure Overrides (κ : Type) [KeyFamily κ] where
  entries : List (Entry κ)

namespace Overrides

variable {κ : Type} [KeyFamily κ]

def empty : Overrides κ := ⟨[]⟩

/-- The batch with one more entry. -/
def set (batch : Overrides κ) (key : Key κ) (value : key.Value) : Overrides κ :=
  ⟨batch.entries ++ [⟨key, value⟩]⟩

def size (batch : Overrides κ) : Nat := batch.entries.length

def isEmpty (batch : Overrides κ) : Bool := batch.entries.isEmpty

/-- A batch is shown by the names of its keys, in the order of the entries. -/
def outline (batch : Overrides κ) : Outline :=
  .ofTexts (batch.entries.map fun entry => entry.key.name)

end Overrides

/-- The members of a list without repetitions, each at its first place. -/
def firstOccurrences {α : Type} [DecidableEq α] : List α → List α
  | [] => []
  | a :: rest => a :: (firstOccurrences rest).filter fun b => b ≠ a

/-- What a component sees: frames of entries, the innermost first. -/
structure Environment (κ : Type) [KeyFamily κ] where
  frames : List (List (Entry κ))

namespace Environment

variable {κ : Type} [KeyFamily κ]

/-- The environment in which every key has its default. -/
def empty : Environment κ := ⟨[]⟩

/-- The environment with a batch set in front. An empty batch leaves it as it is. -/
def derive (env : Environment κ) (batch : Overrides κ) : Environment κ :=
  if batch.isEmpty then env else ⟨batch.entries :: env.frames⟩

/-- The environment with one key set. -/
def withValue (env : Environment κ) (key : Key κ) (value : key.Value) : Environment κ :=
  env.derive (Overrides.empty.set key value)

/-- The value that the frames give to a key: in the innermost frame that has the
key, the last entry for it. -/
def lookup? (env : Environment κ) (key : Key κ) : Option key.Value :=
  env.frames.findSome? fun frame => frame.reverse.findSome? fun entry => entry.value? key

/-- The value of a key. -/
def get (env : Environment κ) (key : Key κ) : key.Value :=
  (env.lookup? key).getD key.defaultValue

/-- Whether some frame has the key. -/
def isSet (env : Environment κ) (key : Key κ) : Bool := (env.lookup? key).isSome

/-- The keys that are set, the one set last first, each of them once. -/
def keys (env : Environment κ) : List (Key κ) :=
  firstOccurrences (env.frames.flatMap fun frame => frame.reverse.map Entry.key)

/-- The names of the keys that are set. -/
def keyNames (env : Environment κ) : List String := env.keys.map Key.name

/-- Whether form controls are disabled here. -/
def formDisabled (env : Environment κ) : Bool := env.get .formDisabled

def outline (env : Environment κ) : Outline :=
  .record "Environment" [("overridden", .ofTexts env.keyNames)]

end Environment

end HtmlComponents
