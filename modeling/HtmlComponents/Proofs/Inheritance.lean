import HtmlComponents.Proofs.History

/-!
# What a derived environment answers

A derived environment answers from its batch, and where the batch has nothing to say it
answers as the environment from which it was derived (`lookup?_derive`). So what it answers
depends on what the other one answers, and not on how that one came about.

Two environments are `Indistinct` if no value and no question whether a key is set tells
them apart. They may well list their keys in different orders. Deriving the same batch from
indistinct environments gives indistinct environments, an empty batch changes nothing, and
two batches derived one after the other are one batch.
-/

namespace HtmlComponents

variable {κ : Type} [KeyFamily κ]

namespace Overrides

/-- The value that a batch gives to a key: that of the last entry for it. -/
def lookup? (batch : Overrides κ) (key : Key κ) : Option key.Value :=
  batch.entries.reverse.findSome? fun entry => entry.value? key

/-- Whether the batch sets a key, to whatever value. -/
def sets (batch : Overrides κ) (key : Key κ) : Bool := (batch.lookup? key).isSome

theorem sets_iff {batch : Overrides κ} {key : Key κ} :
    batch.sets key = true ↔ ∃ entry ∈ batch.entries, entry.key = key := by
  rw [sets, lookup?, List.findSome?_isSome_iff]
  simp only [List.mem_reverse, Entry.isSome_value?]

end Overrides

namespace Environment

/-- Where a batch has a value for a key, that is the value in the derived environment. -/
theorem lookup?_derive (env : Environment κ) (batch : Overrides κ) (key : Key κ) :
    (env.derive batch).lookup? key = (batch.lookup? key).or (env.lookup? key) := by
  have hnewest : ∀ env : Environment κ,
      env.lookup? key = env.newest.findSome? fun entry => entry.value? key := by
    intro env
    rw [lookup?_eq, find?_eq, ← findSome?_value?]
  rw [hnewest, hnewest, newest_derive, List.findSome?_append, Overrides.lookup?]

/-- The environments give every key the same value, and have the same keys set. -/
def Indistinct (env env' : Environment κ) : Prop :=
  ∀ key, env.isSet key = env'.isSet key ∧ env.get key = env'.get key

section Indistinct

variable {env env' : Environment κ}

theorem indistinct_iff :
    env.Indistinct env' ↔ ∀ key, env.lookup? key = env'.lookup? key := by
  constructor
  · intro h key
    obtain ⟨hset, hget⟩ := h key
    rw [isSet, isSet] at hset
    rw [get, get] at hget
    cases hlookup : env.lookup? key with
    | none =>
        rw [hlookup, Option.isSome_none] at hset
        rw [Option.isSome_eq_false_iff.mp hset.symm |> Option.isNone_iff_eq_none.mp]
    | some value =>
        rw [hlookup, Option.isSome_some] at hset
        obtain ⟨value', hlookup'⟩ := Option.isSome_iff_exists.mp hset.symm
        rw [hlookup, hlookup', Option.getD_some, Option.getD_some] at hget
        rw [hlookup', hget]
  · intro h key
    rw [isSet, isSet, get, get, h key]
    exact ⟨rfl, rfl⟩

theorem Indistinct.refl (env : Environment κ) : env.Indistinct env := fun _ => ⟨rfl, rfl⟩

theorem Indistinct.derive (h : env.Indistinct env') (batch : Overrides κ) :
    (env.derive batch).Indistinct (env'.derive batch) := by
  rw [indistinct_iff] at h ⊢
  intro key
  rw [lookup?_derive, lookup?_derive, h key]

theorem Indistinct.formDisabled (h : env.Indistinct env') :
    env.formDisabled = env'.formDisabled :=
  (h .formDisabled).2

theorem derive_empty (env : Environment κ) : env.derive .empty = env := rfl

/-- Two batches that are derived one after the other are one batch. -/
theorem indistinct_derive_derive (env : Environment κ) (outer inner : Overrides κ) :
    ((env.derive outer).derive inner).Indistinct
      (env.derive (.ofEntries (outer.entries ++ inner.entries))) := by
  rw [indistinct_iff]
  refine lookup?_congr ?_
  rw [newest_derive, newest_derive, newest_derive, Overrides.entries_ofEntries]
  simp

end Indistinct

/-- Whether controls are disabled is said by the batch, or else it stays as it is. -/
theorem formDisabled_derive (env : Environment κ) (batch : Overrides κ) :
    (env.derive batch).formDisabled =
      (batch.lookup? .formDisabled).getD env.formDisabled := by
  rw [formDisabled, formDisabled, get, get, lookup?_derive]
  cases batch.lookup? .formDisabled <;> rfl

end Environment

end HtmlComponents
