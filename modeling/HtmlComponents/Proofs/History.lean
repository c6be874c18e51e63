import HtmlComponents.Environment
import Mathlib.Data.List.Nodup

/-!
# An environment is a history of assignments

How entries are divided into frames is a matter of keeping them. Everything that
an environment answers is determined by one list: the assignments in the order in
which they were made. The value of a key is that of its last assignment, a key is
set if it has one, and the keys are listed by their last assignments, the latest
first.

The proof reads the frames from the innermost to the outermost and each of them
from its end. `newest` is what is met on that way, and deriving an environment puts
the batch in front of it, last entry first (`newest_derive`). So after any number of
derivations it is the history backwards (`newest_build`), and both searches of an
environment, the one for a value and the one for keys, are searches of that list.
-/

namespace HtmlComponents

variable {κ : Type} [KeyFamily κ]

/-- The batch into which entries are put one after the other. -/
def Overrides.ofEntries (entries : List (Entry κ)) : Overrides κ :=
  entries.foldl (fun batch entry => batch.set entry.key entry.value) .empty

theorem Overrides.entries_foldl_set (entries : List (Entry κ)) (batch : Overrides κ) :
    (entries.foldl (fun batch entry => batch.set entry.key entry.value) batch).entries =
      batch.entries ++ entries := by
  induction entries generalizing batch with
  | nil => simp
  | cons entry entries ih =>
      rw [List.foldl_cons, ih]
      simp [Overrides.set]

@[simp] theorem Overrides.entries_ofEntries (entries : List (Entry κ)) :
    (ofEntries entries).entries = entries := by
  rw [ofEntries, entries_foldl_set]
  rfl

theorem Entry.value?_self (key : Key κ) (value : key.Value) :
    (Entry.mk key value).value? key = some value := by
  unfold Entry.value?
  rw [dif_pos rfl]

theorem Entry.isSome_value? {entry : Entry κ} {key : Key κ} :
    (entry.value? key).isSome = true ↔ entry.key = key := by
  unfold Entry.value?
  split <;> simp_all

theorem Entry.value?_eq_none {entry : Entry κ} {key : Key κ} (h : entry.key ≠ key) :
    entry.value? key = none := by
  unfold Entry.value?
  rw [dif_neg h]

/-! ## Members without repetitions -/

section FirstOccurrences

variable {α : Type} [DecidableEq α]

theorem mem_firstOccurrences {l : List α} {a : α} : a ∈ firstOccurrences l ↔ a ∈ l := by
  induction l with
  | nil => rfl
  | cons b rest ih =>
      rw [firstOccurrences, List.mem_cons, List.mem_cons, List.mem_filter, ih]
      by_cases h : a = b <;> simp [h]

theorem nodup_firstOccurrences (l : List α) : (firstOccurrences l).Nodup := by
  induction l with
  | nil => exact List.nodup_nil
  | cons b rest ih =>
      rw [firstOccurrences, List.nodup_cons]
      exact ⟨by simp, ih.filter _⟩

/-- A member comes before another if it occurs in the list where the other has not
yet occurred. -/
theorem pairwise_firstOccurrences (l : List α) :
    (firstOccurrences l).Pairwise fun a b =>
      ∃ front back, l = front ++ a :: back ∧ b ∉ front := by
  induction l with
  | nil => exact List.Pairwise.nil
  | cons c rest ih =>
      rw [firstOccurrences, List.pairwise_cons]
      refine ⟨fun b _ => ⟨[], rest, rfl, List.not_mem_nil⟩, ?_⟩
      -- what is filtered out is `c`, so putting `c` in front hides no other member
      refine (ih.filter _).imp_of_mem fun {a b} _ hb h => ?_
      obtain ⟨front, back, rfl, hfront⟩ := h
      have hne : b ≠ c := by simpa using List.of_mem_filter hb
      exact ⟨c :: front, back, rfl, by simp [hne, hfront]⟩

end FirstOccurrences

namespace Environment

/-! ## Reading the frames -/

/-- The entries of all frames, the one set last first. -/
def newest (env : Environment κ) : List (Entry κ) := env.frames.flatMap List.reverse

/-- The entry in which a key is found: in the innermost frame that has the key, the
last one. -/
def find? (env : Environment κ) (key : Key κ) : Option (Entry κ) :=
  env.frames.findSome? fun frame => frame.reverse.find? fun entry => entry.key = key

theorem find?_eq (env : Environment κ) (key : Key κ) :
    env.find? key = env.newest.find? fun entry => entry.key = key :=
  List.find?_flatMap.symm

theorem findSome?_value? (entries : List (Entry κ)) (key : Key κ) :
    (entries.findSome? fun entry => entry.value? key) =
      (entries.find? fun entry => entry.key = key).bind fun entry => entry.value? key := by
  induction entries with
  | nil => rfl
  | cons entry entries ih =>
      by_cases h : entry.key = key
      · obtain ⟨value, hvalue⟩ := Option.isSome_iff_exists.mp (Entry.isSome_value?.mpr h)
        rw [List.findSome?_cons, List.find?_cons_of_pos (by simp [h]), hvalue]
        exact hvalue.symm
      · rw [List.findSome?_cons, List.find?_cons_of_neg (by simp [h]), Entry.value?_eq_none h]
        exact ih

/-- Looking a key up is finding its entry and taking the value out of it. -/
theorem lookup?_eq (env : Environment κ) (key : Key κ) :
    env.lookup? key = (env.find? key).bind fun entry => entry.value? key := by
  rw [lookup?, find?]
  induction env.frames with
  | nil => rfl
  | cons frame frames ih =>
      rw [List.findSome?_cons, List.findSome?_cons, findSome?_value?]
      cases h : frame.reverse.find? fun entry => entry.key = key with
      | none => exact ih
      | some entry =>
          have hkey : entry.key = key := by simpa using List.find?_some h
          obtain ⟨value, hvalue⟩ := Option.isSome_iff_exists.mp (Entry.isSome_value?.mpr hkey)
          simp only [Option.bind_some, hvalue]

theorem lookup?_eq_none_iff {env : Environment κ} {key : Key κ} :
    env.lookup? key = none ↔ env.find? key = none := by
  rw [lookup?_eq]
  cases h : env.find? key with
  | none => simp
  | some entry =>
      rw [find?_eq] at h
      have hkey : entry.key = key := by simpa using List.find?_some h
      have hsome := Entry.isSome_value?.mpr hkey
      rw [Option.bind_some, ← Option.not_isSome_iff_eq_none]
      simp [hsome]

theorem isSet_iff {env : Environment κ} {key : Key κ} :
    env.isSet key = true ↔ ∃ entry ∈ env.newest, entry.key = key := by
  rw [isSet, ← Option.not_isNone, Bool.not_eq_true', Bool.eq_false_iff, ne_eq,
    Option.isNone_iff_eq_none, lookup?_eq_none_iff, find?_eq, List.find?_eq_none]
  simp

theorem keys_eq (env : Environment κ) :
    env.keys = firstOccurrences (env.newest.map Entry.key) := by
  rw [keys, newest, List.map_flatMap]

theorem lookup?_congr {env env' : Environment κ} (h : env.newest = env'.newest)
    (key : Key κ) : env.lookup? key = env'.lookup? key := by
  rw [lookup?_eq, lookup?_eq, find?_eq, find?_eq, h]

/-! ## Deriving -/

theorem newest_derive (env : Environment κ) (batch : Overrides κ) :
    (env.derive batch).newest = batch.entries.reverse ++ env.newest := by
  unfold derive
  split
  · next hempty =>
      rw [Overrides.isEmpty, List.isEmpty_iff] at hempty
      rw [hempty]
      rfl
  · rfl

/-- A way of deriving an environment: one key is set, or a batch of entries. -/
inductive Derivation (κ : Type) [KeyFamily κ] where
  | withValue (key : Key κ) (value : key.Value)
  | derive (entries : List (Entry κ))

namespace Derivation

/-- The environment that is derived. -/
def apply (env : Environment κ) : Derivation κ → Environment κ
  | withValue key value => env.withValue key value
  | derive entries => env.derive (.ofEntries entries)

/-- The assignments that are made, in their order. -/
def assignments : Derivation κ → List (Entry κ)
  | withValue key value => [⟨key, value⟩]
  | derive entries => entries

theorem newest_apply (env : Environment κ) (d : Derivation κ) :
    (d.apply env).newest = d.assignments.reverse ++ env.newest := by
  cases d with
  | withValue key value =>
      show (env.derive _).newest = _
      rw [newest_derive]
      rfl
  | derive entries =>
      show (env.derive _).newest = _
      rw [newest_derive, Overrides.entries_ofEntries, assignments]

end Derivation

/-- The environment after derivations, one from the other. -/
def build (steps : List (Derivation κ)) : Environment κ :=
  steps.foldl Derivation.apply .empty

/-- The assignments of derivations in the order in which they are made. -/
def history (steps : List (Derivation κ)) : List (Entry κ) :=
  steps.flatMap Derivation.assignments

theorem newest_foldl (steps : List (Derivation κ)) (env : Environment κ) :
    (steps.foldl Derivation.apply env).newest = (history steps).reverse ++ env.newest := by
  induction steps generalizing env with
  | nil => rfl
  | cons step steps ih =>
      rw [List.foldl_cons, ih, Derivation.newest_apply]
      simp [history]

theorem newest_build (steps : List (Derivation κ)) :
    (build steps).newest = (history steps).reverse := by
  rw [build, newest_foldl]
  exact List.append_nil _

/-! ## Answers from the history -/

/-- Some assignment to the one key comes after every assignment to the other. -/
def SetAfter (assigned : List (Entry κ)) (key other : Key κ) : Prop :=
  ∃ before entry after, assigned = before ++ entry :: after ∧ entry.key = key ∧
    ∀ later ∈ after, later.key ≠ other

/-- No question that an environment answers tells the two apart. -/
def Agree (env env' : Environment κ) : Prop :=
  (∀ key, env.isSet key = env'.isSet key ∧ env.get key = env'.get key) ∧
    env.keyNames = env'.keyNames

theorem agree_of_newest {env env' : Environment κ} (h : env.newest = env'.newest) :
    Agree env env' := by
  refine ⟨fun key => ?_, ?_⟩
  · rw [isSet, isSet, get, get, lookup?_congr h]
    exact ⟨rfl, rfl⟩
  · rw [keyNames, keyNames, keys_eq, keys_eq, h]

theorem isSet_build {steps : List (Derivation κ)} {key : Key κ} :
    (build steps).isSet key = true ↔ ∃ entry ∈ history steps, entry.key = key := by
  rw [isSet_iff, newest_build]
  simp only [List.mem_reverse]

theorem get_build {steps : List (Derivation κ)} {key : Key κ} {value : key.Value}
    {before after : List (Entry κ)} (h : history steps = before ++ ⟨key, value⟩ :: after)
    (hlast : ∀ entry ∈ after, entry.key ≠ key) : (build steps).get key = value := by
  have hfound : (build steps).find? key = some ⟨key, value⟩ := by
    rw [find?_eq, newest_build, h, List.find?_eq_some_iff_append]
    refine ⟨by simp, after.reverse, before.reverse, by simp, ?_⟩
    intro entry hentry
    simpa using hlast entry (List.mem_reverse.mp hentry)
  rw [get, lookup?_eq, hfound, Option.bind_some, Entry.value?_self, Option.getD_some]

theorem get_build_default {steps : List (Derivation κ)} {key : Key κ}
    (h : ∀ entry ∈ history steps, entry.key ≠ key) :
    (build steps).get key = key.defaultValue := by
  have hunset : (build steps).find? key = none := by
    rw [find?_eq, newest_build, List.find?_eq_none]
    intro entry hentry
    simpa using h entry (List.mem_reverse.mp hentry)
  rw [get, lookup?_eq_none_iff.mpr hunset, Option.getD_none]

theorem pairwise_keys_build (steps : List (Derivation κ)) :
    (build steps).keys.Pairwise (SetAfter (history steps)) := by
  rw [keys_eq, newest_build]
  -- read backwards, "occurs first" says "is assigned last"
  refine (pairwise_firstOccurrences _).imp fun {key other} h => ?_
  obtain ⟨front, back, hsplit, hother⟩ := h
  obtain ⟨after, rest, hreverse, rfl, hrest⟩ := List.map_eq_append_iff.mp hsplit
  obtain ⟨entry, before, rfl, hkey, -⟩ := List.map_eq_cons_iff.mp hrest
  refine ⟨before.reverse, entry, after.reverse, ?_, hkey, ?_⟩
  · rw [← List.reverse_reverse (history steps), hreverse]
    simp
  · intro later hlater hname
    exact hother (List.mem_map.mpr ⟨later, List.mem_reverse.mp hlater, hname⟩)

/-- Whatever was derived from what, an environment answers by its history. A key is
set if it has been assigned; its value is that of its last assignment, and its default
if there is none; the entry in which a search ends always has a value of the key's
type. The names listed are those of the keys that are set, each key once and the one
set last first, and two keys of one name are two keys. Dividing a batch into smaller
ones, or into single assignments, makes no difference, whatever was derived before and
is derived later. -/
theorem build_answers (steps : List (Derivation κ)) :
    (∀ key, (build steps).isSet key = true ↔ ∃ entry ∈ history steps, entry.key = key) ∧
    (∀ (key : Key κ) (value : key.Value) (before after : List (Entry κ)),
      history steps = before ++ ⟨key, value⟩ :: after →
      (∀ entry ∈ after, entry.key ≠ key) → (build steps).get key = value) ∧
    (∀ key : Key κ, (∀ entry ∈ history steps, entry.key ≠ key) →
      (build steps).get key = key.defaultValue) ∧
    (∀ key entry, (build steps).find? key = some entry →
      ∃ value, entry.value? key = some value ∧ (build steps).lookup? key = some value) ∧
    (∃ keys : List (Key κ), (build steps).keyNames = keys.map Key.name ∧ keys.Nodup ∧
      (∀ key, key ∈ keys ↔ ∃ entry ∈ history steps, entry.key = key) ∧
      keys.Pairwise (SetAfter (history steps))) ∧
    (∀ (entries : List (Entry κ)) (pieces later : List (Derivation κ)),
      history pieces = entries →
      Agree (build (steps ++ .derive entries :: later)) (build (steps ++ pieces ++ later))) := by
  refine ⟨fun key => isSet_build, fun key value before after => get_build,
    fun key => get_build_default, ?_, ⟨(build steps).keys, rfl, ?_, ?_, pairwise_keys_build steps⟩,
    ?_⟩
  · intro key entry hentry
    have hkey : entry.key = key := by
      rw [find?_eq] at hentry
      simpa using List.find?_some hentry
    obtain ⟨value, hvalue⟩ := Option.isSome_iff_exists.mp (Entry.isSome_value?.mpr hkey)
    exact ⟨value, hvalue, by rw [lookup?_eq, hentry, Option.bind_some, hvalue]⟩
  · rw [keys_eq]
    exact nodup_firstOccurrences _
  · intro key
    rw [keys_eq, mem_firstOccurrences, newest_build]
    simp
  · intro entries pieces later hpieces
    apply agree_of_newest
    rw [newest_build, newest_build, ← hpieces]
    simp [history, Derivation.assignments]

end Environment

end HtmlComponents
