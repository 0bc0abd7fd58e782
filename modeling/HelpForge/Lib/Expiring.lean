import Mathlib.Logic.Function.Basic
import Mathlib.Tactic.Common

set_option autoImplicit false

/-!
# Stores with expiring entries

An entry is there until the instant noted with it.
-/

namespace Lib

structure Expiring (κ α : Type) where
  entry : κ → Option (α × Nat) := fun _ => none

namespace Expiring

variable {κ α : Type}

def get (store : Expiring κ α) (now : Nat) (key : κ) : Option α :=
  (store.entry key).bind fun stored => if now < stored.2 then some stored.1 else none

/-- From `now` on the two stores give the same value for the key. -/
def SameFrom (now : Nat) (key : κ) (one other : Expiring κ α) : Prop :=
  ∀ later, now ≤ later → one.get later key = other.get later key

/-- No entry outlives `now` by more than `ttl`. -/
def Within (ttl now : Nat) (store : Expiring κ α) : Prop :=
  ∀ key value ends, store.entry key = some (value, ends) → ends ≤ now + ttl

theorem SameFrom.refl (now : Nat) (key : κ) (store : Expiring κ α) :
    SameFrom now key store store :=
  fun _ _ => rfl

theorem SameFrom.equivalence (now : Nat) (key : κ) :
    Equivalence (SameFrom now key : Expiring κ α → Expiring κ α → Prop) :=
  ⟨refl now key, fun same later after => (same later after).symm,
    fun one other later after => (one later after).trans (other later after)⟩

section Expiring

variable {now : Nat} {key : κ} {one other : Expiring κ α}

theorem SameFrom.of_entries {one' other' : Expiring κ α} (same : SameFrom now key one other)
    (kept : one'.entry key = one.entry key) (kept' : other'.entry key = other.entry key) :
    SameFrom now key one' other' := by
  intro later ordered
  have before := same later ordered
  unfold get at before ⊢
  rw [kept, kept', before]

theorem SameFrom.of_within {ttl ttl' now' : Nat} (key : κ) (first : Within ttl now one)
    (second : Within ttl' now' other) (time : Nat) (past : now + ttl ≤ time)
    (past' : now' + ttl' ≤ time) : SameFrom time key one other := by
  have gone : ∀ {bound : Nat} {store : Expiring κ α},
      (∀ value ends, store.entry key = some (value, ends) → ends ≤ bound) → bound ≤ time →
        ∀ later, time ≤ later → store.get later key = none := by
    intro bound store bounded reached later ordered
    unfold get
    cases found : store.entry key with
    | none => rfl
    | some stored =>
      have short := bounded stored.1 stored.2 found
      exact if_neg (by omega)
  intro later ordered
  rw [gone (fun value ends => first key value ends) past later ordered,
    gone (fun value ends => second key value ends) past' later ordered]

theorem SameFrom.of_ended (ended : ∀ value ends, one.entry key = some (value, ends) → ends ≤ now)
    (absent : other.entry key = none) : SameFrom now key one other := by
  intro later ordered
  unfold get
  rw [absent]
  cases found : one.entry key with
  | none => rfl
  | some stored =>
    have short := ended stored.1 stored.2 found
    exact if_neg (by omega)

end Expiring

variable {store : Expiring κ α}

theorem Within.later {ttl now later : Nat} (within : Within ttl now store) (ordered : now ≤ later) :
    Within ttl later store := by
  intro key value ends found
  have short := within key value ends found
  omega

variable [DecidableEq κ]

def setex (store : Expiring κ α) (now ttl : Nat) (key : κ) (value : α) : Expiring κ α where
  entry := Function.update store.entry key (some (value, now + ttl))

def delete (store : Expiring κ α) (key : κ) : Expiring κ α where
  entry := Function.update store.entry key none

theorem entry_setex_of_ne (store : Expiring κ α) (now ttl : Nat) (key other : κ) (value : α)
    (differs : other ≠ key) : (store.setex now ttl key value).entry other = store.entry other :=
  Function.update_of_ne differs _ _

theorem entry_delete_of_ne (store : Expiring κ α) (key other : κ) (differs : other ≠ key) :
    (store.delete key).entry other = store.entry other :=
  Function.update_of_ne differs _ _

variable {stored : α × Nat}

theorem entry_of_setex {now ttl : Nat} {key other : κ} {value : α}
    (found : (store.setex now ttl key value).entry other = some stored) :
    (other = key ∧ stored = (value, now + ttl)) ∨ store.entry other = some stored := by
  by_cases same : other = key
  · subst same
    simp only [setex, Function.update_self, Option.some.injEq] at found
    exact .inl ⟨rfl, found.symm⟩
  · rw [entry_setex_of_ne store now ttl key other value same] at found
    exact .inr found

theorem entry_of_delete {key other : κ} (found : (store.delete key).entry other = some stored) :
    store.entry other = some stored := by
  by_cases same : other = key
  · subst same
    simp [delete] at found
  · rwa [entry_delete_of_ne store key other same] at found

section SameFrom

variable {now : Nat} {key : κ} {one other : Expiring κ α} (same : SameFrom now key one other)

include same

theorem SameFrom.setex (written ttl : Nat) (changed : κ) (value : α) :
    SameFrom now key (one.setex written ttl changed value)
      (other.setex written ttl changed value) := by
  by_cases own : key = changed
  · subst own
    intro later _
    simp only [Expiring.setex, get, Function.update_self]
  · exact same.of_entries (entry_setex_of_ne one written ttl changed key value own)
      (entry_setex_of_ne other written ttl changed key value own)

theorem SameFrom.delete (changed : κ) :
    SameFrom now key (one.delete changed) (other.delete changed) := by
  by_cases own : key = changed
  · subst own
    intro later _
    simp only [Expiring.delete, get, Function.update_self]
  · exact same.of_entries (entry_delete_of_ne one changed key own)
      (entry_delete_of_ne other changed key own)

end SameFrom

/-- One store comes from the other by a change at `key`, which is gone again after `ttl`. -/
structure Touched (ttl now : Nat) (key : κ) (one other : Expiring κ α) : Prop where
  others : ∀ another, another ≠ key → other.entry another = one.entry another
  within : Within ttl now one → Within ttl now other

namespace Touched

variable {ttl now : Nat} {key : κ} {one other : Expiring κ α}

omit [DecidableEq κ] in
theorem refl (store : Expiring κ α) : Touched ttl now key store store :=
  ⟨fun _ _ => rfl, fun within => within⟩

theorem setex (store : Expiring κ α) (value : α) :
    Touched ttl now key store (store.setex now ttl key value) := by
  refine ⟨fun another differs => entry_setex_of_ne store now ttl key another value differs, ?_⟩
  intro within another held ends found
  by_cases same : another = key
  · subst same
    simp only [Expiring.setex, Function.update_self, Option.some.injEq, Prod.mk.injEq] at found
    omega
  · rw [entry_setex_of_ne store now ttl key another value same] at found
    exact within another held ends found

theorem delete (store : Expiring κ α) : Touched ttl now key store (store.delete key) := by
  refine ⟨fun another differs => entry_delete_of_ne store key another differs, ?_⟩
  intro within another held ends found
  by_cases same : another = key
  · subst same
    simp [Expiring.delete] at found
  · rw [entry_delete_of_ne store key another same] at found
    exact within another held ends found

omit [DecidableEq κ] in
theorem sameFrom_other (touched : Touched ttl now key one other) (time : Nat) (another : κ)
    (differs : another ≠ key) : SameFrom time another one other :=
  (SameFrom.refl time another one).of_entries rfl (touched.others another differs)

omit [DecidableEq κ] in
theorem sameFrom_late (touched : Touched ttl now key one other) (within : Within ttl now one)
    (time : Nat) (late : now + ttl ≤ time) (another : κ) : SameFrom time another one other :=
  SameFrom.of_within another within (touched.within within) time late late

end Touched

end Expiring

end Lib
