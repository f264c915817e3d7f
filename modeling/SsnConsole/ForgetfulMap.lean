import SsnConsole.StableIndex

/-!
# Maps that forget what has died

A map may drop a value once it is dead, and a value never comes back to life.
Whoever asks for living values only cannot tell such a map from one that keeps
everything: `Remembers` says so from some time on, and every way to forget keeps
it.
-/

namespace SsnConsole.ForgetfulMap

open Std
open SsnConsole.StableIndex

variable {κ ν τ : Type} [Ord κ] [TransOrd κ] [Preorder τ]

/-- A value that is alive was alive before. -/
def Mortal (alive : τ → ν → Bool) : Prop :=
  ∀ value early late, early ≤ late → alive late value = true → alive early value = true

/-- Drop every dead value. -/
def forget (alive : τ → ν → Bool) (map : ExtTreeMap κ ν) (now : τ) : ExtTreeMap κ ν :=
  map.filter fun _ value => alive now value

/-- From a time on, the map has the living values of everything that was written. -/
def Remembers (alive : τ → ν → Bool) (map : ExtTreeMap κ ν) (written : κ → Option ν)
    (now : τ) : Prop :=
  ∀ key value later, now ≤ later → alive later value = true →
    (map[key]? = some value ↔ written key = some value)

namespace Remembers

variable {alive : τ → ν → Bool} {map : ExtTreeMap κ ν} {written : κ → Option ν}
variable {now later past : τ} {key : κ} {value : ν}

/-- An empty map remembers that nothing was written. -/
theorem empty : Remembers alive (∅ : ExtTreeMap κ ν) (fun _ => none) now := by
  intro key value later _ _
  simp

/-- What is remembered from a time on is remembered from a later one on. -/
theorem mono
    (remembers : Remembers alive map written now)
    (ordered : now ≤ later) :
    Remembers alive map written later := by
  intro key value time after living
  exact remembers key value time (ordered.trans after) living

variable [LawfulEqOrd κ]

/-- Dropping what is dead by now forgets nothing. -/
theorem forget
    (remembers : Remembers alive map written now)
    (mortal : Mortal alive)
    (ordered : past ≤ now) :
    Remembers alive (forget alive map past) written now := by
  intro key value later after living
  rw [← remembers key value later after living]
  have alivePast : alive past value = true :=
    mortal value past later (ordered.trans after) living
  simp only [ForgetfulMap.forget, ExtTreeMap.getElem?_filter', Option.filter_eq_some_iff]
  exact and_iff_left alivePast

variable [DecidableEq κ]

/-- Dropping a value that is dead by now forgets nothing. -/
theorem erase
    (remembers : Remembers alive map written now)
    (mortal : Mortal alive)
    (ordered : past ≤ now)
    (stored : map[key]? = some value)
    (dead : alive past value = false) :
    Remembers alive (map.erase key) written now := by
  intro other otherValue later after living
  rw [← remembers other otherValue later after living, getElem?_erase_entry]
  by_cases same : other = key
  · subst same
    rw [if_pos rfl, stored]
    constructor
    · intro absent
      cases absent
    · intro found
      cases found
      have alivePast := mortal value past later (ordered.trans after) living
      rw [dead] at alivePast
      cases alivePast
  · rw [if_neg same]

/-- A value that is written is remembered in place of the one before. -/
theorem insert
    (remembers : Remembers alive map written now) :
    Remembers alive (map.insert key value) (Function.update written key (some value)) now := by
  intro other otherValue later after living
  rw [getElem?_insert_entry]
  by_cases same : other = key
  · subst same
    rw [if_pos rfl, Function.update_self]
  · rw [if_neg same, Function.update_of_ne same]
    exact remembers other otherValue later after living

end Remembers

end SsnConsole.ForgetfulMap
