import Mathlib.Data.List.Basic

/-!
# Allocation arenas

Objects allocated one after another, named by the order of their allocation.
A name stays valid for ever; an object can be changed in place.
-/

structure Arena (Object : Type*) where
  objects : List Object
  deriving DecidableEq, Repr

namespace Arena

variable {Object : Type*}

def empty : Arena Object := ⟨[]⟩

def fresh (arena : Arena Object) : ℕ := arena.objects.length

def get? (arena : Arena Object) (name : ℕ) : Option Object :=
  arena.objects[name]?

def alloc (arena : Arena Object) (object : Object) : Arena Object :=
  ⟨arena.objects ++ [object]⟩

def modify (arena : Arena Object) (name : ℕ) (change : Object → Object) :
    Arena Object :=
  ⟨arena.objects.modify name change⟩

@[simp] theorem get?_empty (name : ℕ) :
    (empty : Arena Object).get? name = none := by
  simp [empty, get?]

@[simp] theorem get?_fresh (arena : Arena Object) :
    arena.get? arena.fresh = none := by
  simp [get?, fresh]

theorem get?_alloc (arena : Arena Object) (object : Object) (name : ℕ) :
    (arena.alloc object).get? name =
      if name = arena.fresh then some object else arena.get? name := by
  unfold alloc get?
  by_cases hlt : name < arena.fresh
  · rw [if_neg (Nat.ne_of_lt hlt), List.getElem?_append_left hlt]
  · by_cases heq : name = arena.fresh
    · rw [if_pos heq, heq]
      exact List.getElem?_concat_length
    · have hbeyond : arena.objects.length < name :=
        Nat.lt_of_le_of_ne (Nat.le_of_not_lt hlt) (Ne.symm heq)
      rw [if_neg heq, List.getElem?_eq_none (Nat.le_of_lt hbeyond),
        List.getElem?_eq_none]
      rw [List.length_append, List.length_singleton]
      exact hbeyond

@[simp] theorem fresh_alloc (arena : Arena Object) (object : Object) :
    (arena.alloc object).fresh = arena.fresh + 1 := by
  simp [alloc, fresh]

@[simp] theorem fresh_modify
    (arena : Arena Object) (name : ℕ) (change : Object → Object) :
    (arena.modify name change).fresh = arena.fresh := by
  simp [modify, fresh]

@[simp] theorem get?_alloc_fresh (arena : Arena Object) (object : Object) :
    (arena.alloc object).get? arena.fresh = some object := by
  simp [get?_alloc]

theorem ne_fresh_of_get?
    {arena : Arena Object} {name : ℕ} {object : Object}
    (hget : arena.get? name = some object) : name ≠ arena.fresh := by
  intro hfresh
  rw [hfresh, get?_fresh] at hget
  simp at hget

theorem get?_alloc_of_some
    {arena : Arena Object} {name : ℕ} {object : Object}
    (hget : arena.get? name = some object) (other : Object) :
    (arena.alloc other).get? name = some object := by
  rw [get?_alloc, if_neg (ne_fresh_of_get? hget), hget]

/-- What is found after an allocation is new, or was there before. -/
theorem get?_alloc_cases
    {arena : Arena Object} {object found : Object} {name : ℕ}
    (hget : (arena.alloc object).get? name = some found) :
    name = arena.fresh ∧ found = object ∨ arena.get? name = some found := by
  rw [get?_alloc] at hget
  split_ifs at hget with heq
  · exact Or.inl ⟨heq, (Option.some.inj hget).symm⟩
  · exact Or.inr hget

theorem get?_modify (arena : Arena Object) (name : ℕ)
    (change : Object → Object) (other : ℕ) :
    (arena.modify name change).get? other =
      if other = name then (arena.get? other).map change
      else arena.get? other := by
  simp only [modify, get?, List.getElem?_modify]
  by_cases heq : other = name
  · subst heq
    simp
  · simp [heq, Ne.symm heq]

theorem get?_modify_self
    {arena : Arena Object} {name : ℕ} {object : Object}
    (hget : arena.get? name = some object) (change : Object → Object) :
    (arena.modify name change).get? name = some (change object) := by
  simp [get?_modify, hget]

theorem get?_modify_of_ne
    (arena : Arena Object) {name other : ℕ} (change : Object → Object)
    (hne : other ≠ name) :
    (arena.modify name change).get? other = arena.get? other := by
  simp [get?_modify, hne]

/-- What is found after a change was there before it. -/
theorem get?_modify_cases
    {arena : Arena Object} {name other : ℕ} {change : Object → Object}
    {later : Object}
    (hget : (arena.modify name change).get? other = some later) :
    ∃ before, arena.get? other = some before ∧
      (other = name ∧ later = change before ∨
        other ≠ name ∧ later = before) := by
  rw [get?_modify] at hget
  split_ifs at hget with heq
  · obtain ⟨before, hbefore, hlater⟩ := Option.map_eq_some_iff.mp hget
    exact ⟨before, hbefore, Or.inl ⟨heq, hlater.symm⟩⟩
  · exact ⟨later, hget, Or.inr ⟨heq, rfl⟩⟩

/-- What was there before a change is found after it, as it was or changed. -/
theorem exists_get?_modify_and
    {arena : Arena Object} {name : ℕ} {object : Object}
    (hget : arena.get? name = some object) (other : ℕ)
    {change : Object → Object} {P : Object → Prop}
    (hchange : P (change object)) (hobject : P object) :
    ∃ later, (arena.modify other change).get? name = some later ∧ P later := by
  by_cases heq : name = other
  · subst heq
    exact ⟨change object, get?_modify_self hget change, hchange⟩
  · exact ⟨object, by rw [get?_modify_of_ne arena change heq, hget], hobject⟩

theorem exists_get?_modify
    {arena : Arena Object} {name : ℕ} {object : Object}
    (hget : arena.get? name = some object) (other : ℕ)
    (change : Object → Object) :
    ∃ later, (arena.modify other change).get? name = some later := by
  have htrue : ∃ later, (arena.modify other change).get? name = some later ∧
      True := exists_get?_modify_and hget other trivial trivial
  simpa using htrue

@[simp] theorem get?_modify_eq_none_iff
    (arena : Arena Object) (name other : ℕ) (change : Object → Object) :
    (arena.modify name change).get? other = none ↔ arena.get? other = none := by
  rw [get?_modify]
  split_ifs
  · exact Option.map_eq_none_iff
  · rfl

theorem modify_eq_of_get?
    {arena : Arena Object} {name : ℕ} {object : Object}
    (hget : arena.get? name = some object) {first second : Object → Object}
    (hsame : first object = second object) :
    arena.modify name first = arena.modify name second := by
  have hobject : arena.objects[name]? = some object := hget
  simp [modify, List.modify_eq_set_getElem?, hobject, hsame]

theorem modify_modify
    (arena : Arena Object) (name : ℕ) (first second : Object → Object) :
    (arena.modify name first).modify name second =
      arena.modify name fun object => second (first object) := by
  simp [modify, List.modify_modify_eq, Function.comp_def]

theorem modify_alloc_fresh
    (arena : Arena Object) (object : Object) (change : Object → Object) :
    (arena.alloc object).modify arena.fresh change =
      arena.alloc (change object) := by
  simp [alloc, modify, fresh, List.modify_eq_set_getElem?]

end Arena
