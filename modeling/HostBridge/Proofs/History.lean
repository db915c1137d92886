/-
This file shows that a registry holds what its history of bindings says.
-/
import HostBridge.Proofs.Table
import HostBridge.Registry
import Mathlib.Logic.Function.Basic

namespace HostBridge

/-- One step in the history of the names. -/
inductive Change (Object : Type) where
  | bind (name : String) (object : Object)
  | unbind (name : String)

/-- The name that is bound or unbound. -/
def Change.name {Object : Type} : Change Object → String
  | .bind name _ => name
  | .unbind name => name

/-- The objects that the names stand for. -/
abbrev Bindings (Object : Type) := String → Option Object

variable {Object : Type}

def Bindings.empty : Bindings Object := fun _ => none

def Bindings.apply (bindings : Bindings Object) : Change Object → Bindings Object
  | .bind name object => Function.update bindings name (some object)
  | .unbind name => Function.update bindings name none

def Bindings.after (bindings : Bindings Object) (changes : List (Change Object)) :
    Bindings Object := changes.foldl Bindings.apply bindings

/-- A name stands for the object of its last binding, unless it was unbound since. -/
def Change.current (history : List (Change Object)) : Bindings Object :=
  Bindings.empty.after history

/-- Later changes are made to what the earlier ones come to. -/
theorem Change.current_append (history changes : List (Change Object)) :
    Change.current (history ++ changes) = (Change.current history).after changes :=
  List.foldl_append

def Bindings.map {A B : Type} (f : A → B) (bindings : Bindings A) : Bindings B :=
  fun name => (bindings name).map f

def Change.map {A B : Type} (f : A → B) : Change A → Change B
  | .bind name object => .bind name (f object)
  | .unbind name => .unbind name

theorem Bindings.map_apply {A B : Type} (f : A → B) (bindings : Bindings A) (change : Change A) :
    (bindings.apply change).map f = (bindings.map f).apply (change.map f) := by
  funext wanted
  cases change with
  | bind name object =>
      by_cases same : wanted = name <;> simp [map, apply, Change.map, same]
  | unbind name =>
      by_cases same : wanted = name <;> simp [map, apply, Change.map, same]

/-- A function of the objects can be applied before the changes or after them. -/
theorem Bindings.map_after {A B : Type} (f : A → B) (bindings : Bindings A)
    (changes : List (Change A)) :
    (bindings.after changes).map f = (bindings.map f).after (changes.map (Change.map f)) := by
  induction changes generalizing bindings with
  | nil => rfl
  | cons change rest ih =>
      rw [after, List.foldl_cons, ← after, ih, map_apply]
      rfl

/-- Names that are unbound have no object, and the others keep theirs. -/
theorem Bindings.after_unbinds (bindings : Bindings Object) (names : List String)
    (name : String) :
    bindings.after (names.map .unbind) name = if name ∈ names then none else bindings name := by
  induction names generalizing bindings with
  | nil => rfl
  | cons first rest ih =>
      have tail := ih (bindings.apply (.unbind first))
      rw [List.map_cons, after, List.foldl_cons, ← after, tail]
      by_cases same : name = first <;> simp [apply, same]

/-- Of the names that a table binds, each has its own entry. -/
theorem Bindings.after_binds {Entry : Type} (bindings : Bindings Object)
    (f : String → Entry → Object) (entries : Table String Entry)
    (distinct : (Table.keys entries).Nodup) (name : String) :
    bindings.after (entries.map fun entry => .bind entry.1 (f entry.1 entry.2)) name =
      ((Table.lookup? entries name).map (f name)).or (bindings name) := by
  induction entries generalizing bindings with
  | nil => rfl
  | cons entry rest ih =>
      obtain ⟨first, value⟩ := entry
      obtain ⟨fresh, distinct⟩ := List.nodup_cons.mp distinct
      have tail := ih (bindings.apply (.bind first (f first value))) distinct
      rw [List.map_cons, after, List.foldl_cons, ← after, tail]
      by_cases same : first = name
      · subst same
        have absent := (Table.lookup?_eq_none_iff rest first).mpr fresh
        simp [apply, Table.lookup?, absent]
      · simp [apply, Table.lookup?, same, Ne.symm same]

/-- The registry answers every name as the bindings say, and no entry is hidden. -/
structure Registry.Shows (registry : Registry) (bindings : Bindings Handle) : Prop where
  distinct : (Table.keys registry).Nodup
  lookup : ∀ name, Table.lookup? registry name = bindings name

def Registry.unbindAll (registry : Registry) (names : List String) : Registry :=
  names.foldl Registry.unbind registry

/-- The empty registry shows no bindings. -/
theorem Registry.shows_empty : Registry.Shows [] Bindings.empty :=
  ⟨List.nodup_nil, fun _ => rfl⟩

/-- Binding an object is the change that the bindings make. -/
theorem Registry.Shows.bind {registry : Registry} {bindings : Bindings Handle}
    (shown : registry.Shows bindings) (name : String) (handle : Handle) :
    (registry.bind name handle).Shows (bindings.apply (.bind name handle)) where
  distinct := Table.nodup_put shown.distinct name handle
  lookup wanted := by
    rw [Registry.bind, Table.lookup?_put, shown.lookup, Bindings.apply, Function.update_apply]
    simp only [eq_comm]

/-- Unbinding a name is the change that the bindings make. -/
theorem Registry.Shows.unbind {registry : Registry} {bindings : Bindings Handle}
    (shown : registry.Shows bindings) (name : String) :
    (registry.unbind name).Shows (bindings.apply (.unbind name)) where
  distinct := Table.nodup_remove shown.distinct name
  lookup wanted := by
    rw [Registry.unbind, Table.lookup?_remove shown.distinct, shown.lookup, Bindings.apply,
      Function.update_apply]
    simp only [eq_comm]

/-- Names can be unbound one after the other. -/
theorem Registry.Shows.unbindAll {registry : Registry} {bindings : Bindings Handle}
    (shown : registry.Shows bindings) (names : List String) :
    (registry.unbindAll names).Shows (bindings.after (names.map .unbind)) := by
  induction names generalizing registry bindings with
  | nil => exact shown
  | cons name names ih => exact ih (shown.unbind name)

theorem Registry.Shows.contains_iff {registry : Registry} {bindings : Bindings Handle}
    (shown : registry.Shows bindings) (name : String) :
    Table.contains registry name = true ↔ bindings name ≠ none := by
  rw [Table.contains, shown.lookup, Option.isSome_iff_ne_none]

end HostBridge
