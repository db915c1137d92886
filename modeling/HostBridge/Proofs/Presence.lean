/-
This file shows that the names of a registry stand in the order in which they came to be bound.
-/
import HostBridge.Proofs.History
import HostBridge.Proxy
import Mathlib.Data.List.Induction

namespace HostBridge

variable {Object : Type}

/-- The last change of a name binds it. -/
def LastBound (history : List (Change Object)) (name : String) (object : Object) : Prop :=
  ∃ before after, history = before ++ .bind name object :: after ∧
    ∀ change ∈ after, change.name ≠ name

/-- A name that is bound has been bound without a break since the change in this place. -/
def Begins (history : List (Change Object)) (name : String) (place : Nat) : Prop :=
  ∃ before object after, history = before ++ .bind name object :: after ∧ before.length = place ∧
    (∀ old, ¬ LastBound before name old) ∧ .unbind name ∉ after

/-- A list with one more item is split before that item or at it. -/
theorem split_concat {A : Type} {items before after : List A} {last item : A}
    (same : items ++ [last] = before ++ item :: after) :
    before = items ∧ item = last ∧ after = [] ∨
      ∃ others, items = before ++ item :: others ∧ after = others ++ [last] := by
  rcases List.eq_nil_or_concat after with rfl | ⟨others, final, rfl⟩
  · obtain ⟨rfl, ends⟩ := List.append_inj' same rfl
    exact .inl ⟨rfl, (List.singleton_inj.mp ends).symm, rfl⟩
  · have split : items ++ [last] = (before ++ item :: others) ++ [final] := by simpa using same
    obtain ⟨rfl, ends⟩ := List.append_inj' split rfl
    obtain rfl := List.singleton_inj.mp ends
    exact .inr ⟨others, rfl, List.concat_eq_append⟩

section Histories

variable {history : List (Change Object)} {change : Change Object} {name : String}

/-- Only the last change of the name counts. -/
theorem lastBound_concat {object : Object} :
    LastBound (history ++ [change]) name object ↔
      if change.name = name then change = .bind name object
      else LastBound history name object := by
  constructor
  · rintro ⟨before, after, same, untouched⟩
    obtain ⟨-, rfl, -⟩ | ⟨others, rfl, rfl⟩ := split_concat same
    · rw [if_pos (by rfl)]
    · rw [if_neg (untouched change (by simp))]
      exact ⟨before, others, rfl, fun other member => untouched other (by simp [member])⟩
  · split
    · rintro rfl
      exact ⟨history, [], rfl, by simp⟩
    · next different =>
        rintro ⟨before, after, rfl, untouched⟩
        refine ⟨before, after ++ [change], by simp, fun other member => ?_⟩
        rcases List.mem_append.mp member with member | member
        · exact untouched other member
        · exact List.mem_singleton.mp member ▸ different

/-- A name has the object that it was bound to last. -/
theorem current_eq_some_iff {object : Object} :
    Change.current history name = some object ↔ LastBound history name object := by
  induction history using List.reverseRecOn with
  | nil =>
      refine iff_of_false nofun ?_
      rintro ⟨before, after, same, -⟩
      simp at same
  | append_singleton history change ih =>
      rw [Change.current_append, lastBound_concat, ← ih]
      by_cases same : change.name = name
      · subst same
        cases change <;> simp [Bindings.after, Bindings.apply, Change.name]
      · have other : name ≠ change.name := Ne.symm same
        rw [if_neg same]
        cases change <;> simp_all [Bindings.after, Bindings.apply, Change.name]

/-- A name has no object when it was not bound since it was unbound. -/
theorem current_eq_none_iff :
    Change.current history name = none ↔ ∀ object, ¬ LastBound history name object := by
  simp only [Option.eq_none_iff_forall_ne_some, ne_eq, current_eq_some_iff]

/-- A presence ends with an unbinding and begins with the first binding after it. -/
theorem begins_concat {place : Nat} :
    Begins (history ++ [change]) name place ↔
      change ≠ .unbind name ∧
        (Begins history name place ∨
          place = history.length ∧ (∃ object, change = .bind name object) ∧
            ∀ old, ¬ LastBound history name old) := by
  constructor
  · rintro ⟨before, object, after, same, rfl, absent, kept⟩
    obtain ⟨rfl, rfl, -⟩ | ⟨others, rfl, rfl⟩ := split_concat same
    · exact ⟨nofun, .inr ⟨rfl, ⟨object, rfl⟩, absent⟩⟩
    · refine ⟨fun unbound => kept (by simp [unbound]), .inl ?_⟩
      exact ⟨before, object, others, rfl, rfl, absent, fun member => kept (by simp [member])⟩
  · rintro ⟨kept, ⟨before, object, after, rfl, rfl, absent, stays⟩ | ⟨rfl, ⟨object, rfl⟩, absent⟩⟩
    · refine ⟨before, object, after ++ [change], by simp, rfl, absent, ?_⟩
      simpa [stays] using fun same => kept same.symm
    · exact ⟨history, object, [], rfl, rfl, absent, by simp⟩

theorem Begins.lt {place : Nat} (begins : Begins history name place) : place < history.length := by
  obtain ⟨before, object, after, rfl, rfl, -⟩ := begins
  simp

/-- A name is bound exactly when its presence has begun. -/
theorem exists_begins_iff :
    (∃ place, Begins history name place) ↔ ∃ object, LastBound history name object := by
  induction history using List.reverseRecOn with
  | nil => simp [Begins, LastBound]
  | append_singleton history change ih =>
      simp only [begins_concat, lastBound_concat]
      by_cases same : change.name = name
      · subst same
        cases change with
        | unbind name => simp [Change.name]
        | bind name new =>
            refine iff_of_true ?_ ⟨new, by simp [Change.name]⟩
            by_cases known : ∃ old, LastBound history name old
            · obtain ⟨place, begins⟩ := ih.mpr known
              exact ⟨place, nofun, .inl begins⟩
            · exact ⟨_, nofun, .inr ⟨rfl, ⟨new, rfl⟩, not_exists.mp known⟩⟩
      · have other (object : Object) : change ≠ .bind name object := by
          rintro rfl
          exact same rfl
        have stays : change ≠ .unbind name := by
          rintro rfl
          exact same rfl
        simpa [same, other, stays] using ih

/-- The presence of a name begins at one place. -/
theorem Begins.unique {place other : Nat} (one : Begins history name place)
    (two : Begins history name other) : place = other := by
  induction history using List.reverseRecOn generalizing place other with
  | nil => exact absurd one.lt (Nat.not_lt_zero _)
  | append_singleton history change ih =>
      -- A presence that has begun before is one of a bound name.
      have bound {place : Nat} (begins : Begins history name place) :
          ¬ ∀ old, ¬ LastBound history name old :=
        fun absent => not_exists.mpr absent (exists_begins_iff.mp ⟨place, begins⟩)
      obtain ⟨-, one⟩ := begins_concat.mp one
      obtain ⟨-, two⟩ := begins_concat.mp two
      rcases one with one | ⟨rfl, -, absent⟩ <;> rcases two with two | ⟨rfl, -, fresh⟩
      · exact ih one two
      · exact absurd fresh (bound one)
      · exact absurd absent (bound two)
      · rfl

end Histories

namespace Registry

/-- A change hands back the handle that the name had before it. -/
def step (registry : Registry) : Change Handle → Registry × Option Handle
  | .bind name handle => registry.exchange name handle
  | .unbind name => registry.withdraw name

/-- What a history makes of an empty registry. -/
def after (history : List (Change Handle)) : Registry :=
  history.foldl (fun registry change => (registry.step change).1) []

theorem after_concat (history : List (Change Handle)) (change : Change Handle) :
    after (history ++ [change]) = ((after history).step change).1 :=
  List.foldl_append

theorem step_eq (registry : Registry) (change : Change Handle) :
    registry.step change =
      (match change with
        | .bind name handle => registry.bind name handle
        | .unbind name => registry.unbind name,
      Table.lookup? registry change.name) := by
  cases change with
  | bind name handle => exact exchange_eq registry name handle
  | unbind name => exact withdraw_eq registry name

/-- A registry shows its history, by induction over it. -/
theorem shows_after (history : List (Change Handle)) :
    (after history).Shows (Change.current history) := by
  induction history using List.reverseRecOn with
  | nil => exact shows_empty
  | append_singleton history change ih =>
      rw [after_concat, step_eq, Change.current_append]
      cases change with
      | bind name handle => exact ih.bind name handle
      | unbind name => exact ih.unbind name

/-- A name is found with the object that it was bound to last. -/
theorem lookup?_after_iff (history : List (Change Handle)) (name : String) (handle : Handle) :
    Table.lookup? (after history) name = some handle ↔ LastBound history name handle := by
  rw [(shows_after history).lookup, current_eq_some_iff]

/-- The names of a registry are the bound ones. -/
theorem mem_names_after_iff (history : List (Change Handle)) (name : String) :
    name ∈ (after history).names ↔ ∃ handle, LastBound history name handle := by
  rw [names, ← not_iff_not, ← Table.lookup?_eq_none_iff, (shows_after history).lookup,
    current_eq_none_iff, not_exists]

/-- A name that is bound already keeps its place, a new one goes to the end, and an unbound one
leaves the others as they stand. -/
theorem names_after_concat (history : List (Change Handle)) (change : Change Handle) :
    (after (history ++ [change])).names =
      match change with
      | .bind name _ =>
          if name ∈ (after history).names then (after history).names
          else (after history).names ++ [name]
      | .unbind name => (after history).names.erase name := by
  rw [after_concat, step_eq]
  cases change with
  | bind name handle => exact Table.keys_put _ name handle
  | unbind name => exact Table.keys_remove _ name

/-- One presence has begun before the other. -/
def Precedes (history : List (Change Handle)) (first second : String) : Prop :=
  ∀ place other, Begins history first place → Begins history second other → place < other

/-- A change that keeps both names keeps their order. -/
theorem Precedes.concat {history : List (Change Handle)} {first second : String}
    (precedes : Precedes history first second) (change : Change Handle)
    (known : ∃ handle, LastBound history first handle)
    (bound : ∃ handle, LastBound history second handle) :
    Precedes (history ++ [change]) first second := by
  intro place other one two
  rcases (begins_concat.mp one).2 with one | ⟨-, -, absent⟩
  · rcases (begins_concat.mp two).2 with two | ⟨-, -, absent⟩
    · exact precedes place other one two
    · exact absurd bound (not_exists.mpr absent)
  · exact absurd known (not_exists.mpr absent)

/-- A name that comes to be bound is the last one. -/
theorem precedes_new {history : List (Change Handle)} {first second : String}
    (known : ∃ handle, LastBound history first handle)
    (fresh : ∀ handle, ¬ LastBound history second handle) (handle : Handle) :
    Precedes (history ++ [.bind second handle]) first second := by
  intro place other one two
  rcases (begins_concat.mp one).2 with one | ⟨-, -, absent⟩
  · rcases (begins_concat.mp two).2 with two | ⟨rfl, -, -⟩
    · exact absurd (exists_begins_iff.mp ⟨other, two⟩) (not_exists.mpr fresh)
    · exact one.lt
  · exact absurd known (not_exists.mpr absent)

/-- The names stand in the order in which their presence began, by induction over the history. -/
theorem names_sorted (history : List (Change Handle)) :
    (after history).names.Pairwise (Precedes history) := by
  induction history using List.reverseRecOn with
  | nil => exact List.Pairwise.nil
  | append_singleton history change ih =>
      have kept : (after history).names.Pairwise (Precedes (history ++ [change])) := by
        refine ih.imp_of_mem fun {first second} one two precedes => ?_
        exact precedes.concat change ((mem_names_after_iff history first).mp one)
          ((mem_names_after_iff history second).mp two)
      rw [names_after_concat]
      cases change with
      | unbind name => exact kept.sublist List.erase_sublist
      | bind name handle =>
          simp only
          split
          · exact kept
          · next fresh =>
              refine List.pairwise_append.mpr ⟨kept, List.pairwise_singleton _ _, ?_⟩
              intro first known second new
              obtain rfl := List.mem_singleton.mp new
              rw [mem_names_after_iff, not_exists] at fresh
              exact precedes_new ((mem_names_after_iff history first).mp known) fresh handle

/-- Every entry has its proxy, in the order of the entries. -/
theorem proxies_forall₂ {registry : Registry} {bindings : Bindings Handle}
    (shown : registry.Shows bindings) :
    List.Forall₂ (fun name proxy => ∃ handle, bindings name = some handle ∧
      proxy = Proxy.ofObject name handle.object) registry.names registry.proxies := by
  rw [names, Table.keys, proxies, List.forall₂_map_left_iff, List.forall₂_map_right_iff,
    List.forall₂_same]
  intro entry member
  have found := (Table.lookup?_eq_some_iff shown.distinct entry.1 entry.2).mpr member
  exact ⟨entry.2, shown.lookup entry.1 ▸ found, rfl⟩

theorem resolve_toOption (registry : Registry) (name : String) :
    (registry.resolve name).toOption = Table.lookup? registry name := by
  rw [resolve]
  split <;> simp_all [Except.toOption]

end Registry

/-- A registry is a map in the order of insertion, whatever its history. Its names are those whose
last change binds them, each once, sorted by the places where their presence began. A name resolves
to the handle of that last change, every change hands back what the name resolved to before it, and
the proxies come in the order of the names. -/
theorem names_in_order_of_presence (history : List (Change Handle)) :
    let registry := Registry.after history
    registry.names.Nodup ∧
    (∀ name, name ∈ registry.names ↔ ∃ handle, LastBound history name handle) ∧
    (∀ name ∈ registry.names, ∃! place, Begins history name place) ∧
    registry.names.Pairwise (Registry.Precedes history) ∧
    (∀ change, (Registry.after (history ++ [change])).names =
      match change with
      | .bind name _ => if name ∈ registry.names then registry.names else registry.names ++ [name]
      | .unbind name => registry.names.erase name) ∧
    (∀ name handle, registry.resolve name = .ok handle ↔ LastBound history name handle) ∧
    (∀ name, registry.resolve name = .error (.unboundName name) ↔
      ∀ handle, ¬ LastBound history name handle) ∧
    (∀ change, registry.step change =
      (Registry.after (history ++ [change]), (registry.resolve change.name).toOption)) ∧
    ∃ proxies, List.Forall₂ (fun name proxy => ∃ handle, registry.resolve name = .ok handle ∧
        proxy = Proxy.ofObject name handle.object) registry.names proxies ∧
      registry.proxyText = String.join (proxies.map Proxy.text) := by
  intro registry
  have shown := Registry.shows_after history
  have members := Registry.mem_names_after_iff history
  have resolved (name : String) (handle : Handle) :
      registry.resolve name = .ok handle ↔ LastBound history name handle := by
    rw [← Registry.lookup?_after_iff, Registry.resolve]
    split <;> simp_all [registry]
  refine ⟨shown.distinct, members, ?_, Registry.names_sorted history,
    Registry.names_after_concat history, resolved, ?_, ?_, registry.proxies, ?_, rfl⟩
  · intro name member
    obtain ⟨place, begins⟩ := exists_begins_iff.mpr ((members name).mp member)
    exact ⟨place, begins, fun other again => again.unique begins⟩
  · intro name
    rw [← current_eq_none_iff, ← shown.lookup, Registry.resolve]
    split <;> simp_all [registry]
  · intro change
    rw [Registry.after_concat, Registry.resolve_toOption, Registry.step_eq]
  · refine (Registry.proxies_forall₂ shown).imp fun name proxy => ?_
    rintro ⟨handle, known, rfl⟩
    exact ⟨handle, (resolved name handle).mpr (current_eq_some_iff.mp known), rfl⟩

example (old new : Handle) :
    (Registry.after [.bind "a" old, .bind "b" old, .bind "c" old, .bind "b" new, .unbind "a",
      .bind "a" new]).names = ["b", "c", "a"] := rfl

end HostBridge
