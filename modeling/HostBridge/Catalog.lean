/-
This file defines catalogs, which keep their entries in the order of insertion and find them fast.
-/
import Std.Data.HashMap

namespace HostBridge

variable {Key Entry : Type} [BEq Key] [Hashable Key]

/-- A removed entry leaves a gap, so that all others keep their places. -/
structure Catalog (Key Entry : Type) [BEq Key] [Hashable Key] where
  slots : Array (Option (Key × Entry))
  count : Nat
  /-- The places of the keys, once there are many. -/
  places : Std.HashMap Key Nat

def Catalog.empty : Catalog Key Entry := ⟨#[], 0, ∅⟩

instance : Inhabited (Catalog Key Entry) := ⟨.empty⟩

/-- The slots of a catalog that is searched from slot to slot. -/
def fewSlots : Nat := 8

def isSlotOf (key : Key) (slot : Option (Key × Entry)) : Bool :=
  match slot with
  | some entry => entry.1 == key
  | none => false

/-- The place of a key. -/
def Catalog.place? (catalog : Catalog Key Entry) (key : Key) : Option Nat :=
  if catalog.slots.size ≤ fewSlots then catalog.slots.findIdx? (isSlotOf key)
  else catalog.places[key]?

def Catalog.lookup? (catalog : Catalog Key Entry) (key : Key) : Option Entry := do
  let place ← catalog.place? key
  let slot ← catalog.slots[place]?
  return (← slot).2

/-- The entries in the order of their insertion. -/
def Catalog.toList (catalog : Catalog Key Entry) : List (Key × Entry) :=
  catalog.slots.toList.filterMap id

def Catalog.keys (catalog : Catalog Key Entry) : List Key := catalog.toList.map Prod.fst

/-- The places of all keys of the slots. -/
def placesOf (slots : Array (Option (Key × Entry))) : Std.HashMap Key Nat :=
  (slots.foldl (fun (places, index) slot =>
    match slot with
    | some entry => (places.insert entry.1 index, index + 1)
    | none => (places, index + 1)) ((∅ : Std.HashMap Key Nat), 0)).1

/-- A catalog with one more entry, whose key is new. -/
def Catalog.push (catalog : Catalog Key Entry) (key : Key) (entry : Entry) : Catalog Key Entry :=
  let place := catalog.slots.size
  let slots := catalog.slots.push (some (key, entry))
  let places :=
    if place < fewSlots then catalog.places
    else if place = fewSlots then placesOf slots
    else catalog.places.insert key place
  ⟨slots, catalog.count + 1, places⟩

/-- A known key keeps its place and a new one comes last. -/
def Catalog.put (catalog : Catalog Key Entry) (key : Key) (entry : Entry) : Catalog Key Entry :=
  match catalog.place? key with
  | some place => { catalog with slots := catalog.slots.setIfInBounds place (some (key, entry)) }
  | none => catalog.push key entry

def Catalog.remove (catalog : Catalog Key Entry) (key : Key) : Catalog Key Entry :=
  match catalog.place? key with
  | some place =>
      ⟨catalog.slots.setIfInBounds place none, catalog.count - 1, catalog.places.erase key⟩
  | none => catalog

/-- All entries are removed. -/
def Catalog.clear (catalog : Catalog Key Entry) : Catalog Key Entry :=
  ⟨catalog.slots.map fun _ => none, 0, ∅⟩

/-- The catalog of entries of which later ones replace earlier ones. -/
def Catalog.ofList (entries : List (Key × Entry)) : Catalog Key Entry :=
  entries.foldl (fun catalog entry => catalog.put entry.1 entry.2) .empty

/-- The entry at a place or the first one behind it, with its place. -/
def Catalog.entryFrom? (catalog : Catalog Key Entry) (place : Nat) :
    Option (Nat × Key × Entry) :=
  search (catalog.slots.size - place) place
where
  search : Nat → Nat → Option (Nat × Key × Entry)
    | 0, _ => none
    | rest + 1, place =>
        match (catalog.slots[place]?).getD none with
        | some entry => some (place, entry)
        | none => search rest (place + 1)

end HostBridge
