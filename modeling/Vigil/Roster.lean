/-!
# Rosters

A roster holds one value for each of its names. The names are distinct and stand in the order in
which they were first entered; a name that is struck off and entered again stands last.
-/

namespace Vigil

/-- Values under distinct names, in the order of entry. -/
structure Roster (α : Type) where
  entries : List (String × α)
  distinct : (entries.map Prod.fst).Nodup

namespace Roster

variable {α β : Type}

def empty : Roster α :=
  ⟨[], List.nodup_nil⟩

instance : Inhabited (Roster α) :=
  ⟨empty⟩

def names (r : Roster α) : List String :=
  r.entries.map Prod.fst

def size (r : Roster α) : Nat :=
  r.entries.length

def find? (r : Roster α) (name : String) : Option α :=
  r.entries.lookup name

def contains (r : Roster α) (name : String) : Bool :=
  (r.find? name).isSome

/-- The values, each computed anew from its name and itself. -/
def map (f : String → α → β) (r : Roster α) : Roster β where
  entries := r.entries.map fun e => (e.1, f e.1 e.2)
  distinct := by
    rw [List.map_map]
    exact r.distinct

/-- The roster with the value under one name computed anew. -/
def modify (r : Roster α) (name : String) (f : α → α) : Roster α :=
  r.map fun n a => if n = name then f a else a

def erase (r : Roster α) (name : String) : Roster α where
  entries := r.entries.filter (·.1 ≠ name)
  distinct := (List.Sublist.map Prod.fst List.filter_sublist).nodup r.distinct

theorem not_mem_of_find?_eq_none {r : Roster α} {name : String} (h : r.find? name = none) :
    name ∉ r.entries.map Prod.fst := by
  intro hm
  obtain ⟨e, he, hn⟩ := List.mem_map.1 hm
  have := List.lookup_eq_none_iff.1 h e he
  simp [hn] at this

/-- The roster with one more name, which it does not hold yet, at its end. -/
def enter (r : Roster α) (name : String) (a : α) (h : r.find? name = none) : Roster α where
  entries := r.entries ++ [(name, a)]
  distinct := by
    simp only [List.map_append, List.map_cons, List.map_nil]
    exact List.nodup_append.2 ⟨r.distinct, by simp, fun x hx y hy => by
      rw [List.mem_singleton.1 hy]
      exact fun hxy => not_mem_of_find?_eq_none h (hxy ▸ hx)⟩

/-- The roster with a value under a name: in place of the one it holds, or else at its end. -/
def insert (r : Roster α) (name : String) (a : α) : Roster α :=
  match h : r.find? name with
  | some _ => r.modify name fun _ => a
  | none => r.enter name a h

/-- The roster of a list of entries, of which the last under each name counts. -/
def ofList (entries : List (String × α)) : Roster α :=
  entries.foldl (fun r e => r.insert e.1 e.2) empty

def values (r : Roster α) : List α :=
  r.entries.map Prod.snd

end Roster

end Vigil
