/-!
# Attributes of an element

The attributes of an element are name and value pairs in document order. No name occurs twice: of
several values given for one name, the first counts.
-/

namespace ViewCode.Markup

/-- Attributes in document order, with distinct names. -/
structure Attributes where
  /-- The name and value pairs, in document order. -/
  entries : List (String × String)
  /-- No name occurs twice. -/
  nodup : (entries.map Prod.fst).Nodup
  deriving DecidableEq, Repr

namespace Attributes

/-- No attributes. -/
def empty : Attributes :=
  ⟨[], List.nodup_nil⟩

/-- The names, in document order. -/
def names (attributes : Attributes) : List String :=
  attributes.entries.map Prod.fst

/-- The number of attributes. -/
def size (attributes : Attributes) : Nat :=
  attributes.entries.length

/-- Whether there are no attributes. -/
def isEmpty (attributes : Attributes) : Bool :=
  attributes.entries.isEmpty

/-- The value given for the name. -/
def get? (attributes : Attributes) (name : String) : Option String :=
  attributes.entries.lookup name

/-- A new name at the end keeps the names distinct. -/
theorem nodup_append_entry {entries : List (String × String)} {name : String} (value : String)
    (hn : (entries.map Prod.fst).Nodup) (h : name ∉ entries.map Prod.fst) :
    ((entries ++ [(name, value)]).map Prod.fst).Nodup := by
  rw [List.map_append, List.nodup_append]
  refine ⟨hn, by simp, fun a ha b hb => ?_⟩
  rw [List.map_singleton, List.mem_singleton] at hb
  subst hb
  exact fun e => h (e ▸ ha)

/-- The attributes with one more at the end, unless the name is already there. -/
def insert? (attributes : Attributes) (name value : String) : Option Attributes :=
  if h : name ∈ attributes.entries.map Prod.fst then none
  else some ⟨attributes.entries ++ [(name, value)], nodup_append_entry value attributes.nodup h⟩

/-- The attributes with the value added, unless the name already has one. -/
def insert (attributes : Attributes) (name value : String) : Attributes :=
  (attributes.insert? name value).getD attributes

/-- The attributes given by the pairs, of which the first for each name counts. -/
def ofList (pairs : List (String × String)) : Attributes :=
  pairs.foldl (fun attributes pair => attributes.insert pair.1 pair.2) empty

instance : EmptyCollection Attributes := ⟨empty⟩

end Attributes

end ViewCode.Markup
