/-
# CatalogReplica.Cache -- the records a node serves

The cache holds records by id, and for every category the ids of its records.
It is filled by upserts and removals only. Both maps are kept in step:

* an id is listed under a category exactly when the record with that id has
  that category;
* a category without records is not listed at all.

An upsert that moves a record to another category therefore takes its id out
of the previous one first.
-/
import CatalogReplica.Record
import CatalogReplica.Text.Lower
import Std.Data.TreeMap
import Std.Data.TreeSet

namespace CatalogReplica

/-- The ids listed under one category. -/
abbrev IdSet := Std.TreeSet String

/-- The records a node serves. -/
structure Cache where
  /-- The records by id. -/
  records : Std.TreeMap String Record
  /-- The ids by category. -/
  index : Std.TreeMap String IdSet

namespace Cache

/-- The cache without records. -/
def empty : Cache := ⟨∅, ∅⟩

instance : Inhabited Cache := ⟨empty⟩

/-! ## Changing the cache -/

/-- Takes an id out of a category, and the category with it if it was the last
one. -/
def unlist (index : Std.TreeMap String IdSet) (category id : String) :
    Std.TreeMap String IdSet :=
  match index[category]? with
  | none => index
  | some ids =>
    let ids := ids.erase id
    if ids.isEmpty then index.erase category else index.insert category ids

/-- Puts an id into a category. -/
def list (index : Std.TreeMap String IdSet) (category id : String) :
    Std.TreeMap String IdSet :=
  index.insert category ((index.getD category ∅).insert id)

/-- Inserts a record, or replaces the one with its id. -/
def upsert (c : Cache) (r : Record) : Cache :=
  let index :=
    match c.records[r.id]? with
    | some previous =>
      if previous.category = r.category then c.index
      else unlist c.index previous.category r.id
    | none => c.index
  ⟨c.records.insert r.id r, list index r.category r.id⟩

/-- Removes the record with an id, if there is one. -/
def remove (c : Cache) (id : String) : Cache :=
  match c.records[id]? with
  | none => c
  | some r => ⟨c.records.erase id, unlist c.index r.category id⟩

/-! ## Reading the cache -/

/-- The record with an id. -/
def get? (c : Cache) (id : String) : Option Record := c.records[id]?

/-- Records in the order of their names; equal names keep their order. -/
def sortByName (rs : List Record) : List Record :=
  rs.mergeSort fun a b => compare a.name b.name != .gt

/-- Records, in the order of their names if that is asked for. -/
def ordered (sorted : Bool) (rs : List Record) : List Record :=
  if sorted then sortByName rs else rs

/-- The records with these ids; unknown ids are passed over. -/
def getMany (c : Cache) (ids : List String) (sorted : Bool) : List Record :=
  ordered sorted (ids.filterMap c.get?)

/-- The categories that hold a record. -/
def categories (c : Cache) : List String := c.index.keys

/-- The ids of the records of a category, unless it holds none. -/
def categoryIds? (c : Cache) (category : String) : Option (List String) :=
  c.index[category]?.map (·.toList)

/-- Whether a sequence of characters occurs in another. -/
def occursIn (needle : List Char) : List Char → Bool
  | [] => needle.isEmpty
  | c :: cs => needle.isPrefixOf (c :: cs) || occursIn needle cs

/-- Whether a name contains a text, letters of either case being the same. -/
def nameContains (substring : String) (name : String) : Bool :=
  occursIn (lower substring.toList) (lower name.toList)

/-- The records of a category whose names contain a text, unless the category
holds no records at all. -/
def query? (c : Cache) (category substring : String) (sorted : Bool) : Option (List Record) :=
  c.index[category]?.map fun ids =>
    let rs := ids.toList.filterMap c.get?
    ordered sorted <|
      if substring.isEmpty then rs else rs.filter fun r => nameContains substring r.name

/-- Number of records. -/
def size (c : Cache) : Nat := c.records.size

/-- Whether there are no records. -/
def isEmpty (c : Cache) : Bool := c.size == 0

/-- Number of categories that hold a record. -/
def categoryCount (c : Cache) : Nat := c.index.size

end Cache
end CatalogReplica
