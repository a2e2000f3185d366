import TaggedTests.Decimal
import TaggedTests.Toml.Trouble

/-! Values of a TOML document and the tables that they build. -/

namespace TaggedTests

/-- A value of a TOML document that holds no others. -/
inductive Toml.Scalar where
  | string (value : Text)
  | integer (n : Int)
  | float (negative : Bool) (magnitude : BinaryFloat)
  | boolean (value : Bool)
  /-- A date, a time or both. -/
  | moment
  deriving DecidableEq, Repr

/-- A key where it was first written. -/
structure Toml.Key where
  name : Text
  extent : Toml.Extent
  deriving DecidableEq, Repr

/-- How a table came to be, which decides how it may be extended. -/
inductive Toml.TableOrigin where
  /-- Opened by a header of its own. -/
  | header
  /-- Implied by the header of a table within it. -/
  | implied
  /-- Implied by a dotted key. -/
  | dotted
  deriving DecidableEq, Repr

/-- A value of a TOML document. -/
inductive Toml where
  | scalar (extent : Toml.Extent) (value : Toml.Scalar)
  | array (extent : Toml.Extent) (items : List Toml)
  /-- A table between braces, or one that a dotted key between braces implies. -/
  | inline (extent : Option Toml.Extent) (entries : List (Toml.Key × Toml))
  | table (origin : Toml.TableOrigin) (extent : Option Toml.Extent)
    (entries : List (Toml.Key × Toml))
  /-- Tables that are each opened by a header of the same path. -/
  | tables (items : List Toml)

/-- The entries of a table in the order in which they were made. -/
abbrev TomlEntries := List (Toml.Key × Toml)

namespace Toml

/-- Where a value is written, if it is written in one place. -/
def extent? : Toml → Option Extent
  | scalar extent _ | array extent _ => some extent
  | inline extent _ | table _ extent _ => extent
  | tables items =>
    match items.head?, items.getLast? with
    | some (table _ (some first) _), some (table _ (some last) _) => some ⟨first.start, last.stop⟩
    | _, _ => none

/-- What kind of value a value is. -/
def kind : Toml → Text
  | scalar _ (.string _) => "string".toList
  | scalar _ (.integer _) => "integer".toList
  | scalar _ (.float _ _) => "float".toList
  | scalar _ (.boolean _) => "boolean".toList
  | scalar _ .moment => "datetime".toList
  | array _ _ => "array".toList
  | inline _ _ => "inline table".toList
  | table _ _ _ => "table".toList
  | tables _ => "array of tables".toList

/-- The value of a key. -/
def lookup? (name : Text) (entries : TomlEntries) : Option Toml :=
  (entries.find? fun entry => entry.1.name = name).map (·.2)

/-- The entries with another value for a key, which comes last if it is new. -/
def put (key : Key) (value : Toml) : TomlEntries → TomlEntries
  | [] => [(key, value)]
  | entry :: rest =>
    if entry.1.name = key.name then (entry.1, value) :: rest else entry :: put key value rest

/-- The entries without a key. -/
def without (name : Text) (entries : TomlEntries) : TomlEntries :=
  entries.filter fun entry => entry.1.name ≠ name

/-- The names on a path. -/
def names (path : List Key) : List Text := path.map Key.name

/-- Gives a value to a dotted key between braces, given the keys in front of it. -/
def assignInline (value : Toml) (last : Key) (passed : List Key) :
    List Key → TomlEntries → Except Fault TomlEntries
  | [], entries =>
    if (lookup? last.name entries).isSome then .error (.duplicateKey last.name none)
    else .ok (entries ++ [(last, value)])
  | key :: path, entries =>
    let inner (extent : Option Extent) (entries : TomlEntries) : Except Fault Toml :=
      (assignInline value last (passed ++ [key]) path entries).map (inline extent)
    match lookup? key.name entries with
    | none => return entries ++ [(key, ← inner none [])]
    | some (.inline extent held) => return put key (← inner extent held) entries
    | some other => .error (.notATable (names (passed ++ [key])) other.kind)

/-- Changes the last of some tables. -/
def changeLast (change : TomlEntries → Except Fault TomlEntries) (items : List Toml) :
    Except Fault (List Toml) :=
  match items.getLast? with
  | some (.table origin extent entries) =>
    return items.dropLast ++ [.table origin extent (← change entries)]
  | _ => .ok items

/--
Changes the table at a path, given its origin and entries; tables that are missing on the path are
made.

Where the path is the front of a dotted key, it leads through no table that has a header.
-/
def changeAt (isDotted : Bool) (change : TableOrigin → TomlEntries → Except Fault TomlEntries)
    (passed : List Key) : List Key → TableOrigin → TomlEntries → Except Fault TomlEntries
  | [], origin, entries => change origin entries
  | key :: path, _, entries =>
    match lookup? key.name entries with
    | none => do
      let origin := if isDotted then .dotted else .implied
      let inner ← changeAt isDotted change (passed ++ [key]) path origin []
      return entries ++ [(key, .table origin none inner)]
    | some (.table origin extent held) => do
      if isDotted ∧ origin = .header then .error (.duplicateKey key.name none)
      else
        let inner ← changeAt isDotted change (passed ++ [key]) path origin held
        return put key (.table origin extent inner) entries
    | some (.tables items) => do
      let inner ← changeLast (changeAt isDotted change (passed ++ [key]) path .header) items
      return put key (.tables inner) entries
    | some other => .error (.notATable (names (passed ++ [key])) other.kind)

end Toml

end TaggedTests
