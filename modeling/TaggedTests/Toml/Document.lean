import TaggedTests.Toml

/-!
Tables of a TOML document, as its lines build them.

The table of the last header is kept apart until the next header.
-/

namespace TaggedTests

namespace Toml

/-- A document that has been read up to some line. -/
structure Document where
  /-- The tables in front of the last header. -/
  finished : TomlEntries
  /-- The path of the last header, which is empty in front of the first one. -/
  path : List Key
  /-- Does the last header open one of several tables? -/
  isRepeated : Bool
  /-- Where the table of the last header is written. -/
  extent : Option Extent
  /-- The entries of the table of the last header. -/
  entries : TomlEntries

namespace Document

/-- A document without lines. -/
def empty : Document := ⟨[], [], false, none, []⟩

/-- Changes the table around the one that a path leads to. -/
def changeAround (change : TomlEntries → Except Fault TomlEntries) (path : List Key)
    (entries : TomlEntries) : Except Fault TomlEntries :=
  changeAt false (fun _ => change) [] path.dropLast .header entries

/-- The fault of a header whose last key has a value already. -/
def taken (path : List Key) (last : Key) : Fault :=
  .duplicateKey last.name (some (names path.dropLast))

/-- All tables of a document. -/
def close (document : Document) : Except Fault TomlEntries :=
  match document.path.getLast? with
  | none => .ok document.entries
  | some last =>
    let table := Toml.table .header document.extent document.entries
    changeAround (fun around =>
      match lookup? last.name around with
      | some (.tables items) => .ok (put last (.tables (items ++ [table])) around)
      | _ => .ok (put last (if document.isRepeated then .tables [table] else table) around))
      document.path document.finished

/-- The entries that a table has before its header; only an implied table may get a header. -/
def before? (last : Key) (around : TomlEntries) : Option TomlEntries :=
  match lookup? last.name around with
  | none => some []
  | some (.table .implied _ entries) => some entries
  | some _ => none

/-- The entries at a path. -/
def entriesAt (path : List Key) (entries : TomlEntries) : TomlEntries :=
  path.foldl (fun entries key =>
    match lookup? key.name entries with
    | some (.table _ _ inner) | some (.inline _ inner) => inner
    | some (.tables items) =>
      match items.getLast? with
      | some (.table _ _ inner) => inner
      | _ => []
    | _ => []) entries

/-- The document behind the header of a table. -/
def openTable (document : Document) (path : List Key) (extent : Extent) :
    Except Fault Document := do
  let finished ← document.close
  match path.getLast? with
  | none => return document
  | some last =>
    -- The table is taken out of the others, to come last among them when it is finished.
    let rest ← changeAround (fun around =>
      if (before? last around).isSome then .ok (without last.name around)
      else .error (taken path last)) path finished
    let entries := (before? last (entriesAt path.dropLast finished)).getD []
    return ⟨rest, path, false, some extent, entries⟩

/-- The document behind the header of one of several tables. -/
def openRepeated (document : Document) (path : List Key) (extent : Extent) :
    Except Fault Document := do
  let finished ← document.close
  match path.getLast? with
  | none => return document
  | some last =>
    let rest ← changeAround (fun around =>
      match lookup? last.name around with
      | none => .ok (put last (.tables []) around)
      | some (.tables _) => .ok around
      | some _ => .error (taken path last)) path finished
    return ⟨rest, path, true, some extent, []⟩

/-- The document with a value given to a dotted key. -/
def assign (document : Document) (path : List Key) (last : Key) (value : Toml) :
    Except Fault Document := do
  let entries ← changeAt true (fun origin entries =>
    -- A dotted key may not reach into a table that a header implies.
    if origin ≠ .dotted ∧ path ≠ [] then .error (.duplicateKey last.name none)
    else if (lookup? last.name entries).isSome then
      .error (.duplicateKey last.name (some (names document.path)))
    else .ok (entries ++ [(last, value)])) [] path .header document.entries
  let extent := document.extent.map fun extent =>
    ⟨extent.start, (value.extent?.map Extent.stop).getD extent.stop⟩
  return { document with entries, extent }

end Document

end Toml

end TaggedTests
