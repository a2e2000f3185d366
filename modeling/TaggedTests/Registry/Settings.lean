import TaggedTests.Decimal.Shortest
import TaggedTests.Error
import TaggedTests.Registry
import TaggedTests.Text.Shown
import TaggedTests.Toml.Excerpt
import TaggedTests.Toml.Reader

/-! Overrides of the registry as written in a TOML document, one table for each keyword. -/

namespace TaggedTests

/-- What a setting has to be. -/
inductive SettingKind where
  /-- The overrides of one tag. -/
  | tag
  | integer
  | text
  deriving DecidableEq, Repr

/-- How a kind of setting is named. -/
def SettingKind.name : SettingKind → Text
  | tag => "struct TagOverride".toList
  | integer => "i64".toList
  | text => "a string".toList

/-- Why a value is no setting. -/
inductive Misfit where
  | wrongKind (found : Text) (expected : SettingKind)
  | unknownField (name : Text)
  /-- A list of fields that is too short. -/
  | tooFewItems (count : Nat)
  deriving DecidableEq, Repr

/-- The names of the fields of a tag, in the order that lists of them have. -/
def TagOverride.fieldNames : List Text :=
  ["order".toList, "separator".toList, "label".toList, "default".toList]

/-- The wording of a misfit. -/
def Misfit.message : Misfit → Text
  | wrongKind found expected =>
    "invalid type: ".toList ++ found ++ ", expected ".toList ++ expected.name
  | unknownField name =>
    "unknown field ".toList ++ Toml.ticked name ++ ", expected one of ".toList ++
      ", ".toList.intercalate (TagOverride.fieldNames.map Toml.ticked)
  | tooFewItems count =>
    "invalid length ".toList ++ Text.ofNat count ++ ", expected ".toList ++
      SettingKind.tag.name ++ " with ".toList ++ Text.ofNat TagOverride.fieldNames.length ++
      " elements".toList

/-- Why a document cannot be used. -/
inductive DocumentError where
  /-- It is no TOML document. -/
  | unreadable (trouble : Toml.Trouble)
  /-- It holds something that is no setting. -/
  | misfit (extent : Toml.Extent) (misfit : Misfit)
  deriving DecidableEq, Repr

/-- The wording of what is wrong with a document, with the line that it is found in. -/
def DocumentError.message (document : Text) : DocumentError → Text
  | unreadable trouble => (trouble.excerpt document).tell trouble.message
  | misfit extent reason => (extent.excerpt document).tell reason.message

/-- Why a document gives no registry. -/
inductive SettingsError where
  | malformed (document : Text) (error : DocumentError)
  | format (error : FormatError)
  deriving DecidableEq, Repr

/-- The wording of a settings error. -/
def SettingsError.message : SettingsError → Text
  | malformed document error => error.message document
  | format error => error.message

namespace Toml

/-- A value as it is named where another kind of value should be. -/
def found : Toml → Text
  | scalar _ (.string value) => "string ".toList ++ Text.shown value
  | scalar _ (.integer n) => "integer ".toList ++ ticked (Text.ofInt n)
  | scalar _ (.float negative magnitude) =>
    "floating point ".toList ++ ticked (BinaryFloat.written negative magnitude)
  | scalar _ (.boolean value) =>
    "boolean ".toList ++ ticked (if value then "true".toList else "false".toList)
  | array _ _ | tables _ => "sequence".toList
  | scalar _ .moment | inline _ _ | table _ _ _ => "map".toList

/-- What is wrong with a value, which is found at its key if it is not written in one place. -/
def misfit (key : Extent) (value : Toml) (reason : Misfit) : DocumentError :=
  .misfit (value.extent?.getD key) reason

/-- The integer that a value is. -/
def integer? (key : Extent) : Toml → Except DocumentError Int
  | scalar _ (.integer n) => .ok n
  | value => .error (value.misfit key (.wrongKind value.found .integer))

/-- The text that a value is. -/
def text? (key : Extent) : Toml → Except DocumentError Text
  | scalar _ (.string text) => .ok text
  | value => .error (value.misfit key (.wrongKind value.found .text))

end Toml

namespace TagOverride

/-- Takes one field, given by its name and where that stands. -/
def takeField (update : TagOverride) (name : Text) (key : Toml.Extent) (value : Toml) :
    Except DocumentError TagOverride := do
  if name = "order".toList then return { update with order := some (← value.integer? key) }
  else if name = "separator".toList then
    return { update with separator := some (← value.text? key) }
  else if name = "label".toList then return { update with label := some (← value.text? key) }
  else if name = "default".toList then return { update with fallback := some (← value.text? key) }
  else .error (.misfit key (.unknownField name))

/-- The override that a table of fields describes. -/
def ofEntries (entries : TomlEntries) : Except DocumentError TagOverride :=
  entries.foldlM (fun update (key, value) => update.takeField key.name key.extent value) {}

/-- The override that a list of all fields in their order describes, given where it stands. -/
def ofItems (extent : Toml.Extent) (items : List Toml) : Except DocumentError TagOverride := do
  let update ← (fieldNames.zip items).foldlM (fun update (name, value) =>
    update.takeField name extent value) {}
  if items.length < fieldNames.length then
    .error (.misfit extent (.tooFewItems items.length))
  else return update

/-- The name of the only field of a date or time that is taken for a table of fields. -/
def momentField : Text := "$__toml_private_datetime".toList

/-- The override that a value describes, given where its key stands. -/
def ofToml (key : Toml.Extent) (value : Toml) : Except DocumentError TagOverride :=
  match value with
  | .inline _ entries | .table _ _ entries => ofEntries entries
  | .array extent items => ofItems extent items
  | .tables items => ofItems (value.extent?.getD key) items
  | .scalar extent .moment => .error (.misfit extent (.unknownField momentField))
  | .scalar extent _ => .error (.misfit extent (.wrongKind value.found .tag))

end TagOverride

namespace RegistryFile

/-- The overrides of a document in increasing order of their keywords. -/
def ofEntries (entries : TomlEntries) : Except DocumentError RegistryFile := do
  let file ← entries.mapM fun (key, value) => do
    return (key.name, ← TagOverride.ofToml key.extent value)
  return file.mergeSort fun first second => !decide (second.1 < first.1)

/-- Reads overrides from a TOML document. -/
def read (raw : Text) : Except DocumentError RegistryFile :=
  match Toml.read raw with
  | .ok entries => ofEntries entries
  | .error trouble => .error (.unreadable trouble)

end RegistryFile

namespace Registry

/-- The registry that a document describes; what is wrong with its form is found before its
keywords. -/
def ofToml (raw : Text) : Except SettingsError Registry :=
  match RegistryFile.read raw with
  | .error error => .error (.malformed raw error)
  | .ok file => (builtin.withOverrides file).mapError fun keyword => .format (.unknownTag keyword)

end Registry

end TaggedTests
