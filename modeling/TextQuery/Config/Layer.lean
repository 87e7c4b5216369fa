import TextQuery.Config.Settings
import TextQuery.Decimal.Shortest
import TextQuery.Text.Quoted
import TextQuery.Toml.Document

/-!
# Layers

A layer is what one configuration file defines: each setting may be left out. Reading a layer from a
table looks at its keys in their order and stops at the first thing that does not belong.
-/

namespace TextQuery.Config

/-- The query settings of a file. -/
structure QueryLayer where
  defaultField : Option String := none
  maxLength : Option Nat := none
  deriving DecidableEq, Repr

/-- The output settings of a file. -/
structure OutputLayer where
  format : Option OutputFormat := none
  deriving DecidableEq, Repr

/-- What a configuration file defines. -/
structure Layer where
  /-- Whether files further up are to be ignored. -/
  root : Option Bool := none
  query : Option QueryLayer := none
  output : Option OutputLayer := none
  deriving DecidableEq, Repr

/-! ### What can be wrong with a table -/

/-- What a place in the file takes. -/
inductive Kind where
  | boolean
  | string
  | size
  | querySection
  | outputSection
  deriving DecidableEq, Repr

/-- The kind in words. -/
def Kind.phrase : Kind → String
  | .boolean => "a boolean"
  | .string => "a string"
  | .size => "usize"
  | .querySection => "struct RawQuerySettings"
  | .outputSection => "struct RawOutputSettings"

/-- Why a value does not fit. -/
inductive Mismatch where
  /-- A key that is none of the expected ones. -/
  | unknownField (name : String) (expected : List String)
  /-- A value, described in words, of another kind. -/
  | wrongType (found : String) (expected : Kind)
  /-- A value, described in words, of the right kind but out of range. -/
  | wrongValue (found : String) (expected : Kind)
  /-- An integer too large for any kind, or without digits. -/
  | integerOverflow
  /-- A number with a fraction or exponent too large for any kind. -/
  | floatOverflow
  /-- A name that is no output format. -/
  | unknownVariant (name : String)
  /-- A format that is neither a name nor a table. -/
  | notAVariant
  /-- A format table without an entry. -/
  | noVariant
  /-- A format table with several entries. -/
  | severalVariants
  /-- A format entry with something in its array. -/
  | variantArray
  /-- A format entry with something in its table. -/
  | variantTable
  /-- A format entry that is neither an array nor a table. -/
  | variantValue (found : String)
  deriving DecidableEq, Repr

/-- Names between backticks, as an enumeration. -/
def enumerate (names : List String) : String :=
  match names.map fun n => "`" ++ n ++ "`" with
  | [] => ""
  | [a] => a
  | [a, b] => a ++ " or " ++ b
  | quoted => "one of " ++ String.intercalate ", " quoted

/-- The mismatch in words. -/
def Mismatch.message : Mismatch → String
  | .unknownField name expected =>
    "unknown field `" ++ name ++ "`, expected " ++ enumerate expected
  | .wrongType found expected => "invalid type: " ++ found ++ ", expected " ++ expected.phrase
  | .wrongValue found expected => "invalid value: " ++ found ++ ", expected " ++ expected.phrase
  | .integerOverflow => "integer number overflowed"
  | .floatOverflow => "floating-point number overflowed"
  | .unknownVariant name =>
    "unknown variant `" ++ name ++ "`, expected " ++ enumerate (OutputFormat.all.map (·.name))
  | .notAVariant => "wanted string or table"
  | .noVariant => "wanted exactly 1 element, found 0 elements"
  | .severalVariants => "wanted exactly 1 element, more than 1 element"
  | .variantArray => "expected empty array"
  | .variantTable => "expected empty table"
  | .variantValue found => "expected table, found " ++ found

/-- A mismatch and where it is. -/
structure Misfit where
  mismatch : Mismatch
  extent : Toml.Extent
  deriving DecidableEq, Repr

/-! ### Describing values -/

/-- A number with a fraction as messages show it, none if it is out of range. -/
def floatText? : Toml.FloatLiteral → Option String
  | .nan => some "NaN"
  | .infinite negative => some (if negative then "-inf" else "inf")
  | .finite negative digits exponent =>
    let sign := if negative then "-" else ""
    if digits == 0 then some (sign ++ "0.0")
    else
      (Decimal.Numeral.nearest? ⟨digits, exponent⟩).map fun b =>
        sign ++ (if b.mantissa == 0 then "0.0" else Decimal.positional (Decimal.shortest b))

/-- The number of values of a word with so many bits. -/
def wordSize (bits : Nat) : Int := Nat.pow 2 bits

/-- An integer as messages show it, none if it has more than 128 bits. -/
def integerText? (n : Int) : Option String :=
  let text := "integer `" ++ toString n ++ "`"
  if -wordSize 63 ≤ n ∧ n < wordSize 64 then some text
  else if -wordSize 127 ≤ n ∧ n < wordSize 127 then some (text ++ " as i128")
  else if 0 ≤ n ∧ n < wordSize 128 then some (text ++ " as u128")
  else none

/-- The mismatch of a value of the wrong kind. -/
def wrongKind (v : Toml.Value) (expected : Kind) : Mismatch :=
  match v with
  | .string text => .wrongType ("string " ++ Text.quote text) expected
  | .integer n =>
    match integerText? n with
    | some text => .wrongType text expected
    | none => .integerOverflow
  | .digitless => .integerOverflow
  | .float f =>
    match floatText? f with
    | some text => .wrongType ("floating point `" ++ text ++ "`") expected
    | none => .floatOverflow
  | .boolean b => .wrongType ("boolean `" ++ toString b ++ "`") expected
  | .datetime | .table .. => .wrongType "map" expected
  | .array .. => .wrongType "sequence" expected

/-- The kind of a value in one word. -/
def typeName : Toml.Value → String
  | .string _ => "string"
  | .integer _ | .digitless => "integer"
  | .float _ => "float"
  | .boolean _ => "boolean"
  | .datetime => "datetime"
  | .array .. => "array"
  | .table .. => "table"

/-! ### Reading values -/

/-- A truth value. -/
def readBoolean (extent : Toml.Extent) : Toml.Value → Except Misfit Bool
  | .boolean b => .ok b
  | v => .error ⟨wrongKind v .boolean, extent⟩

/-- A text. -/
def readText (extent : Toml.Extent) : Toml.Value → Except Misfit String
  | .string text => .ok text
  | v => .error ⟨wrongKind v .string, extent⟩

/-- A number of bytes: below 2 ^ 64. -/
def readSize (extent : Toml.Extent) : Toml.Value → Except Misfit Nat
  | .integer n =>
    if 0 ≤ n ∧ n < wordSize 64 then .ok n.toNat
    else if -wordSize 63 ≤ n ∧ n < 0 then
      .error ⟨.wrongValue ("integer `" ++ toString n ++ "`") .size, extent⟩
    else .error ⟨wrongKind (.integer n) .size, extent⟩
  | v => .error ⟨wrongKind v .size, extent⟩

/-- The format with a name. -/
def readVariant (extent : Toml.Extent) (name : String) : Except Misfit OutputFormat :=
  match OutputFormat.ofName? name with
  | some f => .ok f
  | none => .error ⟨.unknownVariant name, extent⟩

/-- The value beside a format name in a table, which has to be empty. -/
def readNothing (extent : Toml.Extent) : Toml.Value → Except Misfit Unit
  | .array _ [] | .table _ [] => .ok ()
  | .array .. => .error ⟨.variantArray, extent⟩
  | .table .. => .error ⟨.variantTable, extent⟩
  | v => .error ⟨.variantValue (typeName v), extent⟩

/-- An output format: its name, or a table with the name as its only key. -/
def readFormat (extent : Toml.Extent) : Toml.Value → Except Misfit OutputFormat
  | .string name => readVariant extent name
  | .table _ [] => .error ⟨.noVariant, extent⟩
  | .table _ [(key, inner, v)] => do
    let f ← readVariant key.extent key.name
    readNothing inner v
    .ok f
  | .table .. => .error ⟨.severalVariants, extent⟩
  | _ => .error ⟨.notAVariant, extent⟩

/-! ### Reading sections -/

/-- The key under which a date looks like a table. -/
def dateKey : String := "$__toml_private_datetime"

/-- Reads one entry of the query section. -/
def QueryLayer.readEntry (q : QueryLayer) :
    Toml.Key × Toml.Extent × Toml.Value → Except Misfit QueryLayer
  | (key, extent, v) =>
    if key.name == "default_field" then
      (readText extent v).map fun s => { q with defaultField := some s }
    else if key.name == "max_length" then
      (readSize extent v).map fun n => { q with maxLength := some n }
    else .error ⟨.unknownField key.name ["default_field", "max_length"], key.extent⟩

/-- The query section: a table, or the values in order. -/
def QueryLayer.read (extent : Toml.Extent) : Toml.Value → Except Misfit QueryLayer
  | .table _ entries => entries.foldlM QueryLayer.readEntry {}
  | .array _ [] => .ok {}
  | .array _ [(e, v)] => (readText e v).map fun s => { defaultField := some s }
  | .array _ ((e, v) :: (e', v') :: _) => do
    let s ← readText e v
    let n ← readSize e' v'
    .ok ⟨some s, some n⟩
  | .datetime => .error ⟨.unknownField dateKey ["default_field", "max_length"], extent⟩
  | v => .error ⟨wrongKind v .querySection, extent⟩

/-- Reads one entry of the output section. -/
def OutputLayer.readEntry (o : OutputLayer) :
    Toml.Key × Toml.Extent × Toml.Value → Except Misfit OutputLayer
  | (key, extent, v) =>
    if key.name == "format" then
      (readFormat extent v).map fun f => { o with format := some f }
    else .error ⟨.unknownField key.name ["format"], key.extent⟩

/-- The output section: a table, or the values in order. -/
def OutputLayer.read (extent : Toml.Extent) : Toml.Value → Except Misfit OutputLayer
  | .table _ entries => entries.foldlM OutputLayer.readEntry {}
  | .array _ [] => .ok {}
  | .array _ ((e, v) :: _) => (readFormat e v).map fun f => ⟨some f⟩
  | .datetime => .error ⟨.unknownField dateKey ["format"], extent⟩
  | v => .error ⟨wrongKind v .outputSection, extent⟩

/-- Reads one entry of a configuration file. -/
def Layer.readEntry (l : Layer) : Toml.Key × Toml.Extent × Toml.Value → Except Misfit Layer
  | (key, extent, v) =>
    if key.name == "root" then
      (readBoolean extent v).map fun b => { l with root := some b }
    else if key.name == "query" then
      (QueryLayer.read extent v).map fun q => { l with query := some q }
    else if key.name == "output" then
      (OutputLayer.read extent v).map fun o => { l with output := some o }
    else .error ⟨.unknownField key.name ["root", "query", "output"], key.extent⟩

/-- The layer that a table defines. -/
def Layer.ofTable (t : Toml.Table) : Except Misfit Layer := t.foldlM Layer.readEntry {}

/-! ### Reading files -/

/-- Why a text is no configuration file. -/
inductive Rejection where
  /-- It is no TOML document. -/
  | malformed (m : Toml.Malformed)
  /-- It holds what does not belong into a configuration file. -/
  | misfit (m : Misfit)
  deriving DecidableEq, Repr

/-- The layer that a configuration file defines. -/
def Layer.parse (text : String) : Except Rejection Layer :=
  match Toml.parse text with
  | .error m => .error (.malformed m)
  | .ok t =>
    match Layer.ofTable t with
    | .error m => .error (.misfit m)
    | .ok l => .ok l

namespace Rejection

/-- The rejection in words. -/
def message : Rejection → String
  | .malformed m => m.flaw.message
  | .misfit m => m.mismatch.message

/-- The offsets of the offending stretch in a text of `total` bytes. -/
def offsets (total : Nat) : Rejection → Nat × Nat
  | .malformed m => (total - m.left, total - m.left)
  | .misfit m => m.extent.offsets total

end Rejection

end TextQuery.Config
