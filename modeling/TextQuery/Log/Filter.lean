import TextQuery.Log.Record
import TextQuery.Text.Alphanumeric
import TextQuery.Text.Blank
import TextQuery.Text.Bytes

/-!
# Log filters

A filter is a list of directives between commas. A directive names the records it speaks about, by
the start of their target, by a span, or by a field in them, and the level up to which they are
shown: `info`, `target=debug`, `target[span]=trace`, `[{field}]=warn`. The most specific directive
that speaks about a record decides.
-/

namespace TextQuery.Log

/-- The level up to which records are shown, none to show nothing. -/
abbrev Threshold := Option Level

namespace Threshold

/-- The name of a threshold. -/
def name : Threshold → String
  | none => "off"
  | some level => level.name

/-- The threshold that a number stands for. -/
def ofNumber? : Nat → Option Threshold
  | 0 => some none
  | n + 1 => (Level.all[n]?).map some

/-- A number in decimal digits. A plus sign may stand in front of it. -/
def number? (cs : List Char) : Option Nat :=
  let digits := match cs with
    | '+' :: ds => ds
    | _ => cs
  if digits.isEmpty || !digits.all Char.isDigit then none
  else some (digits.foldl (fun n c => 10 * n + (c.toNat - 48)) 0)

/-- The threshold with a name or number. Names may be in any case. -/
def ofText? (text : String) : Option Threshold :=
  match (number? text.toList).bind ofNumber? with
  | some t => some t
  | none =>
    let lower := String.ofList (text.toList.map Char.toLower)
    if lower == "off" then some none
    else if lower == "" then some (some .error)
    else (Level.all.find? fun level => level.name == lower).map some

/-- Whether a record of some level is shown. -/
def admits (t : Threshold) (level : Level) : Bool :=
  t.any fun limit => level.verbosity ≤ limit.verbosity

end Threshold

/-- A directive. -/
structure Directive where
  target : Option String := none
  span : Option String := none
  /-- The field, with the value it must have if one is given. -/
  field : Option (String × Option String) := none
  threshold : Threshold := some .trace
  deriving DecidableEq, Repr

namespace Directive

/-! ### Reading -/

/-- Where the reader of a directive is. Each state that collects characters holds those so far, the
last one first. -/
inductive State where
  | start
  | targetOrLevel (soFar : List Char)
  | span (soFar : List Char)
  | field (soFar : List Char)
  | afterField
  | afterSpan
  | level (soFar : List Char)

/-- The text of collected characters. -/
def collected (soFar : List Char) : String := String.ofList soFar.reverse

/-- A field and the value after an equals sign, none without a text at all. -/
def readField? (cs : List Char) : Option (String × Option String) :=
  if cs.isEmpty then none
  else
    match cs.dropWhile (· != '=') with
    | [] => some (String.ofList cs, none)
    | _ :: value =>
      some (String.ofList (cs.takeWhile (· != '=')),
        some (String.ofList (value.takeWhile (· != '='))))

/-- Reads one character, none if it does not belong. The state collects `kept` in its place. -/
def step : State × Directive → Char × Char → Option (State × Directive)
  | (.start, d), (c, kept) =>
    if c == '[' then some (.span [], d)
    else if c == '-' || c == ':' || c == '_' || Text.isAlphanumeric c then
      some (.targetOrLevel [kept], d)
    else none
  | (.targetOrLevel s, d), (c, kept) =>
    if c == '=' then some (.level [], { d with target := some (collected s) })
    else if c == '[' then some (.span [], { d with target := some (collected s) })
    else some (.targetOrLevel (kept :: s), d)
  | (.span s, d), (c, kept) =>
    if c == ']' then some (.afterSpan, { d with span := some (collected s) })
    else if c == '\x7b' then
      some (.field [], { d with span := if s.isEmpty then none else some (collected s) })
    else some (.span (kept :: s), d)
  | (.field s, d), (c, kept) =>
    if c == '\x7d' then
      (readField? s.reverse).map fun f => (.afterField, { d with field := some f })
    else some (.field (kept :: s), d)
  | (.afterField, d), (c, _) => if c == ']' then some (.afterSpan, d) else none
  | (.afterSpan, d), (c, _) => if c == '=' then some (.level [], d) else none
  | (.level s, d), (_, kept) => some (.level (kept :: s), d)

/-- The directive once its characters are read and `rest` of its text is left. -/
def finish (rest : List Char) : State × Directive → Option Directive
  | (.targetOrLevel s, d) =>
    let text := collected s ++ String.ofList rest
    match Threshold.ofText? text with
    | some t => some { d with threshold := t }
    | none => some { d with target := some text }
  | (.level s, d) =>
    let text := collected s ++ String.ofList rest
    if text.isEmpty then some d
    else (Threshold.ofText? text).map fun t => { d with threshold := t }
  | (.afterSpan, d) => some d
  | _ => none

/-- The directive that a text stands for. Its parts are where they would be without the blanks
around the text, but what stands in them is taken from the text with its blanks, so that a blank in
front spoils every name. -/
def parse? (text : String) : Option Directive :=
  let cs := text.toList
  let body := ((cs.dropWhile Text.isBlank).reverse.dropWhile Text.isBlank).reverse
  ((body.zip cs).foldlM step (.start, {})).bind (finish (cs.drop body.length))

/-! ### Writing -/

/-- The text of a directive. -/
def toText (d : Directive) : String :=
  let field := d.field.elim "" fun f =>
    "\x7b" ++ f.1 ++ f.2.elim "" (fun v => "=" ++ v) ++ "\x7d"
  let scope := if d.span.isSome || d.field.isSome then "[" ++ d.span.getD "" ++ field ++ "]" else ""
  let subject := d.target.getD "" ++ scope
  if d.target.isSome || d.span.isSome || d.field.isSome then subject ++ "=" ++ d.threshold.name
  else d.threshold.name

/-! ### Applying -/

/-- Whether the directive speaks about records only while some span or value is around. -/
def isDynamic (d : Directive) : Bool := d.span.isSome || d.field.isSome

/-- Whether the directive can be decided from the record alone. -/
def isStatic (d : Directive) : Bool := d.span.isNone && !d.field.any fun f => f.2.isSome

/-- Whether the directive speaks about a record. -/
def covers (d : Directive) (r : Record) : Bool :=
  (d.target.all fun t => t.toList.isPrefixOf r.target.toList) &&
    d.field.all fun f => f.1 == "message" || r.fields.any fun g => g.1 == f.1

/-- A key that is larger for a more specific directive; equally specific ones go by name. -/
def specificity (d : Directive) : List Nat × List String :=
  let size (s : Option String) : Nat := s.elim 0 fun t => Text.byteLength t.toList + 1
  ([size d.target, size d.span, if d.field.isSome then 1 else 0],
    [d.target.getD "", d.span.getD "", d.field.elim "" (·.1)])

/-- Whether two directives speak about the same records. -/
def sameSubject (a b : Directive) : Bool :=
  a.target == b.target && a.span == b.span && a.field == b.field

/-- Whether `a` comes before `b`: the more specific one, then the one with the larger name. -/
def precedes (a b : Directive) : Bool :=
  let x := a.specificity
  let y := b.specificity
  if x.1 == y.1 then decide (y.2 < x.2) else decide (y.1 < x.1)

/-- Adds a directive in its place, instead of one about the same records if there is one. -/
def insert (d : Directive) : List Directive → List Directive
  | [] => [d]
  | e :: es =>
    if sameSubject d e then d :: es
    else if precedes d e then d :: e :: es
    else e :: insert d es

end Directive

/-- A filter: directives about records alone and directives about their surroundings, both the most
specific first. -/
structure Filter where
  static : List Directive := []
  dynamic : List Directive := []
  deriving DecidableEq, Repr

namespace Filter

/-- The filter made of directives. No directive at all shows nothing. -/
def ofDirectives (ds : List Directive) : Filter :=
  if ds.isEmpty then { static := [{ threshold := none }] }
  else
    let dynamic := ds.filter Directive.isDynamic
    let static := ds.filter (fun d => !d.isDynamic) ++ dynamic.filter Directive.isStatic
    ⟨static.foldl (fun acc d => d.insert acc) [], dynamic.foldl (fun acc d => d.insert acc) []⟩

/-- The pieces of a text between commas. -/
def splitCommas : List Char → List (List Char)
  | [] => [[]]
  | c :: cs =>
    if c == ',' then [] :: splitCommas cs
    else
      match splitCommas cs with
      | piece :: pieces => (c :: piece) :: pieces
      | [] => [[c]]

/-- The filter that a text stands for. -/
def parse? (text : String) : Option Filter :=
  let pieces := (splitCommas text.toList).filter fun piece => !piece.isEmpty
  (pieces.mapM fun piece => Directive.parse? (String.ofList piece)).map ofDirectives

/-- The filter with one threshold for every record. -/
def upTo (level : Level) : Filter := { static := [{ threshold := some level }] }

/-- The filter that a verbosity and a setting ask for: the setting counts only when no verbosity is
asked for, and warnings are shown if it is missing or cannot be read. -/
def select (verbosity : Nat) (setting : Option String) : Filter :=
  match verbosity with
  | 0 => (setting.bind parse?).getD (upTo .warn)
  | 1 => upTo .debug
  | _ => upTo .trace

/-- The text of a filter. -/
def toText (f : Filter) : String :=
  String.intercalate "," ((f.static ++ f.dynamic).map Directive.toText)

/-- Whether a record is shown: the first directive that speaks about it decides. -/
def admits (f : Filter) (r : Record) : Bool :=
  (f.static.find? fun d => d.covers r).any fun d => d.threshold.admits r.level

end Filter

end TextQuery.Log
