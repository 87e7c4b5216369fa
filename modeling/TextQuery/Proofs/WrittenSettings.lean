import TextQuery.Config.Merge
import TextQuery.Proofs.QuotedValues

/-!
# Written settings read back

Settings that are written out as a configuration file are what that file defines. The text is taken
apart line by line: `Writes` says what a value looks like at the end of a line, `Lines` that a text
consists of lines with one statement each, and the reader of statements gives back the statements of
such a text. What is left is to put the table of five known statements together.

Main statement: `Settings.parse_toToml`.
-/

namespace TextQuery.Toml

/-- A character of a class is none of those outside it. -/
theorem ne_of_mem_of_apply {p : Char → Bool} {c : Char} (h : p c = true) {ds : List Char}
    (houtside : ds.any p = false) : ∀ d ∈ ds, c ≠ d := by
  rintro d hd rfl
  exact List.any_eq_false.1 houtside c hd h

/-! ## Numbers

A number is written in decimal digits. What is read back is a chain of readers, each of which looks
for something that digits are not: a sign, a base, a word such as `true`, the end of the atom. -/

theorem digitValue?_of_isDigit {c : Char} (h : c.isDigit = true) :
    digitValue? 10 c = some (c.toNat - '0'.toNat) := by
  -- of the cases of `hexValue?` the first applies
  have hbounds : '0' ≤ c ∧ c ≤ '9' := by simpa [Char.isDigit, Char.le_def] using h
  have hupper : c.toNat ≤ 57 := hbounds.2
  have hsmall : c.toNat - 48 < 10 := by omega
  simp [digitValue?, hexValue?, hbounds, hsmall]

/-- Digits without marks between them are read as the number that core's `Nat.ofDigitChars` takes
them for, in front of which `value` was read. Induction on the digits. -/
theorem continueDigits_of_isDigit {cs : List Char} (h : ∀ c ∈ cs, c.isDigit = true) (value : Nat)
    {after : Bool} (hends : cs = [] → after = true) :
    continueDigits 10 value after cs = some (Nat.ofDigitChars 10 cs value) := by
  induction cs generalizing value after with
  | nil => simp [continueDigits, hends rfl]
  | cons c cs ih =>
    obtain ⟨hdigit, hdigits⟩ := List.forall_mem_cons.1 h
    -- between digits a mark may stand, which is none of them
    have hmark : c ≠ '_' := by
      rintro rfl
      exact absurd hdigit (by decide)
    rw [continueDigits, digitValue?_of_isDigit hdigit, Nat.ofDigitChars_cons]
    simpa [hmark] using ih hdigits _ fun _ => rfl

/-- A positive number is not written with a leading zero. Its first digit is that of a tenth of it,
down to a number of one digit. -/
theorem head?_toDigits_ne {n : Nat} (h : 0 < n) : (Nat.toDigits 10 n).head? ≠ some '0' := by
  induction n using Nat.strongRecOn with
  | _ n ih =>
    by_cases hsmall : n < 10
    · -- only zero is written as a single zero
      have hdigit : ∀ n < 10, 0 < n → n.digitChar ≠ '0' := by decide
      simpa [Nat.toDigits_of_lt_base hsmall] using hdigit n hsmall h
    · have hshorter := ih (n / 10) (by omega) (by omega)
      rw [Nat.toDigits_of_base_le (by decide) (by omega)]
      cases hdigits : Nat.toDigits 10 (n / 10) with
      | nil => exact absurd hdigits Nat.toDigits_ne_nil
      | cons c cs => simpa [hdigits] using hshorter

theorem isDigit_of_mem_toDigits {n : Nat} : ∀ c ∈ Nat.toDigits 10 n, c.isDigit = true :=
  fun _ hc => Nat.isDigit_of_mem_toDigits (by decide) (by decide) hc

theorem decimal?_toDigits (n : Nat) : decimal? (Nat.toDigits 10 n) = some n := by
  have hvalue : digits? 10 (Nat.toDigits 10 n) = some n := by
    rw [digits?, continueDigits_of_isDigit isDigit_of_mem_toDigits, Nat.ofDigitChars_ten_toDigits]
    exact fun hnil => absurd hnil Nat.toDigits_ne_nil
  rw [decimal?, hvalue]
  -- a leading zero with more digits behind it would be refused
  intro c cs hzero
  cases n with
  | zero => simp at hzero
  | succ n => exact head?_toDigits_ne n.succ_pos (by simp [hzero])

section Digits

variable {cs : List Char} (hdigits : ∀ c ∈ cs, c.isDigit = true)
include hdigits

theorem splitSign_of_isDigit : splitSign cs = (false, cs) := by
  cases cs with
  | nil => rfl
  | cons c cs =>
    have hdigit := hdigits c List.mem_cons_self
    have hsign : ∀ d ∈ ['-', '+'], c ≠ d := ne_of_mem_of_apply hdigit (by decide)
    simp only [List.forall_mem_cons] at hsign
    simp [splitSign, hsign]

/-- Digits that are a number are an integer: they begin with no sign, and with no base, as a letter
would follow the zero. -/
theorem integer?_of_decimal? {n : Nat} (h : decimal? cs = some n) :
    integer? cs = some (.integer n) := by
  -- a base is a letter behind a zero, and all of these are digits
  have hbase : ∀ b ∈ ['x', 'o', 'b'], ∀ rest, cs ≠ '0' :: b :: rest := by
    rintro b hb rest rfl
    have hdigit : b.isDigit = true := hdigits b (by simp)
    exact ne_of_mem_of_apply hdigit (by decide) b hb rfl
  rw [integer?]
  · simp [splitSign_of_isDigit hdigits, h, withSign]
  all_goals exact hbase _ (by simp)

/-- Digits that are a number are a value: they are none of the words that are tried first. -/
theorem scalar?_of_decimal? {n : Nat} (h : decimal? cs = some n) :
    scalar? cs = some (.integer n) := by
  have hword {word : List Char} (hletters : word.all Char.isDigit = false) : cs ≠ word := by
    rintro rfl
    exact absurd (List.all_eq_true.2 hdigits) (by simp [hletters])
  have htrue : cs ≠ "true".toList := hword (by decide)
  have hfalse : cs ≠ "false".toList := hword (by decide)
  simp only [scalar?, beq_iff_eq, htrue, hfalse, if_false, integer?_of_decimal? hdigits h]

theorem splitAtom_of_isDigit (rest : List Char) :
    splitAtom (cs ++ '\n' :: rest) = (cs, '\n' :: rest) := by
  have hatom : ∀ c ∈ cs, isAtomChar c = true := by
    intro c hc
    simp [isAtomChar, Char.isAlphanum, hdigits c hc]
  have hstop : isAtomChar '\n' = false := by decide
  simp [splitAtom, List.takeWhile_append_of_pos hatom, List.dropWhile_append_of_pos hatom, hstop]

end Digits

/-! ## Values at the end of a line

Strings and numbers are the two kinds of values in written settings. Either is followed by a line
feed, which is neither a quote nor part of a number. -/

/-- A text that reads as a value when the line ends after it, whatever the next lines hold. It does
not begin with a blank, which would be skipped. -/
structure Writes (text : List Char) (v : Value) : Prop where
  start (rest : List Char) : skipBlanks (text ++ '\n' :: rest) = text ++ '\n' :: rest
  read (depth n : Nat) (rest : List Char) :
    readValue depth (n + 1) (text ++ '\n' :: rest) = .ok (v, '\n' :: rest)

theorem exists_writeString (cs : List Char) :
    ∃ quote tail, (quote = '"' ∨ quote = '\'') ∧ writeString cs = quote :: tail := by
  simp only [writeString]
  cases (Needs.of cs).style with
  | basic | multiBasic => exact ⟨'"', _, .inl rfl, rfl⟩
  | literal | multiLiteral => exact ⟨'\'', _, .inr rfl, rfl⟩

/-- A string that is written reads as its text. -/
theorem writes_string (s : String) : Writes (writeString s.toList) (.string s) := by
  obtain ⟨quote, tail, hquote, heq⟩ := exists_writeString s.toList
  refine ⟨fun rest => ?_, fun depth n rest => ?_⟩
  · rw [heq]
    obtain rfl | rfl := hquote <;> rfl
  · have hread : readString (writeString s.toList ++ '\n' :: rest) =
        some (s.toList, '\n' :: rest) := readString_writeString (by simp) (by simp) s.toList
    -- the quote tells the reader of values that a string begins
    have hopens : (quote == '"' || quote == '\'') = true := by
      obtain rfl | rfl := hquote <;> rfl
    rw [heq, List.cons_append] at hread ⊢
    simp [readValue, hopens, hread]

/-- A number that is written reads as the number. Its first digit leads to no other kind of value,
and the atom that begins there is all its digits. -/
theorem writes_natural (n : Nat) : Writes (Nat.toDigits 10 n) (.integer n) := by
  have hdigits := isDigit_of_mem_toDigits (n := n)
  have hvalue := scalar?_of_decimal? hdigits (decimal?_toDigits n)
  have hatom := splitAtom_of_isDigit hdigits
  cases hchars : Nat.toDigits 10 n with
  | nil => exact absurd hchars Nat.toDigits_ne_nil
  | cons c cs =>
    rw [hchars] at hdigits hvalue hatom
    have hdigit := hdigits c List.mem_cons_self
    -- the first character is none of those that lead to another kind of value
    have hother : ∀ d ∈ [' ', '\t', '"', '\'', '[', '\x7b'], c ≠ d :=
      ne_of_mem_of_apply hdigit (by decide)
    simp only [List.forall_mem_cons] at hother
    refine ⟨fun rest => ?_, fun depth n rest => ?_⟩
    · simp [skipBlanks, isLineBlank, hother]
    · have hsplit := hatom rest
      rw [List.cons_append] at hsplit ⊢
      simp [readValue, hother, readScalar, hsplit, hvalue]

/-! ## Keys

The keys of written settings are names without quotes or dots. `Key.bare` keeps what the reader
keeps of one: its name and where in the text it stands. -/

/-- Whether a name can be a key without quotes. -/
def isBareKey (name : String) : Bool := !name.toList.isEmpty && name.toList.all isBareKeyChar

/-- A name as the key in front of a text. -/
def Key.bare (name : String) (rest : List Char) : Key := ⟨name, .between (name.toList ++ rest) rest⟩

section Bare

variable {name : String} (hbare : isBareKey name = true)
include hbare

/-- A name that can be a key has a first character, and all its characters are those of keys. -/
theorem exists_bareKey :
    ∃ c cs, name.toList = c :: cs ∧ isBareKeyChar c = true ∧ ∀ d ∈ cs, isBareKeyChar d = true := by
  cases hchars : name.toList with
  | nil => simp [isBareKey, hchars] at hbare
  | cons c cs => exact ⟨c, cs, rfl, by simpa [isBareKey, hchars] using hbare⟩

/-- A key begins with nothing that leads to something else on a line: quotes, a header, a comment,
blanks and line ends. -/
theorem exists_head_bareKey :
    ∃ c cs, name.toList = c :: cs ∧ ∀ d ∈ ['"', '\'', '[', '#', ' ', '\t', '\n', '\r'], c ≠ d := by
  obtain ⟨c, cs, hchars, hfirst, -⟩ := exists_bareKey hbare
  exact ⟨c, cs, hchars, ne_of_mem_of_apply hfirst (by decide)⟩

theorem skipVoid_bareKey (rest : List Char) :
    skipVoid false (name.toList ++ rest) = .ok (name.toList ++ rest) := by
  obtain ⟨c, cs, hchars, hother⟩ := exists_head_bareKey hbare
  simp only [List.forall_mem_cons] at hother
  simp [hchars, skipVoid, isLineBlank, hother]

/-- A key is read up to the first character that is not one of keys. It begins with no quote, so it
is read as it is. -/
theorem readKey_bare {rest : List Char} (hstop : ∀ c ∈ rest.head?, isBareKeyChar c = false) :
    readKey (name.toList ++ rest) = .ok (.bare name rest, rest) := by
  obtain ⟨c, cs, hchars, hfirst, hothers⟩ := exists_bareKey hbare
  have hquote : ∀ d ∈ ['"', '\''], c ≠ d := ne_of_mem_of_apply hfirst (by decide)
  -- nothing behind the name belongs to it
  have hends : rest.takeWhile isBareKeyChar = [] ∧ rest.dropWhile isBareKeyChar = rest := by
    cases rest with
    | nil => exact ⟨rfl, rfl⟩
    | cons d ds => simp [hstop d rfl]
  have hkey : String.ofList (c :: cs) = name := by rw [← hchars, String.ofList_toList]
  simp only [List.forall_mem_cons] at hquote
  rw [Key.bare, hchars, List.cons_append, readKey]
  · simp [hfirst, List.takeWhile_append_of_pos hothers, List.dropWhile_append_of_pos hothers, hends,
      hkey]
  · simp [hquote]
  · simp [hquote]

/-- With no dot behind it, a key is a path of its own. One unit of fuel is enough. -/
theorem readKeyPath_bare {rest : List Char} (hstop : ∀ c ∈ rest.head?, isBareKeyChar c = false)
    (hlast : (skipBlanks rest).head? ≠ some '.') {n : Nat} (hn : 0 < n) :
    readKeyPath n (name.toList ++ rest) = .ok (⟨[], .bare name rest⟩, rest) := by
  match n with
  | n + 1 =>
    rw [readKeyPath, readKey_bare hbare hstop]
    cases htail : skipBlanks rest with
    | nil => simp [bind, Except.bind, htail]
    | cons c cs =>
      -- a dot would lead on to another key
      have hdot : c ≠ '.' := by simpa [htail] using hlast
      simp [bind, Except.bind, htail, hdot]

/-- The key and the equals sign of an assignment are read up to the value. -/
theorem readAssignee_bare {text : List Char} (h : skipBlanks text = text) :
    readAssignee false (name.toList ++ ' ' :: '=' :: ' ' :: text) =
      .ok (⟨[], .bare name (' ' :: '=' :: ' ' :: text)⟩, text) := by
  have hequals : skipBlanks (' ' :: '=' :: ' ' :: text) = '=' :: ' ' :: text := rfl
  have hvalue : skipBlanks (' ' :: text) = text := h
  have hkeys : 0 < maxKeys := by decide
  rw [readAssignee, readKeyPath_bare hbare (by rintro _ ⟨⟩; decide) (by simp [hequals]) hkeys]
  simp [bind, Except.bind, skipGap, hequals, hvalue]

/-! ## Lines

The text of settings is five lines with one statement each, and blank lines. Since the reader
remembers where a statement stands by what is left of the text, each line is described together with
all lines behind it. -/

/-- A line with a key in brackets opens a table. -/
theorem readStatement_header (rest : List Char) :
    readStatement ('[' :: (name.toList ++ ']' :: rest)) =
      .ok (.header false ⟨[], .bare name (']' :: rest)⟩
        (.between ('[' :: (name.toList ++ ']' :: rest)) rest), rest) := by
  obtain ⟨c, cs, hchars, hother⟩ := exists_head_bareKey hbare
  simp only [List.forall_mem_cons] at hother
  -- two brackets would open an element of an array of tables; a key is no bracket
  have hheader : readStatement ('[' :: (name.toList ++ ']' :: rest)) =
      readHeader false ('[' :: (name.toList ++ ']' :: rest)) (name.toList ++ ']' :: rest) := by
    rw [hchars, List.cons_append, readStatement]
    simp [hother]
  have hstart : skipBlanks (name.toList ++ ']' :: rest) = name.toList ++ ']' :: rest := by
    simp [hchars, skipBlanks, isLineBlank, hother]
  have hkeys : 0 < maxKeys := by decide
  rw [hheader, readHeader, hstart,
    readKeyPath_bare hbare (by rintro _ ⟨⟩; decide) (by simp [skipBlanks, isLineBlank]) hkeys]
  rfl

/-- A line with a key and a value assigns the value. -/
theorem readStatement_assign {text : List Char} {v : Value} (h : Writes text v) (rest : List Char) :
    readStatement (name.toList ++ ' ' :: '=' :: ' ' :: (text ++ '\n' :: rest)) =
      .ok (.assign ⟨[], .bare name (' ' :: '=' :: ' ' :: (text ++ '\n' :: rest))⟩
        (.between (text ++ '\n' :: rest) ('\n' :: rest)) v, '\n' :: rest) := by
  obtain ⟨c, cs, hchars, hother⟩ := exists_head_bareKey hbare
  simp only [List.forall_mem_cons] at hother
  -- the fuel is the length of the text, and the name has a character
  have hfuel : (name.toList ++ ' ' :: '=' :: ' ' :: (text ++ '\n' :: rest)).length =
      (cs ++ ' ' :: '=' :: ' ' :: (text ++ '\n' :: rest)).length + 1 := by simp [hchars]
  rw [readStatement, hfuel, readAssignee_bare hbare (h.start rest)]
  · simp [bind, Except.bind, h.read]
  · simp [hchars, hother]
  · simp [hchars, hother]

end Bare

/-- Lines with a statement each, and blank ones between them. Nothing is skipped in front of a
statement, and the reader leaves the line feed behind it. -/
inductive Lines : List Char → List Statement → Prop
  | nil : Lines [] []
  | blank {text : List Char} {statements : List Statement} (hrest : Lines text statements) :
      Lines ('\n' :: text) statements
  | statement {line text : List Char} {statement : Statement} {statements : List Statement}
      (hstart : skipVoid false (line ++ '\n' :: text) = .ok (line ++ '\n' :: text))
      (hread : readStatement (line ++ '\n' :: text) = .ok (statement, '\n' :: text))
      (hrest : Lines text statements) : Lines (line ++ '\n' :: text) (statement :: statements)

namespace Lines

variable {text : List Char} {statements : List Statement}

theorem header (name : String) (hbare : isBareKey name = true) (h : Lines text statements) :
    Lines ('[' :: (name.toList ++ ']' :: '\n' :: text))
      (.header false ⟨[], .bare name (']' :: '\n' :: text)⟩
        (.between ('[' :: (name.toList ++ ']' :: '\n' :: text)) ('\n' :: text)) :: statements) := by
  have hline : '[' :: (name.toList ++ ']' :: '\n' :: text) =
      '[' :: (name.toList ++ [']']) ++ '\n' :: text := by simp
  have hread := readStatement_header hbare ('\n' :: text)
  rw [hline] at hread ⊢
  exact .statement rfl hread h

/-- In front of lines an assignment makes lines again, for any text that reads as its value. -/
theorem assign (name : String) (hbare : isBareKey name = true) {value : List Char} {v : Value}
    (hv : Writes value v) (h : Lines text statements) :
    Lines (name.toList ++ ' ' :: '=' :: ' ' :: (value ++ '\n' :: text))
      (.assign ⟨[], .bare name (' ' :: '=' :: ' ' :: (value ++ '\n' :: text))⟩
        (.between (value ++ '\n' :: text) ('\n' :: text)) v :: statements) := by
  have hline : name.toList ++ ' ' :: '=' :: ' ' :: (value ++ '\n' :: text) =
      name.toList ++ ' ' :: '=' :: ' ' :: value ++ '\n' :: text := by simp
  have hread := readStatement_assign hbare hv text
  have hstart := skipVoid_bareKey hbare (' ' :: '=' :: ' ' :: (value ++ '\n' :: text))
  rw [hline] at hread hstart ⊢
  exact .statement hstart hread h

/-- The reader of statements gives back the statements of the lines. -/
theorem readStatements (h : Lines text statements) {n : Nat} (hn : text.length < n) :
    readStatements n text = .ok statements := by
  -- over the lines, each of which takes one unit of fuel and has at least one character
  induction h generalizing n with
  | nil =>
    match n with
    | n + 1 => rfl
  | blank _ ih =>
    match n with
    | n + 1 => exact ih (Nat.lt_of_succ_lt hn)
  | @statement line text _ _ hstart hread _ ih =>
    match n with
    | n + 1 =>
      have hfuel : text.length < n := by
        simp only [List.length_append, List.length_cons] at hn
        omega
      simp [Toml.readStatements, hstart, hread, bind, Except.bind, ih hfuel, skipLine]

theorem parse (h : Lines text statements) (hstart : dropByteOrderMark text = text) :
    parse (String.ofList text) = Table.ofStatements statements := by
  have hread := h.readStatements (Nat.lt_succ_self text.length)
  simp [Toml.parse, hstart, hread, bind, Except.bind]

end Lines

end TextQuery.Toml

namespace TextQuery.Config

/-! ## Settings -/

/-- A natural number below the bound of a word is read as a size. -/
theorem readSize_natural (e : Toml.Extent) {n : Nat} (h : n < UInt64.size) :
    readSize e (.integer n) = .ok n := by
  have hword : wordSize 64 = (UInt64.size : Int) := by decide
  -- a size is any number that is not negative and fits a word
  have hsmall : (n : Int) < wordSize 64 := by
    rw [hword]
    exact Int.ofNat_lt.2 h
  simp only [readSize]
  rw [if_pos ⟨Int.natCast_nonneg n, hsmall⟩, Int.toNat_natCast]

theorem readFormat_name (e : Toml.Extent) (f : OutputFormat) :
    readFormat e (.string f.name) = .ok f := by
  simp [readFormat, readVariant, OutputFormat.ofName?_name]

/-- The section of the query defines its two settings if their values can be read. The entries stand
in the order of their keys. -/
theorem QueryLayer.read_entries {o : Toml.Origin} {e k₁ e₁ k₂ e₂ : Toml.Extent} {v w : Toml.Value}
    {field : String} {length : Nat} (htext : readText e₁ v = .ok field)
    (hsize : readSize e₂ w = .ok length) :
    QueryLayer.read e (.table o [(⟨"default_field", k₁⟩, e₁, v), (⟨"max_length", k₂⟩, e₂, w)]) =
      .ok ⟨some field, some length⟩ := by
  simp [QueryLayer.read, QueryLayer.readEntry, htext, hsize, bind, Except.bind, Except.map, pure,
    Except.pure]

/-- The section of the output defines its one setting if the value can be read. -/
theorem OutputLayer.read_entry {o : Toml.Origin} {e k₁ e₁ : Toml.Extent} {v : Toml.Value}
    {format : OutputFormat} (hname : readFormat e₁ v = .ok format) :
    OutputLayer.read e (.table o [(⟨"format", k₁⟩, e₁, v)]) = .ok ⟨some format⟩ := by
  simp [OutputLayer.read, OutputLayer.readEntry, hname, Except.map]

/-- A file with both sections, and without a mark as the root, defines what the sections define. -/
theorem Layer.ofTable_sections {k₁ e₁ k₂ e₂ : Toml.Extent} {v w : Toml.Value} {o : OutputLayer}
    {q : QueryLayer} (houtput : OutputLayer.read e₁ v = .ok o)
    (hquery : QueryLayer.read e₂ w = .ok q) :
    Layer.ofTable [(⟨"output", k₁⟩, e₁, v), (⟨"query", k₂⟩, e₂, w)] =
      .ok ⟨none, some q, some o⟩ := by
  simp [Layer.ofTable, Layer.readEntry, houtput, hquery, bind, Except.bind, Except.map, pure,
    Except.pure]

/-- The five statements of written settings, wherever they stand, define each setting once. No table
is opened twice and no key is set twice, which the names show by computation. -/
theorem exists_table (k₁ k₂ k₃ k₄ k₅ e₁ e₂ e₃ e₄ e₅ : Toml.Extent) (field : String) {length : Nat}
    (hsize : length < UInt64.size) (format : OutputFormat) :
    ∃ t, Toml.Table.ofStatements
        [.header false ⟨[], ⟨"query", k₁⟩⟩ e₁,
          .assign ⟨[], ⟨"default_field", k₂⟩⟩ e₂ (.string field),
          .assign ⟨[], ⟨"max_length", k₃⟩⟩ e₃ (.integer length),
          .header false ⟨[], ⟨"output", k₄⟩⟩ e₄,
          .assign ⟨[], ⟨"format", k₅⟩⟩ e₅ (.string format.name)] = .ok t ∧
      Layer.ofTable t = .ok ⟨none, some ⟨some field, some length⟩, some ⟨some format⟩⟩ := by
  -- tables are kept in the order of their keys
  have hsections : "output" < "query" := by decide
  have hkeys : ¬ "max_length" < "default_field" := by decide
  refine ⟨[(⟨"output", k₄⟩, e₄, .table .header [(⟨"format", k₅⟩, e₅, .string format.name)]),
    (⟨"query", k₁⟩, e₁, .table .header
      [(⟨"default_field", k₂⟩, e₂, .string field), (⟨"max_length", k₃⟩, e₃, .integer length)])],
    ?_, ?_⟩
  · simp [Toml.Table.ofStatements, List.foldlM, Toml.Draft.add, Toml.Table.descend,
      Toml.Table.openTable, Toml.Table.isOpen, Toml.Table.defineAt, Toml.Table.define,
      Toml.Table.find?, Toml.Table.insert, Toml.Table.replace, hsections, hkeys, bind, Except.bind,
      Except.map, pure, Except.pure]
  · exact Layer.ofTable_sections (OutputLayer.read_entry (readFormat_name e₅ format))
      (QueryLayer.read_entries rfl (readSize_natural e₃ hsize))

/-- The text of written settings, line by line, for any spelling of the values. -/
theorem sections_eq (field length format : List Char) :
    "[query]\ndefault_field = ".toList ++ field ++ "\nmax_length = ".toList ++ length ++
        "\n\n[output]\nformat = ".toList ++ format ++ ['\n'] =
      '[' :: ("query".toList ++ ']' :: '\n' ::
        ("default_field".toList ++ ' ' :: '=' :: ' ' :: (field ++ '\n' ::
        ("max_length".toList ++ ' ' :: '=' :: ' ' :: (length ++ '\n' :: '\n' ::
      '[' :: ("output".toList ++ ']' :: '\n' ::
        ("format".toList ++ ' ' :: '=' :: ' ' :: (format ++ ['\n'])))))))) := by
  simp

namespace Settings

/-- Written settings are lines whose statements make up a table, and the table is read as a layer
that defines each setting. The style of the strings does not matter. -/
theorem exists_lines (s : Settings) (hsize : s.query.maxLength < UInt64.size) :
    ∃ statements t, Toml.Lines s.tomlChars statements ∧ Toml.Table.ofStatements statements = .ok t ∧
      Layer.ofTable t = .ok ⟨none, some ⟨some s.query.defaultField, some s.query.maxLength⟩,
        some ⟨some s.output.format⟩⟩ := by
  -- the lines from the last to the first, since what follows a line decides where it stands
  have hlines := Toml.Lines.nil
    |>.assign "format" (by decide) (Toml.writes_string s.output.format.name)
    |>.header "output" (by decide)
    |>.blank
    |>.assign "max_length" (by decide) (Toml.writes_natural s.query.maxLength)
    |>.assign "default_field" (by decide) (Toml.writes_string s.query.defaultField)
    |>.header "query" (by decide)
  rw [← sections_eq] at hlines
  obtain ⟨t, htable, hlayer⟩ := exists_table _ _ _ _ _ _ _ _ _ _ s.query.defaultField hsize
    s.output.format
  exact ⟨_, t, hlines, htable, hlayer⟩

/-- **Settings survive being written out and read back.** The file defines each of them and nothing
else, and put over the defaults it gives the same settings. The text of the field is any text, and
the length any that fits a word. -/
theorem parse_toToml (s : Settings) (hsize : s.query.maxLength < UInt64.size) :
    ∃ layer, Layer.parse s.toToml = .ok layer ∧
      layer.root = none ∧
      layer.query = some ⟨some s.query.defaultField, some s.query.maxLength⟩ ∧
      layer.output = some ⟨some s.output.format⟩ ∧
      ∀ path, (merge [(path, layer)]).settings = s := by
  obtain ⟨statements, t, hlines, htable, hlayer⟩ := s.exists_lines hsize
  -- the text begins with a bracket and hence with no byte order mark
  have hstart : Toml.dropByteOrderMark s.tomlChars = s.tomlChars := by
    obtain ⟨tail, hbracket⟩ : ∃ tail, s.tomlChars = '[' :: tail := ⟨_, sections_eq ..⟩
    rw [hbracket]
    rfl
  have hparsed : Toml.parse s.toToml = .ok t := by
    rw [toToml, hlines.parse hstart, htable]
  refine ⟨⟨none, some ⟨some s.query.defaultField, some s.query.maxLength⟩,
    some ⟨some s.output.format⟩⟩, ?_, rfl, rfl, rfl, fun path => rfl⟩
  rw [Layer.parse, hparsed]
  simp only [hlayer]

/-- A field name that no plain style can hold: both quotes in threes, a backslash, control
characters and a carriage return at the end, with the longest query that fits a word. -/
theorem parse_toToml_quotes_and_line_ends :
    let s : Settings := ⟨⟨"'''\r\n\"\"\"\\\x00\x7fé\r", UInt64.size - 1⟩, ⟨.json⟩⟩
    s.query.maxLength < UInt64.size ∧
      ∃ layer, Layer.parse s.toToml = .ok layer ∧
        layer.root = none ∧
        layer.query = some ⟨some s.query.defaultField, some s.query.maxLength⟩ ∧
        layer.output = some ⟨some s.output.format⟩ ∧
        ∀ path, (merge [(path, layer)]).settings = s :=
  ⟨by decide, parse_toToml _ (by decide)⟩

end Settings

end TextQuery.Config
