import TextQuery.Token.Compound
import TextQuery.Query.Lexer
import TextQuery.Query.Node

/-!
# Compiling a query

The grammar, loosest binding first:

* a query is one or more conjunctions, side by side or with `OR` between them;
* a conjunction is one or more clauses with `AND` between them;
* a clause is a word, a phrase or a query in parentheses, with at most one modifier in front.

Lexemes are handled one by one. Each open parenthesis has a `Group`, and `Stack` holds the innermost
one and those around it, so that nesting costs no recursion. A word without a letter or digit is a
clause like any other, but adds nothing to the tree.
-/

namespace TextQuery.Query

/-- Wraps a clause as its modifier says. -/
def Modifier.apply : Modifier → Node → Node
  | .plus, n => .required n
  | .minus, n | .not, n => .not n

/-- The tree of an unquoted word: one phrase for each run of joined tokens, or none when the word
holds no token. -/
def compileWord (word : String) : Option Node :=
  match (compounds (tokens word)).filterMap fun c => Node.phrase? c.texts with
  | [] => none
  | nodes => some (Node.anyOf nodes)

/-- The tree of a quoted phrase: all its tokens in a row, or none when it holds no token. -/
def compilePhrase (content : String) : Option Node :=
  Node.phrase? ((tokens content).map Token.text)

/-- An open group: the whole query, or what follows an opening parenthesis. -/
structure Group where
  /-- Offset of the opening parenthesis, none for the whole query. -/
  opened : Option Nat
  /-- Finished alternatives. -/
  alternatives : List Node := []
  /-- Operands of the conjunction under construction. -/
  chain : List Node := []
  /-- The modifier waiting for its clause, and its offset. -/
  modifier : Option (Modifier × Nat) := none
  /-- The operator waiting for its right operand, and its offset. -/
  joiner : Option (Operator × Nat) := none
  /-- Whether a clause has been read, kept or dropped. -/
  hasClause : Bool := false
  deriving Repr

namespace Group

/-- Whether the last thing read was a clause. -/
def afterClause (g : Group) : Bool := g.hasClause && g.joiner.isNone

/-- The alternatives with the conjunction under construction as the last one. -/
def finished (g : Group) : List Node :=
  match g.chain with
  | [] => g.alternatives
  | chain => g.alternatives ++ [Node.allOf chain]

/-- Ends the conjunction under construction. -/
def flush (g : Group) : Group := { g with alternatives := g.finished, chain := [] }

/-- Adds a clause to the tree: after `AND` it continues the conjunction, otherwise it starts the
next alternative. -/
def attach (g : Group) (n : Node) : Group :=
  match g.joiner with
  | some (.and, _) => { g with chain := g.chain ++ [n] }
  | _ => { g.flush with chain := [n] }

/-- Reads a clause. One that holds no word uses up the operator and the modifier in front of it and
adds nothing. -/
def addClause (g : Group) (clause : Option Node) : Group :=
  let g' :=
    match clause, g.modifier with
    | none, _ => g
    | some n, none => g.attach n
    | some n, some (m, _) => g.attach (m.apply n)
  { g' with modifier := none, joiner := none, hasClause := true }

/-- Reads a modifier. -/
def addModifier (g : Group) (m : Modifier) (offset : Nat) : Except Fault Group :=
  match g.modifier with
  | some _ => .error ⟨.stackedModifier m.spelling, some offset⟩
  | none => .ok { g with modifier := some (m, offset) }

/-- Reads an operator, which must follow a clause. -/
def addOperator (g : Group) (op : Operator) (offset : Nat) : Except Fault Group :=
  match g.modifier with
  | some (m, place) => .error ⟨.danglingModifier m.spelling, some place⟩
  | none =>
    if g.afterClause then
      match op with
      | .and => .ok { g with joiner := some (.and, offset) }
      | .or => .ok { g.flush with joiner := some (.or, offset) }
    else .error ⟨.missingOperand op.spelling, some offset⟩

/-- Ends the group: its tree, or none when every clause was dropped. -/
def close (g : Group) : Except Fault (Option Node) :=
  match g.modifier, g.joiner with
  | some (m, place), _ => .error ⟨.danglingModifier m.spelling, some place⟩
  | none, some (op, place) => .error ⟨.missingOperand op.spelling, some place⟩
  | none, none =>
    if !g.hasClause && g.opened.isSome then .error ⟨.emptyGroup, g.opened⟩
    else
      match g.finished with
      | [] => .ok none
      | alternatives => .ok (some (Node.anyOf alternatives))

end Group

/-- The groups that are open: the innermost one, and those around it from the inside out. -/
structure Stack where
  top : Group := { opened := none }
  outer : List Group := []
  deriving Repr

namespace Stack

/-- Handles one lexeme. -/
def step (s : Stack) (p : Placed) : Except Fault Stack :=
  match p.lexeme with
  | .word text => .ok { s with top := s.top.addClause (compileWord text) }
  | .phrase content =>
    match compilePhrase content with
    | some n => .ok { s with top := s.top.addClause (some n) }
    | none => .error ⟨.emptyPhrase, some p.offset⟩
  | .modifier m => (s.top.addModifier m p.offset).map fun g => { s with top := g }
  | .operator op => (s.top.addOperator op p.offset).map fun g => { s with top := g }
  | .openParen => .ok { top := { opened := some p.offset }, outer := s.top :: s.outer }
  | .closeParen =>
    match s.outer with
    | [] => .error ⟨.unexpectedCloseParen, some p.offset⟩
    | parent :: outer =>
      s.top.close.map fun clause => { top := parent.addClause clause, outer := outer }

/-- Handles lexemes one by one, up to the first fault. -/
def run (s : Stack) : List Placed → Except Fault Stack
  | [] => .ok s
  | p :: ps =>
    match s.step p with
    | .ok s' => s'.run ps
    | .error fault => .error fault

/-- The tree at the end of the query: no parenthesis is open and something is left to search for. -/
def finish (s : Stack) : Except Fault Node :=
  match s.outer with
  | _ :: _ => .error ⟨.unclosedParen, s.top.opened⟩
  | [] =>
    match s.top.close with
    | .error fault => .error fault
    | .ok none => .error ⟨.emptyQuery, none⟩
    | .ok (some n) => .ok n

end Stack

/-- The tree of a sequence of lexemes. -/
def compile (lexemes : List Placed) : Except Fault Node :=
  match ({} : Stack).run lexemes with
  | .ok s => s.finish
  | .error fault => .error fault

/-- The settings that hold for every query. -/
structure Parser where
  /-- The field that terms without a field of their own search. -/
  defaultField : String := "text"
  /-- The longest accepted query in bytes, if there is a limit. -/
  maxLength : Option Nat := none
  deriving DecidableEq, Repr

namespace Parser

/-- Limits the length of queries. A limit of 0 is no limit. -/
def withMaxLength (p : Parser) (limit : Nat) : Parser :=
  { p with maxLength := if limit > 0 then some limit else none }

/-- Whether the query is longer than the limit; if so, the fault. -/
def lengthFault? (p : Parser) (query : String) : Option Fault :=
  match p.maxLength with
  | some limit =>
    if query.utf8ByteSize > limit then some ⟨.tooLong query.utf8ByteSize limit, some limit⟩
    else none
  | none => none

/-- The tree of a query. The length is checked first, then the lexemes, then the grammar. -/
def parse (p : Parser) (query : String) : Except Error Node :=
  match p.lengthFault? query with
  | some fault => .error ⟨fault, query⟩
  | none =>
    match lex query with
    | .error e => .error e
    | .ok lexemes =>
      match compile lexemes with
      | .error fault => .error ⟨fault, query⟩
      | .ok n => .ok n

end Parser

/-- The tree of a query under the default settings. -/
def parse (query : String) : Except Error Node := ({} : Parser).parse query

end TextQuery.Query
