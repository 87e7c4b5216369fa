import TextQuery.Text.Quoted

/-!
# Query trees

A compiled query. Inside an `or`, required children must match, prohibited ones must not, and
without a required child at least one of the others must match; inside an `and`, every child but
the prohibited ones must match.

The constructors `Node.phrase?`, `Node.allOf` and `Node.anyOf` keep trees small: a single word or
child stands for itself, and groups of the same kind are merged where that keeps the meaning.
-/

namespace TextQuery.Query

/-- A compiled query. -/
inductive Node where
  /-- Documents with this token. -/
  | term (text : String)
  /-- Documents with these tokens at consecutive positions. -/
  | phrase (words : List String)
  /-- Every child matches. -/
  | and (children : List Node)
  /-- Some child matches, subject to required and prohibited children. -/
  | or (children : List Node)
  /-- Documents that match the child are excluded. -/
  | not (child : Node)
  /-- The child matches in every result of the enclosing group. -/
  | required (child : Node)
  deriving Repr

/-- Words of a phrase are consecutive: the number of positions that may lie between them. -/
def phraseSlop : Nat := 0

/-- The words that read as operators or modifiers when they are not quoted. -/
def keywords : List String := ["AND", "OR", "NOT", "&&", "||"]

namespace Node

/-- A phrase of words: none without words, a term for a single one. -/
def phrase? : List String → Option Node
  | [] => none
  | [word] => some (.term word)
  | words => some (.phrase words)

/-- Whether the node is prohibited or required. -/
def isModified : Node → Bool
  | .not _ | .required _ => true
  | _ => false

/-- What a child contributes to an enclosing `and`: its children if it is an `and` itself. -/
def conjuncts : Node → List Node
  | .and children => children
  | n => [n]

/-- What a child contributes to an enclosing `or`. The children of an inner `or` move up only when
none of them is modified, since a modifier speaks about its own group. -/
def disjuncts : Node → List Node
  | .or children => if children.any isModified then [.or children] else children
  | n => [n]

/-- The conjunction of nodes: inner conjunctions merge, a single child stands for itself. -/
def allOf (nodes : List Node) : Node :=
  match nodes.flatMap conjuncts with
  | [n] => n
  | children => .and children

/-- The disjunction of nodes: plain inner disjunctions merge, a single child stands for itself. -/
def anyOf (nodes : List Node) : Node :=
  match nodes.flatMap disjuncts with
  | [n] => n
  | children => .or children

/-! ### Words of a tree -/

mutual
/-- The words that can contribute to a match, in tree order: all but the prohibited ones. -/
def terms : Node → List String
  | .term text => [text]
  | .phrase words => words
  | .and children | .or children => termsAll children
  | .required child => child.terms
  | .not _ => []

/-- The words of the nodes in turn. -/
def termsAll : List Node → List String
  | [] => []
  | n :: ns => n.terms ++ termsAll ns
end

/-! ### Outline

The tree with one node a line, children indented under their parent. -/

mutual
/-- The lines of the outline, each with its depth. -/
def outline (depth : Nat) : Node → List (Nat × String)
  | .term text => [(depth, "Term(" ++ Text.quote text ++ ")")]
  | .phrase words => [(depth, "Phrase(" ++ Text.quoteList words ++ ")")]
  | .and children => (depth, "And") :: outlineAll (depth + 1) children
  | .or children => (depth, "Or") :: outlineAll (depth + 1) children
  | .not child => (depth, "Not") :: child.outline (depth + 1)
  | .required child => (depth, "Required") :: child.outline (depth + 1)

/-- The outlines of the nodes in turn. -/
def outlineAll (depth : Nat) : List Node → List (Nat × String)
  | [] => []
  | n :: ns => n.outline depth ++ outlineAll depth ns
end

/-- A line of the outline as text: two blanks a level, and a line end. -/
def outlineLine (line : Nat × String) : String := "".pushn ' ' (2 * line.1) ++ line.2 ++ "\n"

/-- The outline as text. -/
def display (n : Node) : String := String.join ((n.outline 0).map outlineLine)

/-! ### Query text -/

/-- Where a node is written, which decides about parentheses. -/
inductive Place where
  /-- The whole query. -/
  | top
  /-- An operand of `AND`. -/
  | conjunct
  /-- One of several alternatives. -/
  | disjunct
  /-- Behind a modifier. -/
  | modified
  deriving DecidableEq, Repr

/-- Parentheses around a text, if they are needed. -/
def parenthesize (needed : Bool) (cs : List Char) : List Char :=
  if needed then '(' :: cs ++ [')'] else cs

mutual
/-- The characters of the query text of a node at a place. Keywords are quoted, and so are phrases;
`AND` groups need parentheses inside another one and behind a modifier, `OR` groups everywhere but
at the top. -/
def render (place : Place) : Node → List Char
  | .term text =>
    if keywords.contains text then '"' :: text.toList ++ ['"'] else text.toList
  | .phrase words => '"' :: [' '].intercalate (words.map String.toList) ++ ['"']
  | .not child => '-' :: child.render .modified
  | .required child => '+' :: child.render .modified
  | .and children =>
    parenthesize (place == .conjunct || place == .modified)
      (" AND ".toList.intercalate (renderAll .conjunct children))
  | .or children =>
    parenthesize (place != .top) ([' '].intercalate (renderAll .disjunct children))

/-- The query texts of the nodes, each at the same place. -/
def renderAll (place : Place) : List Node → List (List Char)
  | [] => []
  | n :: ns => n.render place :: renderAll place ns
end

/-- The node as a query. -/
def toQueryString (n : Node) : String := String.ofList (n.render .top)

/-! ### Equality -/

mutual
/-- Whether two trees are the same. -/
def beq : Node → Node → Bool
  | .term a, .term b => a == b
  | .phrase a, .phrase b => a == b
  | .and a, .and b => beqAll a b
  | .or a, .or b => beqAll a b
  | .not a, .not b => a.beq b
  | .required a, .required b => a.beq b
  | _, _ => false

/-- Whether two lists of trees are the same. -/
def beqAll : List Node → List Node → Bool
  | [], [] => true
  | a :: as, b :: bs => a.beq b && beqAll as bs
  | _, _ => false
end

instance : BEq Node := ⟨beq⟩

end Node

end TextQuery.Query
