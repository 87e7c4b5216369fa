import TextQuery.Text.Blank
import TextQuery.Text.Bytes
import TextQuery.Query.Lexeme
import TextQuery.Query.Error

/-!
# Splitting a query into lexemes

Reading goes from left to right. Blanks separate lexemes; a word runs up to the next blank,
parenthesis or double quote; a phrase runs up to the next double quote; `+` and `-` count as
modifiers only where a clause can start and only when the clause follows at once.
-/

namespace TextQuery.Query

open Text (isBlank)

/-- Whether the character ends a word. -/
def endsWord (c : Char) : Bool := isBlank c || c == '(' || c == ')' || c == '"'

/-- The lexeme of an unquoted word: an operator, a modifier or a word proper. -/
def Lexeme.ofWord (text : String) : Lexeme :=
  if text == "AND" || text == "&&" then .operator .and
  else if text == "OR" || text == "||" then .operator .or
  else if text == "NOT" then .modifier .not
  else .word text

/-- A lexeme read from the front of a text: the characters it takes up and those left. -/
structure Reading where
  lexeme : Lexeme
  taken : List Char
  rest : List Char

/-- Reads a phrase whose opening quote is already read: up to the next quote, none if there is
none. -/
def readPhrase? (cs : List Char) : Option Reading :=
  match cs.dropWhile (· != '"') with
  | [] => none
  | quote :: rest =>
    let content := cs.takeWhile (· != '"')
    some ⟨.phrase (String.ofList content), '"' :: content ++ [quote], rest⟩

/-- Whether a modifier can stand in front of `cs`: something other than a blank or a closing
parenthesis follows. -/
def canModify : List Char → Bool
  | [] => false
  | c :: _ => !isBlank c && c != ')'

/-- Reads the lexeme that starts with the non-blank character `c` and is followed by `cs`. -/
def readLexeme (c : Char) (cs : List Char) : Except Problem Reading :=
  if c == '"' then
    match readPhrase? cs with
    | some r => .ok r
    | none => .error .unclosedQuote
  else if c == '(' then .ok ⟨.openParen, [c], cs⟩
  else if c == ')' then .ok ⟨.closeParen, [c], cs⟩
  else if c == '+' then
    if canModify cs then .ok ⟨.modifier .plus, [c], cs⟩
    else .error (.danglingModifier (Modifier.spelling .plus))
  else if c == '-' then
    if canModify cs then .ok ⟨.modifier .minus, [c], cs⟩
    else .error (.danglingModifier (Modifier.spelling .minus))
  else
    let word := c :: cs.takeWhile (!endsWord ·)
    .ok ⟨.ofWord (String.ofList word), word, cs.dropWhile (!endsWord ·)⟩

/-- A phrase takes up its quotes and its content, and leaves the rest. -/
theorem readPhrase?_append {cs : List Char} {r : Reading} (h : readPhrase? cs = some r) :
    r.taken ++ r.rest = '"' :: cs ∧ r.taken ≠ [] := by
  unfold readPhrase? at h
  split at h
  · simp at h
  · rename_i quote rest hrest
    simp only [Option.some.injEq] at h
    subst h
    refine ⟨?_, by simp⟩
    have := List.takeWhile_append_dropWhile (p := (· != '"')) (l := cs)
    rw [hrest] at this
    simpa using this

/-- A lexeme takes up at least one character, and nothing is lost. -/
theorem readLexeme_append {c : Char} {cs : List Char} {r : Reading}
    (h : readLexeme c cs = .ok r) : r.taken ++ r.rest = c :: cs ∧ r.taken ≠ [] := by
  unfold readLexeme at h
  split at h
  · rename_i hc
    split at h
    · rename_i hr
      simp only [Except.ok.injEq] at h
      subst h
      rw [eq_of_beq hc]
      exact readPhrase?_append hr
    · simp at h
  · repeat' split at h
    all_goals first
      | (simp only [Except.ok.injEq] at h; subst h; simp [List.takeWhile_append_dropWhile])
      | simp at h

/-- What is left after a lexeme is shorter. -/
theorem length_rest_lt {c : Char} {cs : List Char} {r : Reading} (h : readLexeme c cs = .ok r) :
    r.rest.length < (c :: cs).length := by
  obtain ⟨happ, hne⟩ := readLexeme_append h
  rw [← happ, List.length_append]
  have := List.length_pos_iff.2 hne
  omega

/-- The lexemes of `cs`, whose first character stands at byte `offset`. -/
def lexFrom (offset : Nat) : List Char → Except Fault (List Placed)
  | [] => .ok []
  | c :: cs =>
    if isBlank c then lexFrom (offset + c.utf8Size) cs
    else
      match _h : readLexeme c cs with
      | .error problem => .error ⟨problem, some offset⟩
      | .ok r =>
        match lexFrom (offset + Text.byteLength r.taken) r.rest with
        | .error fault => .error fault
        | .ok more => .ok (⟨r.lexeme, offset⟩ :: more)
termination_by cs => cs.length
decreasing_by
  · simp
  · exact length_rest_lt _h

/-- The lexemes of a query, or the first fault. -/
def lex (query : String) : Except Error (List Placed) :=
  match lexFrom 0 query.toList with
  | .ok lexemes => .ok lexemes
  | .error fault => .error ⟨fault, query⟩

end TextQuery.Query
