import SemanticLayer.Sql.Pattern
import SemanticLayer.Sql.Vocabulary
import SemanticLayer.Text.Case

/-!
Reading SQL text as tokens. At each place a dollar quotation or a block comment comes first, then
the first rule that reads something, then a single character of unknown kind. Every step takes at
least one character, so the tokens put together are the text.
-/

namespace SemanticLayer.Sql

open Text Pattern

/-- A pattern with the kind of token it makes of a text. -/
structure Rule where
  pattern : Pattern
  kind : String → TokenKind

namespace Rule

def always (kind : TokenKind) (pattern : Pattern) : Rule :=
  ⟨pattern, fun _ => kind⟩

def char (c : Char) : Pattern :=
  .one (· == c)

def oneOf (chars : List Char) : Pattern :=
  .one chars.contains

def isLineBreak (c : Char) : Bool :=
  c == '\n' || c == '\r'

def lineBreak : Pattern :=
  any [.seq (char '\r') (char '\n'), char '\r', char '\n']

def restOfLine : Pattern :=
  .seq (.run fun c => !isLineBreak c) (.either lineBreak .finish)

def lineCommentMark : Pattern :=
  .either (text "--") (text "# ")

def isHexDigit (c : Char) : Bool :=
  isDecimalDigit c || (97 ≤ c.toLower.toNat && c.toLower.toNat ≤ 102)

def digits : Pattern :=
  oneOrMore isDecimalDigit

def minus : Pattern :=
  .optional (char '-')

def name : Pattern :=
  .seq (.one isNameStart) (.run isWord)

/-- Optional words, each followed by blanks. -/
def leadingWords (words : List String) : Pattern :=
  .optional (any (words.map fun word => .seq (text word) blanks))

/-- An optional phrase after blanks. -/
def trailing (tail : Pattern) : Pattern :=
  .optional (.seq blanks tail)

def notNameStart : Pattern :=
  .notAhead (.one isNameStartOrLine)

end Rule

open Rule in
/-- Blanks, comments, names in quotes and placeholders. -/
def markRules : List Rule :=
  [ always .lineHint (all [lineCommentMark, char '+', restOfLine]),
    always .lineComment (.seq lineCommentMark restOfLine),
    always .newline lineBreak,
    always .whitespace (.one isBlank),
    always .assignment (text ":="),
    always .punctuation (text "::"),
    always .wildcard (char '*'),
    always .name (.seq (char '\x60') (.quoted '\x60' false)),
    always .name (.seq (char '´') (.quoted '´' false)),
    always .placeholder (char '?'),
    always .placeholder
      (all [char '%', .optional (all [char '(', oneOrMore isWord, char ')']), text "s"]),
    always .placeholder (all [.notBehind isWord, oneOf ['$', ':', '?'], oneOrMore isWord]),
    always .command (.seq (char '\\') (oneOrMore isWord)) ]

open Rule in
/-- Names, numbers and quoted texts. -/
def valueRules : List Rule :=
  [ always .keyword
      (.seq (anyText ["CASE", "IN", "VALUES", "USING", "FROM", "AS"]) .wordBoundary),
    always .name (all [anyText ["@", "##", "#"], .one isNameStart, oneOrMore isWord]),
    always .name
      (.seq name (.ahead (all [.run isBlank, char '.', .notAhead (.one isDecimalDigit)]))),
    always .name (.seq (.behind (· == '.')) name),
    always .name (.seq name (.ahead (char '('))),
    always .hexadecimal (all [minus, text "0x", oneOrMore isHexDigit]),
    always .decimal
      (all [minus, digits, .optional (.seq (char '.') digits), text "E", minus, digits]),
    always .decimal
      (all [notNameStart, minus,
        .either (all [digits, char '.', .run isDecimalDigit]) (.seq (char '.') digits),
        notNameStart]),
    always .integer (all [notNameStart, minus, digits, notNameStart]),
    always .quotedText (.seq (char '\'') (.quoted '\'' true)),
    always .quotedName (.seq (char '"') (.quoted '"' true)),
    always .name
      (all [.notBehind (fun c => isWord c || c == ']'), char '[',
        oneOrMore (fun c => c != ']' && c != '['), char ']']) ]

open Rule in
/-- Keywords of several words, single words, punctuation and operators. -/
def wordRules : List Rule :=
  [ always .keyword
      (all [
        .optional (.either
          (.seq (leadingWords ["LEFT", "RIGHT", "FULL"])
            (leadingWords ["INNER", "OUTER", "STRAIGHT"]))
          (leadingWords ["CROSS", "NATURAL"])),
        text "JOIN", .wordBoundary]),
    always .keyword
      (all [text "END", trailing (anyText ["IF", "LOOP", "WHILE", "FOR", "CASE"]), .wordBoundary]),
    always .keyword
      (all [text "IF", blanks, leadingWords ["NOT"], text "EXISTS", .wordBoundary]),
    always .keyword (phrase ["NOT", "NULL"]),
    always .ordering
      (all [anyText ["ASC", "DESC"],
        trailing (all [text "NULLS", blanks, anyText ["FIRST", "LAST"]]), .wordBoundary]),
    always .ordering (all [text "NULLS", blanks, anyText ["FIRST", "LAST"], .wordBoundary]),
    always .keyword (phrase ["UNION", "ALL"]),
    always .definition
      (all [text "CREATE", trailing (all [text "OR", blanks, text "REPLACE"]), .wordBoundary]),
    always .builtin (phrase ["DOUBLE", "PRECISION"]),
    always .keyword (phrase ["GROUP", "BY"]),
    always .keyword (phrase ["ORDER", "BY"]),
    always .keyword (phrase ["PRIMARY", "KEY"]),
    always .keyword (phrase ["HANDLER", "FOR"]),
    always .keyword (all [text "GO", .one isBlank, digits, .wordBoundary]),
    always .keyword
      (all [text "LATERAL", blanks, text "VIEW", blanks,
        anyText ["EXPLODE", "INLINE", "PARSE_URL_TUPLE", "POSEXPLODE", "STACK"], .wordBoundary]),
    always .zoneCast
      (all [anyText ["AT", "WITH'"], blanks, text "TIME", blanks, text "ZONE", blanks, char '\'',
        oneOrMore (· != '\''), char '\'']),
    always .comparison
      (all [leadingWords ["NOT"], anyText ["LIKE", "ILIKE", "RLIKE"], .wordBoundary]),
    always .comparison
      (all [leadingWords ["NOT"], text "REGEXP", trailing (text "BINARY"), .wordBoundary]),
    ⟨.seq (.one isWord) (.run fun c => isWord c || c == '$' || c == '#'),
      fun word => wordKind (upper word)⟩,
    always .punctuation (oneOf [';', ':', '(', ')', '[', ']', ',', '.']),
    always .operator
      (any [.seq (text "->") (.optional (char '>')), .seq (text "#>") (.optional (char '>')),
        text "@>", text "<@", char '-', text "#-"]),
    always .comparison (oneOrMore ['<', '>', '=', '~', '!'].contains),
    always .operator (oneOrMore ['+', '/', '@', '#', '%', '^', '&', '|', '-'].contains) ]

/-- The rules, in the order in which they are tried. -/
def rules : List Rule :=
  markRules ++ valueRules ++ wordRules

/-- How far into `text` the text `part` first begins. -/
def offsetOf? (part : List Char) : List Char → Option Nat
  | [] => if part.isEmpty then some 0 else none
  | c :: rest =>
    if part.isPrefixOf (c :: rest) then some 0 else (offsetOf? part rest).map (· + 1)

/-- The mark that opens and closes a dollar quotation: an optional name between dollar signs. -/
def dollarMark? : List Char → Option (List Char)
  | '$' :: '$' :: _ => some ['$', '$']
  | '$' :: c :: rest =>
    let name := rest.takeWhile isWord
    if isNameStartOrLine c && (rest.drop name.length).head? == some '$' then
      some ('$' :: c :: (name ++ ['$']))
    else
      none
  | _ => none

/-- The length of a quotation that starts with `opening` and ends with the first `closing` after
it. -/
def quotationLength? (opening closing right : List Char) : Option Nat :=
  (offsetOf? closing (right.drop opening.length)).map (opening.length + · + closing.length)

/-- A dollar quotation or a block comment, if one stands here and is closed later. -/
def quotation? (left : Option Char) (right : List Char) : Option (TokenKind × Nat) :=
  match right with
  | '/' :: '*' :: '+' :: _ =>
    (quotationLength? ['/', '*', '+'] ['*', '/'] right).map (TokenKind.blockHint, ·)
  | '/' :: '*' :: _ =>
    (quotationLength? ['/', '*'] ['*', '/'] right).map (TokenKind.blockComment, ·)
  | _ =>
    if left.any fun c => isWord c || c == '"' || c == '$' then none
    else do
      let mark ← dollarMark? right
      (quotationLength? mark mark right).map (TokenKind.literal, ·)

/-- The first rule that reads something, with the length that it reads. -/
def firstRule? (left : Option Char) (right : List Char) : Option (TokenKind × Nat) :=
  rules.findSome? fun rule => do
    let length ← rule.pattern.length? left right
    some (rule.kind (String.ofList (right.take length)), length)

/-- The kind and the length of the token at a place. -/
def tokenAt (left : Option Char) (right : List Char) : TokenKind × Nat :=
  ((quotation? left right).or (firstRule? left right)).getD (.unknown, 1)

/-- Reads at most `count` tokens, each of at least one character. -/
def readTokens : Nat → Option Char → List Char → List Token
  | 0, _, _ => []
  | _ + 1, _, [] => []
  | count + 1, left, c :: rest =>
    let right := c :: rest
    let (kind, length) := tokenAt left right
    let read := right.take (max 1 length)
    ⟨kind, String.ofList read⟩ ::
      readTokens count (read.getLast?.or left) (right.drop (max 1 length))

def tokenize (sql : String) : List Token :=
  readTokens sql.toList.length none sql.toList

end SemanticLayer.Sql
