namespace PixelScan

inductive TokenKind
  | identifier | integerLiteral | floatLiteral | colourLiteral | keyword | operator | delimiter
  | booleanLiteral | stringLiteral
deriving DecidableEq, Repr

namespace TokenKind

def all : List TokenKind :=
  [identifier, integerLiteral, floatLiteral, colourLiteral, keyword, operator, delimiter,
    booleanLiteral, stringLiteral]

theorem mem_all (k : TokenKind) : k ∈ all := by cases k <;> decide

def displayName : TokenKind → String
  | identifier => "IDENTIFIER"
  | integerLiteral => "INTEGER_LITERAL"
  | floatLiteral => "FLOAT_LITERAL"
  | colourLiteral => "COLOUR_LITERAL"
  | keyword => "KEYWORD"
  | operator => "OPERATOR"
  | delimiter => "DELIMITER"
  | booleanLiteral => "BOOLEAN_LITERAL"
  | stringLiteral => "STRING_LITERAL"

end TokenKind

/-- The value of a string literal is its decoded content; of every other token it is the text as
written in the source. -/
structure Token where
  kind : TokenKind
  value : String
deriving DecidableEq, Repr

def Token.display (t : Token) : String :=
  "Type: " ++ t.kind.displayName ++ " | Value: " ++ t.value

def booleanWords : List String := ["true", "false"]

def reservedWords : List (String × TokenKind) := [
  ("__delay", .keyword), ("__height", .keyword), ("__pixel", .keyword), ("__pixelr", .keyword),
  ("__print", .keyword), ("__randi", .keyword), ("__read", .keyword), ("__width", .keyword),
  ("bool", .keyword), ("colour", .keyword), ("else", .keyword), ("false", .booleanLiteral),
  ("float", .keyword), ("for", .keyword), ("fun", .keyword), ("if", .keyword),
  ("int", .keyword), ("let", .keyword), ("not", .keyword), ("return", .keyword),
  ("true", .booleanLiteral), ("while", .keyword)]

def reservedKind? (word : String) : Option TokenKind := reservedWords.lookup word

def wordKind (word : String) : TokenKind := (reservedKind? word).getD .identifier

end PixelScan
