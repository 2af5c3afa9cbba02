/-!
# Reading positions

A position in a YAML text, with the rest of the text from there on.
-/

namespace StreamQuery.Yaml

structure Cursor where
  rest : List Char
  /-- The number of bytes before it in UTF-8. -/
  index : Nat := 0
  line : Nat := 0
  column : Nat := 0

def isSpace (c : Char) : Bool :=
  c = ' ' || c = '\t'

/-- Line ends: line feed, carriage return, next line, line and paragraph separator. -/
def isBreak (c : Char) : Bool :=
  c = '\n' || c = '\r' || c.toNat = 0x85 || c.toNat = 0x2028 || c.toNat = 0x2029

/-- Characters that may stand in a YAML text. -/
def isPrintable (c : Char) : Bool :=
  c = '\t' || c = '\n' || c = '\r' || (0x20 ≤ c.toNat && c.toNat ≤ 0x7E) || c.toNat = 0x85 ||
    (0xA0 ≤ c.toNat && c.toNat ≤ 0xD7FF) ||
    (0xE000 ≤ c.toNat && c.toNat ≤ 0xFFFD) || 0x10000 ≤ c.toNat

def isByteOrderMark (c : Char) : Bool :=
  c.toNat = 0xFEFF

/-- The length of a text in UTF-8. -/
def byteCount (chars : List Char) : Nat :=
  chars.foldr (fun c count => c.utf8Size + count) 0

/-- Whether a token ends before this text: at a blank, a line end or the end of the text. -/
def endsToken : List Char → Bool
  | [] => true
  | c :: _ => isSpace c || isBreak c

namespace Cursor

def skip (cursor : Cursor) (count : Nat) : Cursor :=
  { cursor with
    rest := cursor.rest.drop count
    index := cursor.index + byteCount (cursor.rest.take count)
    column := cursor.column + count }

/-- Passes a line end. A carriage return with its line feed is one. -/
def skipBreak (cursor : Cursor) : Cursor :=
  let count :=
    match cursor.rest with
    | '\r' :: '\n' :: _ => 2
    | _ => 1
  { rest := cursor.rest.drop count
    index := cursor.index + byteCount (cursor.rest.take count)
    line := cursor.line + 1
    column := 0 }

/-- Three equal marks at the start of a line, on their own, begin or end a document. -/
def atMark (cursor : Cursor) (mark : Char) : Bool :=
  match cursor.rest with
  | a :: b :: c :: rest =>
    cursor.column = 0 && a = mark && b = mark && c = mark && endsToken rest
  | _ => false

def atDocumentMark (cursor : Cursor) : Bool :=
  cursor.atMark '-' || cursor.atMark '.'

end Cursor

end StreamQuery.Yaml
