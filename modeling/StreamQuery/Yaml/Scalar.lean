import StreamQuery.Yaml.Cursor

/-!
# Scalars

The text of plain and quoted scalars. Inside a scalar a single line end counts as a space, and of
several the first is dropped.
-/

namespace StreamQuery.Yaml

/-- A text under construction, in reverse, with the blanks since its last character. -/
structure Folding where
  text : List Char := []
  /-- Blanks on the current line. -/
  blanks : List Char := []
  /-- The first line end since the last character, or nothing for one that was escaped. -/
  lineEnd : Option (List Char) := none
  /-- Further line ends. -/
  emptyLines : List Char := []

namespace Folding

def startsLine (f : Folding) : Bool :=
  f.lineEnd.isSome

/-- What the pending blanks amount to, in reverse. -/
def pending (f : Folding) : List Char :=
  match f.lineEnd with
  | none => f.blanks
  | some ['\n'] => if f.emptyLines.isEmpty then [' '] else f.emptyLines
  | some lineEnd => f.emptyLines ++ lineEnd

def flush (f : Folding) : Folding :=
  { text := f.pending ++ f.text }

def push (f : Folding) (c : Char) : Folding :=
  { text := c :: (f.pending ++ f.text) }

def blank (f : Folding) (c : Char) : Folding :=
  if f.startsLine then f else { f with blanks := c :: f.blanks }

/-- Adds a line end; all but the two separators become line feeds. -/
def newLine (f : Folding) (c : Char) : Folding :=
  let lineEnd := if c.toNat = 0x2028 || c.toNat = 0x2029 then c else '\n'
  if f.startsLine then { f with emptyLines := lineEnd :: f.emptyLines }
  else { f with blanks := [], lineEnd := some [lineEnd] }

def escapedLine (f : Folding) : Folding :=
  { f.flush with lineEnd := some [] }

def result (f : Folding) : String :=
  String.ofList f.text.reverse

end Folding

/-- A scalar and the position after it. -/
structure Scanned where
  text : String
  cursor : Cursor
  /-- Whether a line end was passed after the scalar. -/
  newLine : Bool := false

def hexDigit? (c : Char) : Option Nat :=
  if '0' ≤ c ∧ c ≤ '9' then some (c.toNat - 0x30)
  else if 'a' ≤ c ∧ c ≤ 'f' then some (c.toNat - 0x57)
  else if 'A' ≤ c ∧ c ≤ 'F' then some (c.toNat - 0x37)
  else none

/-- The character with the code given by `count` hexadecimal digits. -/
def hexChar? (count : Nat) (chars : List Char) : Option Char := do
  let digits ← (chars.take count).mapM hexDigit?
  let code := digits.foldl (fun code digit => 16 * code + digit) 0
  if digits.length = count ∧ code.isValidChar then some (Char.ofNat code) else none

/-- The character after a backslash and the number of characters that denote it. -/
def escape? : List Char → Option (Char × Nat)
  | [] => none
  | c :: rest =>
    match c with
    | '0' => some (Char.ofNat 0, 1)
    | 'a' => some (Char.ofNat 0x07, 1)
    | 'b' => some (Char.ofNat 0x08, 1)
    | 't' => some ('\t', 1)
    | '\t' => some ('\t', 1)
    | 'n' => some ('\n', 1)
    | 'v' => some (Char.ofNat 0x0B, 1)
    | 'f' => some (Char.ofNat 0x0C, 1)
    | 'r' => some ('\r', 1)
    | 'e' => some (Char.ofNat 0x1B, 1)
    | ' ' => some (' ', 1)
    | '"' => some ('"', 1)
    | '/' => some ('/', 1)
    | '\\' => some ('\\', 1)
    | 'N' => some (Char.ofNat 0x85, 1)
    | '_' => some (Char.ofNat 0xA0, 1)
    | 'L' => some (Char.ofNat 0x2028, 1)
    | 'P' => some (Char.ofNat 0x2029, 1)
    | 'x' => (hexChar? 2 rest).map (·, 3)
    | 'u' => (hexChar? 4 rest).map (·, 5)
    | 'U' => (hexChar? 8 rest).map (·, 9)
    | _ => none

/-- Reads the rest of a single-quoted scalar; a quote is written twice. -/
def scanSingleQuoted : Nat → Folding → Cursor → Option Scanned
  | 0, _, _ => none
  | fuel + 1, f, cursor =>
    if cursor.atDocumentMark then none
    else
      match cursor.rest with
      | [] => none
      | '\x27' :: '\x27' :: _ => scanSingleQuoted fuel (f.push '\x27') (cursor.skip 2)
      | '\x27' :: _ => some { text := f.flush.result, cursor := cursor.skip 1 }
      | c :: _ =>
        if isSpace c then scanSingleQuoted fuel (f.blank c) (cursor.skip 1)
        else if isBreak c then scanSingleQuoted fuel (f.newLine c) cursor.skipBreak
        else scanSingleQuoted fuel (f.push c) (cursor.skip 1)

/-- Reads the rest of a double-quoted scalar. -/
def scanDoubleQuoted : Nat → Folding → Cursor → Option Scanned
  | 0, _, _ => none
  | fuel + 1, f, cursor =>
    if cursor.atDocumentMark then none
    else
      match cursor.rest with
      | [] => none
      | '"' :: _ => some { text := f.flush.result, cursor := cursor.skip 1 }
      | '\\' :: rest =>
        match rest with
        | c :: _ =>
          if isBreak c then scanDoubleQuoted fuel f.escapedLine (cursor.skip 1).skipBreak
          else
            match escape? rest with
            | some (c, count) => scanDoubleQuoted fuel (f.push c) (cursor.skip (count + 1))
            | none => none
        | [] => none
      | c :: _ =>
        if isSpace c then scanDoubleQuoted fuel (f.blank c) (cursor.skip 1)
        else if isBreak c then scanDoubleQuoted fuel (f.newLine c) cursor.skipBreak
        else scanDoubleQuoted fuel (f.push c) (cursor.skip 1)

def isFlowMark (c : Char) : Bool :=
  c = ',' || c = '[' || c = ']' || c = '\x7b' || c = '\x7d'

/-- Whether a plain scalar ends before this text, or cannot go on in it. -/
inductive PlainEnd where
  | continues
  | ends
  | malformed

def plainEnd (inFlow : Bool) : List Char → PlainEnd
  | [] => .ends
  | c :: rest =>
    if c = ':' && endsToken rest then .ends
    else if inFlow && c = ':' && rest.head?.any (fun d => isFlowMark d || d = '?') then .malformed
    else if inFlow && isFlowMark c then .ends
    else .continues

/-- Reads a plain scalar. Its further lines lie at least at column `indent`. -/
def scanPlain (inFlow : Bool) (indent : Int) : Nat → Folding → Cursor → Option Scanned
  | 0, _, _ => none
  | fuel + 1, f, cursor =>
    let ended : Option Scanned := some { text := f.result, cursor, newLine := f.startsLine }
    match cursor.rest with
    | [] => ended
    | c :: _ =>
      if isSpace c then
        if f.startsLine && c = '\t' && (cursor.column : Int) < indent then none
        else scanPlain inFlow indent fuel (f.blank c) (cursor.skip 1)
      else if isBreak c then scanPlain inFlow indent fuel (f.newLine c) cursor.skipBreak
      else if cursor.atDocumentMark then ended
      else if c = '#' && (f.startsLine || !f.blanks.isEmpty) then ended
      else if f.startsLine && !inFlow && (cursor.column : Int) < indent then ended
      else
        match plainEnd inFlow cursor.rest with
        | .ends => ended
        | .malformed => none
        | .continues => scanPlain inFlow indent fuel (f.push c) (cursor.skip 1)

end StreamQuery.Yaml
