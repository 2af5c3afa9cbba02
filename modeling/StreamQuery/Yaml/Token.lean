import StreamQuery.Yaml.Scalar

/-!
# Tokens

The tokens of a YAML text. Block collections have no marks of their own: a deeper indentation starts
one and a lesser one ends it. That a token is a key is known only at the colon after it, so the
tokens that announce the key are put in before it then.
-/

namespace StreamQuery.Yaml

/-- What a node is said to be. -/
inductive Tag where
  /-- Written after one exclamation mark. -/
  | named (name : String)
  /-- Written after two, from the YAML core. -/
  | core (name : String)
deriving DecidableEq

inductive Token where
  | documentStart
  | documentEnd
  | blockSequenceStart
  | blockMappingStart
  | blockEnd
  | flowSequenceStart
  | flowSequenceEnd
  | flowMappingStart
  | flowMappingEnd
  | blockEntry
  | flowEntry
  | key
  | value
  | tag (tag : Tag)
  | scalar (text : String) (plain : Bool)
deriving DecidableEq

/-- A token that may turn out to be a key. -/
structure KeyCandidate where
  /-- The number of tokens before it. -/
  position : Nat
  index : Nat
  line : Nat
  column : Nat
  /-- Whether nothing but a key can stand there. -/
  required : Bool

structure Scanner where
  cursor : Cursor
  tokens : List Token := []
  /-- The column of the innermost block collection. -/
  indent : Int := -1
  /-- The columns of the collections around it. -/
  indents : List Int := []
  /-- Whether a key may start here. -/
  keyAllowed : Bool := true
  /-- The candidate of the current level. -/
  candidate : Option KeyCandidate := none
  /-- The candidates of the levels around the current flow collection. -/
  outer : List (Option KeyCandidate) := []

namespace Scanner

def inFlow (s : Scanner) : Bool :=
  !s.outer.isEmpty

def emit (s : Scanner) (token : Token) : Scanner :=
  { s with tokens := s.tokens ++ [token] }

def insertAt (s : Scanner) (position : Nat) (token : Token) : Scanner :=
  { s with tokens := s.tokens.take position ++ token :: s.tokens.drop position }

/-- Opens a block collection at `column`, unless one is open there already. -/
def openBlock (s : Scanner) (column : Nat) (position : Nat) (token : Token) : Scanner :=
  if s.inFlow || (column : Int) ≤ s.indent then s
  else { s.insertAt position token with indent := column, indents := s.indent :: s.indents }

/-- Closes block collections from the innermost on, as long as they lie deeper than `column`. -/
def closeDeeper (column : Int) : List Int → Scanner → Scanner
  | [], s => s
  | indent :: rest, s =>
    if column < s.indent then
      closeDeeper column rest { s.emit .blockEnd with indent, indents := rest }
    else s

/-- Closes the block collections that lie deeper than `column`. -/
def closeBlocks (s : Scanner) (column : Int) : Scanner :=
  if s.inFlow then s else closeDeeper column s.indents s

/-- Gives up a candidate, which must not be one that has to be a key. -/
def dropCandidate (s : Scanner) : Option Scanner :=
  if s.candidate.any (·.required) then none else some { s with candidate := none }

/-- Makes the next token a candidate, if a key may start there. -/
def saveCandidate (s : Scanner) : Option Scanner :=
  if s.keyAllowed then do
    let s ← s.dropCandidate
    return { s with
      candidate := some
        { position := s.tokens.length
          index := s.cursor.index
          line := s.cursor.line
          column := s.cursor.column
          required := !s.inFlow && s.indent = s.cursor.column } }
  else some s

/-- Whether a candidate is too far back: a key stands on one line and has at most 1024 bytes. -/
def KeyCandidate.isStale (candidate : KeyCandidate) (cursor : Cursor) : Bool :=
  candidate.line < cursor.line || candidate.index + 1024 < cursor.index

/-- Gives up the candidates that are too far back. -/
def dropStale (s : Scanner) : Option Scanner := do
  let fresh (candidate : Option KeyCandidate) : Option (Option KeyCandidate) :=
    match candidate with
    | none => some none
    | some candidate =>
      if KeyCandidate.isStale candidate s.cursor then
        if candidate.required then none else some none
      else some (some candidate)
  return { s with candidate := ← fresh s.candidate, outer := ← s.outer.mapM fresh }

/-- Passes blanks, comments and line ends. A tab must not stand where a key may start. A byte order
mark may start a line and takes up a column of it; elsewhere it is a character like others. -/
def skipBlanks : Nat → Scanner → Scanner
  | 0, s => s
  | fuel + 1, s =>
    match s.cursor.rest with
    | [] => s
    | c :: rest =>
      if c = ' ' || (c = '\t' && (s.inFlow || !s.keyAllowed)) ||
          (isByteOrderMark c && s.cursor.column = 0) then
        skipBlanks fuel { s with cursor := s.cursor.skip 1 }
      else if c = '#' then
        let comment := (c :: rest).takeWhile (!isBreak ·)
        skipBlanks fuel { s with cursor := s.cursor.skip comment.length }
      else if isBreak c then
        skipBlanks fuel
          { s with cursor := s.cursor.skipBreak, keyAllowed := s.keyAllowed || !s.inFlow }
      else s

def documentMark (s : Scanner) (token : Token) : Option Scanner := do
  let s ← (s.closeBlocks (-1)).dropCandidate
  return { s.emit token with cursor := s.cursor.skip 3, keyAllowed := false }

def flowStart (s : Scanner) (token : Token) : Option Scanner := do
  let s ← s.saveCandidate
  return { s.emit token with
    cursor := s.cursor.skip 1
    keyAllowed := true
    candidate := none
    outer := s.candidate :: s.outer }

def flowEnd (s : Scanner) (token : Token) : Option Scanner := do
  let s ← s.dropCandidate
  let s :=
    match s.outer with
    | [] => s
    | candidate :: outer => { s with candidate, outer }
  return { s.emit token with cursor := s.cursor.skip 1, keyAllowed := false }

def flowEntry (s : Scanner) : Option Scanner := do
  let s ← s.dropCandidate
  return { s.emit .flowEntry with cursor := s.cursor.skip 1, keyAllowed := true }

def blockEntry (s : Scanner) : Option Scanner := do
  if !s.inFlow && !s.keyAllowed then none
  let s := s.openBlock s.cursor.column s.tokens.length .blockSequenceStart
  let s ← s.dropCandidate
  return { s.emit .blockEntry with cursor := s.cursor.skip 1, keyAllowed := true }

def explicitKey (s : Scanner) : Option Scanner := do
  if !s.inFlow && !s.keyAllowed then none
  let s := s.openBlock s.cursor.column s.tokens.length .blockMappingStart
  let s ← s.dropCandidate
  return { s.emit .key with cursor := s.cursor.skip 1, keyAllowed := !s.inFlow }

/-- A colon: what is the candidate becomes a key. -/
def value (s : Scanner) : Option Scanner :=
  match s.candidate with
  | some candidate =>
    let s := s.insertAt candidate.position .key
    let s := s.openBlock candidate.column candidate.position .blockMappingStart
    some { s.emit .value with cursor := s.cursor.skip 1, keyAllowed := false, candidate := none }
  | none => do
    if !s.inFlow && !s.keyAllowed then none
    let s := s.openBlock s.cursor.column s.tokens.length .blockMappingStart
    return { s.emit .value with cursor := s.cursor.skip 1, keyAllowed := !s.inFlow }

def isTagChar (c : Char) : Bool :=
  c.isAlphanum || c ∈ "-_;/?:@&=+$.!~*()".toList || c = '\x27'

def isHandleChar (c : Char) : Bool :=
  c.isAlphanum || c = '-' || c = '_'

/-- The tag that is written with these characters after the exclamation mark. A word with a second
mark right after it would have to be declared, and no declarations are read. -/
def tagOf? : List Char → Option Tag
  | '!' :: core => if core.isEmpty then none else some (.core (String.ofList core))
  | name =>
    if (name.dropWhile isHandleChar).head? = some '!' then none
    else some (.named (String.ofList name))

/-- A tag, which ends before a blank, or in a flow collection before a comma. -/
def tag (s : Scanner) : Option Scanner := do
  let s ← s.saveCandidate
  let name := (s.cursor.rest.drop 1).takeWhile isTagChar
  let cursor := s.cursor.skip (name.length + 1)
  if !endsToken cursor.rest && !(s.inFlow && cursor.rest.head? = some ',') then none
  return { s.emit (.tag (← tagOf? name)) with cursor, keyAllowed := false }

def quotedScalar (s : Scanner) (scan : Nat → Folding → Cursor → Option Scanned) :
    Option Scanner := do
  let s ← s.saveCandidate
  let scanned ← scan (s.cursor.rest.length + 1) {} (s.cursor.skip 1)
  return { s.emit (.scalar scanned.text false) with cursor := scanned.cursor, keyAllowed := false }

def plainScalar (s : Scanner) : Option Scanner := do
  let s ← s.saveCandidate
  let scanned ← scanPlain s.inFlow (s.indent + 1) (s.cursor.rest.length + 1) {} s.cursor
  return { s.emit (.scalar scanned.text true) with
    cursor := scanned.cursor
    keyAllowed := scanned.newLine }

/-- Whether a plain scalar may start with this text. -/
def startsPlain (inFlow : Bool) : List Char → Bool
  | [] => false
  | c :: rest =>
    if c = '-' then !(rest.head?.any isSpace)
    else if c = '?' || c = ':' then !inFlow && !endsToken rest
    else !(isSpace c || isBreak c || c.toNat = 0x60 || c = '\x27' ||
      c ∈ ",[]\x7b\x7d#&*!|>\"%@".toList)

/-- Reads the token at the cursor, which stands at no blank. -/
def token (s : Scanner) : Option Scanner :=
  if s.cursor.atMark '-' then s.documentMark .documentStart
  else if s.cursor.atMark '.' then s.documentMark .documentEnd
  else
    match s.cursor.rest with
    | [] => none
    | c :: rest =>
      if c = '[' then s.flowStart .flowSequenceStart
      else if c = '\x7b' then s.flowStart .flowMappingStart
      else if c = ']' then s.flowEnd .flowSequenceEnd
      else if c = '\x7d' then s.flowEnd .flowMappingEnd
      else if c = ',' then s.flowEntry
      else if c = '-' && endsToken rest then s.blockEntry
      else if c = '?' && (s.inFlow || endsToken rest) then s.explicitKey
      else if c = ':' && (s.inFlow || endsToken rest) then s.value
      else if c = '!' then s.tag
      else if c = '\x27' then s.quotedScalar scanSingleQuoted
      else if c = '"' then s.quotedScalar scanDoubleQuoted
      else if startsPlain s.inFlow (c :: rest) then s.plainScalar
      else none

/-- Reads all tokens. Each takes at least one character. -/
def run : Nat → Scanner → Option (List Token)
  | 0, _ => none
  | fuel + 1, s => do
    let s ← (s.skipBlanks (s.cursor.rest.length + 1)).dropStale
    let s := s.closeBlocks s.cursor.column
    match s.cursor.rest with
    | [] => return (← (s.closeBlocks (-1)).dropCandidate).tokens
    | _ => run fuel (← s.token)

end Scanner

/-- The tokens of a text, or nothing if it is not well-formed. -/
def tokens? (text : String) : Option (List Token) :=
  let chars := text.toList
  if chars.all isPrintable then Scanner.run (chars.length + 1) { cursor := { rest := chars } }
  else none

end StreamQuery.Yaml
