import StreamQuery.Yaml.Token

/-!
# Documents

A YAML document as a tree of scalars, sequences and mappings.
-/

namespace StreamQuery.Yaml

inductive Node where
  | scalar (text : String) (plain : Bool) (tag : Option Tag)
  | sequence (items : List Node) (tag : Option Tag)
  | mapping (entries : List (Node × Node)) (tag : Option Tag)
deriving Inhabited

namespace Node

/-- The node that stands where nothing is written. -/
def empty : Node :=
  .scalar "" true none

/-- Tokens before which nothing is written for a node of a block mapping. -/
def endsBlockNode : List Token → Bool
  | .key :: _ => true
  | .value :: _ => true
  | .blockEnd :: _ => true
  | [] => true
  | _ => false

def endsFlowNode : List Token → Bool
  | .value :: _ => true
  | .flowEntry :: _ => true
  | .flowSequenceEnd :: _ => true
  | .flowMappingEnd :: _ => true
  | _ => false

/-- Where a node stands. -/
inductive Place where
  /-- In a flow collection. -/
  | flow
  /-- In a block sequence, or at the root. -/
  | block
  /-- In a block mapping, whose values may be sequences that are not indented. -/
  | blockMapping
deriving DecidableEq

def Place.isBlock (place : Place) : Bool :=
  place ≠ .flow

mutual

/-- Reads a node, and gives the tokens after it. -/
def parse (place : Place) : Nat → List Token → Option (Node × List Token)
  | 0, _ => none
  | fuel + 1, tokens =>
    match tokens with
    | .tag tag :: rest => parseContent place (some tag) fuel rest
    | _ => parseContent place none fuel tokens

/-- Reads a node after its tag. -/
def parseContent (place : Place) (tag : Option Tag) :
    Nat → List Token → Option (Node × List Token)
  | 0, _ => none
  | fuel + 1, tokens =>
    match tokens with
    | .scalar text plain :: rest => some (.scalar text plain tag, rest)
    | .flowSequenceStart :: rest => do
      let (items, rest) ← parseFlowItems true fuel rest
      return (.sequence items tag, rest)
    | .flowMappingStart :: rest => do
      let (entries, rest) ← parseFlowEntries true fuel rest
      return (.mapping entries tag, rest)
    | .blockSequenceStart :: rest =>
      if place.isBlock then do
        let (items, rest) ← parseBlockItems fuel rest
        return (.sequence items tag, rest)
      else none
    | .blockMappingStart :: rest =>
      if place.isBlock then do
        let (entries, rest) ← parseBlockEntries fuel rest
        return (.mapping entries tag, rest)
      else none
    | .blockEntry :: _ =>
      if place = .blockMapping then do
        let (items, rest) ← parseOpenItems fuel tokens
        return (.sequence items tag, rest)
      else if tag.isSome then some (.scalar "" true tag, tokens)
      else none
    | _ => if tag.isSome then some (.scalar "" true tag, tokens) else none

/-- Reads the items of an indented block sequence. -/
def parseBlockItems : Nat → List Token → Option (List Node × List Token)
  | 0, _ => none
  | fuel + 1, tokens =>
    match tokens with
    | .blockEntry :: rest => do
      let (item, rest) ←
        match rest with
        | .blockEntry :: _ => some (empty, rest)
        | .blockEnd :: _ => some (empty, rest)
        | _ => parse .block fuel rest
      let (items, rest) ← parseBlockItems fuel rest
      return (item :: items, rest)
    | .blockEnd :: rest => some ([], rest)
    | _ => none

/-- Reads the items of a block sequence at the column of the mapping around it. -/
def parseOpenItems : Nat → List Token → Option (List Node × List Token)
  | 0, _ => none
  | fuel + 1, tokens =>
    match tokens with
    | .blockEntry :: rest => do
      let (item, rest) ←
        match rest with
        | .blockEntry :: _ => some (empty, rest)
        | _ => if endsBlockNode rest then some (empty, rest) else parse .block fuel rest
      let (items, rest) ← parseOpenItems fuel rest
      return (item :: items, rest)
    | _ => some ([], tokens)

def parseBlockEntries : Nat → List Token → Option (List (Node × Node) × List Token)
  | 0, _ => none
  | fuel + 1, tokens =>
    match tokens with
    | .key :: rest => do
      let (key, rest) ←
        if endsBlockNode rest then some (empty, rest) else parse .blockMapping fuel rest
      let (value, rest) ←
        match rest with
        | .value :: rest =>
          if endsBlockNode rest then some (empty, rest) else parse .blockMapping fuel rest
        | _ => some (empty, rest)
      let (entries, rest) ← parseBlockEntries fuel rest
      return ((key, value) :: entries, rest)
    | .blockEnd :: rest => some ([], rest)
    | _ => none

/-- Reads a flow value after its key, if there is one. -/
def parseFlowValue : Nat → List Token → Option (Node × List Token)
  | 0, _ => none
  | fuel + 1, tokens =>
    match tokens with
    | .value :: rest => if endsFlowNode rest then some (empty, rest) else parse .flow fuel rest
    | _ => some (empty, tokens)

/-- Reads a flow key with its value, after the mark of the key. -/
def parseFlowPair : Nat → List Token → Option ((Node × Node) × List Token)
  | 0, _ => none
  | fuel + 1, tokens => do
    let (key, rest) ← if endsFlowNode tokens then some (empty, tokens) else parse .flow fuel tokens
    let (value, rest) ← parseFlowValue fuel rest
    return ((key, value), rest)

def parseFlowItems (first : Bool) : Nat → List Token → Option (List Node × List Token)
  | 0, _ => none
  | fuel + 1, tokens =>
    match tokens with
    | .flowSequenceEnd :: rest => some ([], rest)
    | _ => do
      let rest ←
        if first then some tokens
        else
          match tokens with
          | .flowEntry :: rest => some rest
          | _ => none
      match rest with
      | .flowSequenceEnd :: rest => some ([], rest)
      | .key :: rest => do
        let (pair, rest) ← parseFlowPair fuel rest
        let (items, rest) ← parseFlowItems false fuel rest
        return (.mapping [pair] none :: items, rest)
      | _ => do
        let (item, rest) ← parse .flow fuel rest
        let (items, rest) ← parseFlowItems false fuel rest
        return (item :: items, rest)

def parseFlowEntries (first : Bool) :
    Nat → List Token → Option (List (Node × Node) × List Token)
  | 0, _ => none
  | fuel + 1, tokens =>
    match tokens with
    | .flowMappingEnd :: rest => some ([], rest)
    | _ => do
      let rest ←
        if first then some tokens
        else
          match tokens with
          | .flowEntry :: rest => some rest
          | _ => none
      match rest with
      | .flowMappingEnd :: rest => some ([], rest)
      | .key :: rest => do
        let (pair, rest) ← parseFlowPair fuel rest
        let (entries, rest) ← parseFlowEntries false fuel rest
        return (pair :: entries, rest)
      | _ => do
        let (key, rest) ← parse .flow fuel rest
        let (entries, rest) ← parseFlowEntries false fuel rest
        return ((key, empty) :: entries, rest)

end

/-- Nothing but ends of the document may follow it. -/
def endsStream : List Token → Bool
  | [] => true
  | .documentEnd :: rest => endsStream rest
  | _ => false

def parseRoot (tokens : List Token) : Option (Node × List Token) :=
  parse .block (4 * tokens.length + 4) tokens

/-- The only document of a text. Where nothing is written it is the empty node. -/
def ofText? (text : String) : Option Node := do
  let tokens ← tokens? text
  let (node, rest) ←
    match tokens with
    | [] => some (empty, [])
    | .documentStart :: rest =>
      match rest with
      | [] => some (empty, [])
      | .documentStart :: _ => some (empty, rest)
      | .documentEnd :: _ => some (empty, rest)
      | _ => parseRoot rest
    | _ => parseRoot tokens
  if endsStream rest then some node else none

/-- The text of a scalar. -/
def toText? : Node → Option String
  | .scalar text _ _ => some text
  | _ => none

def isNullWord (text : String) : Bool :=
  text ∈ ["~", "null", "Null", "NULL"]

/-- Whether a plain text is null: by its word, or because nothing is written. -/
def isNullText (text : String) : Bool :=
  text = "" || isNullWord text

/-- Reads a value that may be null. What is tagged as null must be so by its word. -/
def toOption? {α : Type} (read : Node → Option α) (node : Node) : Option (Option α) :=
  match node with
  | .scalar text true none => if isNullText text then some none else (read node).map some
  | .scalar text true (some (.core "null")) => if isNullWord text then some none else none
  | _ => (read node).map some

def toBool? : Node → Option Bool
  | .scalar text true _ =>
    if text ∈ ["true", "True", "TRUE"] then some true
    else if text ∈ ["false", "False", "FALSE"] then some false
    else none
  | _ => none

/-- The number that the digits of a base denote. -/
def digitsValue? (base : Nat) (digits : List Char) : Option Nat :=
  if digits.isEmpty then none
  else digits.foldlM (fun value c => do
    let digit ← hexDigit? c
    if digit < base then some (base * value + digit) else none) 0

/-- Reads a number: decimal without leading zeros, hexadecimal, octal or binary. -/
def naturalOfText? (text : String) : Option Nat :=
  let unsigned :=
    match text.toList with
    | '+' :: rest => rest
    | chars => chars
  match unsigned with
  | '0' :: 'x' :: digits => digitsValue? 16 digits
  | '0' :: 'o' :: digits => digitsValue? 8 digits
  | '0' :: 'b' :: digits => digitsValue? 2 digits
  | '0' :: _ :: _ => none
  | digits => digitsValue? 10 digits

/-- Reads a number of at most `bound`. -/
def toNat? (bound : Nat) : Node → Option Nat
  | .scalar text true _ => (naturalOfText? text).filter (· ≤ bound)
  | _ => none

/-- Reads a list; nothing at all is the empty one, but not an empty text in quotes. -/
def toList? {α : Type} (read : Node → Option α) : Node → Option (List α)
  | .sequence items _ => items.mapM read
  | .scalar text plain _ => if text = "" && plain then some [] else none
  | .mapping _ _ => none

/-- The named fields of a record; nothing at all is a record without fields. Keys are scalars. -/
def toFields? : Node → Option (List (String × Node))
  | .mapping entries _ => entries.mapM fun (key, value) => key.toText?.map (·, value)
  | .scalar text plain _ => if text = "" && plain then some [] else none
  | .sequence _ _ => none

/-- The value of a field that occurs at most once. -/
def field? (fields : List (String × Node)) (name : String) : Option (Option Node) :=
  match fields.filter (·.1 = name) with
  | [] => some none
  | [(_, node)] => some (some node)
  | _ => none

/-- Reads a field that must be there. -/
def required? {α : Type} (read : Node → Option α) (fields : List (String × Node)) (name : String) :
    Option α := do
  let node ← field? fields name
  read (← node)

/-- Reads a field that has a default. -/
def optional? {α : Type} (read : Node → Option α) (default : α) (fields : List (String × Node))
    (name : String) : Option α := do
  match ← field? fields name with
  | some node => read node
  | none => some default

/-- The name of a choice without content: a scalar, or a tag on nothing. Core tags do not name
choices. -/
def toChoice? : Node → Option String
  | .scalar text _ none => some text
  | .scalar text _ (some (.core _)) => some text
  | .scalar text true (some (.named name)) => if isNullText text then some name else none
  | _ => none

end Node

end StreamQuery.Yaml
