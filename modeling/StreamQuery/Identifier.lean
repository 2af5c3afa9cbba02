import StreamQuery.Failure

/-!
# Names of objects and topics
-/

namespace StreamQuery

def isIdentifierStart (c : Char) : Bool :=
  c.isAlpha || c = '_'

def isIdentifierChar (c : Char) : Bool :=
  c.isAlphanum || c = '_'

/-- A letter or underscore followed by letters, digits and underscores. -/
def isIdentifier (name : String) : Bool :=
  match name.toList with
  | [] => false
  | c :: rest => isIdentifierStart c && rest.all isIdentifierChar

def isTopicChar (c : Char) : Bool :=
  c.isAlphanum || c = '.' || c = '_' || c = '-'

/-- One to 249 letters, digits, points, underscores and hyphens. -/
def isTopic (name : String) : Bool :=
  name.toList.all isTopicChar && 1 ≤ name.length && name.length ≤ 249

def validateIdentifier (role name : String) : Except Failure Unit :=
  if isIdentifier name then .ok () else .error (.violation (.malformedIdentifier role name))

def validateTopic (name : String) : Except Failure Unit :=
  if isTopic name then .ok () else .error (.violation (.malformedTopic name))

end StreamQuery
