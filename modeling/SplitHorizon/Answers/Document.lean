/-
The shape of an answers document.

A document is a JSON object from client keys to sections.  A section has three
members: the resolvers to ask, the addresses of names and the aliases of names.
Member names are accepted in lower case and capitalized, `null` reads as absent,
unknown members are passed over, and a section or record may also be written as
the list of its members in order.

A known member may stand only once.  Client keys and names are data and not
members: of two equal ones the last counts.
-/
import SplitHorizon.Json.Basic

namespace SplitHorizon

/-- The addresses of a name, as written. -/
structure AddressRecord where
  ttl : Option UInt32
  answer : Option (List String)
deriving DecidableEq, Repr

/-- The alias of a name, as written. -/
structure AliasRecord where
  ttl : Option UInt32
  answer : Option String
deriving DecidableEq, Repr

structure ClientSection where
  resolvers : Option (List String)
  addresses : Option (List (String × AddressRecord))
  aliases : Option (List (String × AliasRecord))
deriving DecidableEq, Repr

abbrev Document := List (String × ClientSection)

namespace Document

/-! ## Members -/

def valuesOf (names : List String) (members : List (Option String × Json)) : List Json :=
  members.filterMap fun (key, value) =>
    match key with
    | some key => if key ∈ names then some value else none
    | none => none

/-- The member with one of the given names, read by `read`; absent and `null`
are the same, and a second such member is refused. -/
def member? {α : Type} (names : List String) (read : Json → Option α)
    (members : List (Option String × Json)) : Option (Option α) :=
  match valuesOf names members with
  | [] => some none
  | [value] => Json.nullable read value
  | _ => none

/-- The element of a list written in place of an object; one past the end is
absent. -/
def element? {α : Type} (i : Nat) (read : Json → Option α) (items : List Json) :
    Option (Option α) :=
  match items[i]? with
  | none => some none
  | some value => Json.nullable read value

def namesAreTexts (members : List (Option String × Json)) : Bool :=
  members.all (·.1.isSome)

/-! ## Maps -/

/-- Keeps, of several pairs with one key, the last. -/
def keepLast {α : Type} : List (String × α) → List (String × α)
  | [] => []
  | (key, value) :: rest =>
    if rest.any (·.1 = key) then keepLast rest else (key, value) :: keepLast rest

/-- A member whose name is data: the name must be a text. -/
def named? {α : Type} (read : Json → Option α) (m : Option String × Json) :
    Option (String × α) := do
  let key ← m.1
  let value ← read m.2
  return (key, value)

/-- A map from texts, each value read by `read`. -/
def map? {α : Type} (read : Json → Option α) : Json → Option (List (String × α))
  | .object members => (members.mapM (named? read)).map keepLast
  | _ => none

/-! ## Records and sections -/

def ttlNames : List String := ["ttl", "Ttl", "TTL"]
def addressAnswerNames : List String := ["answer", "Answer"]
def aliasAnswerNames : List String := ["answer", "Answer", "target", "Target"]
def resolverNames : List String := ["recurse", "Recurse"]
def addressNames : List String := ["a", "A"]
def aliasNames : List String := ["cname", "Cname", "CNAME"]

def addressRecord? : Json → Option AddressRecord
  | .object members => do
    guard (namesAreTexts members)
    let ttl ← member? ttlNames Json.uint32? members
    let answer ← member? addressAnswerNames Json.texts? members
    return { ttl := ttl, answer := answer }
  | .array items => do
    guard (items.length ≤ 2)
    let ttl ← element? 0 Json.uint32? items
    let answer ← element? 1 Json.texts? items
    return { ttl := ttl, answer := answer }
  | _ => none

def aliasRecord? : Json → Option AliasRecord
  | .object members => do
    guard (namesAreTexts members)
    let ttl ← member? ttlNames Json.uint32? members
    let answer ← member? aliasAnswerNames Json.text? members
    return { ttl := ttl, answer := answer }
  | .array items => do
    guard (items.length ≤ 2)
    let ttl ← element? 0 Json.uint32? items
    let answer ← element? 1 Json.text? items
    return { ttl := ttl, answer := answer }
  | _ => none

def clientSection? : Json → Option ClientSection
  | .object members => do
    guard (namesAreTexts members)
    let resolvers ← member? resolverNames Json.texts? members
    let addresses ← member? addressNames (map? addressRecord?) members
    let aliases ← member? aliasNames (map? aliasRecord?) members
    return { resolvers := resolvers, addresses := addresses, aliases := aliases }
  | .array items => do
    guard (items.length ≤ 3)
    let resolvers ← element? 0 Json.texts? items
    let addresses ← element? 1 (map? addressRecord?) items
    let aliases ← element? 2 (map? aliasRecord?) items
    return { resolvers := resolvers, addresses := addresses, aliases := aliases }
  | _ => none

/-- The document of a value; `null` is the document without clients. -/
def ofJson? : Json → Option Document
  | .null => some []
  | value => map? clientSection? value

end Document
end SplitHorizon
