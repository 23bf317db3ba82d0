/-
Answer records.

Two kinds of record are served: addresses and aliases.  Every record is of
class IN, so the class is part of the text and not of the value.
-/
import SplitHorizon.Address.Ipv4

namespace SplitHorizon

inductive RecordKind where
  | a
  | cname
deriving DecidableEq, Repr

namespace RecordKind

def text : RecordKind → String
  | .a => "A"
  | .cname => "CNAME"

def code : RecordKind → UInt16
  | .a => 1
  | .cname => 5

/-- The kind of a number, for the two that are served. -/
def ofCode? (code : UInt16) : Option RecordKind :=
  if code = 1 then some .a else if code = 5 then some .cname else none

theorem ofCode?_code (kind : RecordKind) : ofCode? kind.code = some kind := by
  cases kind <;> decide

end RecordKind

inductive RecordData where
  | address (ip : Ipv4)
  /-- The canonical name, of which the record's name is an alias. -/
  | canonical (target : String)
deriving DecidableEq, Repr

structure Record where
  name : String
  ttl : UInt32
  data : RecordData
deriving DecidableEq, Repr

namespace Record

def address (name : String) (ttl : UInt32) (ip : Ipv4) : Record :=
  { name := name, ttl := ttl, data := .address ip }

def canonical (name : String) (ttl : UInt32) (target : String) : Record :=
  { name := name, ttl := ttl, data := .canonical target }

def kind (r : Record) : RecordKind :=
  match r.data with
  | .address _ => .a
  | .canonical _ => .cname

def address? (r : Record) : Option Ipv4 :=
  match r.data with
  | .address ip => some ip
  | .canonical _ => none

def target? (r : Record) : Option String :=
  match r.data with
  | .address _ => none
  | .canonical target => some target

/-- The record in zone file order: owner, TTL, class, kind, data. -/
def text (r : Record) : String :=
  let data := match r.data with
    | .address ip => ip.text
    | .canonical target => target
  String.intercalate " " [r.name, Text.decimal r.ttl.toNat, "IN", r.kind.text, data]

end Record
end SplitHorizon
