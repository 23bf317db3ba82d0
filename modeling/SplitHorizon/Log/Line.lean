/-
Lines of the log.

An event is written as a JSON object with its level and its fields, of which the
message is the first, or as a line for reading.
-/
import SplitHorizon.Log.Event
import SplitHorizon.Settings.Basic

namespace SplitHorizon
namespace Log

def jsonChar (c : Char) : List Char :=
  if c = '"' then ['\\', '"']
  else if c = '\\' then ['\\', '\\']
  else if c = '\n' then ['\\', 'n']
  else if c = '\r' then ['\\', 'r']
  else if c = '\t' then ['\\', 't']
  else if c.toNat = 8 then ['\\', 'b']
  else if c.toNat = 12 then ['\\', 'f']
  else if c.toNat < 32 then
    ['\\', 'u', '0', '0', Text.digitChar (c.toNat / 16), Text.digitChar (c.toNat % 16)]
  else [c]

def jsonString (s : String) : String :=
  "\"" ++ String.ofList (s.toList.flatMap jsonChar) ++ "\""

def FieldValue.json : FieldValue → String
  | .text s => jsonString s
  | .number n => Text.decimal n

def FieldValue.plain : FieldValue → String
  | .text s => s
  | .number n => Text.decimal n

def jsonMember (name : String) (value : FieldValue) : String :=
  jsonString name ++ ":" ++ value.json

namespace Event

def jsonLine (event : Event) : String :=
  let members := jsonMember "message" (.text event.message) ::
    event.fields.map fun field => jsonMember field.1 field.2
  "\x7b\"level\":" ++ jsonString event.level.label ++ ",\"fields\":\x7b" ++
    String.intercalate "," members ++ "\x7d\x7d"

def textLine (event : Event) : String :=
  event.level.label ++ " " ++ event.message ++
    String.join (event.fields.map fun field => " " ++ field.1 ++ "=" ++ field.2.plain)

def line (event : Event) : LogFormat → String
  | .json => event.jsonLine
  | .text => event.textLine

end Event
end Log
end SplitHorizon
