/-
Texts as bytes.
-/

namespace SplitHorizon
namespace Text

/-- The text that bytes encode in UTF-8, if they do. -/
def ofUtf8? (bytes : List UInt8) : Option String :=
  String.fromUTF8? (ByteArray.mk bytes.toArray)

def utf8 (s : String) : List UInt8 :=
  s.toUTF8.toList

def utf8Length : List Char → Nat
  | [] => 0
  | c :: rest => c.utf8Size + utf8Length rest

/-- What stands between two positions of a text, which are counted in bytes and
must not lie inside a character. -/
def between? (bytes : List UInt8) (start stop : Nat) : Option String :=
  ofUtf8? ((bytes.take stop).drop start)

end Text
end SplitHorizon
