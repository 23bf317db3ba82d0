/-
Texts in quotation marks.

Inside the marks a quotation mark and a backslash stand behind a backslash, so
the end of the text can be told.
-/

namespace SplitHorizon
namespace Text

def escapeQuoted : List Char → List Char
  | [] => []
  | c :: rest =>
    if c = '"' ∨ c = '\\' then '\\' :: c :: escapeQuoted rest else c :: escapeQuoted rest

def quoted (s : String) : String :=
  String.ofList ('"' :: (escapeQuoted s.toList ++ ['"']))

end Text
end SplitHorizon
