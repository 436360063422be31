import SemanticLayer.Json.Value

/-!
Writing values. What is written has no characters beyond the basic alphabet: a few are given by a
letter of their own, all others by the codes of their halves, as two-byte units. Numbers that are
infinite or none at all are written as words.
-/

namespace SemanticLayer.Json

/-- The code of a two-byte unit. -/
def escapeUnit (unit : Nat) : String :=
  "\\u" ++ String.ofList (Text.hexDigits 4 unit)

def escapeChar (c : Char) : String :=
  if c == '"' then "\\\""
  else if c == '\\' then "\\\\"
  else if c == '\n' then "\\n"
  else if c == '\r' then "\\r"
  else if c == '\t' then "\\t"
  else if c.toNat = 8 then "\\b"
  else if c.toNat = 12 then "\\f"
  else if 32 ≤ c.toNat && c.toNat < 127 then c.toString
  else if c.toNat < 65536 then escapeUnit c.toNat
  else
    let code := c.toNat - 65536
    escapeUnit (0xd800 + code / 1024) ++ escapeUnit (0xdc00 + code % 1024)

def writeText (s : String) : String :=
  "\"" ++ String.join (s.toList.map escapeChar) ++ "\""

def writeFloat (x : Float) : String :=
  let text := Decimal.write x
  if text == "nan" then "NaN"
  else if text == "inf" then "Infinity"
  else if text == "-inf" then "-Infinity"
  else text

mutual

def write : Json → String
  | .null => "null"
  | .bool b => if b then "true" else "false"
  | .int n => toString n
  | .float x => writeFloat x
  | .text s => writeText s
  | .list items => "[" ++ ", ".intercalate (writeItems items) ++ "]"
  | .object fields => "\x7b" ++ ", ".intercalate (writeFields fields) ++ "\x7d"

def writeItems : List Json → List String
  | [] => []
  | item :: rest => item.write :: writeItems rest

def writeFields : List (String × Json) → List String
  | [] => []
  | (key, value) :: rest => (writeText key ++ ": " ++ value.write) :: writeFields rest

end

end SemanticLayer.Json
