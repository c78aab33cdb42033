import CongeriesCore.JsonDocument

/-! # The text of a JSON value

`json.dumps(value, sort_keys=True, separators=(",", ":"), ensure_ascii=False)`. -/

namespace CongeriesCore

/-- `float.__repr__` of the double with these bits. -/
class PythonFloat where
  repr : UInt64 → String

/-- `ESCAPE_DCT` of the encoder, for a text that is not made ASCII. -/
def jsonEscape (c : Char) : String :=
  if c = '"' then "\\\""
  else if c = '\\' then "\\\\"
  else if c = '\n' then "\\n"
  else if c = '\r' then "\\r"
  else if c = '\t' then "\\t"
  else if c.toNat = 12 then "\\f"
  else if c.toNat = 8 then "\\b"
  else if c.toNat < 32 then
    "\\u00" ++ String.ofList [Nat.digitChar (c.toNat / 16), Nat.digitChar (c.toNat % 16)]
  else c.toString

def jsonQuote (text : String) : String :=
  "\"" ++ String.join (text.toList.map jsonEscape) ++ "\""

namespace JsonValue

variable [PythonFloat]

mutual

/-- The text of a value, the keys of an object in the order that they have. -/
def spell : JsonValue → String
  | .null => "null"
  | .bool true => "true"
  | .bool false => "false"
  | .int value => toString value
  | .float bits => PythonFloat.repr bits
  | .str text => jsonQuote text
  | .arr items => "[" ++ ",".intercalate (spellItems items) ++ "]"
  | .obj fields => "\x7b" ++ ",".intercalate (spellFields fields) ++ "\x7d"

def spellItems : List JsonValue → List String
  | [] => []
  | item :: items => spell item :: spellItems items

def spellFields : JsonFields → List String
  | [] => []
  | (key, value) :: fields => (jsonQuote key ++ ":" ++ spell value) :: spellFields fields

end

/-- `json.dumps` with its keys sorted. -/
def dumps (value : JsonValue) : String := value.canonical.spell

/-- `len(json.dumps(…).encode())`. -/
def byteCount (value : JsonValue) : ℕ := value.dumps.utf8ByteSize

end JsonValue

@[reducible] def SampleParameters.samplePythonFloat : PythonFloat := ⟨fun _ => "0.0"⟩

end CongeriesCore
