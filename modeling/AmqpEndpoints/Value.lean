import AmqpEndpoints.Number.Shortest
import AmqpEndpoints.Table
import AmqpEndpoints.Text.Quoted
import AmqpEndpoints.Text.Utf8

/-!
# Field values

The values that a header can have, and their texts. `Value.describe` names the kind of a value and
is what stands inside compound values; `Value.text` is what a reader expects to see of a header.
-/

set_option autoImplicit false

namespace AmqpEndpoints

/-- A value of a field table. -/
inductive Value where
  | flag (value : Bool)
  | int8 (value : Int8)
  | uint8 (value : UInt8)
  | int16 (value : Int16)
  | uint16 (value : UInt16)
  | int32 (value : Int32)
  | uint32 (value : UInt32)
  | int64 (value : Int64)
  /-- The bits of a number of 32 bits. -/
  | float (bits : UInt32)
  /-- The bits of a number of 64 bits. -/
  | double (bits : UInt64)
  | decimal (scale : UInt8) (value : UInt32)
  | shortText (text : String)
  /-- Bytes that are meant to be a text. -/
  | longText (bytes : List UInt8)
  | array (items : List Value)
  /-- Seconds since 1970. -/
  | timestamp (seconds : UInt64)
  /-- A nested table, as the entries of a `Table`. -/
  | table (entries : List (String × Value))
  | octets (bytes : List UInt8)
  | absent
  deriving Repr, Inhabited

namespace Value

def ofText (text : String) : Value :=
  .longText (Text.Utf8.encode text)

/-- The nested table of pairs, of which the last with a key stays. -/
def ofPairs (pairs : List (String × Value)) : Value :=
  .table (Table.ofList pairs).entries

/-- Numbers on their own are written without exponent. -/
def plainFloat : Number.FloatStyle := ⟨false, fun _ => true⟩

/-- Numbers inside compound values are written with an exponent below 0.0001 and from 10^16 on, and
always with a fraction otherwise. -/
def describedFloat : Number.FloatStyle := ⟨true, fun leading => -5 < leading && leading < 16⟩

/-- Texts between brackets, with commas between them. -/
def listed (first last : String) (texts : List String) : String :=
  first ++ String.intercalate ", " texts ++ last

def describeBytes (bytes : List UInt8) : String :=
  listed "[" "]" (bytes.map fun byte => toString byte.toNat)

def flagText (value : Bool) : String :=
  if value then "true" else "false"

def tagged (kind inner : String) : String :=
  kind ++ "(" ++ inner ++ ")"

/-- A value after the name of its kind, which is written twice. -/
def taggedTwice (kind inner : String) : String :=
  tagged kind (tagged kind inner)

mutual

def describe : Value → String
  | .flag value => tagged "Boolean" (flagText value)
  | .int8 value => tagged "ShortShortInt" (toString value.toInt)
  | .uint8 value => tagged "ShortShortUInt" (toString value.toNat)
  | .int16 value => tagged "ShortInt" (toString value.toInt)
  | .uint16 value => tagged "ShortUInt" (toString value.toNat)
  | .int32 value => tagged "LongInt" (toString value.toInt)
  | .uint32 value => tagged "LongUInt" (toString value.toNat)
  | .int64 value => tagged "LongLongInt" (toString value.toInt)
  | .float bits => tagged "Float" (describedFloat.text Number.binary32 bits.toNat)
  | .double bits => tagged "Double" (describedFloat.text Number.binary64 bits.toNat)
  | .decimal scale value =>
    tagged "DecimalValue" ("DecimalValue \x7b scale: " ++ toString scale.toNat ++ ", value: " ++
      toString value.toNat ++ " \x7d")
  | .shortText text => taggedTwice "ShortString" (Text.quoted text)
  | .longText bytes => taggedTwice "LongString" (describeBytes bytes)
  | .array items => taggedTwice "FieldArray" (listed "[" "]" (describeItems items))
  | .timestamp seconds => tagged "Timestamp" (toString seconds.toNat)
  | .table entries => taggedTwice "FieldTable" (listed "\x7b" "\x7d" (describeEntries entries))
  | .octets bytes => taggedTwice "ByteArray" (describeBytes bytes)
  | .absent => "Void"

def describeItems : List Value → List String
  | [] => []
  | item :: rest => describe item :: describeItems rest

def describeEntries : List (String × Value) → List String
  | [] => []
  | entry :: rest => describeEntry entry :: describeEntries rest

def describeEntry : String × Value → String
  | (key, value) => tagged "ShortString" (Text.quoted key) ++ ": " ++ describe value

end

/-- The text of a header value: plain for a single value, described for a compound one. -/
def text : Value → String
  | .flag value => flagText value
  | .int8 value => toString value.toInt
  | .uint8 value => toString value.toNat
  | .int16 value => toString value.toInt
  | .uint16 value => toString value.toNat
  | .int32 value => toString value.toInt
  | .uint32 value => toString value.toNat
  | .int64 value => toString value.toInt
  | .float bits => plainFloat.text Number.binary32 bits.toNat
  | .double bits => plainFloat.text Number.binary64 bits.toNat
  | .shortText text => text
  | .longText bytes => Text.Utf8.decodeLossy bytes
  | .timestamp seconds => toString seconds.toNat
  | .absent => ""
  | compound => compound.describe

/-- The text of a long text that is UTF-8; other values carry none. -/
def carriedText? : Value → Option String
  | .longText bytes => (Text.Utf8.decode bytes).toOption
  | _ => none

end Value

end AmqpEndpoints
