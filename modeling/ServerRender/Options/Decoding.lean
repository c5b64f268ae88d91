import ServerRender.Json.Writer
import ServerRender.Options
import ServerRender.Text.Quoted

/-!
# Options from JSON

Options are objects whose keys are all known, or arrays of their fields in order.
Fields that are not given have their defaults. The members of an object are looked at
in the order of their keys, and the first that cannot be decoded decides.
-/

namespace ServerRender

/-- Why a value is not an option. -/
inductive DecodingError where
  | wrongType (found : Json) (expected : String)
  /-- A value of the right type out of range. -/
  | wrongValue (found : Json) (expected : String)
  | tooLong (length : Nat)
  | unknownField (name : String) (first second : String)
  | unknownVariant (name : String)

namespace DecodingError

/-- What a value is called in a message. -/
def describe : Json → String
  | .null => "null"
  | .bool value => s!"boolean \x60{value}\x60"
  | .number (.int value) => s!"integer \x60{value}\x60"
  | .number (.double value) => s!"floating point \x60{(Json.Number.double value).write}\x60"
  | .string value => s!"string {Text.quoted value}"
  | .array _ => "sequence"
  | .object _ => "map"

def message : DecodingError → String
  | wrongType found expected => s!"invalid type: {describe found}, expected {expected}"
  | wrongValue found expected => s!"invalid value: {describe found}, expected {expected}"
  | tooLong length => s!"invalid length {length}, expected fewer elements in array"
  | unknownField name first second =>
    s!"unknown field \x60{name}\x60, expected \x60{first}\x60 or \x60{second}\x60"
  | unknownVariant name =>
    s!"unknown variant \x60{name}\x60, expected \x60development\x60 or \x60production\x60"

end DecodingError

/-- An unsigned word of sixty-four bits. -/
def decodeWord (expected : String) (json : Json) : Except DecodingError UInt64 :=
  match json with
  | .number (.int value) =>
    if 0 ≤ value ∧ value < (UInt64.size : Int) then .ok (UInt64.ofNat value.toNat)
    else .error (.wrongValue json expected)
  | _ => .error (.wrongType json expected)

namespace PoolOptions

def decodeSize : Json → Except DecodingError UInt64 :=
  decodeWord "usize"

def decodeTimeout : Json → Except DecodingError UInt64 :=
  decodeWord "u64"

/-- Takes over one member of an object. -/
def decodeMember (options : PoolOptions) (member : String × Json) :
    Except DecodingError PoolOptions :=
  match member.1 with
  | "size" => (decodeSize member.2).map options.withSize
  | "timeout" => (decodeTimeout member.2).map options.withTimeout
  | name => .error (.unknownField name "size" "timeout")

def decode : Json → Except DecodingError PoolOptions
  | .object members => members.foldlM decodeMember defaults
  | .array [] => .ok defaults
  | .array [size] => (decodeSize size).map defaults.withSize
  | .array (size :: timeout :: rest) => do
    let options := defaults.withSize (← decodeSize size)
    let options := options.withTimeout (← decodeTimeout timeout)
    if rest.isEmpty then return options else throw (.tooLong (rest.length + 2))
  | json => .error (.wrongType json "struct PoolOptions")

end PoolOptions

namespace RenderMode

def ofNameOrError (name : String) : Except DecodingError RenderMode :=
  match ofName? name with
  | some mode => .ok mode
  | none => .error (.unknownVariant name)

/-- A mode is its name, or an object with the name as only key and no content. -/
def decode : Json → Except DecodingError RenderMode
  | .string name => ofNameOrError name
  | .object [(name, content)] => do
    let mode ← ofNameOrError name
    match content with
    | .null => return mode
    | _ => throw (.wrongType content "unit")
  | .object members => .error (.wrongValue (.object members) "map with a single key")
  | json => .error (.wrongType json "string or map")

end RenderMode

namespace RendererConfig

def withPool (config : RendererConfig) (pool : PoolOptions) : RendererConfig :=
  { config with pool }

def withMode (config : RendererConfig) (mode : RenderMode) : RendererConfig :=
  { config with mode }

def decodeMember (config : RendererConfig) (member : String × Json) :
    Except DecodingError RendererConfig :=
  match member.1 with
  | "pool" => (PoolOptions.decode member.2).map config.withPool
  | "mode" => (RenderMode.decode member.2).map config.withMode
  | name => .error (.unknownField name "pool" "mode")

def decode : Json → Except DecodingError RendererConfig
  | .object members => members.foldlM decodeMember defaults
  | .array [] => .ok defaults
  | .array [pool] => (PoolOptions.decode pool).map defaults.withPool
  | .array (pool :: mode :: rest) => do
    let config := defaults.withPool (← PoolOptions.decode pool)
    let config := config.withMode (← RenderMode.decode mode)
    if rest.isEmpty then return config else throw (.tooLong (rest.length + 2))
  | json => .error (.wrongType json "struct RendererConfig")

/-- A configuration as JSON again. -/
def toJson (config : RendererConfig) : Json :=
  .object [("mode", .string config.mode.name),
    ("pool", .object [("size", .ofNat config.pool.size.toNat),
      ("timeout", .ofNat config.pool.timeout.toNat)])]

end RendererConfig

end ServerRender
