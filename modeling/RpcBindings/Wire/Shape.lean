import RpcBindings.Wire.Field

namespace RpcBindings.Wire

inductive Shape where
  | request
  | version
  | file
  | message
  | extensionRange
  | field
  | oneof
  | enum
  | enumValue
  | service
  | method
  | range
  | fileOptions
  | messageOptions
  | fieldOptions
  | oneofOptions
  | enumOptions
  | enumValueOptions
  | serviceOptions
  | methodOptions
  | extensionRangeOptions
  | declaration
  | uninterpretedOption
  | namePart
  | features
  | editionDefault
  | featureSupport
  | sourceInfo
  | location
  /-- A run of numbers without tags. -/
  | numbers
deriving DecidableEq, Repr

namespace Shape

/-- What a field with a run of bytes holds, where that is not just text or bytes. -/
def child? : Shape → Nat → Option Shape
  | request, 3 => some version
  | request, 15 => some file
  | request, 17 => some file
  | file, 4 => some message
  | file, 5 => some enum
  | file, 6 => some service
  | file, 7 => some field
  | file, 8 => some fileOptions
  | file, 9 => some sourceInfo
  | file, 10 => some numbers
  | file, 11 => some numbers
  | message, 2 => some field
  | message, 3 => some message
  | message, 4 => some enum
  | message, 5 => some extensionRange
  | message, 6 => some field
  | message, 7 => some messageOptions
  | message, 8 => some oneof
  | message, 9 => some range
  | extensionRange, 3 => some extensionRangeOptions
  | field, 8 => some fieldOptions
  | oneof, 2 => some oneofOptions
  | enum, 2 => some enumValue
  | enum, 3 => some enumOptions
  | enum, 4 => some range
  | enumValue, 3 => some enumValueOptions
  | service, 2 => some method
  | service, 3 => some serviceOptions
  | method, 4 => some methodOptions
  | fileOptions, 50 => some features
  | messageOptions, 12 => some features
  | fieldOptions, 19 => some numbers
  | fieldOptions, 20 => some editionDefault
  | fieldOptions, 21 => some features
  | fieldOptions, 22 => some featureSupport
  | oneofOptions, 1 => some features
  | enumOptions, 7 => some features
  | enumValueOptions, 2 => some features
  | enumValueOptions, 4 => some featureSupport
  | serviceOptions, 34 => some features
  | methodOptions, 35 => some features
  | extensionRangeOptions, 2 => some declaration
  | extensionRangeOptions, 50 => some features
  | uninterpretedOption, 2 => some namePart
  | sourceInfo, 1 => some location
  | location, 1 => some numbers
  | location, 2 => some numbers
  | fileOptions, 999 => some uninterpretedOption
  | messageOptions, 999 => some uninterpretedOption
  | fieldOptions, 999 => some uninterpretedOption
  | oneofOptions, 999 => some uninterpretedOption
  | enumOptions, 999 => some uninterpretedOption
  | enumValueOptions, 999 => some uninterpretedOption
  | serviceOptions, 999 => some uninterpretedOption
  | methodOptions, 999 => some uninterpretedOption
  | extensionRangeOptions, 999 => some uninterpretedOption
  | _, _ => none

def areNumbers : Nat → List UInt8 → Bool
  | _, [] => true
  | 0, _ => false
  | fuel + 1, s =>
    match Varint.decode 10 s with
    | some (_, rest) => areNumbers fuel rest
    | none => false

def admits : Nat → Shape → List UInt8 → Bool
  | 0, _, _ => false
  | fuel + 1, shape, s =>
    if shape = numbers then areNumbers s.length s
    else match fields? s with
      | none => false
      | some fields => fields.all fun f =>
        match f.payload with
        | .bytes content =>
          match shape.child? f.number with
          | some inner => admits fuel inner content
          | none => true
        | _ => true

def isWellFormed (shape : Shape) (s : List UInt8) : Bool := admits (s.length + 1) shape s

end Shape

end RpcBindings.Wire
