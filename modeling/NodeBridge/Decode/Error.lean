import NodeBridge.Json.Display
import NodeBridge.Network.Address

/-!
Why a document could not be read. Each cause has one message. Where a message quotes the
complaint of a reader of text forms (UTF-8, documents, CBOR, hexadecimal digits, base 64),
an asterisk stands for it.
-/

namespace NodeBridge

inductive Kind where
  | null
  | bool
  | int
  | float
  | text
  | list
  | object
  | bytes
  | undefined
  | simple
  | tagged
  | fixedList
  | fixedObject
  | set
  | fixedSet
  | decimal
  | fraction
  | complex
  | moment
  | date
  | uuid
  | pattern
  | mail
  | address (form : AddressForm)
  | network (form : AddressForm)
  | networkAddress (form : AddressForm)
deriving DecidableEq, Repr

def Kind.name : Kind → String
  | .null => "NoneType"
  | .bool => "bool"
  | .int => "int"
  | .float => "float"
  | .text => "str"
  | .list => "list"
  | .object => "dict"
  | .bytes => "bytes"
  | .undefined => "UndefinedType"
  | .simple => "CBORSimpleValue"
  | .tagged => "CBORTag"
  | .fixedList => "tuple"
  | .fixedObject => "frozendict"
  | .set => "set"
  | .fixedSet => "frozenset"
  | .decimal => "Decimal"
  | .fraction => "Fraction"
  | .complex => "complex"
  | .moment => "datetime"
  | .date => "date"
  | .uuid => "UUID"
  | .pattern => "Pattern"
  | .mail => "Message"
  | .address .short => "IPv4Address"
  | .address .long => "IPv6Address"
  | .network .short => "IPv4Network"
  | .network .long => "IPv6Network"
  | .networkAddress .short => "IPv4Interface"
  | .networkAddress .long => "IPv6Interface"

def Json.kind : Json → Kind
  | .null => .null
  | .bool _ => .bool
  | .int _ => .int
  | .float _ => .float
  | .text _ => .text
  | .list _ => .list
  | .object _ => .object

inductive Shape where
  | object
  | list
  | text
deriving DecidableEq, Repr

def Shape.name : Shape → String
  | .object => "object"
  | .list => "array"
  | .text => "string"

inductive Schema where
  | current
  | legacy
deriving DecidableEq, Repr

def Schema.name : Schema → String
  | .current => "v6"
  | .legacy => "v5"

inductive DocumentKind where
  | value
  | transaction
  | output
  | intersectionResult
  | blockResult
  | response
  | auxiliaryData
deriving DecidableEq, Repr

def DocumentKind.name : DocumentKind → String
  | .value => "Value"
  | .transaction => "Tx"
  | .output => "TxOut"
  | .intersectionResult => "findIntersection result"
  | .blockResult => "nextBlock result"
  | .response => "Response"
  | .auxiliaryData => "AuxiliaryData"

inductive DecodeError where
  | unexpected (what : String) (expected : Shape) (found : Kind)
  | truthForNumber (what : String)
  /-- The value, as it is shown, is not a whole number. -/
  | notWhole (what shown : String)
  | invalidUtf8
  | invalidJson
  | invalidCbor
  /-- A message would have to show a whole number of too many digits. -/
  | numberTooLong
  | policyNotObject (policy : String)
  | amountNotWhole (policy name : String)
  | datumNotText (found : Json)
  | datumNotBytes (content : String)
  | pointNotUtf8
  | pointEmpty
  | pointNotJson (content : String)
  | pointVariant (shown : String)
  /-- A structural point of the legacy schema was to be converted into that schema. -/
  | pointIsLegacy
  | variantsNotMap
  | variantCount (shown : String)
  | checkpointsNotList (path : String)
  | metadatumBytes
  | notMetadatum (found : Json)
  | labelNotWhole (label : String)
  | auxiliaryHashEmpty
  | metadatumJsonMissing (label : Int)
  | unknownMethod (method : String)
  | noVariant (what : String) (variants : List String)
  | rollBackwardPointMissing
  | legacyResultMissing
  | forwardWithoutBlock
  | backwardWithoutPoint
  | unknownDirection (direction : String)
  /-- A document was read under a schema but does not look like one of it. -/
  | otherSchema (schema : Schema) (kind : DocumentKind)
  | rawWithoutSpends
  | incompatible (kind : DocumentKind) (current legacy : DecodeError)
  | incompatibleResult (intersection block : DecodeError)
  | startTimeNotText (found : Json)
  | replyNotJson
  | replyNotObject (found : Kind)
  | submissionReply (found : Json)
  | submissionFailure (found : Json)
deriving DecidableEq

namespace DecodeError

def message : DecodeError → String
  | .unexpected what expected found => s!"{what}: expected {expected.name}, got {found.name}"
  | .truthForNumber what => s!"{what}: expected number, got bool"
  | .notWhole what shown => s!"{what}: expected integer, got {shown}"
  | .invalidUtf8 => "invalid utf-8: *"
  | .invalidJson => "invalid JSON: *"
  | .invalidCbor => "invalid CBOR: *"
  | .numberTooLong => "a whole number has too many digits"
  | .policyNotObject policy => s!"value: policy {Text.quoted policy} is not an object"
  | .amountNotWhole policy name => s!"value: {policy}.{name} is not an integer"
  | .datumNotText found => s!"datums: expecting string, got {found.shown}"
  | .datumNotBytes content => s!"datums: unable to decode string {content}: *"
  | .pointNotUtf8 => "point: invalid utf-8: *"
  | .pointEmpty => "point: empty payload"
  | .pointNotJson content => s!"failed to decode point, {content}: *"
  | .pointVariant shown => s!"point: unknown CBOR variant {shown}"
  | .pointIsLegacy => "point: unexpected PointStructV5"
  | .variantsNotMap => "tagged CBOR: expected map"
  | .variantCount shown => s!"tagged CBOR: expected exactly one variant, got {shown}"
  | .checkpointsNotList path => s!"{path}: expected CBOR array of points"
  | .metadatumBytes => "metadatum bytes: *"
  | .notMetadatum found => s!"can't decode {found.shown} as metadatum"
  | .labelNotWhole label => s!"metadata label {Text.quoted label} is not an integer"
  | .auxiliaryHashEmpty => "auxiliary data: hash is empty"
  | .metadatumJsonMissing label =>
      s!"transaction metadata at label {Text.integerText label} has no json representation " ++
        "(is ogmios running with --metadata-detailed-schema?)"
  | .unknownMethod method => s!"unknown method: '{method}'"
  | .noVariant what variants => s!"{what}: none of " ++ ", ".intercalate variants ++ " present"
  | .rollBackwardPointMissing => "RollBackward: missing point"
  | .legacyResultMissing => "v5 response: missing result"
  | .forwardWithoutBlock => "forward result without block"
  | .backwardWithoutPoint => "backward result without point"
  | .unknownDirection direction =>
      s!"nextBlock result has unknown direction {Text.quoted direction}"
  | .otherSchema schema kind => s!"payload is not a {schema.name} {kind.name}"
  | .rawWithoutSpends => "payload carries raw and no spends"
  | .incompatible kind current legacy =>
      s!"unable to decode {kind.name}: v6: {current.message}; v5: {legacy.message}"
  | .incompatibleResult intersection block =>
      s!"unable to decode result: findIntersection result: {intersection.message}" ++
        s!"; nextBlock result: {block.message}"
  | .startTimeNotText found => s!"startTime: expected string, got {found.shown}"
  | .replyNotJson => "ogmios returned invalid JSON: *"
  | .replyNotObject found => s!"ogmios returned {found.name}, expected object"
  | .submissionReply found => s!"could not parse submit tx response: {found.shown}"
  | .submissionFailure found => s!"SubmitTx failed: {found.shown}"

end DecodeError

abbrev Decoded (α : Type) := Except DecodeError α

end NodeBridge
