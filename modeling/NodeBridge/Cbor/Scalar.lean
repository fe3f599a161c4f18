import NodeBridge.Decode.Error
import NodeBridge.Number.Scaled
import NodeBridge.Time.Moment

/-!
Values that have no parts and that only a tag can say: moments and days, numbers that are
no doubles, identifiers, patterns, mails and addresses.
-/

namespace NodeBridge.Cbor

inductive Scalar where
  | moment (value : Moment)
  | date (value : Date)
  | decimal (value : Number.Scaled)
  /-- A quotient in lowest terms. -/
  | fraction (numerator : Int) (denominator : Nat)
  | complex (real imaginary : Binary64)
  | uuid (bytes : Bytes)
  | pattern (source : String)
  /-- A mail, of which only whether it has headers is kept. -/
  | mail (hasHeaders : Bool)
  | address (value : Address)
  | network (value : Network)
  | networkAddress (value : Network)
deriving Inhabited

namespace Scalar

def kind : Scalar → Kind
  | .moment _ => .moment
  | .date _ => .date
  | .decimal _ => .decimal
  | .fraction _ _ => .fraction
  | .complex _ _ => .complex
  | .uuid _ => .uuid
  | .pattern _ => .pattern
  | .mail _ => .mail
  | .address value => .address value.form
  | .network value => .network value.address.form
  | .networkAddress value => .networkAddress value.address.form

/-- Whether a value is worth nothing: a zero, or a mail without headers. -/
def isVoid : Scalar → Bool
  | .decimal value => value.isZero
  | .fraction numerator _ => numerator = 0
  | .complex real imaginary => real.magnitude = 0 && imaginary.magnitude = 0
  | .mail hasHeaders => !hasHeaders
  | _ => false

def exactValue? : Scalar → Option Number.Exact
  | .decimal value => some value.exact
  | .fraction numerator denominator => some ⟨numerator, denominator, 0⟩
  | .complex real imaginary =>
      if imaginary.magnitude = 0 then Number.Exact.ofDouble? real else none
  | _ => none

/-- Whether two values that are no real numbers are one. Each mail is one of its own. -/
def same : Scalar → Scalar → Bool
  | .moment left, .moment right => left.same right
  | .date left, .date right => left == right
  | .complex real imaginary, .complex otherReal otherImaginary =>
      real.same otherReal && imaginary.same otherImaginary
  | .uuid left, .uuid right => left == right
  | .pattern left, .pattern right => left == right
  | .address left, .address right => left == right
  | .network left, .network right => left == right
  | .networkAddress left, .networkAddress right => left == right
  | _, _ => false

/-- Whether the value inside a message would have a whole number of too many digits. -/
def isTooLong : Scalar → Bool
  | .fraction numerator denominator =>
      Text.isTooLong numerator || Text.isTooLong denominator
  | _ => false

/-- A double as part of a complex number: a fraction of zero is left out. -/
def partChars (number : Binary64) : List Char :=
  let chars := Json.shownFloat number
  if chars.drop (chars.length - 2) = ['.', '0'] then chars.take (chars.length - 2) else chars

def complexChars (real imaginary : Binary64) : List Char :=
  if real.magnitude = 0 ∧ !real.isNegative then partChars imaginary ++ ['j']
  else
    let size := partChars imaginary
    let signed := if size.head? = some '-' then size else '+' :: size
    '(' :: partChars real ++ signed ++ ['j', ')']

/-- The digits of an identifier in groups of four, two, two, two and six bytes. -/
def uuidChars (bytes : Bytes) : List Char :=
  let digits := (Text.encodeHex bytes).toList
  digits.take 8 ++ '-' :: (digits.drop 8).take 4 ++ '-' :: (digits.drop 12).take 4 ++
    '-' :: (digits.drop 16).take 4 ++ '-' :: digits.drop 20

/-- A name with a text in quotes behind it. -/
def namedChars (name : String) (chars : List Char) : List Char :=
  name.toList ++ '(' :: '\'' :: chars ++ ['\'', ')']

/-- A value inside a message. -/
def shownChars : Scalar → List Char
  | .moment value => value.shownChars
  | .date value => value.shownChars
  | .decimal value => value.shownChars
  | .fraction numerator denominator =>
      "Fraction(".toList ++ Text.integerDigits numerator ++ ',' :: ' ' ::
        Text.naturalDigits denominator ++ [')']
  | .complex real imaginary => complexChars real imaginary
  | .uuid bytes => namedChars "UUID" (uuidChars bytes)
  | .pattern source =>
      "re.compile(".toList ++ (Text.quotedChars source.toList).take 200 ++ [')']
  | .mail _ => "<email.message.Message object>".toList
  | .address value => namedChars (Kind.address value.form).name value.chars
  | .network value => namedChars (Kind.network value.address.form).name value.chars
  | .networkAddress value => namedChars (Kind.networkAddress value.address.form).name value.chars

end Scalar

end NodeBridge.Cbor
