import NodeBridge.Json.Basic
import NodeBridge.Number.Notation
import NodeBridge.Text.Quoted

/-!
Values inside messages. The three constants begin with a capital letter, texts stand in
quotes, and a blank follows each comma and colon. A text that makes up the whole of what
is shown may also stand without quotes.
-/

namespace NodeBridge.Json

def shownFloat (number : Binary64) : List Char := Number.Layout.message.chars number

mutual

def shownChars : Json → List Char
  | .null => "None".toList
  | .bool true => "True".toList
  | .bool false => "False".toList
  | .int value => Text.integerDigits value
  | .float value => shownFloat value
  | .text value => Text.quotedChars value.toList
  | .list [] => ['[', ']']
  | .list (item :: items) => '[' :: shownChars item ++ shownItems items
  | .object [] => ['{', '}']
  | .object ((name, value) :: fields) =>
      '{' :: Text.quotedChars name.toList ++ ':' :: ' ' :: shownChars value ++ shownFields fields

def shownItems : List Json → List Char
  | [] => [']']
  | item :: items => ',' :: ' ' :: shownChars item ++ shownItems items

def shownFields : Fields → List Char
  | [] => ['}']
  | (name, value) :: fields =>
      ',' :: ' ' :: Text.quotedChars name.toList ++ ':' :: ' ' :: shownChars value ++
        shownFields fields

end

def shown (value : Json) : String := String.ofList (shownChars value)

/-- A value whose outermost text stands without quotes. -/
def bareShown : Json → String
  | .text value => value
  | value => value.shown

end NodeBridge.Json
