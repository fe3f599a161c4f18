import NodeBridge.Cbor.Item

/-!
Items inside messages. A container that holds itself is shown once, and dots stand for it
inside. Whole numbers of too many digits cannot be shown.
-/

namespace NodeBridge.Cbor.Item

/-- The dots that stand for a container inside of itself. -/
def dots : Kind → List Char
  | .list => "[...]".toList
  | .object => "\x7b...\x7d".toList
  | _ => "...".toList

def joined : List (List Char) → List Char
  | [] => []
  | [part] => part
  | part :: parts => part ++ ',' :: ' ' :: joined parts

mutual

/-- An item inside a message. -/
def shownChars : Item → List Char
  | .int value => Text.integerDigits value
  | .bytes value => Text.quotedBytes value
  | .text value => Text.quotedChars value.toList
  | .list items => '[' :: joined (shownItems items) ++ [']']
  | .map entries => '\x7b' :: joined (shownEntries entries) ++ ['\x7d']
  | .set [] => "set()".toList
  | .set items => '\x7b' :: joined (shownItems items) ++ ['\x7d']
  | .fixedList [item] => '(' :: shownChars item ++ [',', ')']
  | .fixedList items => '(' :: joined (shownItems items) ++ [')']
  | .fixedMap entries =>
      "frozendict(\x7b".toList ++ joined (shownEntries entries) ++ ['\x7d', ')']
  | .fixedSet [] => "frozenset()".toList
  | .fixedSet items => "frozenset(\x7b".toList ++ joined (shownItems items) ++ ['\x7d', ')']
  | .tagged tag item =>
      "CBORTag(".toList ++ Text.naturalDigits tag ++ ',' :: ' ' :: shownChars item ++ [')']
  | .scalar value => value.shownChars
  | .simple value => "CBORSimpleValue(".toList ++ Text.naturalDigits value ++ [')']
  | .float value => Json.shownFloat value
  | .bool true => "True".toList
  | .bool false => "False".toList
  | .null => "None".toList
  | .undefined => "undefined".toList
  | .cyclic _ item => shownChars item
  | .within _ kind => dots kind

def shownItems : List Item → List (List Char)
  | [] => []
  | item :: items => shownChars item :: shownItems items

def shownEntries : List (Item × Item) → List (List Char)
  | [] => []
  | (key, value) :: entries =>
      (shownChars key ++ ':' :: ' ' :: shownChars value) :: shownEntries entries

end

mutual

def isTooLong : Item → Bool
  | .int value => Text.isTooLong value
  | .list items => anyTooLong items
  | .map entries => anyEntryTooLong entries
  | .set items => anyTooLong items
  | .fixedList items => anyTooLong items
  | .fixedMap entries => anyEntryTooLong entries
  | .fixedSet items => anyTooLong items
  | .tagged _ item => isTooLong item
  | .scalar value => value.isTooLong
  | .cyclic _ item => isTooLong item
  | _ => false

def anyTooLong : List Item → Bool
  | [] => false
  | item :: items => isTooLong item || anyTooLong items

def anyEntryTooLong : List (Item × Item) → Bool
  | [] => false
  | (key, value) :: entries => isTooLong key || isTooLong value || anyEntryTooLong entries

end

def shown (item : Item) : Decoded String :=
  if item.isTooLong then .error .numberTooLong else .ok (String.ofList item.shownChars)

end NodeBridge.Cbor.Item
