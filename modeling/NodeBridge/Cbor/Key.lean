import NodeBridge.Cbor.Item

/-!
Items as keys of maps and members of sets. Numbers are one key if they have the same value,
whatever their kind; maps and sets are one key whatever the order of what they hold. What is
written a second time keeps the place and the form of the first.
-/

namespace NodeBridge.Cbor.Item

/-- The value of a real number. The truth values count as one and zero. -/
def exactValue? : Item → Option Number.Exact
  | .int value => some (.ofInt value)
  | .bool value => some (.ofInt (if value then 1 else 0))
  | .float value => Number.Exact.ofDouble? value
  | .scalar value => value.exactValue?
  | _ => none

/-- Whether two items without parts are one key. A simple value is also the whole number
by which it is known. -/
def sameLeaf : Item → Item → Bool
  | .bytes left, .bytes right => left == right
  | .text left, .text right => left == right
  | .null, .null => true
  | .undefined, .undefined => true
  | .simple left, .simple right => left == right
  | .simple left, right => right.whole? == some (left : Int)
  | left, .simple right => left.whole? == some (right : Int)
  | left, right =>
      match left.exactValue?, right.exactValue? with
      | some leftExact, some rightExact => leftExact.same rightExact
      | _, _ =>
          match left, right with
          | .float left, .float right => left.same right
          | .scalar left, .scalar right => left.same right
          | _, _ => false

mutual

/-- Whether two items are one key. -/
def sameKey : Item → Item → Bool
  | .fixedList left, .fixedList right => sameKeys left right
  | .fixedMap left, .fixedMap right => left.length == right.length && sameEntries left right
  | .fixedSet left, .fixedSet right => left.length == right.length && sameMembers left right
  | .tagged leftTag left, .tagged rightTag right => leftTag == rightTag && sameKey left right
  | left, right => sameLeaf left right

def sameKeys : List Item → List Item → Bool
  | [], [] => true
  | left :: lefts, right :: rights => sameKey left right && sameKeys lefts rights
  | _, _ => false

/-- Whether each of the left entries is one of the right entries. -/
def sameEntries : List (Item × Item) → List (Item × Item) → Bool
  | [], _ => true
  | (key, value) :: lefts, rights =>
      rights.any (fun right => sameKey key right.1 && sameKey value right.2) &&
        sameEntries lefts rights

/-- Whether each of the left members is one of the right members. -/
def sameMembers : List Item → List Item → Bool
  | [], _ => true
  | left :: lefts, rights =>
      rights.any (fun right => sameKey left right) && sameMembers lefts rights

end

/-- Writes one entry of a map. A key that is there already keeps its place and its form. -/
def putEntry (key value : Item) : List (Item × Item) → List (Item × Item)
  | [] => [(key, value)]
  | entry :: rest =>
      if sameKey entry.1 key then (entry.1, value) :: rest else entry :: putEntry key value rest

/-- All entries, written one after the other. -/
def writtenEntries (entries : List (Item × Item)) : List (Item × Item) :=
  entries.foldl (fun map entry => putEntry entry.1 entry.2 map) []

/-- The members of a set, each of them once. Whole numbers stand in ascending order. -/
def members (items : List Item) : List Item :=
  let distinct := items.foldl (fun members item =>
    if members.any fun member => sameKey member item then members else members ++ [item]) []
  if distinct.all fun item => item.whole?.isSome then
    distinct.mergeSort fun left right => left.whole?.getD 0 ≤ right.whole?.getD 0
  else distinct

end NodeBridge.Cbor.Item
