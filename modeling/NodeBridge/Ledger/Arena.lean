import NodeBridge.Ledger.Value

/-!
Values in memory. A value leads from each of its policies to a cell with the amounts under that
policy, and cells may be shared, by two values or by two policies of one value. A sum is made in
place: a copy of the left value, with cells of its own, takes up the amounts of the right value
one by one.
-/

namespace NodeBridge

/-- Cells and values, each named by its number. -/
structure Arena where
  cells : List Holdings
  values : List (OrderedMap String Nat)
deriving DecidableEq

namespace Arena

/-- What stands in a cell. -/
def holdings (arena : Arena) (cell : Nat) : Holdings := arena.cells.getD cell OrderedMap.empty

/-- The cells of a value, by policy. -/
def layout (arena : Arena) (value : Nat) : OrderedMap String Nat :=
  arena.values.getD value OrderedMap.empty

/-- The amounts of a value, at this moment. -/
def read (arena : Arena) (value : Nat) : Value := ⟨(arena.layout value).map arena.holdings⟩

/-- Gives a value a new cell for a policy. -/
def attach (arena : Arena) (value : Nat) (policy : String) (holdings : Holdings) : Arena where
  cells := arena.cells ++ [holdings]
  values := arena.values.set value ((arena.layout value).insert policy arena.cells.length)

/-- A new value with a copy of each cell of another. -/
def copy (arena : Arena) (value : Nat) : Arena :=
  (arena.layout value).entries.foldl
    (fun grown entry => grown.attach arena.values.length entry.1 (grown.holdings entry.2))
    { arena with values := arena.values ++ [OrderedMap.empty] }

/-- Adds to one amount in a cell. -/
def increase (arena : Arena) (cell : Nat) (name : String) (amount : Int) : Arena :=
  let held := arena.holdings cell
  { arena with
    cells := arena.cells.set cell (held.insert name ((held.find? name).getD 0 + amount)) }

/-- Adds to one amount of a value, which gets an empty cell if it has none for the policy. -/
def deposit (arena : Arena) (value : Nat) (policy name : String) (amount : Int) : Arena :=
  match (arena.layout value).find? policy with
  | some cell => arena.increase cell name amount
  | none =>
      (arena.attach value policy OrderedMap.empty).increase arena.cells.length name amount

/-- Takes up the amounts of one cell into a value. -/
def takeUp (arena : Arena) (sign : Int) (value : Nat) (entry : String × Nat) : Arena :=
  (arena.holdings entry.2).entries.foldl
    (fun grown asset => grown.deposit value entry.1 asset.1 (sign * asset.2)) arena

/-- Makes the sum or the difference of two values. It is the value that comes after all others. -/
def combine (arena : Arena) (sign : Int) (left right : Nat) : Arena :=
  let copied := arena.copy left
  (copied.layout right).entries.foldl
    (fun grown entry => grown.takeUp sign arena.values.length entry) copied

end Arena

end NodeBridge
