import NodeBridge.Text.Integer

/-!
References to outputs of transactions: the hash of the transaction, a number sign and the
index of the output.
-/

namespace NodeBridge

structure OutputReference where
  text : String
deriving DecidableEq, Repr

namespace OutputReference

def ofParts (hash : String) (index : Int) : OutputReference :=
  ⟨hash ++ "#" ++ Text.integerText index⟩

/-- What stands before and after the first number sign, unless there is none or nothing
stands before it. -/
def parts? (reference : OutputReference) : Option (List Char × List Char) :=
  let chars := reference.text.toList
  match chars.takeWhile (· ≠ '#'), chars.dropWhile (· ≠ '#') with
  | hash, _ :: index => if hash = [] then none else some (hash, index)
  | _, [] => none

/-- The hash of the transaction, empty if the reference has none. -/
def hash (reference : OutputReference) : String :=
  match reference.parts? with
  | some (hash, _) => String.ofList hash
  | none => ""

/-- The index of the output, or minus one if the reference has none. -/
def index (reference : OutputReference) : Int :=
  match reference.parts? with
  | some (_, index) => (Text.readInteger index).getD (-1)
  | none => -1

end OutputReference

end NodeBridge
