import NodeBridge.Text.CharClass
import NodeBridge.Text.Word

/-!
Patterns of text: characters of some class, sequences, choices, repetitions and numbered
groups.
-/

namespace NodeBridge.Pattern

inductive NamedClass where
  | digit
  | word
  | blank
deriving DecidableEq, Repr

def NamedClass.contains : NamedClass → Char → Bool
  | .digit, char => (Text.digitValue? char).isSome
  | .word, char => Text.isWord char
  | .blank, char => Text.isBlank char

inductive ClassItem where
  | range (low high : Char)
  | named (name : NamedClass) (inverted : Bool)
deriving DecidableEq, Repr

def ClassItem.contains : ClassItem → Char → Bool
  | .range low high, char => low ≤ char && char ≤ high
  | .named name inverted, char => name.contains char != inverted

structure CharClass where
  inverted : Bool
  items : List ClassItem
deriving DecidableEq, Repr

def CharClass.contains (charClass : CharClass) (char : Char) : Bool :=
  charClass.items.any (fun item => item.contains char) != charClass.inverted

/-- The class of one character. -/
def CharClass.single (char : Char) : CharClass := ⟨false, [.range char char]⟩

def CharClass.any : CharClass := ⟨true, [.range '\n' '\n']⟩

def CharClass.named (name : NamedClass) (inverted : Bool) : CharClass :=
  ⟨false, [.named name inverted]⟩

end Pattern

inductive Pattern where
  | empty
  | oneOf (charClass : Pattern.CharClass)
  | start
  /-- Only at the end of the text, or before a line feed that ends it. -/
  | finish
  | sequence (first second : Pattern)
  | choice (first second : Pattern)
  | group (index : Nat) (body : Pattern)
  /-- From `least` to `most` times, as often as possible if it is greedy, else as seldom
  as possible. -/
  | repetition (least : Nat) (most : Option Nat) (greedy : Bool) (body : Pattern)
deriving DecidableEq, Repr

namespace Pattern

def groupCount : Pattern → Nat
  | .sequence first second => first.groupCount + second.groupCount
  | .choice first second => first.groupCount + second.groupCount
  | .group _ body => body.groupCount + 1
  | .repetition _ _ _ body => body.groupCount
  | _ => 0

end NodeBridge.Pattern
