import NodeBridge.Pattern.Syntax

/-!
Reading patterns from their usual notation: the characters `. ^ $ * + ? | ( ) [ ] { }`
have a meaning of their own, and a backslash takes it from them. Groups are numbered in
the order of their opening brackets.
-/

namespace NodeBridge.Pattern

def namedClass? : Char → Option CharClass
  | 'd' => some (.named .digit false)
  | 'D' => some (.named .digit true)
  | 'w' => some (.named .word false)
  | 'W' => some (.named .word true)
  | 's' => some (.named .blank false)
  | 'S' => some (.named .blank true)
  | _ => none

/-- The character that a backslash and a sign stand for. Letters and digits without a
meaning are refused. -/
def escapedSign? (char : Char) : Option Char :=
  match char with
  | 'n' => some '\n'
  | 't' => some '\t'
  | 'r' => some '\r'
  | 'f' => some '\x0c'
  | 'v' => some '\x0b'
  | 'a' => some '\x07'
  | _ => if char.isAlphanum then none else some char

def readClassSign : List Char → Option (ClassItem × List Char)
  | '\\' :: char :: rest =>
      match namedClass? char with
      | some charClass => (charClass.items.head?).map fun item => (item, rest)
      | none => (escapedSign? char).map fun char => (.range char char, rest)
  | char :: rest => some (.range char char, rest)
  | [] => none

/-- The items of a class up to its closing bracket, which does not close it where it comes
first. -/
def readClassItems : (fuel : Nat) → (first : Bool) → List Char →
    Option (List ClassItem × List Char)
  | 0, _, _ => none
  | _ + 1, _, [] => none
  | fuel + 1, first, char :: rest =>
      if char = ']' && !first then some ([], rest)
      else do
        let (low, suffix) ← readClassSign (char :: rest)
        match suffix with
        | '-' :: ']' :: suffix => some ([low, .range '-' '-'], suffix)
        | '-' :: bound => do
            let (high, suffix) ← readClassSign bound
            match low, high with
            | .range low _, .range high _ =>
                if high < low then none
                else do
                  let (items, suffix) ← readClassItems fuel false suffix
                  some (.range low high :: items, suffix)
            | _, _ => none
        | suffix => do
            let (items, suffix) ← readClassItems fuel false suffix
            some (low :: items, suffix)

def readClass (input : List Char) : Option (CharClass × List Char) :=
  match input with
  | '^' :: rest =>
      (readClassItems (rest.length + 1) true rest).map fun found => (⟨true, found.1⟩, found.2)
  | _ =>
      (readClassItems (input.length + 1) true input).map fun found => (⟨false, found.1⟩, found.2)

def readCount (input : List Char) : Option Nat × List Char :=
  match input.takeWhile Char.isDigit with
  | [] => (none, input)
  | digits =>
      (some (digits.foldl (fun value digit => 10 * value + (digit.toNat - '0'.toNat)) 0),
        input.dropWhile Char.isDigit)

/-- The bounds in braces, after the opening one. Anything that does not form bounds leaves
the brace to stand for itself. -/
def readBounds? (input : List Char) : Option ((Nat × Option Nat) × List Char) :=
  match input with
  | '\x7d' :: _ => none
  | _ =>
      match readCount input with
      | (least, ',' :: rest) =>
          match readCount rest with
          | (most, '\x7d' :: suffix) => some ((least.getD 0, most), suffix)
          | _ => none
      | (some count, '\x7d' :: suffix) => some ((count, some count), suffix)
      | _ => none

/-- How often a part is to be repeated, if anything says so. -/
def readRepetition? : List Char → Option ((Nat × Option Nat) × List Char)
  | '*' :: rest => some ((0, none), rest)
  | '+' :: rest => some ((1, none), rest)
  | '?' :: rest => some ((0, some 1), rest)
  | '\x7b' :: rest => readBounds? rest
  | _ => none

/-- A part with its repetition. The start and the end of a text cannot be repeated, and
neither can a repetition. -/
def withRepetition (part : Pattern) (input : List Char) : Option (Pattern × List Char) :=
  match readRepetition? input with
  | none => some (part, input)
  | some ((least, most), rest) =>
      if part = .start ∨ part = .finish ∨ most.any (· < least) then none
      else
        let (greedy, suffix) : Bool × List Char := match rest with
          | '?' :: suffix => (false, suffix)
          | suffix => (true, suffix)
        if (readRepetition? suffix).isSome then none
        else some (.repetition least most greedy part, suffix)

mutual

/-- Choices up to a closing bracket or the end. The number of the next group goes in and
comes out. -/
def readChoice : (fuel next : Nat) → List Char → Option (Pattern × Nat × List Char)
  | 0, _, _ => none
  | fuel + 1, next, input => do
      let (first, next, rest) ← readSequence fuel next input
      match rest with
      | '|' :: rest => do
          let (second, next, suffix) ← readChoice fuel next rest
          some (.choice first second, next, suffix)
      | suffix => some (first, next, suffix)

/-- Parts up to a bar, a closing bracket or the end. -/
def readSequence : (fuel next : Nat) → List Char → Option (Pattern × Nat × List Char)
  | 0, _, _ => none
  | fuel + 1, next, input =>
      match input with
      | [] => some (.empty, next, [])
      | '|' :: rest => some (.empty, next, '|' :: rest)
      | ')' :: rest => some (.empty, next, ')' :: rest)
      | _ => do
          let (part, next, rest) ← readPart fuel next input
          let (part, rest) ← withRepetition part rest
          let (others, next, suffix) ← readSequence fuel next rest
          some (.sequence part others, next, suffix)

/-- One part without its repetition. -/
def readPart : (fuel next : Nat) → List Char → Option (Pattern × Nat × List Char)
  | 0, _, _ => none
  | fuel + 1, next, input =>
      match input with
      | '(' :: '?' :: ':' :: rest => do
          let (body, next, rest) ← readChoice fuel next rest
          match rest with
          | ')' :: suffix => some (body, next, suffix)
          | _ => none
      | '(' :: '?' :: _ => none
      | '(' :: rest => do
          let (body, following, rest) ← readChoice fuel (next + 1) rest
          match rest with
          | ')' :: suffix => some (.group next body, following, suffix)
          | _ => none
      | '[' :: rest => (readClass rest).map fun found => (.oneOf found.1, next, found.2)
      | '.' :: rest => some (.oneOf .any, next, rest)
      | '^' :: rest => some (.start, next, rest)
      | '$' :: rest => some (.finish, next, rest)
      | '*' :: _ => none
      | '+' :: _ => none
      | '?' :: _ => none
      | '\x7b' :: rest =>
          if (readBounds? rest).isSome then none
          else some (.oneOf (.single '\x7b'), next, rest)
      | '\\' :: char :: rest =>
          match namedClass? char with
          | some charClass => some (.oneOf charClass, next, rest)
          | none => (escapedSign? char).map fun char => (.oneOf (.single char), next, rest)
      | ['\\'] => none
      | char :: rest => some (.oneOf (.single char), next, rest)
      | [] => none

end

def ofText? (text : String) : Option Pattern :=
  match readChoice (4 * text.length + 4) 1 text.toList with
  | some (pattern, _, []) => some pattern
  | _ => none

end NodeBridge.Pattern
