import NodeBridge.Text.Integer

/-!
Arguments of a command. Options begin with a dash; long ones may be cut short as long as
one option is meant, and their value may follow an equals sign. Short flags may stand
together. What is no option is an operand, and so is everything after two dashes. Negative
numbers are operands.
-/

namespace NodeBridge.Arguments

inductive Role where
  | help
  | flag
  | text
  | number
deriving DecidableEq, Repr

structure OptionSpec where
  key : String
  names : List String
  role : Role
deriving DecidableEq, Repr

inductive Operands where
  | none
  | one
  | some
  /-- From the first operand on, everything. -/
  | rest
deriving DecidableEq, Repr

structure Grammar where
  options : List OptionSpec
  operands : Operands

/-- Why the arguments are not taken. -/
inductive Stop where
  | help
  | misuse
deriving DecidableEq, Repr

/-- An option as it was met: its specification, the name that was meant, and what followed
the name in the same argument. -/
structure Found where
  spec : OptionSpec
  name : List Char
  tail : List Char

inductive Mark where
  | operand
  | dashes
  /-- An option, unless it is unknown. -/
  | option (found : Option Found)

inductive Setting where
  | flag
  | text (value : String)
  | number (value : Int)
deriving DecidableEq, Repr

structure Parsed where
  settings : List (String × Setting)
  /-- The operands, once they are met. -/
  operands : Option (List String)
  /-- Whether there are arguments that nothing takes. -/
  surplus : Bool

def startsWith : List Char → List Char → Bool
  | [], _ => true
  | _ :: _, [] => false
  | first :: start, char :: chars => first == char && startsWith start chars

def names (grammar : Grammar) : List (List Char × OptionSpec) :=
  grammar.options.flatMap fun spec => spec.names.map fun name => (name.toList, spec)

def named (grammar : Grammar) (name : List Char) : Option OptionSpec :=
  (names grammar).lookup name

/-- What stands before the first equals sign, and the rest from that sign on. -/
def splitValue (chars : List Char) : List Char × List Char :=
  (chars.takeWhile (· ≠ '='), chars.dropWhile (· ≠ '='))

def candidates (grammar : Grammar) : List Char → List Found
  | '-' :: '-' :: rest =>
      let (start, tail) := splitValue ('-' :: '-' :: rest)
      ((names grammar).filter fun entry => startsWith start entry.1).map fun entry =>
        ⟨entry.2, entry.1, tail⟩
  | '-' :: char :: rest =>
      (names grammar).filterMap fun entry =>
        if entry.1 = ['-', char] then some ⟨entry.2, entry.1, rest⟩
        else if startsWith ('-' :: char :: rest) entry.1 then some ⟨entry.2, entry.1, []⟩
        else none
  | _ => []

def isDigit (char : Char) : Bool := (Text.digitValue? char).isSome

/-- Whether an argument after its dash is a number, perhaps with a point in it. -/
def isUnsigned (chars : List Char) : Bool :=
  let whole := chars.takeWhile isDigit
  match chars.dropWhile isDigit with
  | [] => !whole.isEmpty
  | ['\n'] => !whole.isEmpty
  | '.' :: fraction =>
      let places := fraction.takeWhile isDigit
      !places.isEmpty && (fraction.drop places.length).all (· = '\n') &&
        (fraction.drop places.length).length ≤ 1
  | _ => false

/-- How an argument counts that begins with a dash and is not the name of an option. -/
def markOther (grammar : Grammar) (chars : List Char) : Except Stop Mark :=
  match candidates grammar chars with
  | [found] => .ok (.option (some found))
  | _ :: _ :: _ => .error .misuse
  | [] =>
      if isUnsigned chars.tail || chars.contains ' ' then .ok .operand
      else .ok (.option none)

/-- How an argument counts before any two dashes. -/
def markOf (grammar : Grammar) (chars : List Char) : Except Stop Mark :=
  match chars with
  | '-' :: _ :: _ =>
      let (name, tail) := splitValue chars
      match named grammar name with
      | some spec => .ok (.option (some ⟨spec, name, tail⟩))
      | none => markOther grammar chars
  | _ => .ok .operand

def markAll (grammar : Grammar) : List String → Except Stop (List (String × Mark))
  | [] => .ok []
  | argument :: arguments =>
      if argument = "--" then
        .ok ((argument, .dashes) :: arguments.map fun operand => (operand, .operand))
      else do
        let mark ← markOf grammar argument.toList
        let marks ← markAll grammar arguments
        .ok ((argument, mark) :: marks)

def isOption : Mark → Bool
  | .option _ => true
  | _ => false

def isDashes : Mark → Bool
  | .dashes => true
  | _ => false

/-- Drops the first two dashes. -/
def dropDashes (arguments : List String) : List String := arguments.erase "--"

def takeOperands (operands : Operands) (marked : List (String × Mark)) :
    Option (List String × List (String × Mark)) :=
  let lead := marked.takeWhile fun entry => isDashes entry.2
  match marked.drop lead.length with
  | [] => none
  | first :: rest =>
      if isOption first.2 then none
      else
        match operands with
        | .none => none
        | .one =>
            let trail := rest.takeWhile fun entry => isDashes entry.2
            some (dropDashes ((lead ++ first :: trail).map Prod.fst), rest.drop trail.length)
        | .some =>
            let more := rest.takeWhile fun entry => !isOption entry.2
            some (dropDashes ((lead ++ first :: more).map Prod.fst), rest.drop more.length)
        | .rest => some (marked.map Prod.fst, [])

def Parsed.set (parsed : Parsed) (key : String) (setting : Setting) : Parsed :=
  { parsed with settings := (key, setting) :: parsed.settings }

/-- Carries out an option that takes no value. -/
def raise (parsed : Parsed) (spec : OptionSpec) : Except Stop Parsed :=
  match spec.role with
  | .help => .error .help
  | .flag => .ok (parsed.set spec.key .flag)
  | _ => .error .misuse

def assign (parsed : Parsed) (spec : OptionSpec) (value : String) : Except Stop Parsed :=
  match spec.role with
  | .text => .ok (parsed.set spec.key (.text value))
  | .number =>
      match Text.readInteger value.toList with
      | some number => .ok (parsed.set spec.key (.number number))
      | none => .error .misuse
  | _ => .error .misuse

def takesValue (spec : OptionSpec) : Bool := spec.role = .text || spec.role = .number

/-- The options of one argument. Flags may stand in front of the last option, which may
have come with a value. A letter that stands for no option ends them. -/
structure Unfolded where
  flags : List OptionSpec
  last : Option (OptionSpec × Option (List Char))

/-- The value that follows the name of an option, with or without an equals sign. -/
def valueOf : List Char → List Char
  | '=' :: value => value
  | value => value

/-- The short options of an argument, from one of them and what follows it. -/
def cluster (grammar : Grammar) (spec : OptionSpec) : List Char → Except Stop Unfolded
  | [] => .ok ⟨[], some (spec, none)⟩
  | char :: rest =>
      if takesValue spec then .ok ⟨[], some (spec, some (valueOf (char :: rest)))⟩
      else if char = '=' ∨ char = '-' then .error .misuse
      else
        match named grammar ['-', char] with
        | none => .ok ⟨[spec], none⟩
        | some next => do
            let more ← cluster grammar next rest
            .ok { more with flags := spec :: more.flags }

def isLong : List Char → Bool
  | '-' :: '-' :: _ => true
  | _ => false

/-- The options of one argument. A long flag takes nothing behind its name. -/
def unfold (grammar : Grammar) (found : Found) : Except Stop Unfolded :=
  if isLong found.name && !takesValue found.spec && !found.tail.isEmpty then .error .misuse
  else cluster grammar found.spec found.tail

def raiseAll (parsed : Parsed) : List OptionSpec → Except Stop Parsed
  | [] => .ok parsed
  | spec :: specs => do raiseAll (← raise parsed spec) specs

/-- Goes through the marked arguments. Each step takes one of them at least. -/
def walk (grammar : Grammar) : Nat → Parsed → List (String × Mark) → Except Stop Parsed
  | 0, parsed, _ => .ok parsed
  | _ + 1, parsed, [] => .ok parsed
  | fuel + 1, parsed, (argument, mark) :: rest =>
      match mark with
      | .option none => walk grammar fuel { parsed with surplus := true } rest
      | .option (some found) => do
          let unfolded ← unfold grammar found
          match unfolded.last, rest with
          | none, _ =>
              let raised ← raiseAll parsed unfolded.flags
              walk grammar fuel { raised with surplus := true } rest
          | some (last, some value), _ =>
              let raised ← raiseAll parsed unfolded.flags
              walk grammar fuel (← assign raised last (String.ofList value)) rest
          | some (last, none), others =>
              if takesValue last then
                match others with
                | (next, .operand) :: others =>
                    let raised ← raiseAll parsed unfolded.flags
                    walk grammar fuel (← assign raised last next) others
                | _ => .error .misuse
              else walk grammar fuel (← raiseAll parsed (unfolded.flags ++ [last])) others
      | _ =>
          match parsed.operands, takeOperands grammar.operands ((argument, mark) :: rest) with
          | none, some (operands, others) =>
              walk grammar fuel { parsed with operands := some operands } others
          | _, _ => walk grammar fuel { parsed with surplus := true } rest

/-- Whether operands that have to be there are missing. -/
def isIncomplete (grammar : Grammar) (parsed : Parsed) : Bool :=
  grammar.operands ≠ .none && parsed.operands.isNone

def parse (grammar : Grammar) (arguments : List String) : Except Stop Parsed := do
  let marked ← markAll grammar arguments
  let parsed ← walk grammar (marked.length + 1) ⟨[], none, false⟩ marked
  if isIncomplete grammar parsed then .error .misuse else .ok parsed

namespace Parsed

def has (parsed : Parsed) (key : String) : Bool := (parsed.settings.lookup key).isSome

def text? (parsed : Parsed) (key : String) : Option String :=
  match parsed.settings.lookup key with
  | some (.text value) => some value
  | _ => none

def number? (parsed : Parsed) (key : String) : Option Int :=
  match parsed.settings.lookup key with
  | some (.number value) => some value
  | _ => none

end Parsed

end NodeBridge.Arguments
