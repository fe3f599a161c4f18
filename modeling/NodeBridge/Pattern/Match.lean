import NodeBridge.Pattern.Syntax

/-!
Matching by backtracking. The first way to match counts: choices are tried from left to
right, a greedy repetition tries one more round first and the other kind tries it last. A
round that takes no character is not followed by another one.
-/

namespace NodeBridge.Pattern

structure Progress where
  /-- How many characters lie behind. -/
  position : Nat
  rest : List Char
  /-- The texts of the groups that took part, the latest first. -/
  groups : List (Nat × List Char)
deriving DecidableEq, Repr

def Progress.step? (progress : Progress) (charClass : CharClass) : Option Progress :=
  match progress.rest with
  | [] => none
  | char :: rest =>
      if charClass.contains char then some { progress with position := progress.position + 1, rest }
      else none

def Progress.remember (progress : Progress) (index : Nat) (since : Progress) : Progress :=
  { progress with groups :=
      (index, since.rest.take (progress.position - since.position)) :: progress.groups }

/-- What is left to match after a part has matched. -/
abbrev Continuation := Progress → Option Progress

/-- Rounds of a repetition. `before` is where the last round beyond the least number began.
Each round spends fuel. -/
def rounds (body : Progress → Continuation → Option Progress) (least : Nat) (most : Option Nat)
    (greedy : Bool) (after : Continuation) :
    (fuel count : Nat) → (before : Option Nat) → Progress → Option Progress
  | 0, _, _, _ => none
  | fuel + 1, count, before, progress =>
      if count < least then
        body progress (rounds body least most greedy after fuel (count + 1) before)
      else
        let more : Bool := (most.all fun most => count < most) && before ≠ some progress.position
        let another := fun (_ : Unit) =>
          if more then
            body progress
              (rounds body least most greedy after fuel (count + 1) (some progress.position))
          else none
        if greedy then
          match another () with
          | some result => some result
          | none => after progress
        else
          match after progress with
          | some result => some result
          | none => another ()

def matchThen : Pattern → Progress → Continuation → Option Progress
  | .empty, progress, after => after progress
  | .oneOf charClass, progress, after =>
      match progress.step? charClass with
      | some next => after next
      | none => none
  | .start, progress, after => if progress.position = 0 then after progress else none
  | .finish, progress, after =>
      if progress.rest = [] ∨ progress.rest = ['\n'] then after progress else none
  | .sequence first second, progress, after =>
      first.matchThen progress fun next => second.matchThen next after
  | .choice first second, progress, after =>
      match first.matchThen progress after with
      | some result => some result
      | none => second.matchThen progress after
  | .group index body, progress, after =>
      body.matchThen progress fun next => after (next.remember index progress)
  | .repetition least most greedy body, progress, after =>
      rounds (fun progress after => body.matchThen progress after) least most greedy
        after (least + progress.rest.length + 2) 0 none progress

/-- The first match that begins at the given place or behind it, with the place where it
begins. -/
def searchFrom (pattern : Pattern) : (position : Nat) → List Char → Option (List Char × Progress)
  | position, [] =>
      (pattern.matchThen ⟨position, [], []⟩ some).map fun result => ([], result)
  | position, char :: rest =>
      match pattern.matchThen ⟨position, char :: rest, []⟩ some with
      | some result =>
          some ((char :: rest).take (result.position - position), result)
      | none => searchFrom pattern (position + 1) rest

def occursIn (pattern : Pattern) (text : String) : Bool :=
  (pattern.searchFrom 0 text.toList).isSome

/-- The text of a group; a group that took no part has an empty one. -/
def Progress.groupText (progress : Progress) (index : Nat) : String :=
  String.ofList ((progress.groups.lookup index).getD [])

/-- The text of the first match and those of all groups. -/
def search (pattern : Pattern) (text : String) : Option (List String) :=
  (pattern.searchFrom 0 text.toList).map fun found =>
    String.ofList found.1 ::
      (List.range pattern.groupCount).map fun index => found.2.groupText (index + 1)

end NodeBridge.Pattern
