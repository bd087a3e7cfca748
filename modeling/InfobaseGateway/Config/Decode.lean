import InfobaseGateway.Config.Tree

/-!
# Reading trees as settings

A setting is read from a tree, or there is a fault with a place. Of several faults in a record the
one under the least key counts, and a missing member counts only if there is no other fault. A
record may also be written as the list of its members.
-/

namespace InfobaseGateway.Config

/-- What can be wrong with a tree. -/
inductive Problem
  | invalidType
  | invalidValue
  | invalidLength
  | missingField
  | unknownVariant
  /-- The file is not a dictionary in the language of the file. -/
  | unreadable
  deriving DecidableEq

/-- A problem and the path of keys and positions to it. A missing member is placed at its record. -/
structure Fault where
  problem : Problem
  path : List String
  deriving DecidableEq

/-- The result of reading a tree. -/
abbrev Decoded (α : Type) : Type :=
  Except Fault α

/-- A problem right here. -/
def fail {α : Type} (problem : Problem) : Decoded α :=
  .error ⟨problem, []⟩

/-- Places the fault of a part. -/
def Decoded.under {α : Type} (segment : String) (result : Decoded α) : Decoded α :=
  result.mapError fun fault => { fault with path := segment :: fault.path }

namespace Decode

variable {α β : Type}

def text : ConfigTree → Decoded String
  | .text value => .ok value
  | .character value => .ok value.toString
  | _ => fail .invalidType

/-- Reads a natural number below `2 ^ bits`. A number that no machine word holds is of no known
type. -/
def unsigned (bits : Nat) : ConfigTree → Decoded Nat
  | .integer n =>
    if n < -(UInt64.size / 2 : Nat) ∨ UInt64.size ≤ n then fail .invalidType
    else if n < 0 ∨ Nat.pow 2 bits ≤ n then fail .invalidValue
    else .ok n.toNat
  | _ => fail .invalidType

/-- Reads a value that may be null. -/
def optional (decode : ConfigTree → Decoded α) : ConfigTree → Decoded (Option α)
  | .null => .ok none
  | tree => some <$> decode tree

/-- Reads list items, of which the first has the given position. -/
def items (decode : ConfigTree → Decoded α) (position : Nat) : List ConfigTree → Decoded (List α)
  | [] => .ok []
  | tree :: trees => do
    let value ← (decode tree).under (toString position)
    let values ← items decode (position + 1) trees
    return value :: values

def list (decode : ConfigTree → Decoded α) : ConfigTree → Decoded (List α)
  | .list trees => items decode 0 trees
  | _ => fail .invalidType

/-- Reads one of the given names, with the content that a dictionary gives it. A character is no
name. -/
def variant (names : List String) : ConfigTree → Decoded (String × Option ConfigTree)
  | .text name => if name ∈ names then .ok (name, none) else fail .unknownVariant
  | .dict entries =>
    match ConfigTree.first? entries with
    | none => fail .invalidType
    | some (name, content) =>
      if name ∈ names then .ok (name, some content)
      else (fail .unknownVariant : Decoded _).under name
  | _ => fail .invalidType

end Decode

/-- What is wrong with the members of a record. -/
inductive Defect
  | missing
  | under (key : String) (fault : Fault)

namespace Defect

/-- The defect that counts. -/
def first : Defect → Defect → Defect
  | under a faultA, under b faultB => if b < a then under b faultB else under a faultA
  | under a fault, missing => under a fault
  | missing, other => other

/-- A defect as a fault of its record. -/
def fault : Defect → Fault
  | missing => ⟨.missingField, []⟩
  | under key fault => { fault with path := key :: fault.path }

end Defect

/-- Where the reading of a list of members has come to. -/
structure Remaining where
  position : Nat
  trees : List ConfigTree

/-- Reads some members of a record, by their keys or in their order. -/
structure Fields (α : Type) where
  ofEntries : ConfigEntries → Except Defect α
  ofList : Remaining → Decoded (α × Remaining)

namespace Fields

variable {α β : Type}

/-- Reads no member. -/
def pure (value : α) : Fields α where
  ofEntries _ := .ok value
  ofList remaining := .ok (value, remaining)

/-- Reads the members of both. -/
def seq (first : Fields (α → β)) (second : Fields α) : Fields β where
  ofEntries entries :=
    match first.ofEntries entries, second.ofEntries entries with
    | .ok build, .ok value => .ok (build value)
    | .ok _, .error defect => .error defect
    | .error defect, .ok _ => .error defect
    | .error a, .error b => .error (a.first b)
  ofList remaining := do
    let (build, remaining) ← first.ofList remaining
    let (value, remaining) ← second.ofList remaining
    return (build value, remaining)

instance : Pure Fields := ⟨pure⟩

instance : Seq Fields := ⟨fun first second => seq first (second ())⟩

instance : Functor Fields where
  map build fields := seq (pure build) fields

/-- Reads one member; `fallback` says what an absent one means. -/
def member (key : String) (decode : ConfigTree → Decoded α) (fallback : Option α) : Fields α where
  ofEntries entries :=
    match entries.lookup key, fallback with
    | some tree, _ => (decode tree).mapError (.under key)
    | none, some value => .ok value
    | none, none => .error .missing
  ofList remaining :=
    match remaining.trees, fallback with
    | tree :: trees, _ => do
      let value ← (decode tree).under (toString remaining.position)
      return (value, ⟨remaining.position + 1, trees⟩)
    | [], some value => .ok (value, remaining)
    | [], none => fail .invalidLength

/-- Reads a member that has to be there. -/
def required (key : String) (decode : ConfigTree → Decoded α) : Fields α :=
  member key decode none

/-- Reads a member that has a value when it is not there. -/
def defaulted (key : String) (decode : ConfigTree → Decoded α) (value : α) : Fields α :=
  member key decode (some value)

/-- Reads a member that may be null or not there. -/
def optional (key : String) (decode : ConfigTree → Decoded α) : Fields (Option α) :=
  member key (Decode.optional decode) (some none)

/-- Reads a record. Members that nobody asks for are passed over. -/
def decode (fields : Fields α) : ConfigTree → Decoded α
  | .dict entries => (fields.ofEntries entries).mapError Defect.fault
  | .list trees => (fields.ofList ⟨0, trees⟩).map (·.1)
  | _ => fail .invalidType

end Fields

end InfobaseGateway.Config
