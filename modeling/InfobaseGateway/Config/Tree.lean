/-!
# Configuration trees

What a configuration file and the environment say, before it is read as a configuration. Trees are
merged key by key: where both have a value, dictionaries are merged and everything else is replaced.
-/

namespace InfobaseGateway

/-- A configuration tree. A decimal is kept as it is written, since no setting is one. -/
inductive ConfigTree
  | null
  | flag (value : Bool)
  | integer (value : Int)
  | decimal (spelling : String)
  | text (value : String)
  /-- A character, which is a text too. -/
  | character (value : Char)
  | list (items : List ConfigTree)
  | dict (entries : List (String × ConfigTree))
  deriving Inhabited

/-- The entries of a dictionary. -/
abbrev ConfigEntries := List (String × ConfigTree)

namespace ConfigTree

/-- Puts a value under a key, in place of the one that is there. -/
def put (key : String) (value : ConfigTree) : ConfigEntries → ConfigEntries
  | [] => [(key, value)]
  | entry :: entries =>
    if entry.1 = key then (key, value) :: entries else entry :: put key value entries

/-- The dictionary of the given entries, of which a later one replaces an earlier one. -/
def ofEntries (entries : ConfigEntries) : ConfigTree :=
  .dict (entries.foldl (fun all entry => put entry.1 entry.2 all) [])

/-- The entry with the least key. -/
def first? : ConfigEntries → Option (String × ConfigTree)
  | [] => none
  | entry :: entries =>
    match first? entries with
    | some other => if other.1 < entry.1 then some other else some entry
    | none => some entry

mutual

/-- A tree with another one laid over it. -/
def merge (base : ConfigTree) : ConfigTree → ConfigTree
  | .dict upper =>
    match base with
    | .dict entries => .dict (mergeEntries entries upper)
    | _ => .dict upper
  | upper => upper

/-- The entries of a dictionary with others laid over them. -/
def mergeEntries (base : ConfigEntries) : List (String × ConfigTree) → ConfigEntries
  | [] => base
  | (key, value) :: upper =>
    let merged :=
      match base.lookup key with
      | some below => below.merge value
      | none => value
    mergeEntries (put key merged base) upper

end

/-- A tree that holds a value at the end of a path of keys. -/
def nest (value : ConfigTree) : (path : List String) → ConfigTree
  | [] => value
  | key :: path => .dict [(key, nest value path)]

end ConfigTree

end InfobaseGateway
