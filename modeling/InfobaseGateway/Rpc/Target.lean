/-!
# Request targets

The target of a request is a path, an asterisk, an authority alone, or an absolute address with
scheme and authority. Queries and fragments are no part of the path.
-/

namespace InfobaseGateway

/-- The target of a request. -/
inductive Target
  | asterisk
  | origin (path : String)
  | authority (authority : String)
  | absolute (scheme authority path : String)
  deriving DecidableEq

namespace Target

/-- The path of a target. An authority alone has none. -/
def path : Target → String
  | asterisk => "*"
  | origin path => path
  | authority _ => ""
  | absolute _ _ path => path

/-- Whether a character ends an authority. -/
def endsAuthority (c : Char) : Bool :=
  c = '/' || c = '?' || c = '#'

def isAuthorityChar (c : Char) : Bool :=
  c.isAlphanum || c ∈ "!$&'()*+,-.:;=@[]_~".toList

/-- What has been seen of an authority. -/
structure AuthorityState where
  colons : Nat
  opened : Bool
  closed : Bool
  percent : Bool
  afterAt : Bool

/-- Reads a character of an authority. Brackets hold an address and come once; colons before an at
sign or inside brackets separate no port, and percent signs stand before an at sign only. -/
def AuthorityState.read? (state : AuthorityState) (c : Char) : Option AuthorityState :=
  let state' := { state with afterAt := false }
  if c = ':' then
    if 8 ≤ state.colons then none else some { state' with colons := state.colons + 1 }
  else if c = '[' then
    if state.percent || state.opened then none else some { state' with opened := true }
  else if c = ']' then
    if !state.opened || state.closed then none
    else some { state' with closed := true, colons := 0, percent := false }
  else if c = '@' then some { state' with colons := 0, percent := false, afterAt := true }
  else if c = '%' then some { state' with percent := true }
  else if isAuthorityChar c then some state'
  else none

def isAuthority (text : List Char) : Bool :=
  match text.foldlM AuthorityState.read? ⟨0, false, false, false, false⟩ with
  | none => false
  | some state =>
    state.opened = state.closed && state.colons ≤ 1 && !state.afterAt && !state.percent

def isPathChar (c : Char) : Bool :=
  0x21 ≤ c.toNat && c ∉ "#<>?\x60".toList

def isQueryChar (c : Char) : Bool :=
  0x21 ≤ c.toNat && c ∉ "\"#<>".toList

/-- Reads a path, with a query and a fragment after it. -/
def path? (text : List Char) : Option String :=
  let (path, rest) := text.span fun c => c ≠ '?' && c ≠ '#'
  let query :=
    match rest with
    | '?' :: query => query.takeWhile (· ≠ '#')
    | _ => []
  if path.all isPathChar && query.all isQueryChar then
    some (if path.isEmpty then "/" else String.ofList path)
  else none

def isSchemeChar (c : Char) : Bool :=
  c.isAlphanum || c ∈ "+-.~".toList

/-- The scheme in front of an address, which may be empty, and what follows it. -/
def scheme? (text : List Char) : Option (String × List Char) :=
  match text.span isSchemeChar with
  | (scheme, ':' :: '/' :: '/' :: rest) => some (String.ofList scheme, rest)
  | _ => none

def parse? (text : String) : Option Target :=
  if 65534 < text.utf8ByteSize then none
  else
    match text.toList with
    | [] => none
    | ['*'] => some .asterisk
    | '/' :: rest => (path? ('/' :: rest)).map .origin
    | chars =>
      match scheme? chars with
      | some (scheme, rest) =>
        let (host, rest) := rest.span fun c => !endsAuthority c
        if scheme.length ≤ 64 && !host.isEmpty && isAuthority host then
          (path? rest).map (.absolute scheme (String.ofList host))
        else none
      | none => if isAuthority chars then some (.authority text) else none

/-- The path of a target text. A text that is no target has none. -/
def pathOf (text : String) : String :=
  ((parse? text).map path).getD ""

end Target

end InfobaseGateway
