/-!
# Request targets

What a request may name as its target: a path with a query, the same behind a scheme and an
authority, an authority alone, or an asterisk.  Of a fragment nothing is kept.

* `authorityLength?` and `pathAndQuery?` check the parts.
* `Uri.ofText?` reads a whole target.
* `Uri.lookupPath` and `Uri.resource` are what a server and a client make of one.
-/

namespace SignalRelay

/-- A request target. -/
structure Uri where
  scheme : Option (List Char)
  authority : List Char
  path : List Char
  query : Option (List Char)
  deriving DecidableEq, Repr

namespace Uri

/-- The most octets that a target may have. -/
def maxLength : Nat := 65534

def maxSchemeLength : Nat := 64

def isSchemeChar (c : Char) : Bool := c.isAlphanum || c == '+' || c == '-' || c == '.' || c == '~'

/-- The characters of an authority, the percent sign apart. -/
def isAuthorityChar (c : Char) : Bool :=
  c.isAlphanum || "!$&'()*+,-.:;=@[]_~".toList.contains c

def endsAuthority (c : Char) : Bool := c == '/' || c == '?' || c == '#'

/-- What has been seen of an authority. -/
structure AuthorityScan where
  colons : Nat
  opened : Bool
  closed : Bool
  percent : Bool
  lastAt : Bool

/-- Goes over one character of an authority.  What stands in front of an at sign or inside brackets
may hold more than a host and a port number may. -/
def AuthorityScan.step (s : AuthorityScan) (c : Char) : Option AuthorityScan :=
  let next := { s with lastAt := c == '@' }
  if c = ':' then if 8 ≤ s.colons then none else some { next with colons := s.colons + 1 }
  else if c = '[' then if s.percent || s.opened then none else some { next with opened := true }
  else if c = ']' then
    if !s.opened || s.closed then none else some { next with closed := true, colons := 0, percent := false }
  else if c = '@' then some { next with colons := 0, percent := false }
  else if c = '%' then some { next with percent := true }
  else if isAuthorityChar c then some next
  else none

/-- The number of characters of the authority at the front of a text, if there can be one. -/
def authorityLength? (cs : List Char) : Option Nat := do
  let authority := cs.takeWhile (!endsAuthority ·)
  let s ← authority.foldlM AuthorityScan.step ⟨0, false, false, false, false⟩
  if s.opened != s.closed || 1 < s.colons || s.lastAt || s.percent then none else some authority.length

/-- The characters that can be seen, and any beyond ASCII: all but the blank and the controls. -/
def isVisible (c : Char) : Bool := 0x21 ≤ c.toNat && c.toNat != 0x7F

/-- The characters that may stand in a path: the visible ones but a few. -/
def isPathChar (c : Char) : Bool := isVisible c && !(['#', '<', '>', '?', '\x60'].contains c)

def isQueryChar (c : Char) : Bool := isVisible c && !(['"', '#', '<', '>'].contains c)

/-- The path and the query of a text, up to a fragment. -/
def pathAndQuery? (cs : List Char) : Option (List Char × Option (List Char)) :=
  let path := cs.takeWhile fun c => c ≠ '?' && c ≠ '#'
  if path.all isPathChar then
    match cs.drop path.length with
    | '?' :: rest =>
      let query := rest.takeWhile (· ≠ '#')
      if query.all isQueryChar then some (path, some query) else none
    | _ => some (path, none)
  else none

/-- The scheme that a text begins with: its length, if there is one.  Nothing if it is too long. -/
def schemeLength? (cs : List Char) : Option (Option Nat) :=
  let scheme := cs.takeWhile isSchemeChar
  match cs.drop scheme.length with
  | ':' :: '/' :: '/' :: _ =>
    if 3 < cs.length then
      if maxSchemeLength < scheme.length then none else some (some scheme.length)
    else some none
  | _ => some none

/-- A target that begins with no slash and has more than one character. -/
def ofFull? (cs : List Char) : Option Uri := do
  match ← schemeLength? cs with
  | none =>
    let n ← authorityLength? cs
    if n = cs.length then some ⟨none, cs, [], none⟩ else none
  | some schemeLength =>
    let rest := cs.drop (schemeLength + 3)
    let n ← authorityLength? rest
    if n = 0 then none
    else
      let (path, query) ← pathAndQuery? (rest.drop n)
      some ⟨some (cs.take schemeLength), rest.take n, path, query⟩

def ofAuthority? (cs : List Char) : Option Uri := do
  let n ← authorityLength? cs
  if n = cs.length then some ⟨none, cs, [], none⟩ else none

def ofText? (s : String) : Option Uri :=
  if maxLength < s.utf8ByteSize then none
  else
    match s.toList with
    | [] => none
    | ['/'] => some ⟨none, [], ['/'], none⟩
    | ['*'] => some ⟨none, [], ['*'], none⟩
    | [c] => ofAuthority? [c]
    | '/' :: rest => do
      let (path, query) ← pathAndQuery? ('/' :: rest)
      some ⟨none, [], path, query⟩
    | cs => ofFull? cs

/-- The path under which a target is looked up.  Behind a scheme a missing path is the root; an
authority alone has none. -/
def lookupPath (uri : Uri) : List Char :=
  if uri.path.isEmpty && uri.scheme.isSome then ['/'] else uri.path

/-- What a client asks a host for: the path and the query, or the root if there is neither. -/
def resource (uri : Uri) : List Char :=
  match uri.path, uri.query with
  | [], none => ['/']
  | path, none => path
  | path, some query => path ++ '?' :: query

end Uri

end SignalRelay
