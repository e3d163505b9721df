import SignalRelay.Json.Reader

/-!
# Passing over JSON values

A value that nobody wants is passed over without being built.  This is laxer than reading it: any
depth of nesting is allowed, surrogates need not come in pairs and numbers may be of any size.

`skip` keeps the closing brackets that are still to come on a stack, so that it needs no recursion
on the nesting.
-/

namespace SignalRelay.Json

/-- A string from behind its opening quote, taking at most `fuel` characters. -/
def skipStringChars : Nat → List Char → Except Fault (List Char)
  | 0, _ => .error .truncated
  | _ + 1, [] => .error .truncated
  | fuel + 1, c :: rest =>
    if c = '"' then .ok rest
    else if c = '\\' then
      match rest with
      | [] => .error .truncated
      | e :: rest =>
        if (simpleEscape? e).isSome then skipStringChars fuel rest
        else if e = 'u' then do
          let (_, rest) ← hexQuad rest
          skipStringChars fuel rest
        else .error .malformed
    else if c.toNat < 0x20 then .error .malformed
    else skipStringChars fuel rest

def skipString (cs : List Char) : Except Fault (List Char) :=
  skipStringChars (cs.length + 1) cs

/-- A number; one that the text breaks off is no number. -/
def skipNumber (cs : List Char) : Except Fault (List Char) :=
  match scanNumber cs with
  | .ok (_, rest) => .ok rest
  | .error _ => .error .malformed

/-- The name of a member and its colon. -/
def skipName (cs : List Char) : Except Fault (List Char) :=
  match skipBlank cs with
  | [] => .error .truncated
  | '"' :: rest => do
    let rest ← skipString rest
    memberValue (fun cs => .ok ((), cs)) rest |>.map (·.2)
  | _ :: _ => .error .malformed

/-- What `skipLoop` looks for next. -/
inductive Expected
  /-- A value. -/
  | value
  /-- A closing bracket or the first thing inside a bracket. -/
  | inside
  /-- A closing bracket or a comma. -/
  | after

/-- Passes over values until all brackets on the stack are closed. -/
def skipLoop : Nat → Expected → List Char → List Char → Except Fault (List Char)
  | 0, _, _, _ => .error .truncated
  | _ + 1, .after, [], cs => .ok cs
  | _ + 1, .inside, [], cs => .ok cs
  | fuel + 1, .value, stack, cs =>
    match skipBlank cs with
    | [] => .error .truncated
    | 'n' :: rest => do skipLoop fuel .after stack (← word ['u', 'l', 'l'] rest)
    | 't' :: rest => do skipLoop fuel .after stack (← word ['r', 'u', 'e'] rest)
    | 'f' :: rest => do skipLoop fuel .after stack (← word ['a', 'l', 's', 'e'] rest)
    | '"' :: rest => do skipLoop fuel .after stack (← skipString rest)
    | '[' :: rest => skipLoop fuel .inside (']' :: stack) rest
    | '{' :: rest => skipLoop fuel .inside ('}' :: stack) rest
    | c :: rest =>
      if c = '-' ∨ c.isDigit then do skipLoop fuel .after stack (← skipNumber (c :: rest))
      else .error .malformed
  | fuel + 1, .inside, close :: stack, cs =>
    match skipBlank cs with
    | [] => .error .truncated
    | c :: rest =>
      if c = close then skipLoop fuel .after stack rest
      else if close = '}' then do skipLoop fuel .value (close :: stack) (← skipName (c :: rest))
      else skipLoop fuel .value (close :: stack) (c :: rest)
  | fuel + 1, .after, close :: stack, cs =>
    match skipBlank cs with
    | [] => .error .truncated
    | c :: rest =>
      if c = close then skipLoop fuel .after stack rest
      else if c ≠ ',' then .error .malformed
      else if close = '}' then do skipLoop fuel .value (close :: stack) (← skipName rest)
      else skipLoop fuel .value (close :: stack) rest

def skip : Reader Unit := fun cs => do
  .ok ((), ← skipLoop (2 * cs.length + 2) .value [] cs)

end SignalRelay.Json
