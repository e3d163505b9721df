import SignalRelay.CommandLine.IpAddress

/-!
# Command-line arguments

Every argument is an option with a value, given as `--name value` or `--name=value`, apart from the
request for help.  A value that stands by itself is taken up when the next option comes or the
arguments end, so a later argument that is unknown is reported first.

* `Flag` names the options and `Arguments` holds their values.
* `Arguments.ofList?` reads the arguments.
-/

namespace SignalRelay

/-- The options that take a value. -/
inductive Flag
  | bind
  | streamerPort
  | playerPort
  | sfuPort
  | identifyTimeoutSecs
  | peerConnectionOptions
  | stunServer
  | logLevel
  deriving DecidableEq, Repr

inductive ArgumentError
  | helpRequested
  | unknownArgument
  | valueRejected
  | valueMissing
  | repeatedOption
  | unwantedValue
  deriving DecidableEq, Repr

def ArgumentError.message : ArgumentError → String
  | .helpRequested => "help is asked for"
  | .unknownArgument => "unexpected argument"
  | .valueRejected => "invalid value"
  | .valueMissing => "a value is required"
  | .repeatedOption => "an option cannot be used multiple times"
  | .unwantedValue => "unexpected value"

/-- The values that are given; what is not given is left out. -/
structure Arguments where
  bind : Option IpAddress
  streamerPort : Option Nat
  playerPort : Option Nat
  sfuPort : Option Nat
  identifyTimeoutSecs : Option Nat
  peerConnectionOptions : Option String
  stunServers : List String
  logLevel : Option String
  deriving DecidableEq, Repr

namespace Flag

def ofName? : String → Option Flag
  | "bind" => some .bind
  | "streamer-port" => some .streamerPort
  | "player-port" => some .playerPort
  | "sfu-port" => some .sfuPort
  | "identify-timeout-secs" => some .identifyTimeoutSecs
  | "peer-connection-options" => some .peerConnectionOptions
  | "stun-server" => some .stunServer
  | "log-level" => some .logLevel
  | _ => none

end Flag

namespace Arguments

def empty : Arguments := ⟨none, none, none, none, none, none, [], none⟩

/-- A run of digits that is not empty. -/
def digits? (cs : List Char) : Option Nat :=
  if cs.isEmpty || !cs.all Char.isDigit then none else some (Nat.ofDigitChars 10 cs 0)

/-- A port number: 16 bits with any sign that does not make it negative. -/
def portNumber? (s : String) : Option Nat := do
  let n ← match s.toList with
    | '+' :: rest => digits? rest
    | '-' :: rest => (digits? rest).filter (· = 0)
    | cs => digits? cs
  if n < Nat.pow 2 16 then some n else none

/-- A number of 64 bits, with a plus sign or none. -/
def count? (s : String) : Option Nat := do
  let n ← match s.toList with
    | '+' :: rest => digits? rest
    | cs => digits? cs
  if n < Nat.pow 2 64 then some n else none

/-- A value of an option that must be given only once. -/
def once {α : Type} (old : Option α) (new : Option α) : Except ArgumentError (Option α) :=
  if old.isSome then .error .repeatedOption
  else match new with
    | none => .error .valueRejected
    | some x => .ok (some x)

def take (given : Arguments) (flag : Flag) (value : String) : Except ArgumentError Arguments := do
  match flag with
  | .bind => return { given with bind := ← once given.bind (IpAddress.ofText? value) }
  | .streamerPort => return { given with streamerPort := ← once given.streamerPort (portNumber? value) }
  | .playerPort => return { given with playerPort := ← once given.playerPort (portNumber? value) }
  | .sfuPort => return { given with sfuPort := ← once given.sfuPort (portNumber? value) }
  | .identifyTimeoutSecs =>
    return { given with identifyTimeoutSecs := ← once given.identifyTimeoutSecs (count? value) }
  | .peerConnectionOptions =>
    return { given with peerConnectionOptions := ← once given.peerConnectionOptions (some value) }
  | .stunServer => return { given with stunServers := given.stunServers ++ [value] }
  | .logLevel => return { given with logLevel := ← once given.logLevel (some value) }

/-- An option that has not been taken up, with its value if that has come. -/
abbrev Pending := Option (Flag × Option String)

/-- Takes up an option that has not been. -/
def settle (given : Arguments) : Pending → Except ArgumentError Arguments
  | none => .ok given
  | some (_, none) => .error .valueMissing
  | some (flag, some value) => given.take flag value

/-- What an argument looks like. -/
inductive Shape
  /-- The mark behind which no options come. -/
  | endOfOptions
  /-- A name behind two hyphens, perhaps with a value. -/
  | long (name : String) (value : Option String)
  /-- Letters behind one hyphen. -/
  | short (first : Char)
  /-- Anything else. -/
  | plain
  deriving DecidableEq, Repr

def Shape.ofText (s : String) : Shape :=
  match s.toList with
  | ['-', '-'] => .endOfOptions
  | '-' :: '-' :: rest =>
    let name := String.ofList (rest.takeWhile (· ≠ '='))
    match rest.dropWhile (· ≠ '=') with
    | [] => .long name none
    | _ :: value => .long name (some (String.ofList value))
  | '-' :: c :: _ => .short c
  | _ => .plain

/-- Reads the arguments that are left. -/
def readFrom (given : Arguments) (pending : Pending) : List String → Except ArgumentError Arguments
  | [] => given.settle pending
  | arg :: rest =>
    match Shape.ofText arg with
    | .endOfOptions => if rest.isEmpty then given.settle pending else .error .unknownArgument
    | .long "help" none => do
      let _ ← given.settle pending
      .error .helpRequested
    | .long "help" (some _) => .error .unwantedValue
    | .long name value =>
      match Flag.ofName? name with
      | none => .error .unknownArgument
      | some flag => do
        let given ← given.settle pending
        match value with
        | none => readFrom given (some (flag, none)) rest
        | some value => readFrom (← given.take flag value) none rest
    | .short 'h' => do
      let _ ← given.settle pending
      .error .helpRequested
    | .short _ => .error .unknownArgument
    | .plain =>
      match pending with
      | some (flag, none) => readFrom given (some (flag, some arg)) rest
      | _ => .error .unknownArgument

def ofList? (args : List String) : Except ArgumentError Arguments := readFrom empty none args

end Arguments

end SignalRelay
