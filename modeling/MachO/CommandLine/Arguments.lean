/-!
# Arguments

The arguments of the tool: an input file, the flag `-v`, and the options
`--dump` and `--log-level` with one value each.

Arguments are read from the left.  A value in the same word as its option is
accepted at once.  A value in a word of its own, and the input, are only
accepted when the next option or input is met, or at the end: until then they
are pending, and a word that is no option at all, or an input too many, is
reported before anything is said of what is pending.
-/

namespace MachO.CommandLine

structure Arguments where
  input : String
  /-- Whether sections are listed in their long form. -/
  verbose : Bool
  dump? : Option String
  logLevel : String
  deriving DecidableEq

inductive Usage
  | help
  | version
  | unknownArgument
  | argumentConflict
  | invalidValue
  | tooManyValues
  | missingInput
  deriving DecidableEq

def Usage.code : Usage → Nat
  | help => 0
  | version => 0
  | _ => 2

namespace Arguments

inductive Key
  | dump
  | logLevel
  deriving DecidableEq

inductive Flag
  | verbose
  | help
  | version
  deriving DecidableEq

/-- What has been read and is not accepted yet. -/
inductive Pending
  | nothing
  /-- An option, with its value if that has come. -/
  | option (key : Key) (value? : Option String)
  | input (value : String)
  deriving DecidableEq

structure Partial where
  verbose : Bool
  dump? : Option String
  logLevel? : Option String
  input? : Option String
  pending : Pending
  /-- Whether all words from here on are inputs. -/
  inputsOnly : Bool
  deriving DecidableEq

def Partial.empty : Partial :=
  ⟨false, none, none, none, .nothing, false⟩

/-- A word as it looks before its names are known. -/
inductive Word
  | terminator
  /-- A long option, with what follows its sign. -/
  | long (name : List Char) (value? : Option (List Char))
  | short (names : List Char)
  | plain
  deriving DecidableEq

/-- Sorts words: a single dash is no option. -/
def Word.ofChars : List Char → Word
  | ['-', '-'] => .terminator
  | '-' :: '-' :: rest =>
      .long (rest.takeWhile (· ≠ '='))
        (if rest.contains '=' then some ((rest.dropWhile (· ≠ '=')).drop 1)
          else none)
  | ['-'] => .plain
  | '-' :: rest => .short rest
  | _ => .plain

def longOption? (name : List Char) : Option (Key ⊕ Flag) :=
  match String.ofList name with
  | "dump" => some (.inl .dump)
  | "log-level" => some (.inl .logLevel)
  | "verbose" => some (.inr .verbose)
  | "help" => some (.inr .help)
  | "version" => some (.inr .version)
  | _ => none

def shortOption? : Char → Option Flag
  | 'v' => some .verbose
  | 'h' => some .help
  | 'V' => some .version
  | _ => none

namespace Partial

def value? (state : Partial) : Key → Option String
  | .dump => state.dump?
  | .logLevel => state.logLevel?

def accept (state : Partial) (key : Key) (value : String) : Partial :=
  match key with
  | .dump => { state with dump? := some value }
  | .logLevel => { state with logLevel? := some value }

/-- Accepts what is pending.  An option needs its value and comes once; an
input is not empty. -/
def settle (state : Partial) : Except Usage Partial :=
  let settled := { state with pending := .nothing }
  match state.pending with
  | .nothing => .ok settled
  | .option _ none => .error .invalidValue
  | .option key (some value) =>
      if (state.value? key).isSome then .error .argumentConflict
      else .ok (settled.accept key value)
  | .input value =>
      if value.isEmpty then .error .invalidValue
      else .ok { settled with input? := some value }

/-- Takes an option without a value. -/
def flag (state : Partial) (flag : Flag) : Except Usage Partial := do
  let settled ← state.settle
  match flag with
  | .verbose =>
      if settled.verbose then .error .argumentConflict
      else .ok { settled with verbose := true }
  | .help => .error .help
  | .version => .error .version

/-- Takes an option whose value is in the same word or is still to come. -/
def option (state : Partial) (key : Key) (value? : Option String) :
    Except Usage Partial := do
  let settled ← state.settle
  let begun := { settled with pending := .option key value? }
  if value?.isSome then begun.settle else .ok begun

def hasInput (state : Partial) : Bool :=
  state.input?.isSome ||
    match state.pending with
    | .input _ => true
    | _ => false

def takeInput (state : Partial) (word : String) : Except Usage Partial :=
  if state.hasInput then .error .unknownArgument
  else do
    let settled ← state.settle
    .ok { settled with pending := .input word }

def takePlain (state : Partial) (word : String) : Except Usage Partial :=
  match state.pending with
  | .option key none =>
      .ok { state with pending := .option key (some word) }
  | _ => state.takeInput word

def takeShort (state : Partial) : List Char → Except Usage Partial
  | [] => .ok state
  | name :: names =>
      match shortOption? name with
      | none => .error .unknownArgument
      | some found => (state.flag found).bind fun next => next.takeShort names

def takeLong (state : Partial) (name : List Char)
    (value? : Option (List Char)) : Except Usage Partial :=
  match longOption? name with
  | none => .error .unknownArgument
  | some (.inl key) => state.option key (value?.map String.ofList)
  | some (.inr found) =>
      if value?.isSome then .error .tooManyValues else state.flag found

def take (state : Partial) (word : String) : Except Usage Partial :=
  if state.inputsOnly then state.takeInput word
  else
    match Word.ofChars word.toList with
    | .terminator => .ok { state with inputsOnly := true }
    | .long name value? => state.takeLong name value?
    | .short names => state.takeShort names
    | .plain => state.takePlain word

def finish (state : Partial) : Except Usage Arguments := do
  let settled ← state.settle
  match settled.input? with
  | none => .error .missingInput
  | some input =>
      .ok {
        input
        verbose := settled.verbose
        dump? := settled.dump?
        logLevel := settled.logLevel?.getD "info" }

end Partial

def parse (words : List String) : Except Usage Arguments := do
  let state ← words.foldlM Partial.take Partial.empty
  state.finish

end Arguments

end MachO.CommandLine
