import FaultInjection.CommandLine.Command

/-!
# Reading the command line

Options stand before or behind the word of a command: `-u` or `--url` with a value, which may be attached,
and `-v` or `--verbose`, which may be repeated; short ones may share a dash. Arguments that follow `--` are
taken as they stand. What is said behind the word counts before what is said in front of it; an address
that is not given comes from the environment, and in the end there is a default.

An option with a detached value is entered when the next argument is looked at, so that of two errors the
one that shows first is reported. The options before the word are entered after all that follows the word.
-/

namespace FaultInjection

/-- Why a command line asks for nothing that can be done. -/
inductive UsageError where
  /-- Help was asked for. -/
  | help
  /-- The version was asked for. -/
  | version
  /-- Nothing was given at all. -/
  | nothingGiven
  | missingCommand
  | unknownCommand
  | unknownArgument
  | missingArgument
  | missingValue
  | needlessValue
  | repeatedOption
  deriving DecidableEq, Repr

/-- A command, the address it is for, and how much is to be logged. -/
structure Invocation where
  url : String
  verbosity : Nat
  command : Command
  deriving DecidableEq, Repr

/-- The least level that is logged. -/
def logFilter (verbosity : Nat) : String :=
  match verbosity with
  | 0 => "warn"
  | 1 => "info"
  | 2 => "debug"
  | _ => "trace"

namespace Invocation

/-- The address of a control plane when none is given. -/
def defaultUrl : String := "http://127.0.0.1:1234"

/-- The environment variable that may give the address. -/
def urlVariable : String := "FAILSWITCH_URL"

/-- The greatest verbosity that is counted. -/
def maxVerbosity : Nat := 255

/-- An argument by its form. -/
inductive Argument where
  /-- Two dashes, which end the options. -/
  | separator
  /-- Two dashes and a name, and perhaps a value behind `=`. -/
  | long (name : String) (value : Option String)
  /-- One dash and letters. -/
  | short (letters : List Char)
  | word (text : String)
  deriving DecidableEq, Repr

/-- The form of an argument. A single dash is a word. -/
def Argument.ofString (s : String) : Argument :=
  match s.toList with
  | ['-', '-'] => separator
  | '-' :: '-' :: cs =>
    long (String.ofList (cs.takeWhile (· != '=')))
      (match cs.dropWhile (· != '=') with
        | [] => none
        | _ :: value => some (String.ofList value))
  | ['-'] => word s
  | '-' :: letters => short letters
  | _ => word s

/-- An address that was announced by an option and is not yet entered. -/
inductive Pending where
  | nothing
  | announced
  | given (url : String)
  deriving DecidableEq, Repr

/-- What has been read on one side of the word. -/
structure Scan where
  url : Option String
  pending : Pending
  verbosity : Option Nat
  words : List String
  /-- Whether the options have ended. -/
  trailing : Bool
  deriving DecidableEq, Repr

namespace Scan

/-- Nothing has been read. -/
def empty : Scan := ⟨none, .nothing, none, [], false⟩

/-- Enter an address, unless there is one. -/
def enterUrl (s : Scan) (url : String) : Except UsageError Scan :=
  if s.url.isSome then .error .repeatedOption else .ok { s with url := some url }

/-- Enter the pending address. -/
def settle (s : Scan) : Except UsageError Scan :=
  match s.pending with
  | .nothing => .ok s
  | .announced => .error .missingValue
  | .given url => { s with pending := .nothing }.enterUrl url

/-- Take an address that is attached to its option. -/
def attachUrl (s : Scan) (url : String) : Except UsageError Scan := do (← s.settle).enterUrl url

/-- Expect an address. -/
def announceUrl (s : Scan) : Except UsageError Scan := do return { ← s.settle with pending := .announced }

/-- Count one more step of verbosity. -/
def louder (s : Scan) : Except UsageError Scan := do
  let s ← s.settle
  return { s with verbosity := some (min maxVerbosity (s.verbosity.getD 0 + 1)) }

/-- Stop because the caller asked for something else. -/
def stop (s : Scan) (e : UsageError) : Except UsageError Scan := do
  let _ ← s.settle
  throw e

/-- Take a word as an argument of the command. -/
def takeWord (s : Scan) (text : String) : Except UsageError Scan := do
  let s ← s.settle
  return { s with words := s.words ++ [text] }

end Scan

/-- One side of the word: before it, or behind it. -/
inductive Side where
  | before
  | behind (word : CommandWord)
  deriving DecidableEq, Repr

namespace Side

/-- The number of words that may stand on a side. -/
def arity : Side → Nat
  | before => 0
  | behind w => w.arity

/-- Read an option with a name. The version can be asked for before the word only. -/
def long (side : Side) (s : Scan) (name : String) (value : Option String) : Except UsageError Scan :=
  match name, value with
  | "url", some url => s.attachUrl url
  | "url", none => s.announceUrl
  | "verbose", none => s.louder
  | "help", none => s.stop .help
  | "verbose", some _ | "help", some _ => .error .needlessValue
  | "version", value =>
    match side, value with
    | before, none => s.stop .version
    | before, some _ => .error .needlessValue
    | behind _, _ => .error .unknownArgument
  | _, _ => .error .unknownArgument

/-- Read options with letters. -/
def short (side : Side) (s : Scan) : List Char → Except UsageError Scan
  | [] => .ok s
  | 'v' :: letters =>
    match s.louder with
    | .ok s => short side s letters
    | .error e => .error e
  | ['u'] => s.announceUrl
  | 'u' :: '=' :: url => s.attachUrl (String.ofList url)
  | 'u' :: url => s.attachUrl (String.ofList url)
  | 'h' :: _ => s.stop .help
  | 'V' :: _ => if side = before then s.stop .version else .error .unknownArgument
  | _ => .error .unknownArgument

/-- The word that asks for help. -/
def helpWord : String := "help"

/-- The error for a word too many. Before the word of the command there is room for none. -/
def surplus (side : Side) (s : Scan) (text : String) : UsageError :=
  match side with
  | behind _ => .unknownArgument
  | before =>
    if s.trailing ∧ (text = helpWord ∨ (CommandWord.named? text).isSome) then .unknownArgument
    else .unknownCommand

/-- Read an argument of the command. -/
def word (side : Side) (s : Scan) (text : String) : Except UsageError Scan :=
  if s.words.length < side.arity then s.takeWord text else .error (side.surplus s text)

/-- Read one argument. -/
def step (side : Side) (s : Scan) (argument : String) : Except UsageError Scan :=
  if s.trailing then side.word s argument
  else match Argument.ofString argument with
    | .separator => .ok { s with trailing := true }
    | .long name value => side.long s name value
    | .short letters => side.short s letters
    | .word text =>
      if s.pending = .announced then .ok { s with pending := .given text } else side.word s text

/-- What asking for help about words gives. -/
def help : List String → UsageError
  | [] => .help
  | [word] => if word = helpWord ∨ (CommandWord.named? word).isSome then .help else .unknownCommand
  | _ => .unknownCommand

/-- Read the arguments before the word, up to the word, and give it with what follows it. -/
def scanBefore (s : Scan) : List String → Except UsageError (Scan × Option (CommandWord × List String))
  | [] => .ok (s, none)
  | argument :: rest =>
    let command := if s.trailing ∨ s.pending = .announced then none else CommandWord.named? argument
    match command with
    | some w => .ok (s, some (w, rest))
    | none =>
      if argument = helpWord ∧ !s.trailing ∧ s.pending ≠ .announced then .error (help rest)
      else match before.step s argument with
        | .ok s => scanBefore s rest
        | .error e => .error e

/-- Read the arguments behind the word. -/
def scanBehind (w : CommandWord) (arguments : List String) : Except UsageError Scan := do
  (← arguments.foldlM (behind w).step .empty).settle

end Side

/-- Read a command line; `environmentUrl` is the address that the environment gives. -/
def ofArguments (environmentUrl : Option String) (arguments : List String) :
    Except UsageError Invocation := do
  match ← Side.scanBefore .empty arguments with
  | (front, none) =>
    let front ← front.settle
    if front.url.isNone ∧ front.verbosity.isNone ∧ environmentUrl.isNone then throw .nothingGiven
    else throw .missingCommand
  | (front, some (w, rest)) =>
    let back ← Side.scanBehind w rest
    match Command.ofWord? w back.words with
    | none => throw .missingArgument
    | some command =>
      let front ← front.settle
      let url := back.url <|> front.url <|> environmentUrl
      return ⟨url.getD defaultUrl, ((back.verbosity <|> front.verbosity).getD 0), command⟩

end Invocation

end FaultInjection
