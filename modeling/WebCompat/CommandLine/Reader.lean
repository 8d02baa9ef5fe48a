import WebCompat.CommandLine.Given

/-!
# Reading command lines

A command line is read word by word.  Options of the program can stand before
the command and behind it; the value behind it counts.  What has been read
last is settled only when something else follows, so that a word that makes no
sense at all is noticed before the values in front of it are looked at.
-/

namespace WebCompat
namespace CommandLine

/-- What has been read last and is not yet settled. -/
inductive Pending where
  | nothing
  /-- A setting whose value stands in a word of its own, which may still be missing. -/
  | setting (setting : Setting) (value : Option String)
  | words (words : List String)
deriving DecidableEq, Repr

structure State where
  given : Given
  pending : Pending
  /-- Whether no more options can follow. -/
  onlyWords : Bool
deriving DecidableEq, Repr

namespace State

def start : State where
  given := .nothing
  pending := .nothing
  onlyWords := false

def isAwaiting (state : State) : Bool :=
  match state.pending with
  | .setting _ none => true
  | _ => false

def hasWord (state : State) : Bool :=
  match state.pending with
  | .words _ => true
  | _ => !state.given.words.isEmpty

/-!
# Options

An option may take its value from the same word or wait for the next one.
-/

def settle (level : Level) (state : State) : Except Stop State := do
  match state.pending with
  | .nothing => return state
  | .setting _ none => throw .invalidValue
  | .setting setting (some value) =>
      return { state with given := ← state.given.set setting value, pending := .nothing }
  | .words words =>
      return { state with given := ← state.given.addWords level words, pending := .nothing }

def turnOn (level : Level) (state : State) (switch : Switch) : Except Stop State := do
  let state ← state.settle level
  return { state with given := ← state.given.turnOn level switch }

def set (level : Level) (state : State) (setting : Setting) (value : String) :
    Except Stop State := do
  let state ← state.settle level
  return { state with given := ← state.given.set setting value }

def await (level : Level) (state : State) (setting : Setting) : Except Stop State := do
  let state ← state.settle level
  return { state with pending := .setting setting none }

def long (level : Level) (state : State) (name : String) (value : Option String) :
    Except Stop State :=
  match Flag.ofName? level name, value with
  | none, _ => .error .unknownArgument
  | some (.switch switch), none => state.turnOn level switch
  | some (.switch _), some _ => .error .unneededValue
  | some (.setting setting), some value => state.set level setting value
  | some (.setting setting), none => state.await level setting

def short (level : Level) (state : State) : List Char → Except Stop State
  | [] => .ok state
  | letter :: rest =>
      match Flag.ofLetter? letter, rest with
      | none, _ => .error .unknownArgument
      | some (.switch switch), rest => do short level (← state.turnOn level switch) rest
      | some (.setting setting), [] => state.await level setting
      | some (.setting setting), '=' :: value =>
          state.set level setting (String.ofList value)
      | some (.setting setting), value => state.set level setting (String.ofList value)

def pushWord (level : Level) (state : State) (word : String) : Except Stop State :=
  match state.pending with
  | .words words => .ok { state with pending := .words (words ++ [word]) }
  | _ => do
      let state ← state.settle level
      return { state with pending := .words [word] }

end State

/-! # Words -/

def commandLevel? (name : String) : Option Level :=
  if name = "scan" then some .scan
  else if name = "lookup" then some .lookup
  else none

def isCommand (word : String) : Bool :=
  (commandLevel? word).isSome || word = "help"

namespace State

/--
The state behind a word that is no option.  The program itself has no use for
such words, a lookup for one, and a scan for any number.
-/
def word (level : Level) (state : State) (word : String) : Except Stop State :=
  match level with
  | .program =>
      .error (if state.onlyWords && isCommand word then .unknownArgument else .unknownCommand)
  | .lookup => if state.hasWord then .error .unknownArgument else state.pushWord level word
  | .scan => state.pushWord level word

def step (level : Level) (state : State) (text : String) : Except Stop State :=
  if state.onlyWords then state.word level text
  else
    match Shape.ofWord text with
    | .escape => .ok { state with onlyWords := true }
    | .long name value => state.long level name value
    | .short letters => state.short level letters
    | .plain =>
        match state.pending with
        | .setting setting none => .ok { state with pending := .setting setting (some text) }
        | _ => state.word level text

def finish (level : Level) (state : State) (words : List String) : Except Stop Given := do
  return (← (← words.foldlM (step level) state).settle level).given

end State

/-! # Commands -/

def helpStop : List String → Stop
  | [] => .help .program
  | [word] =>
      if isCommand word then .help ((commandLevel? word).getD .program) else .unknownCommand
  | _ => .unknownCommand

def command (environmentKey : Option String) (level : Level) (given : Given) :
    Except Stop Command :=
  match level, given.words with
  | .program, _ => .error .missingCommand
  | .lookup, [] => .error .missingArgument
  | .lookup, api :: _ => .ok (.lookup api)
  | .scan, words =>
      .ok (.scan {
        paths := if words.isEmpty then ["."] else words
        inputKind := given.inputKind.getD .script
        withAdvice := given.withAdvice
        apiKey := given.apiKey.or environmentKey
        failsOnIssues := given.failsOnIssues })

/-- The invocation of a command; what is given behind its name counts before what is in front. -/
def invocation (outer inner : Given) (command : Command) : Invocation where
  command := command
  format := (inner.format.or outer.format).getD .plain
  verbose := inner.verbose || outer.verbose
  config := inner.config.or outer.config
  dataset := inner.dataset.or outer.dataset

def readFrom (environmentKey : Option String) (state : State) :
    List String → Except Stop Invocation
  | [] => do
      let state ← state.settle .program
      throw (if state.given = .nothing then .nothingGiven else .missingCommand)
  | word :: rest => do
      if state.onlyWords || state.isAwaiting || !isCommand word then
        readFrom environmentKey (← state.step .program word) rest
      else
        match commandLevel? word with
        | none => throw (helpStop rest)
        | some level =>
            let inner ← State.start.finish level rest
            let command ← command environmentKey level inner
            let outer ← state.settle .program
            return invocation outer.given inner command

/--
The invocation that a command line makes, where the words are those behind the
name of the program.  The environment may hold a key, which counts where the
command line gives none.
-/
def read (environmentKey : Option String) (words : List String) : Except Stop Invocation :=
  readFrom environmentKey .start words

end CommandLine
end WebCompat
