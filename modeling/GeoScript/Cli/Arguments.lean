/-! # The arguments of the command line

A command line is a verb with its words and options; two options may also stand before the verb.
Options come as `--long`, `--long value`, `--long=value`, or as letters after one hyphen, the last
of which may be followed by its value. After `--` there are only words. A value that does not follow
its option in the same argument must not begin with a hyphen, unless it is nothing else.

Arguments are read in order, and the first that cannot be accepted, or that asks for help, decides.

* `Argument.ofText`: how one argument reads.
* `Level.scan`: the options and words of one level, which is what stands before or after the verb.
* `Invocation.ofArguments`: the task that the arguments ask for. -/

namespace GeoScript.Cli

/-- An option. -/
inductive Switch where
  /-- The session profile to work under. -/
  | profile
  /-- Report events. -/
  | verbose
  | help
  /-- Print what the labels stand for in the end. -/
  | elements
  /-- Go on after a line that fails. -/
  | keepGoing
  /-- The only category to list. -/
  | category
  /-- List the categories. -/
  | categories
deriving DecidableEq

namespace Switch

/-- The long name. -/
def name : Switch → String
  | .profile => "profile"
  | .verbose => "verbose"
  | .help => "help"
  | .elements => "elements"
  | .keepGoing => "keep-going"
  | .category => "category"
  | .categories => "categories"

/-- The letter, if there is one. -/
def letter? : Switch → Option Char
  | .verbose => some 'v'
  | .help => some 'h'
  | .keepGoing => some 'k'
  | .category => some 'c'
  | .profile | .elements | .categories => none

/-- Whether an option has a value. -/
def takesValue : Switch → Bool
  | .profile | .category => true
  | .verbose | .help | .elements | .keepGoing | .categories => false

/-- Whether a value will do. -/
def admits (s : Switch) (value : String) : Bool := s != .profile || !value.isEmpty

end Switch

/-- What the command line can do. -/
inductive Verb where
  | eval
  | run
  | commands
  | signature
  | validate
deriving DecidableEq

namespace Verb

/-- Every verb. -/
def all : List Verb := [.eval, .run, .commands, .signature, .validate]

/-- How a verb is written. -/
def name : Verb → String
  | .eval => "eval"
  | .run => "run"
  | .commands => "commands"
  | .signature => "syntax"
  | .validate => "validate"

/-- The verb with a name, in exact case. -/
def find? (name : String) : Option Verb := all.find? fun v => v.name == name

/-- The options that only this verb has. -/
def switches : Verb → List Switch
  | .eval => [.elements]
  | .run => [.keepGoing, .elements]
  | .commands => [.category, .categories]
  | .signature | .validate => []

/-- Whether a verb with so many words can have one more, and this one will do. -/
def admits (v : Verb) (count : Nat) (word : String) : Bool :=
  match v with
  | .eval | .validate => true
  | .run => count == 0 && !word.isEmpty
  | .signature => count == 0
  | .commands => false

end Verb

/-- Why arguments ask for no task. -/
inductive Refusal where
  /-- They ask for help. -/
  | help
  /-- They cannot be accepted. -/
  | misuse
deriving DecidableEq

/-- How an argument reads. -/
inductive Argument where
  | separator
  | long (name : String) (value : Option String)
  /-- Letters, which may end in a value. -/
  | letters (cs : List Char)
  | word (text : String)
deriving DecidableEq

/-- A single hyphen is a word. -/
def Argument.ofText (text : String) : Argument :=
  match text.toList with
  | ['-', '-'] => .separator
  | '-' :: '-' :: cs =>
    let name := String.ofList (cs.takeWhile (· != '='))
    match cs.dropWhile (· != '=') with
    | [] => .long name none
    | _ :: value => .long name (some (String.ofList value))
  | '-' :: c :: cs => .letters (c :: cs)
  | _ => .word text

/-- What has been read of one level. An option without value has the empty one. -/
structure Level where
  given : List (Switch × String)
  words : List String

namespace Level

/-- Nothing read yet. -/
def empty : Level := { given := [], words := [] }

/-- Whether an option is given. -/
def has (l : Level) (s : Switch) : Bool := (l.given.lookup s).isSome

/-- The value of an option. -/
def value? (l : Level) (s : Switch) : Option String := l.given.lookup s

/-- Takes an option, which must not be given yet. -/
def give (l : Level) (s : Switch) (value : String) : Except Refusal Level :=
  if s = .help then .error .help
  else if l.has s || !s.admits value then .error .misuse
  else .ok { l with given := l.given ++ [(s, value)] }

/-- Takes a word of a verb. -/
def addWord (l : Level) (v : Verb) (word : String) : Except Refusal Level :=
  if v.admits l.words.length word then .ok { l with words := l.words ++ [word] }
  else .error .misuse

/-- Takes letters: options without value, up to one with a value, which may follow it at once or
after an equals sign. Answers with the option whose value is still to come. -/
def giveLetters (known : List Switch) (l : Level) :
    List Char → Except Refusal (Level × Option Switch)
  | [] => .ok (l, none)
  | c :: cs =>
    match known.find? fun s => s.letter? == some c with
    | none => .error .misuse
    | some s =>
      if s.takesValue then
        match cs with
        | [] => .ok (l, some s)
        | '=' :: value => (l.give s (String.ofList value)).map fun l => (l, none)
        | value => (l.give s (String.ofList value)).map fun l => (l, none)
      else match l.give s "" with
        | .error r => .error r
        | .ok l => l.giveLetters known cs

/-- Takes a long option, with the value that follows its name, if one does. Answers with the option
whose value is still to come. -/
def giveLong (known : List Switch) (l : Level) (name : String) (value : Option String) :
    Except Refusal (Level × Option Switch) :=
  match known.find? fun s => s.name == name with
  | none => .error .misuse
  | some s =>
    match s.takesValue, value with
    | true, none => .ok (l, some s)
    | true, some value => (l.give s value).map fun l => (l, none)
    | false, none => (l.give s "").map fun l => (l, none)
    | false, some _ => .error .misuse

/-- Reads a level: of a verb up to the end, or up to the first word, from which on everything is
answered with. `awaited` is the option whose value is still to come. -/
def scan (known : List Switch) (verb : Option Verb) (awaited : Option Switch) (l : Level) :
    List String → Except Refusal (Level × List String)
  | [] => if awaited.isSome then .error .misuse else .ok (l, [])
  | arg :: rest =>
    match Argument.ofText arg, awaited, verb with
    | .word text, some s, _ => do
      scan known verb none (← l.give s text) rest
    | _, some _, _ | .separator, none, none => .error .misuse
    | .long name value, none, _ => do
      let (l, awaited) ← l.giveLong known name value
      scan known verb awaited l rest
    | .letters cs, none, _ => do
      let (l, awaited) ← l.giveLetters known cs
      scan known verb awaited l rest
    | .separator, none, some v => do
      return (← rest.foldlM (fun l word => l.addWord v word) l, [])
    | .word text, none, some v => do
      scan known verb none (← l.addWord v text) rest
    | .word _, none, none => .ok (l, arg :: rest)

end Level

/-- What the command line is asked to do. -/
inductive Task where
  | eval (expressions : List String) (elements : Bool)
  | run (script : String) (keepGoing elements : Bool)
  | listCommands (category : Option String)
  | listCategories
  | showSignature (name : String)
  | validate (expressions : List String)
deriving DecidableEq

/-- The task of a verb with its words and options. -/
def Verb.task? (v : Verb) (l : Level) : Option Task :=
  match v, l.words with
  | .eval, [] | .validate, [] => none
  | .eval, words => some (.eval words (l.has .elements))
  | .validate, words => some (.validate words)
  | .run, [script] => some (.run script (l.has .keepGoing) (l.has .elements))
  | .signature, [name] => some (.showSignature name)
  | .commands, _ =>
    match l.has .categories, l.value? .category with
    | true, some _ => none
    | true, none => some .listCategories
    | false, category => some (.listCommands category)
  | .run, _ | .signature, _ => none

/-- A task, and what it is to be done under. -/
structure Invocation where
  profile : Option String
  verbose : Bool
  task : Task
deriving DecidableEq

namespace Invocation

/-- The options that may stand before the verb and after it. -/
def commonSwitches : List Switch := [.profile, .verbose, .help]

/-- The verb of help may be followed by the verb that help is wanted on. -/
def helpRefusal (wanted : List String) : Refusal :=
  match wanted with
  | [] => .help
  | [name] => if name == "help" || (Verb.find? name).isSome then .help else .misuse
  | _ => .misuse

/-- **The task that arguments ask for.** What is given after the verb wins. -/
def ofArguments (arguments : List String) : Except Refusal Invocation := do
  let (front, rest) ← Level.empty.scan commonSwitches none none arguments
  match rest with
  | [] => .error .misuse
  | "help" :: wanted => .error (helpRefusal wanted)
  | name :: rest =>
    match Verb.find? name with
    | none => .error .misuse
    | some verb =>
      let (back, _) ← Level.empty.scan (commonSwitches ++ verb.switches) (some verb) none rest
      match verb.task? back with
      | none => .error .misuse
      | some task =>
        return {
          profile := (back.value? .profile).or (front.value? .profile)
          verbose := front.has .verbose || back.has .verbose
          task }

end Invocation

end GeoScript.Cli
