import RecordAccess.Command.Arguments

/-!
# Command lines

A command line is a row of words: a command, the name of a record, and options. An option has a long
name, written after two dashes, and a few also have a letter, written after one; letters may be put
together. A value is the next word, which must not look like an option, or it follows an equals sign;
the value of a letter may also follow it directly. After a bare double dash no word is an option.
Whatever does not fit makes the whole line unusable.
-/
namespace RecordAccess

inductive Flag where
  | skipSuffix
  | check
  | gofmt
  | parallel
  | verbose
  deriving DecidableEq, Repr

inductive Parameter where
  | manifest
  | field
  | table
  | readFields
  | writeFields
  | primaryField
  | softDeleteField
  | package
  | config
  | operations
  | output
  deriving DecidableEq, Repr

inductive Verb where
  | generate
  | inspect
  deriving DecidableEq, Repr

namespace Flag

def name : Flag → String
  | skipSuffix => "skipsuffix"
  | check => "check"
  | gofmt => "gofmt"
  | parallel => "parallel"
  | verbose => "verbose"

end Flag

namespace Parameter

def name : Parameter → String
  | manifest => "manifest"
  | field => "field"
  | table => "table"
  | readFields => "readfields"
  | writeFields => "writefields"
  | primaryField => "primaryfield"
  | softDeleteField => "softdeletefield"
  | package => "pkg"
  | config => "config"
  | operations => "fn"
  | output => "output"

/-- Whether the value is a path, which is never empty. -/
def isPath : Parameter → Bool
  | manifest | config | output => true
  | _ => false

/-- Whether the parameter may be given more than once. -/
def isRepeatable : Parameter → Bool
  | field | readFields | writeFields | operations => true
  | _ => false

end Parameter

namespace Verb

def name : Verb → String
  | generate => "generate"
  | inspect => "inspect"

def flags : Verb → List Flag
  | generate => [.skipSuffix, .verbose, .check, .gofmt, .parallel]
  | inspect => [.skipSuffix, .verbose]

def parameters : Verb → List Parameter
  | generate =>
    [.manifest, .field, .table, .readFields, .writeFields, .primaryField, .softDeleteField, .package,
      .config, .operations, .output]
  | inspect =>
    [.manifest, .field, .table, .readFields, .writeFields, .primaryField, .softDeleteField, .package,
      .config]

end Verb

inductive Item where
  | flag (flag : Flag)
  | parameter (parameter : Parameter) (value : String)
  /-- A word that belongs to no option. -/
  | word (text : String)
  deriving DecidableEq, Repr

namespace CommandLine

/-- Whether a word looks like an option. -/
def looksLikeOption (word : String) : Bool :=
  match word.toList with
  | ['-'] => false
  | '-' :: _ => true
  | _ => false

/-- Parts, and a parameter that waits for its value. -/
abbrev Started := List Item × Option Parameter

/-- The parts of the letters after a dash. -/
def letters (verb : Verb) : List Char → Option Started
  | [] => some ([], none)
  | 'v' :: rest => (letters verb rest).map fun (items, open?) => (.flag .verbose :: items, open?)
  | 'o' :: rest =>
    if verb.parameters.contains .output then
      match rest with
      | [] => some ([], some .output)
      | '=' :: value => some ([.parameter .output (String.ofList value)], none)
      | value => some ([.parameter .output (String.ofList value)], none)
    else none
  | _ => none

/-- The part of a long name, and the value after its equals sign if there is one. -/
def long (verb : Verb) (name : String) (value? : Option String) : Option Started :=
  match verb.parameters.find? fun parameter => parameter.name == name, value? with
  | some parameter, some value => some ([.parameter parameter value], none)
  | some parameter, none => some ([], some parameter)
  | none, some _ => none
  | none, none => (verb.flags.find? fun flag => flag.name == name).map fun flag => ([.flag flag], none)

/-- The parts of a word. -/
def start (verb : Verb) (word : String) : Option Started :=
  match word.toList with
  | '-' :: '-' :: rest =>
    let name := String.ofList (rest.takeWhile (· != '='))
    match rest.dropWhile (· != '=') with
    | [] => long verb name none
    | _ :: value => long verb name (some (String.ofList value))
  | ['-'] => some ([.word word], none)
  | '-' :: rest => letters verb rest
  | _ => some ([.word word], none)

/-- The parts of words; `waiting` is a parameter whose value comes next. -/
def itemsOf (verb : Verb) (waiting : Option Parameter) : List String → Option (List Item)
  | [] => if waiting.isSome then none else some []
  | word :: rest =>
    match waiting with
    | some parameter =>
      if looksLikeOption word then none
      else (itemsOf verb none rest).map (.parameter parameter word :: ·)
    | none =>
      if word = "--" then some (rest.map .word)
      else
        match start verb word with
        | none => none
        | some (items, open?) => (itemsOf verb open? rest).map (items ++ ·)

def valuesOf (items : List Item) (parameter : Parameter) : List String :=
  items.filterMap fun
    | .parameter other value => if other = parameter then some value else none
    | _ => none

def isGiven (items : List Item) (flag : Flag) : Bool := items.contains (.flag flag)

def wordsOf (items : List Item) : List String :=
  items.filterMap fun
    | .word text => some text
    | _ => none

/-- The items of texts divided by commas. -/
def divided (values : List String) : List String :=
  values.flatMap fun value => (value.toList.splitOn ',').map String.ofList

/-- The items of a parameter that is a list, if it is given. -/
def listOf (items : List Item) (parameter : Parameter) : Option (List String) :=
  match valuesOf items parameter with
  | [] => none
  | values => some (divided values)

/-- Whether the values of a parameter are as many as it takes, and no path is empty. -/
def isSound (items : List Item) (parameter : Parameter) : Bool :=
  let values := valuesOf items parameter
  (parameter.isRepeatable || values.length ≤ 1) && !(parameter.isPath && values.contains "")

/-- Whether no flag is there twice, but for the one that may be. -/
def isSoundFlag (items : List Item) (flag : Flag) : Bool :=
  flag = .verbose || items.count (.flag flag) ≤ 1

/-- Whether the parts fit together. -/
def fits (verb : Verb) (items : List Item) : Bool :=
  let has (parameter : Parameter) := !(valuesOf items parameter).isEmpty
  verb.parameters.all (isSound items) && verb.flags.all (isSoundFlag items) &&
    !(has .manifest && has .field) && (!isGiven items .check || has .output)

def argumentsOf (items : List Item) (record : String) : Arguments :=
  let value (parameter : Parameter) := (valuesOf items parameter).head?
  { record
    manifest := value .manifest
    fields := valuesOf items .field
    table := value .table
    readFields := listOf items .readFields
    writeFields := listOf items .writeFields
    primaryField := value .primaryField
    softDeleteField := value .softDeleteField
    skipSuffix := isGiven items .skipSuffix
    package := value .package
    config := value .config }

def commandOf (verb : Verb) (items : List Item) (record : String) : Command :=
  let arguments := argumentsOf items record
  match verb with
  | .inspect => .inspect arguments
  | .generate => .generate arguments {
      operations := divided (valuesOf items .operations)
      output := (valuesOf items .output).head?
      check := isGiven items .check
      gofmt := isGiven items .gofmt
      parallel := isGiven items .parallel }

def ofVerb (verb : Verb) (words : List String) : Option Command :=
  (itemsOf verb none words).bind fun items =>
    match wordsOf items with
    | [record] => if fits verb items then some (commandOf verb items record) else none
    | _ => none

end CommandLine

inductive Invocation where
  | command (command : Command)
  /-- The name and the version of the program. -/
  | version
  deriving DecidableEq, Repr

namespace Invocation

/-- Whether a word before the command asks for more to be told: letters after a dash, all of them `v`. -/
def isVerbose (word : String) : Bool :=
  word == "--verbose" ||
    match word.toList with
    | '-' :: c :: rest => (c :: rest).all (· == 'v')
    | _ => false

/-- Whether a word before the command asks for the version. -/
def asksVersion (word : String) : Bool :=
  word == "--version" ||
    match word.toList with
    | '-' :: rest => rest.dropWhile (· == 'v') |>.head? |> (· == some 'V')
    | _ => false

def parse : List String → Option Invocation
  | [] => none
  | word :: rest =>
    if word = Verb.generate.name then (CommandLine.ofVerb .generate rest).map command
    else if word = Verb.inspect.name then (CommandLine.ofVerb .inspect rest).map command
    else if asksVersion word then some version
    else if isVerbose word then parse rest
    else none

end Invocation
end RecordAccess
