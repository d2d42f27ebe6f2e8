import RpcBindings.Text.Digit
import RpcBindings.Text.Quoted
import RpcBindings.Text.Search

namespace RpcBindings.Cli

inductive Flag where
  | help
  | version
  | descriptor
  | output
  | dryRun
  | clean
  | noManifest
  | outputRoot
  | hookPrefix
  | templateDir
  | baseUrl
  | verbose
  | quiet
deriving DecidableEq, Repr

namespace Flag

def spellings : Flag → List String
  | help => ["-h", "--help"]
  | version => ["--version"]
  | descriptor => ["-d", "--descriptor"]
  | output => ["-o", "--output"]
  | dryRun => ["--dry-run"]
  | clean => ["--clean"]
  | noManifest => ["--no-manifest"]
  | outputRoot => ["--output-root"]
  | hookPrefix => ["--hook-prefix"]
  | templateDir => ["--template-dir"]
  | baseUrl => ["--base-url"]
  | verbose => ["-v", "--verbose"]
  | quiet => ["-q", "--quiet"]

def takesValue : Flag → Bool
  | descriptor | output | outputRoot | hookPrefix | templateDir | baseUrl => true
  | help | version | dryRun | clean | noManifest | verbose | quiet => false

def all : List Flag :=
  [help, version, descriptor, output, dryRun, clean, noManifest, outputRoot, hookPrefix, templateDir,
    baseUrl, verbose, quiet]

def table : List (String × Flag) := all.flatMap fun f => f.spellings.map fun s => (s, f)

def title (f : Flag) : String := "/".intercalate f.spellings

end Flag

/-- Why arguments make no sense. -/
inductive Misuse where
  | ambiguous (word : String) (spellings : List String)
  | noValue (flag : Flag)
  | idleValue (flag : Flag) (value : String)
  | noDescriptor
  | unrecognized (words : List String)
deriving DecidableEq, Repr

def Misuse.message : Misuse → String
  | ambiguous word spellings =>
    "ambiguous option: " ++ word ++ " could match " ++ ", ".intercalate spellings
  | noValue flag => "argument " ++ flag.title ++ ": expected one argument"
  | idleValue flag value =>
    "argument " ++ flag.title ++ ": ignored explicit argument " ++ Text.quoted value
  | noDescriptor => "the following arguments are required: " ++ Flag.descriptor.title
  | unrecognized words => "unrecognized arguments: " ++ " ".intercalate words

/-- An option as a word spells it. A value in the same word is `marked` if `=` stands before it. -/
structure Spelled where
  flag : Flag
  isShort : Bool
  value : Option String := none
  marked : Bool := false
deriving DecidableEq, Repr

/-- A word of the command line: an option, perhaps an unknown one, or something else. -/
inductive Word where
  | plain (text : String)
  | option (text : String) (spelled : Option Spelled)
deriving DecidableEq, Repr

/-- A negative number, which is no option. A line may end after it. -/
def isNegativeNumber (s : String) : Bool :=
  match s.toList with
  | '-' :: rest =>
    let rest := if rest.getLast? = some '\n' then rest.dropLast else rest
    match rest.span Text.isDecimal with
    | (ds, []) => !ds.isEmpty
    | (_, '.' :: places) => !places.isEmpty && places.all Text.isDecimal
    | _ => false
  | _ => false

def readings (word : String) : List (String × Spelled) :=
  if Text.startsWith word "--" then
    let (name, value) := Text.cut '=' word
    (Flag.table.filter fun (s, _) => Text.startsWith s name).map fun (s, f) =>
      (s, ⟨f, false, value, value.isSome⟩)
  else
    let short := String.ofList (word.toList.take 2)
    (Flag.table.filter fun (s, _) => s == short).map fun (s, f) =>
      (s, ⟨f, true, some (String.ofList (word.toList.drop 2)), false⟩)

def Word.ofText (text : String) : Except Misuse Word :=
  if !Text.startsWith text "-" then .ok (.plain text)
  else match Flag.table.lookup text with
    | some f => .ok (.option text (some ⟨f, !Text.startsWith text "--", none, false⟩))
    | none =>
      if text = "-" then .ok (.plain text)
      else
        let (name, value) := Text.cut '=' text
        match (if value.isSome then Flag.table.lookup name else none) with
        | some f => .ok (.option text (some ⟨f, !Text.startsWith name "--", value, true⟩))
        | none =>
          match readings text with
          | [(_, spelled)] => .ok (.option text (some spelled))
          | [] =>
            if isNegativeNumber text || text.toList.contains ' ' then .ok (.plain text)
            else .ok (.option text none)
          | several => .error (.ambiguous text (several.map (·.1)))

/-- The words of a command line. After `--` there are no options. -/
def words : List String → Except Misuse (List Word)
  | [] => .ok []
  | "--" :: rest => .ok ((("--" :: rest)).map .plain)
  | text :: rest => do
    let w ← Word.ofText text
    let ws ← words rest
    return w :: ws

structure Arguments where
  descriptor : Option String := none
  output : Option String := none
  dryRun : Bool := false
  clean : Bool := false
  noManifest : Bool := false
  outputRoot : Option String := none
  hookPrefix : Option String := none
  templateDir : Option String := none
  baseUrl : Option String := none
  verbosity : Nat := 0
  quiet : Bool := false
deriving DecidableEq, Repr

/-- Why reading the arguments ends before the run. -/
inductive Stop where
  | help
  | version
  | misuse (m : Misuse)
deriving DecidableEq, Repr

/-- Options without value that are written together, then perhaps one that takes a value. `rest` is what
is left of the word if it names no option. -/
structure Group where
  switches : List Flag := []
  valued : Option (Flag × Option String) := none
  rest : Option String := none

/-- The options in a word after a first short one, which takes no value. -/
def groupAfter (first : Flag) (marked : Bool) : List Char → Except Misuse Group
  | [] => .ok { switches := [first] }
  | c :: tail =>
    if marked || c == '-' then .error (.idleValue first (String.ofList (c :: tail)))
    else match Flag.table.lookup (String.ofList ['-', c]) with
      | none => .ok { switches := [first], rest := some (String.ofList ('-' :: c :: tail)) }
      | some f => do
        let g : Group ←
          if f.takesValue then
            let value := if tail.head? = some '=' then tail.drop 1 else tail
            pure { valued := some (f, if tail.isEmpty then none else some (String.ofList value)) }
          else match tail with
            | '=' :: value =>
              if value.isEmpty then .error (.idleValue f "") else groupAfter f true value
            | tail => groupAfter f false tail
        return { g with switches := first :: g.switches }

def Spelled.group (s : Spelled) : Except Misuse Group :=
  match s.value with
  | none => if s.flag.takesValue then .ok { valued := some (s.flag, none) } else .ok { switches := [s.flag] }
  | some value =>
    if s.flag.takesValue then .ok { valued := some (s.flag, some value) }
    else if s.isShort && value != "" then groupAfter s.flag s.marked value.toList
    else .error (.idleValue s.flag value)

def Arguments.switch (a : Arguments) : Flag → Except Stop Arguments
  | .help => .error .help
  | .version => .error .version
  | .dryRun => .ok { a with dryRun := true }
  | .clean => .ok { a with clean := true }
  | .noManifest => .ok { a with noManifest := true }
  | .verbose => .ok { a with verbosity := a.verbosity + 1 }
  | .quiet => .ok { a with quiet := true }
  | _ => .ok a

def Arguments.assign (a : Arguments) (value : String) : Flag → Arguments
  | .descriptor => { a with descriptor := some value }
  | .output => { a with output := some value }
  | .outputRoot => { a with outputRoot := some value }
  | .hookPrefix => { a with hookPrefix := some value }
  | .templateDir => { a with templateDir := some value }
  | .baseUrl => { a with baseUrl := some value }
  | _ => a

/-- Reads words in order: the arguments, and the words that nothing is known about. -/
def readWords (a : Arguments) : List Word → Except Stop (Arguments × List String)
  | [] => .ok (a, [])
  | .plain text :: rest => do
    let (a, unknown) ← readWords a rest
    return (a, text :: unknown)
  | .option text none :: rest => do
    let (a, unknown) ← readWords a rest
    return (a, text :: unknown)
  | .option _ (some spelled) :: rest => do
    let g ← spelled.group.mapError .misuse
    match g.valued with
    | none =>
      let a ← g.switches.foldlM Arguments.switch a
      let (a, unknown) ← readWords a rest
      return (a, g.rest.toList ++ unknown)
    | some (f, some value) =>
      let a ← g.switches.foldlM Arguments.switch a
      readWords (a.assign value f) rest
    | some (f, none) =>
      match rest with
      | .plain "--" :: _ | .option .. :: _ | [] => throw (.misuse (.noValue f))
      | .plain value :: rest =>
        let a ← g.switches.foldlM Arguments.switch a
        readWords (a.assign value f) rest

def Arguments.ofTexts (texts : List String) : Except Stop Arguments := do
  let ws ← (words texts).mapError .misuse
  let (a, unknown) ← readWords {} ws
  if a.descriptor.isNone then throw (.misuse .noDescriptor)
  if !unknown.isEmpty then throw (.misuse (.unrecognized unknown))
  return a

end RpcBindings.Cli
