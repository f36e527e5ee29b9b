import LicenseChooser.CommandLine.Option

/-!
Reading one level of a command line: the options of the program or of one of its commands, and what
else may stand among them. A value is checked when the next option or operand comes, or at the end, so
what is not understood right after a value hides what is wrong with the value.
-/

namespace LicenseChooser.CommandLine

structure Level where
  title : String
  options : List OptionSpec
  /-- The one operand, which must be given. -/
  operand : Option String
  commands : List String
  /-- Whether the version can be asked for. -/
  versioned : Bool

/-- Why a command line leads to no command. -/
inductive Stop where
  | usage (cause : UsageError)
  | help (command : Option String)
  | version
  /-- Nothing was given at all. -/
  | nothing
  deriving DecidableEq, Repr

/-- What was given: the options with their values, in order, and the operand. -/
structure Given where
  options : List (String × String)
  operand : Option String
  deriving DecidableEq, Repr

namespace Given

def has (g : Given) (name : String) : Bool := g.options.any (·.1 == name)

def values (g : Given) (name : String) : List String :=
  (g.options.filter (·.1 == name)).map (·.2)

def isEmpty (g : Given) : Bool := g.options.isEmpty && g.operand.isNone

/-- Takes an option over. A flag is given with an empty value. -/
def take (g : Given) (o : OptionSpec) (values : List String) : Except UsageError Given := do
  if o.takesValue && values.isEmpty then throw (.missingValue o.display o.choices)
  if o.isUnique && g.has o.name then throw (.repeatedOption o.display)
  values.forM o.checkValue
  let taken := if o.takesValue then values else [""]
  return { g with options := g.options ++ taken.map (o.name, ·) }

end Given

/-- What has been read, and the last option with the values that were not checked yet. -/
structure Reading where
  given : Given
  pending : Option (OptionSpec × List String)
  /-- Whether the last option still waits for its value. -/
  awaiting : Bool

namespace Reading

def start : Reading := ⟨⟨[], none⟩, none, false⟩

/-- Checks the last option. -/
def settle (r : Reading) : Except Stop Reading :=
  match r.pending with
  | none => .ok { r with awaiting := false }
  | some (o, values) =>
      ((r.given.take o values).map fun g => ⟨g, none, false⟩).mapError .usage

/-- Gives an option its values, after the one before it. -/
def give (o : OptionSpec) (values : List String) (r : Reading) : Except Stop Reading := do
  let r ← r.settle
  ((r.given.take o values).map fun g => { r with given := g }).mapError .usage

end Reading

/-- What an option asks for. -/
inductive Switch where
  | option (spec : OptionSpec)
  | help
  | version

namespace Level

def long? (l : Level) (name : String) : Option Switch :=
  if name = "help" then some .help
  else if name = "version" && l.versioned then some .version
  else (l.options.find? (·.name == name)).map .option

def short? (l : Level) (c : Char) : Option Switch :=
  if c = 'h' then some .help
  else if c = 'V' && l.versioned then some .version
  else (l.options.find? (·.letter == some c)).map .option

/-- An option in its long form, with the value attached to it if there is one. -/
def stepLong (l : Level) (r : Reading) (name : String) (attached : Option String) :
    Except Stop Reading :=
  match l.long? name, attached with
  | none, _ => .error (.usage (.unexpectedArgument ("--" ++ name)))
  | some .help, none => r.settle.bind fun _ => .error (.help none)
  | some .version, none => r.settle.bind fun _ => .error .version
  | some .help, some v => .error (.usage (.needlessValue v "--help"))
  | some .version, some v => .error (.usage (.needlessValue v "--version"))
  | some (.option o), some v =>
      if o.takesValue then r.give o [v] else .error (.usage (.needlessValue v o.display))
  | some (.option o), none =>
      if o.takesValue then r.settle.map fun r => { r with pending := some (o, []), awaiting := true }
      else r.give o []

/-- Options in their short forms behind one dash; none of them takes a value. -/
def stepShort (l : Level) (r : Reading) : List Char → Except Stop Reading
  | [] => .ok r
  | c :: rest =>
      match l.short? c with
      | none => .error (.usage (.unexpectedArgument (String.ofList ['-', c])))
      | some .help => r.settle.bind fun _ => .error (.help none)
      | some .version => r.settle.bind fun _ => .error .version
      | some (.option o) => do stepShort l (← r.give o []) rest

/-- An argument that is no option. Where commands are possible it should have been one. -/
def stepOperand (l : Level) (r : Reading) (escaped : Bool) (arg : String) : Except Stop Reading :=
  if l.operand.isSome && r.given.operand.isNone then
    r.settle.map fun r => { r with given := { r.given with operand := some arg } }
  else if l.commands.isEmpty || (escaped && l.commands.contains arg) then
    .error (.usage (.unexpectedArgument arg))
  else .error (.usage (.unknownCommand arg))

def step (l : Level) (r : Reading) (arg : String) : Except Stop Reading :=
  match arg.toList with
  | '-' :: '-' :: body =>
      let (name, attached) := Text.cutWhere (· == '=') body
      l.stepLong r (String.ofList name) (attached.map String.ofList)
  | '-' :: c :: letters => l.stepShort r (c :: letters)
  | _ =>
      match r.awaiting, r.pending with
      | true, some (o, values) =>
          .ok { r with pending := some (o, values ++ [arg]), awaiting := false }
      | _, _ => l.stepOperand r false arg

/-- Reads arguments up to a command, which is returned with the arguments after it. Behind two
dashes everything is an operand. -/
def read (l : Level) (escaped : Bool) (r : Reading) :
    List String → Except Stop (Reading × Option (String × List String))
  | [] => .ok (r, none)
  | arg :: rest =>
      if escaped then do read l true (← l.stepOperand r true arg) rest
      else if !r.awaiting && l.commands.contains arg then .ok (r, some (arg, rest))
      else if arg = "--" then read l true r rest
      else do read l false (← l.step r arg) rest

end Level

end LicenseChooser.CommandLine
