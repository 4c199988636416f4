import DiffBudget.CommandLine.UsageFault

/-!
# Reading arguments

Arguments are read from left to right, and the first fault ends the reading. A setting whose value
is the next argument waits for it; the value is looked at only when the next setting begins or the
arguments end, so a fault found in between comes first. Behind a lone pair of hyphens nothing is a
setting any more.
-/
namespace DiffBudget.CommandLine

inductive Value
  | present
  | text (t : Text)
  | number (n : Nat)
  deriving DecidableEq, Repr

/-- A setting that takes a value, with the value if it has come. -/
structure Pending where
  setting : Setting
  value : Option Text
  deriving DecidableEq, Repr

structure Reading where
  given : List (Setting × Value) := []
  verbosity : Nat := 0
  pending : Option Pending := none
  deriving DecidableEq, Repr

def number? (t : Text) : Option Nat :=
  match t with
  | '+' :: ds => Text.number? ds
  | ds => Text.number? ds

def Setting.readValue (s : Setting) (t : Text) : Except UsageFault Value :=
  match s.valueSort? with
  | some .text => .ok (.text t)
  | some .path => if t.isEmpty then .error (.valueMissing s) else .ok (.text t)
  | some .number =>
    match number? t with
    | some n => .ok (.number n)
    | none => .error (.valueInvalid s t)
  | none => .error (.valueForSwitch t)

namespace Reading

def has (r : Reading) (s : Setting) : Bool := r.given.any (·.1 == s)

def give (r : Reading) (s : Setting) (value : Except UsageFault Value) :
    Except UsageFault Reading := do
  if r.has s then .error (.givenTwice s)
  return { r with given := r.given ++ [(s, ← value)] }

def settle (r : Reading) : Except UsageFault Reading :=
  match r.pending with
  | none => .ok r
  | some ⟨s, none⟩ => .error (.valueMissing s)
  | some ⟨s, some t⟩ => { r with pending := none }.give s (s.readValue t)

/-! ## Arguments -/

def splitLong (t : Text) : Text × Option Text :=
  match Text.cutFirst? ['='] t with
  | some (name, value) => (name, some value)
  | none => (t, none)

inductive General
  | verbose
  | help
  | version
  deriving DecidableEq, Repr

def General.ofName? (t : Text) : Option General :=
  match String.ofList t with
  | "verbose" => some .verbose
  | "help" => some .help
  | "version" => some .version
  | _ => none

def General.ofLetter? : Char → Option General
  | 'v' => some .verbose
  | 'h' => some .help
  | 'V' => some .version
  | _ => none

def general (command : Option CommandName) (r : Reading) (g : General) :
    Except UsageFault Reading := do
  let r ← r.settle
  match g with
  | .verbose => return { r with verbosity := r.verbosity + 1 }
  | .help => .error (.helpAsked command)
  | .version => .error (.versionAsked command)

def letters (command : Option CommandName) (r : Reading) : Text → Except UsageFault Reading
  | [] => .ok r
  | c :: cs =>
    match General.ofLetter? c with
    | some g => do letters command (← r.general command g) cs
    | none => .error (.unknownArgument ['-', c])

def settingNamed? (command : Option CommandName) (name : Text) : Option Setting :=
  ((command.map CommandName.settings).getD []).find? (·.name == name)

def long (command : Option CommandName) (r : Reading) (t : Text) : Except UsageFault Reading :=
  let (name, value) := splitLong t
  let argument := '-' :: '-' :: t
  match settingNamed? command name, General.ofName? name with
  | some s, _ =>
    match s.valueSort?, value with
    | some _, some v => do (← r.settle).give s (s.readValue v)
    | some _, none => do return { ← r.settle with pending := some ⟨s, none⟩ }
    | none, none => do (← r.settle).give s (.ok .present)
    | none, some _ => .error (.valueForSwitch argument)
  | none, some g =>
    if value.isSome then .error (.valueForSwitch argument) else r.general command g
  | none, none => .error (.unknownArgument argument)

/-- The reading with an argument that begins with a hyphen; nothing for any other one. -/
def hyphened? (command : Option CommandName) (r : Reading) :
    Text → Option (Except UsageFault Reading)
  | '-' :: '-' :: t => some (r.long command t)
  | '-' :: c :: cs => some (r.letters command (c :: cs))
  | _ => none

def readCommand (command : CommandName) (r : Reading) : List Text → Except UsageFault Reading
  | [] => r.settle
  | a :: as =>
    if a = "--".toList then
      match as with
      | [] => r.settle
      | b :: _ => .error (.unknownArgument b)
    else
      match r.hyphened? (some command) a, r.pending with
      | some next, _ => do readCommand command (← next) as
      | none, some ⟨s, none⟩ => readCommand command { r with pending := some ⟨s, some a⟩ } as
      | none, _ => .error (.unknownArgument a)

end Reading

def checkRequired (command : CommandName) (r : Reading) : Except UsageFault Unit :=
  match command.required.filter fun s => !r.has s with
  | [] => .ok ()
  | missing => .error (.requiredMissing missing)

def helpName : Text := "help".toList

/-- Asking for the help of a command that does not exist is a mistake. -/
def readHelp : List Text → UsageFault
  | [] => .helpAsked none
  | a :: as =>
    match CommandName.ofName? a, a == helpName, as with
    | some command, _, [] => .helpAsked command
    | none, true, [] => .helpAsked none
    | none, false, _ => .unknownCommand a
    | _, _, b :: _ => .unknownCommand b

def isCommand (t : Text) : Bool := t == helpName || (CommandName.ofName? t).isSome

def endFault (r : Reading) : UsageFault :=
  if r.verbosity = 0 then .nothingGiven else .commandMissing

/-- The command and what is given for it. More output may be asked for in front of the command or
behind it; the latter counts if there is any. -/
def read (r : Reading) : List Text → Except UsageFault (CommandName × Reading)
  | [] => .error (endFault r)
  | a :: as =>
    if a = helpName then .error (readHelp as)
    else if let some command := CommandName.ofName? a then do
      let own ← Reading.readCommand command {} as
      checkRequired command own
      return (command, if own.verbosity = 0 then { own with verbosity := r.verbosity } else own)
    else if a = "--".toList then
      match as with
      | [] => .error (endFault r)
      | b :: _ => .error (if isCommand b then .unknownArgument b else .unknownCommand b)
    else
      match r.hyphened? none a with
      | some next => do read (← next) as
      | none => .error (.unknownCommand a)

end DiffBudget.CommandLine
