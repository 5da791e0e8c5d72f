/-!
# Reading a command line

A command line is a list of options, each with a value: a long name after two dashes, with the
value behind an equality sign or in the next argument, or a letter after one dash, with the value
right behind it or in the next argument. An option is given once, unless it may be repeated.
Nothing but options is accepted, and asking for help ends the reading.
-/

namespace PullSecrets.Arguments

/-- An option with a value. -/
structure Flag where
  /-- The name after two dashes. -/
  long : String
  /-- The letter after one dash. -/
  short : Option Char := none
  /-- Whether it may be given several times. -/
  repeatable : Bool := false
  /-- The values that it takes. -/
  accepts : String → Bool := fun _ => true

/-- Why a command line is not followed. -/
inductive Stop where
  /-- It is not understood. -/
  | misused
  /-- It asks for a page of text. -/
  | shown (page : List String)
  deriving DecidableEq, Inhabited

/-- The options of a command line, and the pages that it can ask for. -/
structure Grammar where
  flags : List Flag
  /-- The page of help. -/
  help : List String
  /-- The page about the version, if there is one. -/
  version : Option (List String) := none

/-- The options that have been given, with their values. -/
abbrev Given := List (String × String)

/-- The values of an option, in the order in which they were given. -/
def values (given : Given) (long : String) : List String :=
  (given.filter (·.1 == long)).map (·.2)

/-- What a single argument means. -/
inductive Meaning where
  /-- An option with its value. -/
  | given (flag : Flag) (value : String)
  /-- An option whose value is the next argument. -/
  | awaiting (flag : Flag)
  /-- The mark after which no option stands. -/
  | endMark
  /-- A reason to stop. -/
  | stop (reason : Stop)

/-- The meaning of an argument after two dashes. -/
def longMeaning (g : Grammar) (cs : List Char) : Meaning :=
  let name := String.ofList (cs.takeWhile (· != '='))
  match cs.dropWhile (· != '='), g.flags.find? (·.long == name), g.version with
  | [], some flag, _ => .awaiting flag
  | _ :: value, some flag, _ => .given flag (String.ofList value)
  | [], none, some page =>
    if name = "help" then .stop (.shown g.help)
    else if name = "version" then .stop (.shown page)
    else .stop .misused
  | [], none, none => if name = "help" then .stop (.shown g.help) else .stop .misused
  | _ :: _, none, _ => .stop .misused

/-- The meaning of a letter after one dash, with the characters behind it. -/
def shortMeaning (g : Grammar) (c : Char) (cs : List Char) : Meaning :=
  match g.flags.find? (·.short == some c), cs, g.version with
  | some flag, [], _ => .awaiting flag
  | some flag, '=' :: value, _ => .given flag (String.ofList value)
  | some flag, value, _ => .given flag (String.ofList value)
  | none, _, some page =>
    if c = 'h' then .stop (.shown g.help)
    else if c = 'V' then .stop (.shown page)
    else .stop .misused
  | none, _, none => if c = 'h' then .stop (.shown g.help) else .stop .misused

/-- The meaning of an argument. -/
def meaning (g : Grammar) (arg : String) : Meaning :=
  match arg.toList with
  | ['-', '-'] => .endMark
  | '-' :: '-' :: cs => longMeaning g cs
  | '-' :: c :: cs => shortMeaning g c cs
  | _ => .stop .misused

/-- Whether an argument can be the value of the option before it. -/
def isValue (arg : String) : Bool :=
  match arg.toList with
  | '-' :: _ :: _ => false
  | _ => true

/-- Give an option a value. -/
def give (flag : Flag) (value : String) (given : Given) : Except Stop Given :=
  if !flag.accepts value then .error .misused
  else if !flag.repeatable && !(values given flag.long).isEmpty then .error .misused
  else .ok (given ++ [(flag.long, value)])

/-- Read the arguments from the left, after some have been read. -/
def readFrom (g : Grammar) (given : Given) (args : List String) : Except Stop Given :=
  match args with
  | [] => .ok given
  | arg :: rest =>
    match meaning g arg with
    | .stop reason => .error reason
    | .endMark => if rest.isEmpty then .ok given else .error .misused
    | .given flag value => do readFrom g (← give flag value given) rest
    | .awaiting flag =>
      match rest with
      | [] => .error .misused
      | value :: rest =>
        if isValue value then do readFrom g (← give flag value given) rest
        else .error .misused
termination_by args.length

/-- The options that the arguments give. -/
def read (g : Grammar) (args : List String) : Except Stop Given := readFrom g [] args

end PullSecrets.Arguments
