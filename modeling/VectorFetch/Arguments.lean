import VectorFetch.Text.Similarity

/-!
# Arguments

The program has no arguments of its own: it runs, or it says what it is.

* `Command`, `Command.parse`: what the arguments ask for.
* `Misuse.text`: what is said about arguments that ask for nothing.
* `helpText`, `versionText`: what the program says about itself.
-/

namespace VectorFetch

/-- An argument that has no meaning. -/
inductive Misuse where
  /-- There is no such argument. One with a similar name may be meant. -/
  | unknown (argument : String) (similar : Option String)
  /-- An option without a value was given one. -/
  | unwanted (option value : String)
  deriving DecidableEq, Repr

/-- What the arguments ask for. -/
inductive Command where
  | run
  | help
  | version
  | misuse (misuse : Misuse)
  deriving DecidableEq, Repr

namespace Command

/-! ## Reading -/

def optionNames : List String := ["help", "version"]

/-- What an option by its name asks for. -/
def ofName? (name : String) : Option Command :=
  if name = "help" then some .help else if name = "version" then some .version else none

/-- What an option by its letter asks for. -/
def ofLetter? (letter : Char) : Option Command :=
  if letter = 'h' then some .help else if letter = 'V' then some .version else none

/-- What follows two dashes: a name, and a value behind an equals sign. -/
def ofLong (s : List Char) : Command :=
  let name := String.ofList (s.takeWhile (· ≠ '='))
  match ofName? name, s.dropWhile (· ≠ '=') with
  | some command, [] => command
  | some _, _ :: value => .misuse (.unwanted ("--" ++ name) (String.ofList value))
  | none, _ => .misuse (.unknown ("--" ++ name) (Text.Similarity.closest? name optionNames))

/-- What an argument asks for. Of several letters behind a dash the first one counts. -/
def ofArgument (argument : String) : Command :=
  match argument.toList with
  | '-' :: '-' :: long => ofLong long
  | '-' :: letter :: _ =>
    (ofLetter? letter).getD (.misuse (.unknown (String.ofList ['-', letter]) none))
  | _ => .misuse (.unknown argument none)

/-- What the arguments ask for. The first one decides; behind two dashes alone nothing is
an option. -/
def parse : List String → Command
  | [] => .run
  | "--" :: [] => .run
  | "--" :: argument :: _ => .misuse (.unknown argument none)
  | argument :: _ => ofArgument argument

end Command

/-! ## Wording -/

/-- What is said about an argument without a meaning. -/
def Misuse.text : Misuse → String
  | .unknown argument similar =>
    let tip := match similar with
      | some name => s!"  tip: a similar argument exists: '--{name}'\n\n"
      | none => ""
    let usage := match similar with
      | some name => s!"tvfetch --{name}"
      | none => "tvfetch"
    s!"error: unexpected argument '{argument}' found\n\n" ++ tip
      ++ s!"Usage: {usage}\n\nFor more information, try '--help'.\n"
  | .unwanted option value =>
    s!"error: unexpected value '{value}' for '{option}' found; no more were expected\n\n"
      ++ s!"Usage: tvfetch {option}\n\nFor more information, try '--help'.\n"

def helpText : String :=
  "Fetch the nes6502 processor test vectors\n\nUsage: tvfetch\n\nOptions:\n"
    ++ "  -h, --help     Print help\n  -V, --version  Print version\n"

/-- The name of the program and its version. -/
def versionText : String := "tvfetch 0.1.0\n"

end VectorFetch
