import VectorFetch.Program

/-!
# The command line

The outer layer of the program: it looks at the files that the program may touch, runs
the program on them, and then does on disk what the program did.

No transport is built in, so no server takes a connection.
-/

namespace VectorFetch.Main

/-- A network in which no server takes a connection. -/
def offline : Network Unit where
  refusal? _ := some .refused
  respond _ _ := (.closed, ())
  detail _ _ _ := none

/-- The place in a text at which it is no document is not looked for. -/
def wording : Toml.Wording := fun _ => "TOML parse error"

/-- The path of a place. -/
def pathOf (place : Place) : String := "/" ++ "/".intercalate place

/-- What is stored at a place on disk. -/
def look (place : Place) : IO (Option Node) := do
  try
    let content ← IO.FS.readBinFile (pathOf place)
    return some (.file content.toList none)
  catch e =>
    match e with
    | .inappropriateType .. => return some .directory
    | _ => return none

/-- Adds what is stored at the places on the way from one place to another, up to the
first one that is no directory. -/
def observe (files : Files) (done : Place) : List String → IO Files
  | [] => return files
  | name :: rest => do
    let place := done ++ [name]
    match ← look place with
    | none => return files
    | some .directory => observe (files.set place .directory) place rest
    | some node => return files.set place node

/-- The files that the program may touch. -/
def snapshot (env : Environment) (cwd : Place) : IO Files := do
  let named := [(env.configDir.join Config.fileName), (env.stateDir.join Log.fileName)]
  let placeOf := fun (path : Path) => if path.isAbsolute then path.parts else cwd ++ path.parts
  let artifacts := Key.all.map fun key => cwd ++ [key.fileName]
  (cwd :: named.map placeOf ++ artifacts).foldlM (fun files place => observe files [] place) .empty

/-- Does on disk what was done to a site. -/
def perform (output : IO.FS.Stream) : Effect → IO Unit
  | .create path => IO.FS.writeFile path.text ""
  | .openForAppend path => do
    let _ ← IO.FS.Handle.mk path.text .append
  | .store place bytes => do
    let file ← IO.FS.Handle.mk (pathOf place) .append
    file.write bytes.toByteArray
  | .makeDirectories path => IO.FS.createDirAll path.text
  | .print bytes => do
    output.write bytes.toByteArray
    output.flush
  | .request _ => return

end VectorFetch.Main

open VectorFetch in
/-- Runs the program in the current directory. The log counts milliseconds. -/
def main (arguments : List String) : IO UInt32 := do
  let env : Environment :=
    { home := ← IO.getEnv "HOME"
      configHome := ← IO.getEnv "XDG_CONFIG_HOME"
      stateHome := ← IO.getEnv "XDG_STATE_HOME"
      logFilter := ← IO.getEnv "RUST_LOG" }
  let cwd := Path.parts ⟨toString (← IO.currentDir)⟩
  let time := toString (← IO.monoMsNow)
  let site := Site.start (← Main.snapshot env cwd) cwd () .unlimited
  let (report, site) := Program.run Main.wording Main.offline env time arguments site
  site.effects.forM (Main.perform (← IO.getStdout))
  IO.eprint report.errors
  return report.status.toUInt32
