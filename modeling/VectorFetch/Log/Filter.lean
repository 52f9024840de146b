import VectorFetch.Log.Event
import VectorFetch.Text.Alphanumeric
import VectorFetch.Text.Trim

/-!
# Log filters

A filter is a list of directives, separated by commas. A directive names a target, a
level, or both: `warn,tvfetch::cli=debug`. Of the directives that apply to a record the
most specific one decides; records that none applies to are not logged.

* `Directive`, `Directive.parse?`: one directive.
* `Filter`, `Filter.parse?`, `Filter.ofVariable`: the whole list.
* `Filter.admits`: whether a record is logged.
-/

namespace VectorFetch.Log

/-- A directive. -/
structure Directive where
  /-- The beginning of the targets it applies to. -/
  target : Option String
  /-- A value that records have to hold. -/
  field : Option String
  /-- It is about what happens within others, so it applies to no record. -/
  onlyWithin : Bool
  /-- The least severe level that passes; below all levels nothing does. -/
  limit : Nat
  deriving DecidableEq, Repr

namespace Directive

/-! ## Levels -/

/-- The names of the limits, from the one that lets nothing pass. -/
def limitNames : List String := ["off", "error", "warn", "info", "debug", "trace"]

/-- The limit that lets everything pass. -/
def widest : Nat := 5

/-- A number, with a plus sign or without. -/
def numeral? (s : List Char) : Option Nat :=
  let digits := match s with
    | '+' :: rest => rest
    | s => s
  if digits.isEmpty || !digits.all Char.isDigit then none
  else some (digits.foldl (fun n c => 10 * n + (c.toNat - 48)) 0)

/-- A limit by its number or its name in any case. -/
def limit? (s : List Char) : Option Nat :=
  match numeral? s with
  | some n => if n ≤ widest then some n else none
  | none => limitNames.findIdx? fun name => name.toList = s.map Char.toLower

/-- A limit behind an equals sign, where nothing stands for the widest one. -/
def limitOrWidest? (s : List Char) : Option Nat := if s.isEmpty then some widest else limit? s

/-! ## Reading -/

/-- The blanks of all scripts. -/
def isWhite (c : Char) : Bool :=
  (9 ≤ c.toNat && c.toNat ≤ 13) || (0x2000 ≤ c.toNat && c.toNat ≤ 0x200A)
    || [0x20, 0x85, 0xA0, 0x1680, 0x2028, 0x2029, 0x202F, 0x205F, 0x3000].contains c.toNat

/-- A character that a directive may start with, besides a bracket. -/
def starts (c : Char) : Bool := c = '-' || c = ':' || c = '_' || Text.isAlphanumeric c

/-- A word alone is a level, or else a target. -/
def ofWord (word : List Char) : Directive :=
  match limit? word with
  | some limit => ⟨none, none, false, limit⟩
  | none => ⟨some (String.ofList word), none, false, widest⟩

/-- The end of a directive behind a closing bracket. As in all that follows, `trimmed`
tells where the parts end, and they are cut from `text`, which may hold more. -/
def readEnd (d : Directive) (trimmed text : List Char) : Option Directive :=
  match trimmed with
  | [] => some d
  | '=' :: _ => (limitOrWidest? (text.drop 1)).map fun limit => { d with limit }
  | _ => none

/-- What stands between braces: the name of a value, and the value it should have. -/
def readField (d : Directive) (trimmed text : List Char) : Option Directive :=
  let n := (trimmed.takeWhile (· ≠ '}')).length
  let field := text.take n
  if field.isEmpty then none
  else
    match trimmed.drop n with
    | '}' :: ']' :: rest =>
      let d := { d with
        field := some (String.ofList (field.takeWhile (· ≠ '=')))
        onlyWithin := d.onlyWithin || field.contains '=' }
      readEnd d rest (text.drop (n + 2))
    | _ => none

/-- What stands between brackets. -/
def readWithin (target : Option String) (trimmed text : List Char) : Option Directive :=
  let n := (trimmed.takeWhile fun c => c ≠ ']' && c ≠ '{').length
  match trimmed.drop n with
  | ']' :: rest => readEnd ⟨target, none, true, widest⟩ rest (text.drop (n + 1))
  | '{' :: rest =>
    readField ⟨target, none, !(text.take n).isEmpty, widest⟩ rest (text.drop (n + 1))
  | _ => none

def read (trimmed text : List Char) : Option Directive :=
  match trimmed with
  | [] => none
  | '[' :: rest => readWithin none rest (text.drop 1)
  | c :: _ =>
    if starts c then
      let n := (trimmed.takeWhile fun c => c ≠ '=' && c ≠ '[').length
      let target := String.ofList (text.take n)
      match trimmed.drop n with
      | [] => some (ofWord text)
      | '=' :: _ =>
        (limitOrWidest? (text.drop (n + 1))).map fun limit => ⟨some target, none, false, limit⟩
      | _ :: rest => readWithin (some target) rest (text.drop (n + 1))
    else none

/-- Reads a directive. Blanks around it do not count for where its parts end, but they
are not left out of the parts. -/
def parse? (text : List Char) : Option Directive := read (Text.trim isWhite text) text

/-! ## Meaning -/

/-- Whether a record holds a value by this name. Every record holds a message. -/
def holds (r : Record) (name : String) : Bool :=
  name = "message" || r.fields.any fun field => field.1 = name

/-- Whether a directive applies to a record. -/
def applies (d : Directive) (r : Record) : Bool :=
  !d.onlyWithin
    && d.target.all (fun target => target.toList.isPrefixOf r.target.toList)
    && d.field.all (holds r)

/-- The size of the target in bytes, and one more; without a target nothing. -/
def targetSize (d : Directive) : Nat :=
  match d.target with
  | some target => target.utf8ByteSize + 1
  | none => 0

/-- Whether a directive is at least as specific as another one: by the size of its
target, then by its field. -/
def outranks (a b : Directive) : Bool :=
  if a.targetSize ≠ b.targetSize then b.targetSize < a.targetSize
  else
    match a.field, b.field with
    | _, none => true
    | none, some _ => false
    | some x, some y => y ≤ x

end Directive

/-- A list of directives. -/
structure Filter where
  directives : List Directive
  deriving DecidableEq, Repr

namespace Filter

/-- Reads directives separated by commas. Nothing between two commas is no directive, and
one that is wrong makes all of them wrong. -/
def parse? (text : String) : Option Filter :=
  let parts := (text.toList.splitOn ',').filter fun part => !part.isEmpty
  (parts.mapM Directive.parse?).map Filter.mk

/-- The filter that is used when none is given. -/
def default : Filter :=
  ⟨[⟨none, none, false, 3⟩, ⟨some "tvfetch", none, false, 4⟩,
    ⟨some "tvfetch_core", none, false, 4⟩]⟩

/-- The filter of a variable. One that is missing or wrong gives the default. -/
def ofVariable (text : Option String) : Filter := (text.bind parse?).getD default

/-- The most specific directive that applies to a record; of two alike the later one. -/
def decisive? (f : Filter) (r : Record) : Option Directive :=
  (f.directives.filter fun d => d.applies r).foldl
    (fun best d =>
      match best with
      | none => some d
      | some b => if d.outranks b then some d else some b)
    none

/-- Whether a record is logged. -/
def admits (f : Filter) (r : Record) : Bool :=
  match f.decisive? r with
  | some d => r.level.rank ≤ d.limit
  | none => false

end Filter

end VectorFetch.Log
