import VectorFetch.Config.Basic
import VectorFetch.Toml.Document
import VectorFetch.Toml.Mismatch

/-!
# Configurations as TOML documents

* `Config.ofMembers`: the configuration that a document sets. What it does not set stays
  as it is without a document, and what is unknown does not count.
* `Config.parse`: reads a document.
* `Config.write`: writes one that sets all there is to set.
-/

namespace VectorFetch

open Toml (Item Members Mismatch Span)

/-! ## Single values -/

namespace Config

/-- A mismatch of a value and what it should have been. -/
def mismatch (wanted : Toml.Wanted) (place : Span) (item : Item) : Mismatch :=
  ⟨.kind item.kind wanted, item.span?.getD place⟩

/-- The integer that a value is, if it lies below a bound. -/
def natural (wanted : Toml.Wanted) (bound : Nat) (place : Span) (item : Item) :
    Except Mismatch Nat :=
  match item with
  | .scalar span (.integer n) =>
    if 0 ≤ n.toInt ∧ n.toInt < bound then .ok n.toInt.toNat else .error ⟨.range n wanted, span⟩
  | item => .error (mismatch wanted place item)

/-- An unsigned integer of 64 bits. -/
def word64 (place : Span) (item : Item) : Except Mismatch UInt64 :=
  (natural .word64 UInt64.size place item).map UInt64.ofNat

/-- An unsigned integer of 32 bits. -/
def word32 (place : Span) (item : Item) : Except Mismatch UInt32 :=
  (natural .word32 UInt32.size place item).map UInt32.ofNat

def boolean (place : Span) (item : Item) : Except Mismatch Bool :=
  match item with
  | .scalar _ (.boolean b) => .ok b
  | item => .error (mismatch .boolean place item)

end Config

/-! ## Settings -/

namespace HttpSettings

/-- What can be set. -/
inductive Field where
  | connectTimeoutSecs
  | followRedirects
  | maxRedirections
  deriving DecidableEq, Repr

/-- The key of what can be set. -/
def Field.key : Field → String
  | .connectTimeoutSecs => "connect_timeout_secs"
  | .followRedirects => "follow_redirects"
  | .maxRedirections => "max_redirections"

/-- Everything that can be set, in order. -/
def Field.all : List Field := [.connectTimeoutSecs, .followRedirects, .maxRedirections]

def Field.ofKey? (key : String) : Option Field := Field.all.find? fun field => field.key = key

/-- Sets one value; `place` is where the key or the list of the value stands. -/
def setField (s : HttpSettings) (field : Field) (place : Span) (item : Item) :
    Except Mismatch HttpSettings :=
  match field with
  | .connectTimeoutSecs =>
    (Config.word64 place item).map fun n => { s with connectTimeoutSecs := some n }
  | .followRedirects => (Config.boolean place item).map fun b => { s with followRedirects := b }
  | .maxRedirections => (Config.word32 place item).map fun n => { s with maxRedirections := n }

/-- Sets the values of a table. The first mismatch ends it. -/
def setMembers (s : HttpSettings) : Members → Except Mismatch HttpSettings
  | [] => .ok s
  | (name, item) :: rest =>
    match Field.ofKey? name.text with
    | none => s.setMembers rest
    | some field =>
      match s.setField field name.span item with
      | .ok s => s.setMembers rest
      | .error e => .error e

/-- Sets one value after the other, in the order of `Field.all`. -/
def setItems (s : HttpSettings) (place : Span) :
    List Field → List Item → Except Mismatch HttpSettings
  | field :: fields, item :: items =>
    match s.setField field place item with
    | .ok s => s.setItems place fields items
    | .error e => .error e
  | _, _ => .ok s

/-- The settings that a value stands for: a table by its keys, a list by its order. A
date or a time is presented as a table without any of the keys. -/
def ofItem (place : Span) (item : Item) : Except Mismatch HttpSettings :=
  match item with
  | .table _ _ members => HttpSettings.default.setMembers members
  | .array span items => HttpSettings.default.setItems span Field.all items
  | .tables earlier span latest =>
    HttpSettings.default.setItems (Item.tablesSpan earlier span) Field.all
      (earlier ++ [.table (some span) .header latest])
  | .scalar _ .moment => .ok .default
  | .scalar span value => .error (Config.mismatch .settings place (.scalar span value))

end HttpSettings

namespace Config

def httpKey : String := "http"

/-- The configuration that a table stands for. -/
def ofMembers : Members → Except Mismatch Config
  | [] => .ok .default
  | (name, item) :: rest =>
    if name.text = httpKey then (HttpSettings.ofItem name.span item).map Config.mk
    else ofMembers rest

/-! ## Reading -/

/-- Why a text gives no configuration. -/
inductive ReadError where
  /-- It is no document. A `Toml.Wording` says why. -/
  | malformed
  /-- A value is not what it should have been. -/
  | mismatch (mismatch : Mismatch)
  deriving DecidableEq, Repr

def parse (text : String) : Except ReadError Config :=
  match Toml.parse? text with
  | none => .error .malformed
  | some members =>
    match ofMembers members with
    | .ok config => .ok config
    | .error mismatch => .error (.mismatch mismatch)

/-! ## Writing -/

/-- A number that has no written form. -/
structure Unwritable where
  value : UInt64
  deriving DecidableEq, Repr

/-- The wording of a number that has no written form. -/
def Unwritable.message (_ : Unwritable) : String := "out-of-range value for u64 type"

/-- A line that sets a value. -/
def line (field : HttpSettings.Field) (value : String) : String :=
  field.key ++ " = " ++ value ++ "\n"

/-- The text of a configuration. Integers end at 2^63. -/
def write (config : Config) : Except Unwritable String :=
  let others := line .followRedirects (toString config.http.followRedirects)
    ++ line .maxRedirections config.http.maxRedirections.toNat.repr
  match config.http.connectTimeoutSecs with
  | none => .ok ("[" ++ httpKey ++ "]\n" ++ others)
  | some n =>
    if n.toNat < Nat.pow 2 63 then
      .ok ("[" ++ httpKey ++ "]\n" ++ line .connectTimeoutSecs n.toNat.repr ++ others)
    else .error ⟨n⟩

end Config

end VectorFetch
