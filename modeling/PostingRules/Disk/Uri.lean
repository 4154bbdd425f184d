import PostingRules.Text.Ranges
import PostingRules.Text.Split
import PostingRules.Text.Utf8

/-!
# Names of tables

The database is given the name of a table. It is the path of a file, unless it stands for a table in
memory or begins with `file:`. Then it is a URI: an authority that says nothing, a path, and options
behind a question mark. What stands behind a number sign is passed over.

* `TableFault`: why a table of rules cannot be opened;
* `percentBytes`, `percentText?`: bytes written as two digits behind a percent sign;
* `Uri`, `Uri.read`: the path and the options of a URI;
* `Access`, `Opening`, `Opening.choose`: what the options ask for;
* `TableName`, **`TableName.read`**: what a name stands for.
-/

namespace PostingRules

open PostingRules.Text

/-- Why a table of rules cannot be opened. -/
inductive TableFault
  | cannotOpen (name : String)
  | notATable
  /-- The table may only be read. -/
  | readOnly
  /-- The URI names another host. -/
  | authority (host : String)
  /-- An option of the URI has a value that it does not know. -/
  | noSuch (what value : String)
  /-- An option of the URI asks for more than one before it allows. -/
  | notAllowed (mode : String)
  deriving DecidableEq, Repr

/-- The wording of a fault of a table. -/
def TableFault.message : TableFault → String
  | .cannotOpen name => "unable to open database file: " ++ name
  | .notATable => "file is not a database"
  | .readOnly => "attempt to write a readonly database"
  | .authority host => "invalid uri authority: " ++ host
  | .noSuch what value => "no such " ++ what ++ ": " ++ value
  | .notAllowed mode => "access mode not allowed: " ++ mode

/-! ## URIs -/

/-- The bytes of a piece of a URI. A percent sign with two hexadecimal digits is a byte, and the zero
byte ends the piece. -/
def percentBytes : List Char → List UInt8
  | [] => []
  | '%' :: a :: b :: cs =>
    match hexDigit? a, hexDigit? b with
    | some x, some y =>
      if 16 * x + y = 0 then [] else UInt8.ofNat (16 * x + y) :: percentBytes cs
    | _, _ => '%'.toUInt8 :: percentBytes (a :: b :: cs)
  | c :: cs => String.utf8EncodeChar c ++ percentBytes cs

/-- The text of a piece of a URI, if it is one. -/
def percentText? (cs : List Char) : Option String :=
  (Utf8.decode (percentBytes cs)).toOption.map String.ofList

/-- A URI: a path, and names and values of options. -/
structure Uri where
  path : String
  options : List (String × String)
  deriving DecidableEq, Repr

namespace Uri

/-- What every URI begins with. -/
def scheme : List Char := "file:".toList

/-- A URI without its authority, which may only be that of this host. -/
def dropAuthority : List Char → Except TableFault (List Char)
  | '/' :: '/' :: cs =>
    let host := cs.takeWhile (· != '/')
    if host = [] ∨ host = "localhost".toList then .ok (cs.dropWhile (· != '/'))
    else .error (.authority (String.ofList host))
  | cs => .ok cs

/-- The name and the value of an option. -/
def option? (cs : List Char) : Option (String × String) := do
  let name ← percentText? (cs.takeWhile (· != '='))
  let value ← percentText? ((cs.dropWhile (· != '=')).drop 1)
  some (name, value)

/-- The path and the options of what stands behind the authority. Options without a name are passed
over. -/
def split? (cs : List Char) : Option Uri := do
  let path ← percentText? (cs.takeWhile (· != '?'))
  let options ← (splitOn '&' ((cs.dropWhile (· != '?')).drop 1)).mapM option?
  some ⟨path, options.filter fun o => !o.1.isEmpty⟩

/-- The URI of a name, behind its scheme. One that is no text cannot be opened. -/
def read (name : String) : Except TableFault Uri :=
  match dropAuthority (name.toList.drop scheme.length) with
  | .error f => .error f
  | .ok cs =>
    match split? (cs.takeWhile (· != '#')) with
    | some u => .ok u
    | none => .error (.cannotOpen name)

end Uri

/-! ## Options -/

/-- What may be done with a table: read it, change it, make it where there is none, and make one in
memory, whatever there is. -/
inductive Access
  | readOnly
  | existing
  | created
  | memory
  deriving DecidableEq, Repr

namespace Access

/-- The values of the option. -/
def ofName? : String → Option Access
  | "ro" => some readOnly
  | "rw" => some existing
  | "rwc" => some created
  | "memory" => some memory
  | _ => none

/-- How much may be done. -/
def rank : Access → Nat
  | readOnly => 0
  | existing => 1
  | created => 2
  | memory => 3

/-- May it be asked for behind another one? -/
def follows (a b : Access) : Bool := a = memory || a.rank ≤ b.rank

end Access

/-- How a table is opened: what may be done with it, and the name of the system that holds it. -/
structure Opening where
  access : Access := .created
  system : String := "unix"
  deriving DecidableEq, Repr

namespace Opening

/-- One option. Those that the database does not know say nothing. -/
def step (o : Opening) (option : String × String) : Except TableFault Opening :=
  let (name, value) := option
  if name = "vfs" then .ok { o with system := value }
  else if name = "cache" then
    if value = "shared" ∨ value = "private" then .ok o else .error (.noSuch "cache mode" value)
  else if name = "mode" then
    match Access.ofName? value with
    | none => .error (.noSuch "access mode" value)
    | some a => if a.follows o.access then .ok { o with access := a } else .error (.notAllowed value)
  else .ok o

/-- What some options ask for. -/
def choose (options : List (String × String)) : Except TableFault Opening := options.foldlM step {}

end Opening

/-! ## Names -/

/-- What a name stands for: a table that is gone when it is closed, a file, or nothing. -/
inductive TableName
  | memory
  | file (path : String) (access : Access)
  | refused (f : TableFault)
  deriving DecidableEq, Repr

namespace TableName

/-- The path of a table in memory. -/
def memoryPath : String := ":memory:"

/-- Does the path stand for no file? A table without a path is gone when it is closed as well. -/
def isVolatile (path : String) : Bool := path = memoryPath || path.isEmpty

/-- What a URI stands for that is opened in a way. The systems with other locks cannot open the tables of
the usual one. -/
def ofUri (name : String) (u : Uri) (o : Opening) : TableName :=
  if o.system = "memdb" then .memory
  else if o.system = "unix-none" ∨ o.system = "unix-dotfile" then .refused (.cannotOpen name)
  else if o.system ≠ "unix" ∧ o.system ≠ "unix-excl" then .refused (.noSuch "vfs" o.system)
  else if o.access = .memory then .memory
  else if isVolatile u.path then
    if o.access = .readOnly then .refused .readOnly else .memory
  else .file u.path o.access

/-- **What a name stands for.** -/
def read (name : String) : TableName :=
  if Uri.scheme.isPrefixOf name.toList then
    match Uri.read name with
    | .error f => .refused f
    | .ok u =>
      match Opening.choose u.options with
      | .error f => .refused f
      | .ok o => ofUri name u o
  else if isVolatile name then .memory
  else .file name .created

end TableName

end PostingRules
