import Testbed.Config
import Testbed.Decimal.Power
import Testbed.Fault
import Testbed.Yaml.Node

/-!
# Configuration documents

Settings are read from a YAML document. What it does not mention keeps its default, and what is
no setting is passed over. Each setting is given at most once. A number and a truth value are
plain scalars; a text is any scalar, as it is written. Credentials need both a name and a
password.

## Main definitions

* `Config.ofYaml?` — the settings that a text gives
* `Config.ofYaml`, `Config.load` — the same, with a fault for a text that gives none
-/

namespace Testbed.Config

open Yaml (Document)

/-! ### Scalars -/

/-- The full name of a tag of the language itself. -/
def coreTag (name : String) : Yaml.Address :=
  .ofText ("tag:yaml.org,2002:" ++ name)

/-- The text of a scalar that may be more than text: a plain one, or a block under a tag. -/
def bareText? (tagName : String) : Yaml.Node → Option String
  | .scalar tag value =>
    match value.style with
    | .plain => some value.text
    | .literal => if tag = some (coreTag tagName) then some value.text else none
    | _ => none
  | _ => none

/-- A truth value, in one of three spellings. -/
def truth? (node : Yaml.Node) : Option Bool :=
  (bareText? "bool" node).bind fun text =>
    if text ∈ ["true", "True", "TRUE"] then some true
    else if text ∈ ["false", "False", "FALSE"] then some false
    else none

/-- The number that digits of a base stand for, if it fits sixty-four bits. -/
def ofDigits? (base : Nat) (digits : List Char) : Option Nat :=
  if digits.isEmpty then none
  else
    (digits.mapM Hex.value?).bind fun values =>
      let number := values.foldl (fun n value => n * base + value) 0
      if values.all (· < base) && number < Power.two 64 then some number else none

/-- A number: decimal digits without zeros before them, or digits after the mark of a base. -/
def numberOf? (text : List Char) : Option Nat :=
  let digits := match text with
    | '+' :: digits => digits
    | digits => digits
  match digits with
  | '0' :: 'x' :: rest => ofDigits? 16 rest
  | '0' :: 'o' :: rest => ofDigits? 8 rest
  | '0' :: 'b' :: rest => ofDigits? 2 rest
  | ['0'] => some 0
  | '0' :: _ => none
  | digits => ofDigits? 10 digits

/-- A number. -/
def number? (node : Yaml.Node) : Option Nat :=
  (bareText? "int" node).bind fun text => numberOf? text.toList

/-- The text of any scalar. -/
def text? : Yaml.Node → Option String
  | .scalar _ value => some value.text
  | _ => none

/-! ### Settings -/

/-- Entries by the texts of their keys, with the nodes that aliases stand for. Every key must be
a scalar, and each of the `known` ones stands once. -/
def entries? (document : Document) (known : List String)
    (entries : List (Yaml.Node × Yaml.Node)) : Option (List (String × Yaml.Node)) :=
  let named := entries.mapM fun (key, value) =>
    (text? (document.resolve key)).map fun name => (name, document.resolve value)
  named.bind fun named =>
    let given := (named.map Prod.fst).filter (· ∈ known)
    if given.eraseDups.length = given.length then some named else none

/-- Credentials: a mapping with a name and a password. -/
def credentials? (document : Document) : Yaml.Node → Option Credentials
  | .mapping entries =>
    (entries? document ["username", "password"] entries).bind fun named =>
      match (named.lookup "username").bind text?, (named.lookup "password").bind text? with
      | some username, some password => some ⟨username, password⟩
      | _, _ => none
  | _ => none

/-- The settings, by their names in a document. -/
def settingNames : List String :=
  ["use_colors", "verbose", "width", "dry_run", "http_timeout_secs", "cluster_dir", "auth"]

/-- Changes one setting. -/
def set? (document : Document) (config : Config) (name : String) (value : Yaml.Node) :
    Option Config :=
  if name = "use_colors" then (truth? value).map fun useColors => { config with useColors }
  else if name = "verbose" then (truth? value).map fun verbose => { config with verbose }
  else if name = "width" then (number? value).map fun width => { config with width }
  else if name = "dry_run" then (truth? value).map fun dryRun => { config with dryRun }
  else if name = "http_timeout_secs" then
    (number? value).map fun httpTimeoutSecs => { config with httpTimeoutSecs }
  else if name = "cluster_dir" then
    (text? value).map fun clusterDir => { config with clusterDir }
  else if name = "auth" then
    (credentials? document value).map fun auth => { config with auth }
  else some config

/-- The settings of a document, over the defaults. A document may be a mapping, or nothing at
all. -/
def ofDocument? (document : Document) : Option Config :=
  match document.root with
  | .mapping entries =>
    (entries? document settingNames entries).bind fun named =>
      named.foldlM (fun config (name, value) => set? document config name value) {}
  | .scalar _ ⟨"", .plain⟩ => some {}
  | _ => none

/-- The settings that a text gives. A text without a document gives the defaults. -/
def ofYaml? (text : String) : Option Config :=
  match Yaml.document? text with
  | none => none
  | some none => some {}
  | some (some document) => ofDocument? document

/-! ### Loading -/

/-- The settings that a text gives; `path` says where it is from. -/
def ofYaml (path text : String) : Except Fault Config :=
  match ofYaml? text with
  | some config => .ok config
  | none => .error (.config path "not a document of settings")

/-- The settings in a file, of which `read` gives the bytes. -/
def load (read : String → Option ByteArray) (path : String) : Except Fault Config :=
  match read path with
  | none => .error (.config path "cannot be read")
  | some bytes =>
    match String.fromUTF8? bytes with
    | none => .error (.config path "not in UTF-8")
    | some text => ofYaml path text

end Testbed.Config
