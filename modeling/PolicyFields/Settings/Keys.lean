import PolicyFields.Json.Reader
import PolicyFields.Settings
import PolicyFields.Text.Runs

/-!
# Settings by their names

A setting is named by the keys that lead to it, joined by points.

* `Json.Value.at?`, `Json.Value.replaceAt?` — the part of a value at some keys; only parts that are
  there can be replaced.
* `Settings.lookup`, `Settings.replace` — one setting read and changed.
-/

namespace PolicyFields

namespace Json.Value

/-- The part of a value at some keys (`lookup`). -/
def at? : List String → Value → Option Value
  | [], v => some v
  | k :: r, v => (v.member? k).bind (at? r)

/-- A value in which the part at some keys is replaced (`lookup_mut`). -/
def replaceAt? (part : Value) : List String → Value → Option Value
  | [], _ => some part
  | k :: r, .object members =>
    match members.lookup k with
    | some v => (replaceAt? part r v).map fun new =>
        .object (members.map fun m => if m.1 == k then (k, new) else m)
    | none => none
  | _ :: _, _ => none

mutual

/-- The members of all objects put in key order. -/
def sortKeys : Value → Value
  | .array items => .array (sortItems items)
  | .object members => .object (Dict.ofList (sortMembers members)).entries
  | v => v

/-- The items of a list with their objects in key order. -/
def sortItems : List Value → List Value
  | [] => []
  | v :: r => sortKeys v :: sortItems r

/-- The values of members with their objects in key order. -/
def sortMembers : List (String × Value) → List (String × Value)
  | [] => []
  | (k, v) :: r => (k, sortKeys v) :: sortMembers r

end

end Json.Value

/-- Why a setting cannot be changed. -/
inductive SettingError where
  | unknown (key : String)
  | invalid (key : String) (e : Json.Error)
deriving DecidableEq

/-- The wording of an error. -/
def SettingError.message : SettingError → String
  | unknown key => "Unknown setting: " ++ key
  | invalid key e => "Invalid value for " ++ key ++ ": " ++ e.message

namespace Settings

/-- The keys in the name of a setting. -/
def keys (name : String) : List String := (Text.splitAt '.' name.toList).map String.ofList

/-- The settings as a value with its keys in order. -/
def tree (s : Settings) : Json.Value := s.toValue.sortKeys

/-- A setting, or all of them. -/
def lookup (s : Settings) (name : String) : Except SettingError Json.Value :=
  match s.tree.at? (keys name) with
  | some v => .ok v
  | none => .error (.unknown name)

/-- One setting changed (`update_setting`). It must be there, and the settings must stay valid. -/
def replace (s : Settings) (name : String) (v : Json.Value) : Except SettingError Settings :=
  match Json.Value.replaceAt? v (keys name) s.tree with
  | none => .error (.unknown name)
  | some t => (Settings.read t).mapError (.invalid name)

/-- What a text means as a value: JSON, or else the text itself. -/
def valueOf (raw : String) : Json.Value :=
  match Json.Value.ofText raw with
  | .ok v => v
  | .error _ => .string raw

end Settings

end PolicyFields
