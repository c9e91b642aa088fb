import VlanBridge.Codec.Bridge
import VlanBridge.Data.Toml
import VlanBridge.Data.Toml.Writer
import VlanBridge.Error
/-!
# Settings in files

Settings are kept as TOML. Where no file is, the defaults hold, and these are not checked; what a
file says is checked. Saved settings are a text with one line per field.
-/

namespace VlanBridge

open VlanBridge.Data

/-- What is found where a file of settings is looked for. -/
inductive SettingsFile where
  | missing
  /-- Something is there, but no bytes can be read from it. -/
  | unreadable
  | bytes (content : List UInt8)
  deriving DecidableEq

inductive FileFault where
  | unreadable
  /-- The text is not TOML, or it says something else than settings. -/
  | malformed
  deriving DecidableEq, Repr

namespace SettingsFile

def ofText (s : String) : SettingsFile := .bytes s.toUTF8.toList

/-- The text of bytes, which have to be UTF-8. -/
def text? (content : List UInt8) : Option String := String.fromUTF8? ⟨content.toArray⟩

/-- What a file holds, or nothing if there is none. -/
def value? : SettingsFile → Except FileFault (Option Value)
  | .missing => .ok none
  | .unreadable => .error .unreadable
  | .bytes content =>
    match text? content with
    | none => .error .unreadable
    | some text =>
      match Toml.parse? text with
      | some v => .ok (some v)
      | none => .error .malformed

/-- The settings that a file holds, if there is one. -/
def read? {α : Type} (file : SettingsFile) (reader : Value → Option α) :
    Except FileFault (Option α) :=
  match file.value? with
  | .error fault => .error fault
  | .ok none => .ok none
  | .ok (some v) =>
    match reader v with
    | some a => .ok (some a)
    | none => .error .malformed

end SettingsFile

namespace BridgeConfig

/-- The failure that stands for a file that is of no use. -/
def failureOf : FileFault → BridgeError
  | .unreadable => .unreadableConfig
  | .malformed => .malformedConfig

/-- The settings of a file, or the defaults where there is none. -/
def load (file : SettingsFile) : Except BridgeError BridgeConfig :=
  match file.read? (BridgeConfig.read? .file) with
  | .error fault => .error (failureOf fault)
  | .ok none => .ok {}
  | .ok (some c) =>
    match c.validate with
    | .error e => .error (.config e)
    | .ok () => .ok c

def save (c : BridgeConfig) : String := Toml.write c.toValue

end BridgeConfig

end VlanBridge
