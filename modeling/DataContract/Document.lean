import DataContract.Json
import DataContract.Schema.Loading
import DataContract.Yaml.Composition
/-!
# Documents

A descriptor comes as the text of a JSON or YAML document, or in a file whose extension
tells which of the two it is.
-/

namespace DataContract

/-- What stands under the name of a file. -/
inductive FileState where
  | missing
  | directory
  | bytes (content : ByteArray)

namespace FileState

/-- The text of a file, or the reason why it has none. -/
def text : FileState → Except String String
  | .missing => .error "No such file or directory (os error 2)"
  | .directory => .error "Is a directory (os error 21)"
  | .bytes content =>
      match String.fromUTF8? content with
      | some s => .ok s
      | none => .error "stream did not contain valid UTF-8"

end FileState

namespace Document

/-- The extension of a file name: what follows its last dot, unless the name starts
with that dot. -/
def extension? (name : String) : Option String :=
  let cs := name.toList
  let behind := (cs.reverse.takeWhile (· != '.')).reverse
  if behind.length + 1 < cs.length then some (String.ofList behind) else none

/-- Whether a file of a name holds YAML. -/
def isYaml (name : String) : Bool :=
  extension? name == some "yaml" || extension? name == some "yml"

end Document

namespace Schema

/-- The schema that a JSON text describes. -/
def ofJson (R : Readers) (text : String) : Except LoadFault (Schema R) :=
  match Json.read text with
  | some v => ofDescriptor R v
  | none => .error .notJson

/-- The schema that a YAML text describes. -/
def ofYaml (R : Readers) (text : String) : Except LoadFault (Schema R) :=
  match Yaml.read text with
  | none => .error .notYaml
  | some y =>
      match y.toValue with
      | .ok v => ofDescriptor R v
      | .error fault => .error (.node [] (.unreadable fault.message))

/-- The schema that a file describes. -/
def ofFile (R : Readers) (name : String) (file : FileState) : Except LoadFault (Schema R) :=
  match file.text with
  | .error reason => .error (.unavailable reason)
  | .ok text => if Document.isYaml name then ofYaml R text else ofJson R text

end Schema
end DataContract
