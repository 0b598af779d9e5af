import InFlight.Files.Tree
import InFlight.Settings.Format
import InFlight.Text.Utf8

/-!
# The settings file

A missing file stands for the defaults.  Settings are saved by writing a temporary file beside
the target and moving it into place, so a save that fails leaves the target as it was.

## Main definitions

* `InFlight.Settings.load` — the settings in a file.
* `InFlight.Settings.save` — the tree after saving, and what went wrong if anything did.
-/

set_option relaxedAutoImplicit false
set_option autoImplicit false

namespace InFlight

namespace Settings

/-- The settings in a file, which must fit together. -/
def load (files : FileTree) (path : String) : Except Error Settings :=
  match files.read path with
  | .error .notFound => .ok {}
  | .error problem => .error (.file problem (some path))
  | .ok bytes =>
    match Utf8.decode? bytes with
    | none => .error (.file .invalidData (some path))
    | some text =>
      match parse text with
      | .error e => .error e
      | .ok s => s.validate.map fun _ => s

/-- The temporary file beside a settings file. -/
def temporaryPath (path : String) : String := Path.withExtension path "json.tmp"

/-- The tree after writing the temporary file and moving it into place. -/
def replaceFile (files : FileTree) (path : String) (content : ByteArray) :
    FileTree × Option Error :=
  let temporary := temporaryPath path
  match files.write temporary content with
  | .error problem => (files, some (.file problem (some temporary)))
  | .ok files =>
    match files.rename temporary path with
    | .error problem => (files, some (.file problem (some path)))
    | .ok files => (files, none)

/-- The tree after saving settings, and what went wrong if anything did. -/
def save (files : FileTree) (path : String) (s : Settings) : FileTree × Option Error :=
  match files.makeParent path with
  | (files, some e) => (files, some e)
  | (files, none) => replaceFile files path s.toText.toUTF8

end Settings

end InFlight
