import Lexeme.Command.Transcript
import Lexeme.Settings.Store

/-!
# Writing the settings file

Puts the current settings into a file of a directory, which is made if it is missing. A file that
exists already is only replaced on demand.
-/

namespace Lexeme

/-- Where to write, and whether a file there may be replaced. -/
structure InitRequest where
  path : Option String
  force : Bool
deriving DecidableEq, Repr

/-- Writes the settings file; the disk changes even if this fails halfway. -/
def initSettings (d : Disk) (r : InitRequest) (s : Settings) : Disk × Report Unit :=
  let dir := r.path.getD "."
  let file := Path.join dir Settings.fileName
  if d.pathExists dir && !d.isDirectory dir then (d, .fail (.targetNotDirectory dir))
  else if d.pathExists file && !r.force then (d, .fail (.settingsExist file))
  else
    match s.save d dir with
    | (d, .error fault) => (d, .fail (.io fault))
    | (d, .ok ()) =>
      (d, .write [.log (.wroteSettings file), .out ("Created " ++ file ++ "\n")])

end Lexeme
