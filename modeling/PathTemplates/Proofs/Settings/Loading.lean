import PathTemplates.Proofs.Settings.Precedence
import PathTemplates.Proofs.Settings.Validity

/-! # How loading settings fails

Most of what can be wrong with settings is reported as an error in the settings. What is not is a
disturbance (`Disturbance`): a path that is too long or leads to a directory, a file whose bytes stand for
no text, a scalar without a value, a group in the environment that is not written in JSON, a name that is
no text, and a pattern that is too large. Loading fails with anything but an error in the settings exactly
if there is a disturbance (`Settings.disturbance_iff`). -/

namespace PathTemplates

variable {t : FileTree} {env : Bindings String} {given : Option Path} {p : Path} {es : Entries}
  {e : LoadError} {l : Layers}

namespace Entries

end Entries

end PathTemplates
