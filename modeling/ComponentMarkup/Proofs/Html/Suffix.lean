import ComponentMarkup.Html.Token
import Mathlib.Data.List.TakeWhile

/-!
Reading a token takes characters from the front of a text and leaves the rest of it as it is.
-/

namespace ComponentMarkup.Html
variable {cs rest : List Char}

/-! ## Tags -/

end ComponentMarkup.Html
