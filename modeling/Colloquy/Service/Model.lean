import Colloquy.Service.World
import Colloquy.Settings

/-!
# Asking the model

A turn asks the model with a time limit. Whatever goes wrong with a call is one failure with a text: the reason the
model gave, the text of a crash or else its name, or that the limit was exceeded. With a limit of zero or less the
call is over before the model receives the prompt.
-/

namespace Colloquy.Model

/-- The text of an exceeded limit. -/
def exceeded (limit : Float) : Text := "Model call exceeded " ++ Value.plain (.float limit) ++ "s"

/-- The model's answer, or why there is none. -/
def resultOf (limit : Float) : ModelReply → Except Text Text
  | .answer text => .ok text
  | .refused message => .error message
  | .crashed c message =>
    let text := c.text message
    .error (if text.isEmpty then c.name else text)
  | .silent => .error (exceeded limit)

/-- Sends a prompt to the model within the time limit. -/
def generate (s : Settings) (w : World) (prompt : Text) : Except Text Text × World :=
  if s.modelTimeout ≤ 0.0 then (.error (exceeded s.modelTimeout), w)
  else
    let (reply, w) := w.ask prompt
    (resultOf s.modelTimeout reply, w)

end Colloquy.Model
