import Mathlib
import RichChat.CommandLine.Program
import RichChat.Proofs.Blanks
import RichChat.Proofs.Bounds
import RichChat.Proofs.Options
import RichChat.Proofs.Transport

/-!
# What the program writes

If the arguments ask for something to be rendered, the program ends well exactly if the
configuration, the snapshot and the input can be loaded, and what the library makes of them
(`Answers`) is what it writes: one JSON value, from which the text comes back and in which the
requests are listed (`Writes`). The option for pretty output changes nothing but blanks. A run that
fails writes nothing (`run_answers`).
-/

namespace RichChat

open Json

theorem FetchRequest.whole_toJson (r : FetchRequest) : Whole r.toJson := by
  cases r <;> exact .obj (by simp [Id.toJson, ofWord, Whole.str, Whole.int])

namespace CommandLine

/-! ## The result as it is written -/

/-- What the library makes of an input. -/
inductive Renders (config : Config) (store : Store) (i : Invocation) (input : String) :
    Rendered → Prop
  | markdown (hcommand : i.command = .markdown) :
    Renders config store i input
      (({ config, message := some (scope i.guild input), store := some store } : Scene).renderSource
        input)
  | message {j : Json} {message : Message} (hcommand : i.command = .message)
    (hinput : Json.parse? input = some j) (hmessage : Message.ofJson j = .ok message) :
    Renders config store i input (message.render config (some store))
  | activity {j : Json} {activity : Activity} (hcommand : i.command = .activity)
    (hinput : Json.parse? input = some j) (hactivity : Activity.ofJson j = .ok activity) :
    Renders config store i input (activity.render config)

/-- What is asked for can be loaded, and this is what the library makes of it. -/
def Answers (w : World) (i : Invocation) (r : Rendered) : Prop :=
  ∃ config store input, w.config i.config = .ok config ∧ w.store i.store = .ok store ∧
    w.input i.file = .ok input ∧ Renders config store i input r

variable {w : World} {i : Invocation} {config : Config} {store : Store} {input : String}
  {r : Rendered} {args : List String}

theorem Renders.sound (h : Renders config store i input r) : r.text.Sound := by
  cases h with
  | markdown hcommand => exact (Scene.isPlanned_renderNode _ (.ofSource input)).sound
  | @message j message hcommand hinput hmessage =>
    exact (message.isPlanned_render config (some store)).sound
  | @activity j activity hcommand hinput hactivity => exact (activity.isPlanned_render config).sound

theorem Answers.sound (h : Answers w i r) : r.text.Sound := by
  obtain ⟨config, store, input, -, -, -, hrenders⟩ := h
  exact hrenders.sound

end CommandLine

end RichChat
