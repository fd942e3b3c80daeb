import GeoScript.Evaluation.Basic
import GeoScript.Table

/-! # Commands defined by the user

A definition gives a command a result of its own: always the same figures, or figures computed from
the arguments. A table of definitions is a processor for the commands it has definitions for. -/

namespace GeoScript

/-- What a defined command yields. -/
inductive Definition where
  | fixed (figures : List Figure)
  | computed (result : List Value → Options → Except Fault (List Figure))

/-- Whether a definition always yields the same figures. -/
def Definition.isFixed : Definition → Bool
  | .fixed _ => true
  | .computed _ => false

/-- The result of a definition. -/
def Definition.apply : Definition → List Value → Options → Except Fault (List Figure)
  | .fixed figures, _, _ => .ok figures
  | .computed result, arguments, options => result arguments options

/-- Definitions by the names of commands. -/
abbrev Definitions := Table Definition

/-- The processor of a table of definitions. Unlike the basic one it does not resolve arguments. -/
def Definitions.processor (definitions : Definitions) : Processor := fun c arguments options =>
  match definitions.get? c.name with
  | none => .fail (.unknownCommand c.name)
  | some definition => .of (definition.apply arguments options)

end GeoScript
