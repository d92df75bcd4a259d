import SignalPeek.Layer.Logged
import SignalPeek.Publisher

/-!
# Building operators

An operator is a layer together with the publisher that it is on.  It is built from parts, given all
at once or one after the other, and it cannot be built without a publisher.  Everything else has a
standard: no hooks, and the standard settings.
-/

namespace SignalPeek

variable {ω ν α σ : Type}

/-- An operator on a publisher. -/
structure Operator (ω ν α : Type) : Type 1 where
  source : Publisher ω ν α
  layer : Layer ω ν α

namespace Operator

/-- The name of an operator. -/
def name (operator : Operator ω ν α) : String := operator.layer.config.name

/-- The settings of an operator. -/
def config (operator : Operator ω ν α) : Config := operator.layer.config

/-- The operator as something to subscribe to. -/
def publisher (operator : Operator ω ν α) : Publisher ω ν α :=
  .peek operator.source operator.layer

end Operator

/-- The parts of an operator, as far as they are given. -/
structure Builder (ω ν α σ : Type) : Type 1 where
  source : Option (Publisher ω ν α)
  hooks : Hooks ω ν α σ
  config : Config

namespace Builder

/-- Nothing given yet. -/
def start : Builder ω ν α σ :=
  { source := none, hooks := .none, config := .standard }

/-- Gives the publisher. -/
def withSource (builder : Builder ω ν α σ) (source : Publisher ω ν α) : Builder ω ν α σ :=
  { builder with source := some source }

/-- Gives the seed. -/
def withSeed (builder : Builder ω ν α σ) (hook : ω → Seeding ω ν σ) : Builder ω ν α σ :=
  { builder with hooks := { builder.hooks with seed := some hook } }

/-- Gives the hook for items. -/
def withNext (builder : Builder ω ν α σ) (hook : α → Option σ → ω → Reply ω ν σ) :
    Builder ω ν α σ :=
  { builder with hooks := { builder.hooks with next := some hook } }

/-- Gives the hook for errors. -/
def withError (builder : Builder ω ν α σ) (hook : StreamError → Option σ → ω → Reply ω ν σ) :
    Builder ω ν α σ :=
  { builder with hooks := { builder.hooks with error := some hook } }

/-- Gives the hook for completion. -/
def withComplete (builder : Builder ω ν α σ) (hook : Option σ → ω → Reply ω ν σ) :
    Builder ω ν α σ :=
  { builder with hooks := { builder.hooks with complete := some hook } }

/-- Gives the settings, the name included. -/
def withConfig (builder : Builder ω ν α σ) (config : Config) : Builder ω ν α σ :=
  { builder with config }

/-- Gives the name and leaves the other settings. -/
def withName (builder : Builder ω ν α σ) (name : String) : Builder ω ν α σ :=
  { builder with config := { builder.config with name } }

/-- The operator made of the parts. -/
def build (builder : Builder ω ν α σ) : Except BuildError (Operator ω ν α) :=
  match builder.source with
  | some source =>
    .ok { source, layer := { State := σ, hooks := builder.hooks, config := builder.config } }
  | none => .error .missingSource

end Builder

/-- The operator with standard settings. -/
def Operator.make (source : Option (Publisher ω ν α)) (hooks : Hooks ω ν α σ) :
    Except BuildError (Operator ω ν α) :=
  Builder.build { source, hooks, config := .standard }

/-- The logging operator of this name. -/
def Operator.logged (source : Publisher ω ν α) (name : String) (itemText : α → String) (quiet : ν)
    (note : LogEntry → ν) : Except BuildError (Operator ω ν α) :=
  Builder.build
    { source := some source
      hooks := .logged name itemText quiet note
      config := { Config.standard with name } }

end SignalPeek
