import SignalPeek.Consumer
import SignalPeek.Layer.Basic
import SignalPeek.Script.Report

/-!
# Trying out settings

Settings are made step by step from the standard ones.  They are tried on errors that cannot be
delivered: the sink is given the error directly, and then an operator with these settings, which was
never subscribed, receives it.
-/

namespace SignalPeek.Script

/-- One change to the settings. -/
inductive Setting where
  | name (name : String)
  | sink (sink : String)

/-- The settings after a change. -/
def Setting.apply (config : Config) : Setting → Config
  | .name text => { config with name := text }
  | .sink target => { config with errorSink := some target }

/-- The settings after all changes. -/
def configure (settings : List Setting) : Config :=
  settings.foldl Setting.apply .standard

/-- The settings before the first change and after each one. -/
def configurations (config : Config) : List Setting → List Config
  | [] => [config]
  | setting :: settings => config :: configurations (setting.apply config) settings

/-- The settings after all changes are the last in the sequence. -/
theorem getLast?_configurations (config : Config) (settings : List Setting) :
    (configurations config settings).getLast? = some (settings.foldl Setting.apply config) := by
  induction settings generalizing config with
  | nil => rfl
  | cons setting settings ih =>
      simp only [configurations, List.foldl_cons, ← ih]
      cases settings <;> simp [configurations]

/-- A layer without hooks that was never subscribed, on top of a consumer that asks for nothing. -/
def bareLayer (config : Config) : Subscriber World Note Item :=
  Layer.onto { State := Unit, hooks := .none, config } (Consumer.asking 0).subscriber

/-- What happens when an error is given to the sink and then to a layer that was never subscribed.
-/
def dropTrace (config : Config) (error : StreamError) : List (Moment Note Item) :=
  let bare := bareLayer config
  ((config.sink error).map fun event => { layer := 0, standings := [], event }) ++
    (bare.receive (.error error) bare.init (.start 0)).trace

/-- The report on dropping errors one after the other. -/
def dropReport (config : Config) (errors : List StreamError) : List Entry :=
  View.report { depth := 1, first := 0, consumer := none, names := [] }
    (errors.flatMap (dropTrace config))

end SignalPeek.Script
