import SignalPeek.Fault.Companion
import SignalPeek.Fault.Text
import SignalPeek.Fault.Wrapping
import SignalPeek.Script.Register

/-!
# Steps over registers

The steps by which a script makes and questions errors.  Every step fills exactly one register,
also a step that only asks: it leaves its register empty.  So the step at position `k` fills
register `k`.

A step refers to earlier registers by number, and it is refused when a register does not hold what
the step works on.
-/

namespace SignalPeek.Script

/-- An error value to be stored: made from a text, or copied from a register. -/
inductive Value where
  | message (text : String)
  | boom (text : String)
  | copy (index : Nat)

/-- One step. -/
inductive Step where
  | cause (value : Value)
  | build
  | normalize (index : Nat)
  | stream (value : Value)
  | fatal (index : Nat)
  | bubble (index : Nat)
  | propagate (index : Nat)
  | hookRecoverable (value : Value)
  | hookFatal (value : Value)
  | hookFrom (index : Nat)
  | route (index : Nat)
  | suppress (index other : Nat)
  | wrap (index : Nat) (layers : List Wrapping)
  | root (index : Nat)
  | held (index : Nat)
  | companion (index : Nat)
  | kinds (index : Nat)
  | sources (index : Nat)
  | detail (index : Nat)

/-- What a step answers: the register that it filled, or what it was asked. -/
inductive Answer where
  | register (register : Register)
  | kinds (answers : List (Kind × Bool))
  | texts (texts : List String)
  | text (text : String)

/-- The value to store. -/
def Value.content? (registers : Registers) : Value → Option Content
  | .message text => some (.message text)
  | .boom text => some (Script.boom text)
  | .copy index => (registers.get index).content?

/-- The sorts of error value that a script can ask about. -/
def askedKinds : List Kind :=
  [.message, .foreign "boom", .stream, .fatal, .hook, .build]

/-- The root of what a register holds. -/
def Register.root? : Register → Option Cause
  | .cause c => some c.root
  | .stream e => some e.root
  | .fatal f => some f.root
  | _ => none

/-- The cause that the error in a register holds. -/
def Register.held? : Register → Option Cause
  | .stream e => some e.cause
  | .fatal f => some f.cause
  | .hook h => some h.cause
  | _ => none

/-- The reasons behind what a register holds. -/
def Register.sources? : Register → Option (List Cause)
  | .cause c => some c.sources
  | register => register.content?.map Content.sources

/-- The detailed form of what a register holds. -/
def Register.detail? : Register → Option String
  | .cause c => some c.detail
  | register => register.content?.map Content.detail

/-- The hook failure that a stream error or a fatal error turns into.  A stream error takes a new
identity, a fatal error none. -/
def Register.failure? (next : Ident) : Register → Option HookError
  | .stream e => some (.ofStream next e)
  | .fatal f => some (.fatal f)
  | _ => none

/-- Where a hook failure goes, as a register. -/
def routed (error : HookError) : Register :=
  match error.route with
  | .ok e => .stream e
  | .error f => .fatal f

/-- The registers after a step that makes a value, with the value as answer. -/
private def made (registers : Registers) (used : Nat) (register : Register) : Registers × Answer :=
  ((registers.spend used).push register, .register register)

/-- The registers after a step that asks, with its answer. -/
private def asked (registers : Registers) (answer : Answer) : Registers × Answer :=
  (registers.push .empty, answer)

/-- Runs one step; nothing comes back when the step is refused. -/
def Step.run? (registers : Registers) : Step → Option (Registers × Answer)
  | .cause value => do
    let content ← value.content? registers
    return made registers 1 (.cause (.mk registers.next content))
  | .build => some (made registers 0 (.build .missingSource))
  | .normalize index => do
    let cause ← (registers.get index).cause?
    return made registers 0 (.stream cause.normalize)
  | .stream value => do
    let content ← value.content? registers
    return made registers 1 (.stream (.wrap registers.next content))
  | .fatal index => do
    let cause ← (registers.get index).cause?
    return made registers 0 (.fatal (.mk cause))
  | .bubble index => do
    let cause ← (registers.get index).cause?
    return made registers 0 (.hook (.bubble cause))
  | .propagate index => do
    let cause ← (registers.get index).cause?
    return made registers 0 (.hook (.propagate cause))
  | .hookRecoverable value => do
    let content ← value.content? registers
    return made registers 1 (.hook (.propagate (.mk registers.next content)))
  | .hookFatal value => do
    let content ← value.content? registers
    return made registers 1 (.hook (.bubble (.mk registers.next content)))
  | .hookFrom index => do
    let error ← (registers.get index).failure? registers.next
    return made registers 1 (.hook error)
  | .route index => do
    let error ← (registers.get index).hook?
    return made registers 0 (routed error)
  | .suppress index other => do
    let error ← (registers.get index).stream?
    let companion ← (registers.get other).stream?
    return made registers 0 (.stream (error.withSuppressed companion))
  | .wrap index layers => do
    let cause ← (registers.get index).cause?
    return made registers layers.length (.cause (cause.wrapAll registers.next layers))
  | .root index => do
    let cause ← (registers.get index).root?
    return made registers 0 (.cause cause)
  | .held index => do
    let cause ← (registers.get index).held?
    return made registers 0 (.cause cause)
  | .companion index => do
    let error ← (registers.get index).stream?
    return made registers 0 ((error.companion?.map Register.stream).getD .empty)
  | .kinds index => do
    let error ← (registers.get index).stream?
    return asked registers (.kinds (askedKinds.map fun kind => (kind, error.isOf kind)))
  | .sources index => do
    let causes ← (registers.get index).sources?
    return asked registers (.texts (causes.map Cause.text))
  | .detail index => do
    let text ← (registers.get index).detail?
    return asked registers (.text text)

/-- Runs steps in order from given registers, with the answer of each. -/
def runSteps (registers : Registers) : List Step → Option (Registers × List Answer)
  | [] => some (registers, [])
  | step :: steps => do
    let (registers, answer) ← step.run? registers
    let (registers, answers) ← runSteps registers steps
    return (registers, answer :: answers)

end SignalPeek.Script
