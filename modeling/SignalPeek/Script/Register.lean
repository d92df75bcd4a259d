import SignalPeek.Fault.Basic
import SignalPeek.Text.Quoted

/-!
# Registers

A script builds the errors it needs in numbered registers.  A register holds one value of any of the
five forms in which errors occur, or nothing, and later steps refer to it by number.

The file also names the error values that a script can make from a text alone: a plain message, and
a value of a type of the script's own (`boom`).
-/

namespace SignalPeek.Script

/-- What a register holds. -/
inductive Register where
  | empty
  | cause (cause : Cause)
  | stream (error : StreamError)
  | fatal (fatal : Fatal)
  | hook (error : HookError)
  | build (error : BuildError)

/-- The cause in a register. -/
def Register.cause? : Register → Option Cause
  | .cause c => some c
  | _ => none

/-- The stream error in a register. -/
def Register.stream? : Register → Option StreamError
  | .stream e => some e
  | _ => none

/-- The fatal error in a register. -/
def Register.fatal? : Register → Option Fatal
  | .fatal f => some f
  | _ => none

/-- The hook failure in a register. -/
def Register.hook? : Register → Option HookError
  | .hook h => some h
  | _ => none

/-- The error value in a register, for storing it in a cause.  A cause is a handle already and is
not such a value. -/
def Register.content? : Register → Option Content
  | .stream e => some (.stream e)
  | .fatal f => some (.fatal f)
  | .hook h => some (.hook h)
  | .build b => some (.build b)
  | .empty | .cause _ => none

/-- The error value that a script defines for itself. -/
def boom (text : String) : Content :=
  .foreign
    { kind := "boom"
      text := "boom(" ++ text ++ ")"
      detail := "Boom(" ++ Text.quoted text ++ ")" }

/-- The registers filled so far, and the next unused identity. -/
structure Registers where
  cells : List Register
  next : Ident

/-- No register filled. -/
def Registers.none : Registers := { cells := [], next := 0 }

/-- What one register holds; nothing is held by a register that does not exist. -/
def Registers.get (registers : Registers) (index : Nat) : Register :=
  registers.cells.getD index .empty

/-- Fills the next register. -/
def Registers.push (registers : Registers) (register : Register) : Registers :=
  { registers with cells := registers.cells ++ [register] }

/-- Sets identities aside as used. -/
def Registers.spend (registers : Registers) (count : Nat) : Registers :=
  { registers with next := registers.next + count }

/-- Filling a register adds one to their number. -/
@[simp] theorem Registers.length_push (registers : Registers) (register : Register) :
    (registers.push register).cells.length = registers.cells.length + 1 := by
  simp [push]

end SignalPeek.Script
