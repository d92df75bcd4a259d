/-!
# Faults

What goes wrong in a stream, and in what wrappings it travels.

**Causes.**  A `Cause` is an error value held by a shared handle.  Two handles are the same cause
when they carry the same identity, whatever their texts say: storing an equal value a second time
makes a second cause.  So a cause is an identity together with the value that is held, and whoever
makes one passes in an identity that has not been used.

**Wrappings.**  A `StreamError` is an error that is delivered as a signal: a head cause, and behind
it the companions that were suppressed on the way.  A `Fatal` is an error that must leave the
pipeline through the call itself and never as a signal.  A `HookError` is what a failing hook gives
back.  Each of the three can be stored in a cause again, hence the mutual definition.

**Kinds.**  `Content.kind` says what sort of value a cause holds, which is all that a reader of an
error may ask about a value of unknown type.
-/

namespace SignalPeek

/-- What tells one cause from another. -/
abbrev Ident := Nat

/-- An error value of a type that this library does not define: the name of its type, its text and
its detailed form. -/
structure Foreign where
  kind : String
  text : String
  detail : String
  deriving DecidableEq, Repr

/-- Why an operator could not be built. -/
inductive BuildError where
  /-- Nothing was given to subscribe to. -/
  | missingSource
  deriving DecidableEq, Repr

mutual

/-- A shared error value: an identity, and the value that it stands for. -/
inductive Cause where
  | mk (ident : Ident) (content : Content)
  deriving DecidableEq

/-- The value that a cause holds. -/
inductive Content where
  | message (text : String)
  | foreign (value : Foreign)
  | stream (error : StreamError)
  | fatal (fatal : Fatal)
  | hook (error : HookError)
  | build (error : BuildError)
  deriving DecidableEq

/-- An error that is delivered as a signal: a cause, alone or with the error it keeps company. -/
inductive StreamError where
  | lone (cause : Cause)
  | paired (cause : Cause) (companion : StreamError)
  deriving DecidableEq

/-- An error that leaves through the call. -/
inductive Fatal where
  | mk (cause : Cause)
  deriving DecidableEq

/-- The failure of a hook. -/
inductive HookError where
  | fatal (fatal : Fatal)
  | recoverable (cause : Cause)
  deriving DecidableEq

end

/-! ## Parts -/

/-- The identity of a cause. -/
def Cause.ident : Cause → Ident
  | .mk ident _ => ident

/-- The value that a cause holds. -/
def Cause.content : Cause → Content
  | .mk _ content => content

/-- Two handles on one error value. -/
def Cause.Same (a b : Cause) : Prop := a.ident = b.ident

instance (a b : Cause) : Decidable (a.Same b) := inferInstanceAs (Decidable (a.ident = b.ident))

/-- The head cause of an error. -/
def StreamError.cause : StreamError → Cause
  | .lone cause => cause
  | .paired cause _ => cause

/-- The error that travels behind this one. -/
def StreamError.companion? : StreamError → Option StreamError
  | .lone _ => none
  | .paired _ companion => some companion

/-- The cause of a fatal error. -/
def Fatal.cause : Fatal → Cause
  | .mk cause => cause

/-- The cause that a hook failure holds, in either of its forms. -/
def HookError.cause : HookError → Cause
  | .fatal f => f.cause
  | .recoverable cause => cause

/-! ## Kinds -/

/-- The sort of value that a cause holds. -/
inductive Kind where
  | message
  | foreign (name : String)
  | stream
  | fatal
  | hook
  | build
  deriving DecidableEq, Repr

/-- The sort of a value. -/
def Content.kind : Content → Kind
  | .message _ => .message
  | .foreign value => .foreign value.kind
  | .stream _ => .stream
  | .fatal _ => .fatal
  | .hook _ => .hook
  | .build _ => .build

/-- The name of a sort; a foreign sort brings its own. -/
def Kind.name : Kind → String
  | .message => "message"
  | .foreign name => name
  | .stream => "stream"
  | .fatal => "fatal"
  | .hook => "hook"
  | .build => "build"

/-! ## Failing in a hook -/

/-- A failure that must escape. -/
def HookError.bubble (cause : Cause) : HookError := .fatal (.mk cause)

/-- A failure that becomes a signal. -/
def HookError.propagate (cause : Cause) : HookError := .recoverable cause

/-- A stream error given back as a failure: it is stored in a cause of its own. -/
def HookError.ofStream (ident : Ident) (error : StreamError) : HookError :=
  .recoverable (.mk ident (.stream error))

end SignalPeek
