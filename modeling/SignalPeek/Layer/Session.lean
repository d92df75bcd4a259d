import SignalPeek.Config
import SignalPeek.Fault.Companion
import SignalPeek.Fault.Severity
import SignalPeek.Hooks
import SignalPeek.Probe

/-!
# Sessions

A session is one subscription of an operator: whether it has begun or ended, the subscription it was
given, and the state that its hooks share.  This file says what a session does about each signal.

**Turns.**  A turn is the answer to one signal (`Session.turn`): the session afterwards, the
events on the way, and what is to be done next.  That is either to pass signals on (none, one, or
two of them) or to return a fatal error.  What the receiver of those signals does is no part of the
turn, and by the time they are passed on the session has settled.

**Order.**  The seed runs while the session still counts as not begun, with its parent already in
place; the other hooks run while it is active.  A session ends before notice is given of a failure,
and before anything is passed on because of it.

**Refusals.**  Outside its active phase a session passes nothing on.  A second subscription is
cancelled, an item or a completion is dropped with a notice, an error goes the way of
`Config.dropError`, and the session stays as it was.
-/

namespace SignalPeek

/-- One subscription of an operator. -/
inductive Session (σ : Type) where
  /-- Not subscribed yet. -/
  | fresh
  /-- Subscribed and seeded; there is a state if the operator has a seed. -/
  | active (parent : Subscription) (state : Option σ)
  /-- Ended. -/
  | terminated (parent : Subscription) (state : Option σ)

/-- What is to be done after a turn. -/
inductive Exit (α : Type) where
  /-- Pass these signals on, in order. -/
  | forward (signals : List (Signal α))
  /-- Return this error. -/
  | escape (fatal : Fatal)

/-- The answer of a session to one signal.  Each event carries the standing that the session had at
that instant. -/
structure Turn (ω ν α σ : Type) where
  session : Session σ
  env : ω
  events : List (Standing × Event ν α)
  exit : Exit α

/-- What became of a hook, as far as the signal is concerned. -/
inductive Verdict where
  /-- There is no hook, or it succeeded. -/
  | pass
  /-- The hook failed, and this error takes the place of the signal. -/
  | replace (error : StreamError)
  /-- The hook failed for good. -/
  | escape (fatal : Fatal)

/-- The verdict on a hook that ended in the given way. -/
def Verdict.of : Option HookError → Verdict
  | none => .pass
  | some failure =>
    match failure.route with
    | .ok error => .replace error
    | .error fatal => .escape fatal

/-- What a hook that may be absent leaves behind. -/
structure Ran (ω ν α σ : Type) where
  state : Option σ
  env : ω
  events : List (Event ν α)
  verdict : Verdict

/-- Runs a hook on the state, if there is a hook. -/
def runHook {ω ν α σ : Type} (occasion : Occasion α) (hook : Option (Option σ → ω → Reply ω ν σ))
    (state : Option σ) (env : ω) : Ran ω ν α σ :=
  match hook with
  | none => { state, env, events := [], verdict := .pass }
  | some hook =>
    let reply := hook state env
    { state := state.map reply.effect
      env := reply.env
      events := [.hook { occasion, failure := reply.failure, note := reply.note }]
      verdict := .of reply.failure }

namespace Session

variable {ω ν α σ : Type}

/-- The phase of a session. -/
def phase : Session σ → Phase
  | .fresh => .init
  | .active _ _ => .active
  | .terminated _ _ => .terminated

/-- The subscription that a session was given. -/
def parent? : Session σ → Option Subscription
  | .fresh => none
  | .active parent _ | .terminated parent _ => some parent

/-- The state of a session. -/
def state? : Session σ → Option σ
  | .fresh => none
  | .active _ state | .terminated _ state => state

/-- What is visible of a session. -/
def standing (session : Session σ) : Standing :=
  { phase := session.phase, parent := session.parent? }

/-- The view of a session of the operator with these settings. -/
def probe (session : Session σ) (config : Config) : Probe :=
  { name := config.name, phase := session.phase, parent := session.parent? }

/-- The view of a session shows its standing. -/
@[simp] theorem standing_probe (session : Session σ) (config : Config) :
    (session.probe config).standing = session.standing := rfl

/-- Events that all happen under one standing. -/
def under (standing : Standing) (events : List (Event ν α)) : List (Standing × Event ν α) :=
  events.map (standing, ·)

variable (hooks : Hooks ω ν α σ) (config : Config)

/-- The answer to the first subscription. -/
def begin (subscription : Subscription) (env : ω) : Turn ω ν α σ :=
  match hooks.seed with
  | none =>
    { session := .active subscription none
      env
      events := []
      exit := .forward [.subscribe (.relay subscription)] }
  | some seed =>
    let seeding := seed env
    let ran := under { phase := .init, parent := some subscription }
      [.hook { occasion := .seed, failure := seeding.failure, note := seeding.note }]
    match seeding.result with
    | .ok state =>
      { session := .active subscription (some state)
        env := seeding.env
        events := ran
        exit := .forward [.subscribe (.relay subscription)] }
    | .error failure =>
      let ended : Session σ := .terminated subscription none
      match failure.route with
      | .ok error =>
        { session := ended
          env := seeding.env
          events := ran ++ under ended.standing [.notice config.name (.seedFailed error)]
          exit := .forward [.subscribe .inert, .error error] }
      | .error fatal =>
        { session := ended
          env := seeding.env
          events := ran ++
            under ended.standing [.notice config.name (.fatalEscaping .subscribe fatal)]
          exit := .escape fatal }

/-- The answer of an active session to an item.  If the hook fails the item goes no further, and the
parent is cancelled before the error is passed on. -/
def onNext (parent : Subscription) (state : Option σ) (item : α) (env : ω) : Turn ω ν α σ :=
  let ran := runHook (.next item) (hooks.next.map (· item)) state env
  let going : Session σ := .active parent ran.state
  let ended : Session σ := .terminated parent ran.state
  match ran.verdict with
  | .pass =>
    { session := going
      env := ran.env
      events := under going.standing ran.events
      exit := .forward [.next item] }
  | .replace error =>
    { session := ended
      env := ran.env
      events := under going.standing ran.events ++ under ended.standing
        (.notice config.name (.nextHookFailed error) :: parent.called [.cancel])
      exit := .forward [.error error] }
  | .escape fatal =>
    { session := ended
      env := ran.env
      events := under going.standing ran.events ++
        under ended.standing [.notice config.name (.fatalEscaping .next fatal)]
      exit := .escape fatal }

/-- The answer of an active session to an error.  If the hook fails, the error that it was given
goes along as a companion of the new one. -/
def onError (parent : Subscription) (state : Option σ) (error : StreamError) (env : ω) :
    Turn ω ν α σ :=
  let ran := runHook (.error error) (hooks.error.map (· error)) state env
  let going : Session σ := .active parent ran.state
  let ended : Session σ := .terminated parent ran.state
  let notices := match ran.verdict with
    | .pass => []
    | .replace failure => [.notice config.name (.errorHookFailed failure error)]
    | .escape fatal => [.notice config.name (.fatalEscaping .error fatal)]
  { session := ended
    env := ran.env
    events := under going.standing ran.events ++ under ended.standing notices
    exit := match ran.verdict with
      | .pass => .forward [.error error]
      | .replace failure => .forward [.error (failure.withSuppressed error)]
      | .escape fatal => .escape fatal }

/-- The answer of an active session to a completion.  If the hook fails, an error takes its place.
-/
def onComplete (parent : Subscription) (state : Option σ) (env : ω) : Turn ω ν α σ :=
  let ran := runHook .complete hooks.complete state env
  let going : Session σ := .active parent ran.state
  let ended : Session σ := .terminated parent ran.state
  let notices := match ran.verdict with
    | .pass => []
    | .replace failure => [.notice config.name (.completeHookFailed failure)]
    | .escape fatal => [.notice config.name (.fatalEscaping .complete fatal)]
  { session := ended
    env := ran.env
    events := under going.standing ran.events ++ under ended.standing notices
    exit := match ran.verdict with
      | .pass => .forward [.complete]
      | .replace failure => .forward [.error failure]
      | .escape fatal => .escape fatal }

/-- The events of refusing a signal. -/
def refusal (phase : Phase) : Signal α → List (Event ν α)
  | .subscribe subscription =>
    .notice config.name .duplicateSubscription :: subscription.called [.cancel]
  | .next _ => [.notice config.name (.signalDropped .next phase)]
  | .error error => config.dropError error
  | .complete => [.notice config.name (.signalDropped .complete phase)]

/-- The answer of a session that has no use for a signal: it stays as it is. -/
def refuse (session : Session σ) (signal : Signal α) (env : ω) : Turn ω ν α σ :=
  { session
    env
    events := under session.standing (refusal config session.phase signal)
    exit := .forward [] }

/-- The answer of a session to a signal. -/
def turn (session : Session σ) (signal : Signal α) (env : ω) : Turn ω ν α σ :=
  match session, signal with
  | .fresh, .subscribe subscription => begin hooks config subscription env
  | .active parent state, .next item => onNext hooks config parent state item env
  | .active parent state, .error error => onError hooks config parent state error env
  | .active parent state, .complete => onComplete hooks config parent state env
  | session, signal => refuse config session signal env

end Session

end SignalPeek
