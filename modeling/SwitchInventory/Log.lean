namespace SwitchInventory

/-- How severe an event is, the most severe first. -/
inductive Level where
  | error | warn | info | debug | trace
  deriving DecidableEq, Repr

/-- The position of a level in the order of severity. -/
def Level.rank : Level → Nat
  | error => 0
  | warn => 1
  | info => 2
  | debug => 3
  | trace => 4

def Level.label : Level → String
  | error => "ERROR"
  | warn => "WARN"
  | info => "INFO"
  | debug => "DEBUG"
  | trace => "TRACE"

inductive Topic where
  | config | portMappings | inventory | platform | lookup | command
  deriving DecidableEq, Repr

structure Event where
  level : Level
  topic : Topic
  message : String
  deriving DecidableEq, Repr

/-- Whether the event is at least as severe as `level`. -/
def Event.isWithin (level : Level) (e : Event) : Bool := e.level.rank ≤ level.rank

/-- The outcome of an operation together with the events it gave on the way, in order. -/
structure Logged (ε α : Type) where
  events : List Event
  result : Except ε α

namespace Logged

variable {ε δ α β : Type}

protected def pure (a : α) : Logged ε α := ⟨[], .ok a⟩

/-- One operation after another; the events of the second follow those of the first, and a failure
of the first keeps the second from running. -/
protected def bind (x : Logged ε α) (f : α → Logged ε β) : Logged ε β :=
  match x.result with
  | .ok a => ⟨x.events ++ (f a).events, (f a).result⟩
  | .error e => ⟨x.events, .error e⟩

instance : Monad (Logged ε) where
  pure := Logged.pure
  bind := Logged.bind

def fail (e : ε) : Logged ε α := ⟨[], .error e⟩

/-- An outcome that was reached without events. -/
def ofExcept (r : Except ε α) : Logged ε α := ⟨[], r⟩

def log (level : Level) (topic : Topic) (message : String) : Logged ε Unit :=
  ⟨[⟨level, topic, message⟩], .ok ()⟩

/-- The same operation with its failure described anew. -/
def mapError (f : ε → δ) (x : Logged ε α) : Logged δ α := ⟨x.events, x.result.mapError f⟩

@[simp] theorem result_pure (a : α) : (pure a : Logged ε α).result = .ok a := rfl

@[simp] theorem events_pure (a : α) : (pure a : Logged ε α).events = [] := rfl

@[simp] theorem result_fail (e : ε) : (fail e : Logged ε α).result = .error e := rfl

@[simp] theorem result_ofExcept (r : Except ε α) : (ofExcept r).result = r := rfl

@[simp] theorem events_ofExcept (r : Except ε α) : (ofExcept r).events = [] := rfl

@[simp] theorem result_log (level : Level) (topic : Topic) (message : String) :
    (log level topic message : Logged ε Unit).result = .ok () := rfl

@[simp] theorem result_mapError (f : ε → δ) (x : Logged ε α) :
    (x.mapError f).result = x.result.mapError f := rfl

@[simp] theorem events_mapError (f : ε → δ) (x : Logged ε α) :
    (x.mapError f).events = x.events := rfl

/-- Events never influence a result. -/
@[simp] theorem result_bind (x : Logged ε α) (f : α → Logged ε β) :
    (x >>= f).result = x.result >>= fun a => (f a).result := by
  show (Logged.bind x f).result = _
  unfold Logged.bind
  cases x.result <;> rfl

/-- Nor do they influence the result of a longer sequence. -/
theorem result_foldlM (f : β → α → Logged ε β) (b : β) (l : List α) :
    (l.foldlM f b).result = l.foldlM (fun b a => (f b a).result) b := by
  induction l generalizing b with
  | nil => rfl
  | cons a l ih => simp only [List.foldlM_cons, result_bind, ih]

theorem events_bind_of_ok {x : Logged ε α} {a : α} (h : x.result = .ok a) (f : α → Logged ε β) :
    (x >>= f).events = x.events ++ (f a).events := by
  show (Logged.bind x f).events = _
  unfold Logged.bind
  rw [h]

theorem events_bind_of_error {x : Logged ε α} {e : ε} (h : x.result = .error e)
    (f : α → Logged ε β) : (x >>= f).events = x.events := by
  show (Logged.bind x f).events = _
  unfold Logged.bind
  rw [h]

instance : LawfulMonad (Logged ε) :=
  LawfulMonad.mk' (Logged ε)
    (by
      intro α x
      obtain ⟨events, result⟩ := x
      cases result with
      | error e => rfl
      | ok a => exact congrArg (Logged.mk · (.ok a)) (List.append_nil events))
    (fun _ _ => rfl)
    (by
      intro α β γ x f g
      obtain ⟨events, result⟩ := x
      cases result with
      | error e => rfl
      | ok a =>
        show Logged.bind (Logged.bind ⟨events, .ok a⟩ f) g =
          Logged.bind ⟨events, .ok a⟩ fun a => Logged.bind (f a) g
        unfold Logged.bind
        cases h : (f a).result <;> simp [h])

end Logged

end SwitchInventory
