import SwitchInventory.CommandLine.Run
import SwitchInventory.Proofs.Sequence

namespace SwitchInventory.CommandLine

open Sequence

/-- What has been written: to standard output, and as reports. -/
structure Console where
  output : String := ""
  events : List Event := []

/-- Operations on the console, one after the other, up to the first failure. -/
abbrev Session (ε : Type) := ExceptT ε (StateM Console)

namespace Session

variable {ε α β : Type}

/-- What comes of a session on a console. -/
def on (a : Session ε α) (c : Console) : Except ε α × Console := a.run.run c

def print (text : String) : Session ε Unit :=
  modify fun c => { c with output := c.output ++ text }

def tell (events : List Event) : Session ε Unit :=
  modify fun c => { c with events := c.events ++ events }

/-- An operation that reports and does not print. -/
def ofLogged (x : Logged ε α) : Session ε α := do
  tell x.events
  liftExcept x.result

theorem on_print (text : String) (c : Console) :
    (print text : Session ε Unit).on c = (.ok (), { c with output := c.output ++ text }) := rfl

theorem on_ofLogged (x : Logged ε α) (c : Console) :
    (ofLogged x).on c = (x.result, { c with events := c.events ++ x.events }) := by
  obtain ⟨events, result⟩ := x
  cases result <;> rfl

theorem on_bind_of_ok {a : Session ε α} {c c' : Console} {v : α} (h : a.on c = (.ok v, c'))
    (k : α → Session ε β) : (a >>= k).on c = (k v).on c' := by
  change (ExceptT.bindCont k (a.on c).1).run (a.on c).2 = _
  rw [h]
  rfl

theorem on_bind_of_error {a : Session ε α} {c c' : Console} {e : ε} (h : a.on c = (.error e, c'))
    (k : α → Session ε β) : (a >>= k).on c = (.error e, c') := by
  change (ExceptT.bindCont k (a.on c).1).run (a.on c).2 = _
  rw [h]
  rfl

/-- The session reports the events of `x` and then prints the text that `x` gives; where `x` fails,
the session fails without having printed anything. -/
structure Writes (a : Session ε Unit) (x : Logged ε String) : Prop where
  ok : ∀ text, x.result = .ok text → ∀ c, a.on c =
    (.ok (), { output := c.output ++ text, events := c.events ++ x.events })
  error : ∀ e, x.result = .error e → ∀ c, a.on c =
    (.error e, { c with events := c.events ++ x.events })

theorem writes_print (text : String) : Writes (print text : Session ε Unit) (pure text) where
  ok text' h c := by
    cases h
    rw [on_print, Logged.events_pure, List.append_nil]
  error e h := nomatch h

theorem Writes.print_bind {a : Session ε Unit} {rest : String} (h : Writes a (pure rest))
    (text : String) : Writes (print text >>= fun _ => a) (pure (text ++ rest)) where
  ok text' htext c := by
    cases htext
    rw [on_bind_of_ok (on_print text c), h.ok rest rfl, String.append_assoc]
    rfl
  error e he := nomatch he

theorem writes_pure : Writes (pure () : Session ε Unit) (pure "") where
  ok text h c := by
    cases h
    rw [String.append_empty, Logged.events_pure, List.append_nil]
    rfl
  error e h := nomatch h

private theorem writes_forM_print (xs : List α) (text : α → String) :
    Writes (forM xs fun x => print (text x) : Session ε Unit)
      (pure (String.join (xs.map text))) := by
  induction xs with
  | nil => exact writes_pure
  | cons x xs ih =>
    rw [List.forM_cons, List.map_cons, String.join_cons]
    exact ih.print_bind (text x)

/-- What only reports may come before what prints, and then all of it fails before it prints. -/
theorem Writes.bind {k : α → Session ε Unit} {f : α → Logged ε String} (x : Logged ε α)
    (h : ∀ a, Writes (k a) (f a)) : Writes (ofLogged x >>= k) (x >>= f) where
  ok text htext c := by
    rw [Logged.result_bind, bind_eq_ok_iff] at htext
    obtain ⟨a, ha, htext⟩ := htext
    have hx := on_ofLogged x c
    rw [ha] at hx
    rw [on_bind_of_ok hx, (h a).ok text htext, Logged.events_bind_of_ok ha, List.append_assoc]
  error e he c := by
    rw [Logged.result_bind, bind_eq_error_iff] at he
    have hx := on_ofLogged x c
    rcases he with he | ⟨a, ha, he⟩
    · rw [he] at hx
      rw [on_bind_of_error hx, Logged.events_bind_of_error he]
    · rw [ha] at hx
      rw [on_bind_of_ok hx, (h a).error e he, Logged.events_bind_of_ok ha, List.append_assoc]

theorem Writes.report (x : Logged ε Unit) :
    Writes (ofLogged x) (do x; return "") := by
  have hpure : (ofLogged x : Session ε Unit) = ofLogged x >>= fun _ => pure () := bind_pure_unit.symm
  rw [hpure]
  exact .bind x fun _ => writes_pure

end Session

namespace Command

open Session

def write (inv : Inventory) : Command → Session Failure Unit
  | check => do
    ofLogged (inv.switches.forM announceSwitch)
    ofLogged (Logged.log .info .command (summary inv))
  | «show» options => print (options.format.show inv ++ "\n")
  | ansibleInventory => print (inv.hosts.prettyText ++ "\n")
  | lookup options => do
    let ports ← ofLogged ((inv.switchPorts options.binding).mapError .lookup)
    if ports.isEmpty then
      ofLogged (Logged.log .warn .command ("no switch ports mapped for " ++ options.binding.describe))
    forM ports fun p => print (p.text ++ "\n")
  | platforms => pure ()

def session (files : Files) (input : List String) : Command → Session Failure Unit
  | platforms => ofLogged NetworkOs.announceAll
  | command => do
    let inv ← ofLogged ((Inventory.load files input).mapError .load)
    command.write inv

/-- All commands but one load the inventory first. -/
theorem perform_of_ne_platforms (files : Files) (input : List String) {command : Command}
    (h : command ≠ .platforms) : command.perform files input =
      (Inventory.load files input).mapError Failure.load >>= fun inv => command.execute inv := by
  cases command with
  | platforms => exact absurd rfl h
  | _ => rfl

theorem writes_write (inv : Inventory) (command : Command) :
    Writes (command.write inv) (command.execute inv) := by
  cases command with
  | check => exact .bind _ fun _ => .report _
  | «show» options => exact writes_print _
  | ansibleInventory => exact writes_print _
  | lookup options =>
    apply Writes.bind
    intro ports
    have hlines := writes_forM_print (ε := Failure) ports fun p => p.text ++ "\n"
    -- Only where no ports are found does a warning come before the lines, of which there are none.
    cases ports with
    | nil => exact .bind _ fun _ => hlines
    | cons p ports => exact hlines
  | platforms => exact writes_pure

/-- All reports and everything that can fail come before the first print. -/
theorem writes_session (files : Files) (input : List String) (command : Command) :
    Writes (command.session files input) (command.perform files input) := by
  cases command with
  | platforms => exact .report _
  | _ => exact .bind _ fun inv => writes_write inv _

end Command

namespace Options

open Session

def startEvents (o : Options) : List Event :=
  o.levelEvents ++ [⟨.trace, .command, "running " ++ o.command.name⟩]

def session (files : Files) (o : Options) : Session Failure Unit := do
  tell o.startEvents
  o.command.session files o.input

/-- What the session comes to on an empty console. -/
def runOnConsole (files : Files) (o : Options) : Outcome :=
  match (o.session files).on {} with
  | (.ok (), c) => ⟨0, c.output, report o.level c.events⟩
  | (.error e, c) => ⟨1, c.output, report o.level (c.events ++ [⟨.error, .command, e.message⟩])⟩

theorem run_of_ok {files : Files} {o : Options} {text : String}
    (h : (o.command.perform files o.input).result = .ok text) : o.run files =
      { exitCode := 0
        output := text
        events := report o.level (o.startEvents ++ (o.command.perform files o.input).events) } := by
  simp [run, h, startEvents]

theorem run_of_error {files : Files} {o : Options} {e : Failure}
    (h : (o.command.perform files o.input).result = .error e) : o.run files =
      { exitCode := 1
        output := ""
        events := report o.level (o.startEvents ++ (o.command.perform files o.input).events ++
          [⟨.error, .command, e.message⟩]) } := by
  simp [run, h, startEvents]

private theorem on_session (files : Files) (o : Options) :
    (o.session files).on {} = (o.command.session files o.input).on { events := o.startEvents } :=
  rfl

/-- A run of the program is what its session comes to on an empty console. -/
theorem run_eq_runOnConsole (files : Files) (o : Options) : o.run files = o.runOnConsole files := by
  have hwrites := Command.writes_session files o.input o.command
  unfold runOnConsole
  rw [on_session]
  cases hresult : (o.command.perform files o.input).result with
  | ok text =>
    rw [run_of_ok hresult, hwrites.ok text hresult]
    simp only [String.empty_append]
  | error e => rw [run_of_error hresult, hwrites.error e hresult]

end Options

end SwitchInventory.CommandLine
