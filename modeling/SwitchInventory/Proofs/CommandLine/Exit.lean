import SwitchInventory.Proofs.CommandLine.PortLines

namespace SwitchInventory.CommandLine

open Sequence

private theorem report_append (level : Level) (xs ys : List Event) :
    report level (xs ++ ys) = report level xs ++ report level ys := by
  rw [report, List.filter_append, List.map_append, report, report]

private theorem filter_report (level least : Level) (events : List Event) :
    (report level events).filter (·.isWithin least) =
      report level (events.filter (·.isWithin least)) := by
  have hshown : (fun e : Event => e.isWithin least) ∘ shown = fun e => e.isWithin least := rfl
  rw [report, List.filter_map, hshown, List.filter_comm, report]

private theorem isWithin_of_rank_le {e : Event} {least level : Level}
    (h : e.isWithin least = true) (hle : least.rank ≤ level.rank) : e.isWithin level = true := by
  have hrank : e.level.rank ≤ least.rank := of_decide_eq_true h
  exact decide_eq_true (hrank.trans hle)

/-- A level leaves out nothing that a more severe one reports. -/
theorem filter_report_of_rank_le {least level : Level} (hle : least.rank ≤ level.rank)
    (events : List Event) :
    (report level events).filter (·.isWithin least) = report least events := by
  have hall : ∀ e ∈ events.filter (·.isWithin least), e.isWithin level = true :=
    fun e he => isWithin_of_rank_le (List.mem_filter.mp he).2 hle
  rw [filter_report, report, List.filter_eq_self.mpr hall, report]

/-- Only two words keep events of the level `info` from being reported. -/
theorem rank_info_le_level {o : Options}
    (h : ∀ word ∈ o.verbosity?, Text.lower word ≠ "error" ∧ Text.lower word ≠ "warn") :
    Level.info.rank ≤ o.level.rank := by
  unfold Options.level
  cases hverbosity : o.verbosity? with
  | none => exact le_refl _
  | some word =>
    obtain ⟨herror, hwarn⟩ := h word hverbosity
    rw [Option.bind_some]
    unfold level?
    split
    · exact absurd ‹_› herror
    · exact absurd ‹_› hwarn
    all_goals decide

/-- The line of the log on a switch: its role, or a warning why it has none. A line is one event,
whatever characters the names in it have. -/
inductive Announces (s : Switch) : Event → Prop where
  | role {task : Task} : (Registry.standard.dispatch s).result = .ok task →
      Announces s ⟨.info, .command, "switch " ++ task.switch ++ " uses role " ++ task.role⟩
  | refused {e : DispatchError} : (Registry.standard.dispatch s).result = .error e →
      Announces s ⟨.warn, .command, e.message⟩

theorem Announces.isWithin {s : Switch} {line : Event} (h : Announces s line) :
    line.isWithin .info = true := by
  cases h <;> rfl

/-- The switch alone decides on its line. -/
theorem Announces.unique {s : Switch} {line line' : Event} (h : Announces s line)
    (h' : Announces s line') : line = line' := by
  cases h with
  | role hok =>
    cases h' with
    | role hok' =>
      rw [hok] at hok'
      cases hok'
      rfl
    | refused herror =>
      rw [hok] at herror
      cases herror
  | refused herror =>
    cases h' with
    | role hok =>
      rw [herror] at hok
      cases hok
    | refused herror' =>
      rw [herror] at herror'
      cases herror'
      rfl

private theorem exists_announces (s : Switch) :
    ∃ line, Announces s line ∧
      (announceSwitch s).events = (Registry.standard.dispatch s).events ++ [line] := by
  unfold announceSwitch
  cases hresult : (Registry.standard.dispatch s).result with
  | ok task =>
    simp only [hresult]
    exact ⟨_, .role hresult, rfl⟩
  | error e =>
    simp only [hresult]
    exact ⟨_, .refused hresult, rfl⟩

private theorem filter_events_dispatch (r : Registry) (s : Switch) :
    (r.dispatch s).events.filter (·.isWithin .info) = [] := by
  unfold Registry.dispatch
  cases r.handlerFor s <;> rfl

private theorem exists_filter_announceSwitch (s : Switch) :
    ∃ line, Announces s line ∧ (announceSwitch s).events.filter (·.isWithin .info) = [line] := by
  obtain ⟨line, hline, hevents⟩ := exists_announces s
  refine ⟨line, hline, ?_⟩
  rw [hevents, List.filter_append, filter_events_dispatch, List.nil_append,
    List.filter_cons_of_pos hline.isWithin, List.filter_nil]

private theorem result_forM_announceSwitch (switches : List Switch) :
    (switches.forM announceSwitch).result = .ok () := by
  induction switches with
  | nil => rfl
  | cons s switches ih =>
    change (announceSwitch s >>= fun _ => switches.forM announceSwitch).result = _
    rw [Logged.result_bind, ih]
    rfl

/-- No platform keeps a switch from being reported, and each is reported in one line. -/
theorem exists_filter_forM_announceSwitch (switches : List Switch) :
    ∃ lines, List.Forall₂ Announces switches lines ∧
      (switches.forM announceSwitch).events.filter (·.isWithin .info) = lines := by
  induction switches with
  | nil => exact ⟨[], .nil, rfl⟩
  | cons s switches ih =>
    obtain ⟨lines, hlines, hevents⟩ := ih
    obtain ⟨line, hline, hevent⟩ := exists_filter_announceSwitch s
    refine ⟨line :: lines, .cons hline hlines, ?_⟩
    -- Reporting on the first switch cannot fail, so the others are reported on as well.
    change (announceSwitch s >>= fun _ => switches.forM announceSwitch).events.filter _ = _
    have hresult : (announceSwitch s).result = .ok () := rfl
    rw [Logged.events_bind_of_ok hresult, List.filter_append, hevent, hevents,
      List.singleton_append]

private theorem result_execute_check (inv : Inventory) :
    (Command.execute inv .check).result = .ok "" := by
  rw [Command.execute, Logged.result_bind, result_forM_announceSwitch]
  rfl

/-- A check logs a line for each switch, in their order, and then its summary. -/
theorem exists_filter_execute_check (inv : Inventory) :
    ∃ lines, List.Forall₂ Announces inv.switches lines ∧
      (Command.execute inv .check).events.filter (·.isWithin .info) =
        lines ++ [⟨.info, .command, summary inv⟩] := by
  obtain ⟨lines, hlines, hevents⟩ := exists_filter_forM_announceSwitch inv.switches
  refine ⟨lines, hlines, ?_⟩
  rw [Command.execute, Logged.events_bind_of_ok (result_forM_announceSwitch inv.switches),
    List.filter_append, hevents]
  rfl

/-- Nothing that the command needs fails. -/
def Options.Succeeds (files : Files) (o : Options) : Prop :=
  o.command = .platforms ∨ ∃ inv, (Inventory.load files o.input).result = .ok inv ∧
    ∀ l, o.command = .lookup l → ∃ ports, (inv.switchPorts l.binding).result = .ok ports

/-- On an inventory that is there, only a lookup can fail, and only by its ports. -/
theorem exists_execute_eq_ok_iff (inv : Inventory) (command : Command) :
    (∃ text, (command.execute inv).result = .ok text) ↔
      ∀ l, command = .lookup l → ∃ ports, (inv.switchPorts l.binding).result = .ok ports := by
  cases command with
  | lookup l =>
    constructor
    · rintro ⟨text, h⟩ _ ⟨⟩
      rw [Command.execute, Logged.result_bind, Logged.result_mapError, bind_eq_ok_iff] at h
      obtain ⟨ports, hports, -⟩ := h
      exact ⟨ports, mapError_eq_ok_iff.mp hports⟩
    · intro h
      obtain ⟨ports, hports⟩ := h l rfl
      exact ⟨_, result_execute_lookup hports⟩
  | check =>
    refine iff_of_true ⟨_, result_execute_check inv⟩ ?_
    intro l h
    cases h
  | _ =>
    refine iff_of_true ⟨_, rfl⟩ ?_
    intro l h
    cases h

/-- A command gives a text exactly when the run is one that succeeds. -/
theorem exists_perform_eq_ok_iff (files : Files) (o : Options) :
    (∃ text, (o.command.perform files o.input).result = .ok text) ↔ o.Succeeds files := by
  by_cases hcommand : o.command = .platforms
  · refine iff_of_true ?_ (.inl hcommand)
    rw [hcommand]
    exact ⟨_, rfl⟩
  · rw [Command.perform_of_ne_platforms files o.input hcommand]
    simp only [Options.Succeeds, hcommand, false_or, Logged.result_bind, Logged.result_mapError,
      bind_eq_ok_iff, mapError_eq_ok_iff, ← exists_execute_eq_ok_iff]
    constructor
    · rintro ⟨text, inv, hload, htext⟩
      exact ⟨inv, hload, text, htext⟩
    · rintro ⟨inv, hload, text, htext⟩
      exact ⟨text, inv, hload, htext⟩

/-- A run succeeds exactly when nothing that its command needs fails. -/
theorem exitCode_run_eq_zero_iff (files : Files) (o : Options) :
    (o.run files).exitCode = 0 ↔ o.Succeeds files := by
  rw [← exists_perform_eq_ok_iff]
  cases hresult : (o.command.perform files o.input).result with
  | ok text => simp [Options.run_of_ok hresult]
  | error e => simp [Options.run_of_error hresult]

/-- The list of platforms takes no notice of the files. -/
theorem run_of_platforms {o : Options} (h : o.command = .platforms) (files files' : Files)
    (input' : List String) : Options.run files' { o with input := input' } = o.run files := by
  obtain ⟨input, verbosity?, command⟩ := o
  obtain rfl : command = .platforms := h
  rfl

private theorem output_run_of_check {o : Options} (h : o.command = .check) (files : Files) :
    (o.run files).output = "" := by
  have hcheck : Command.check ≠ .platforms := nofun
  cases hresult : (o.command.perform files o.input).result with
  | error e => rw [Options.run_of_error hresult]
  | ok text =>
    rw [Options.run_of_ok hresult]
    rw [h, Command.perform_of_ne_platforms files o.input hcheck, Logged.result_bind,
      bind_eq_ok_iff] at hresult
    obtain ⟨inv, -, htext⟩ := hresult
    rw [result_execute_check] at htext
    exact (Except.ok.inj htext).symm

/-- The run of a check, once the inventory has been loaded. -/
theorem run_of_check {files : Files} {o : Options} {inv : Inventory} (h : o.command = .check)
    (hload : (Inventory.load files o.input).result = .ok inv) : o.run files =
      { exitCode := 0
        output := ""
        events := report o.level (o.startEvents ++ ((Inventory.load files o.input).events ++
          (Command.execute inv .check).events)) } := by
  have hload' : ((Inventory.load files o.input).mapError Failure.load).result = .ok inv :=
    mapError_eq_ok_iff.mpr hload
  have hcheck : Command.check ≠ .platforms := nofun
  have hperform := Command.perform_of_ne_platforms files o.input hcheck
  have hresult : (o.command.perform files o.input).result = .ok "" := by
    rw [h, hperform, Logged.result_bind, hload']
    exact result_execute_check inv
  rw [Options.run_of_ok hresult, h, hperform, Logged.events_bind_of_ok hload', Logged.events_mapError]

/-- What a run comes to that carries out the options. A line of the log is one event. After a load
that succeeds `check` logs one line for each switch and then the summary, and all of them are shown
unless the verbosity asks for errors only or for warnings and errors only. -/
structure CarriesOut (files : Files) (o : Options) (done : Outcome) : Prop where
  onConsole : done = o.runOnConsole files
  exits : done.exitCode = 0 ∨ done.exitCode = 1
  succeeds : done.exitCode = 0 ↔ o.Succeeds files
  silent : done.exitCode = 1 → done.output = ""
  platforms : o.command = .platforms → ∀ files' arguments' input',
    Options.read arguments' = .ok { o with input := input' } → run files' arguments' = done
  check : o.command = .check → done.output = ""
  announces : o.command = .check → ∀ inv, (Inventory.load files o.input).result = .ok inv →
    done.exitCode = 0 ∧ ∃ lines, List.Forall₂ Announces inv.switches lines ∧
      done.events.filter (·.isWithin .info) =
        (report o.level (o.startEvents ++ (Inventory.load files o.input).events)).filter
          (·.isWithin .info) ++ report o.level (lines ++ [⟨.info, .command, summary inv⟩]) ∧
      ((∀ word ∈ o.verbosity?, Text.lower word ≠ "error" ∧ Text.lower word ≠ "warn") →
        done.events.filter (·.isWithin .info) =
          report .info (o.startEvents ++ (Inventory.load files o.input).events) ++
            List.map shown (lines ++ [⟨.info, .command, summary inv⟩]))

private theorem run_eq_of_read {files : Files} {arguments : List String} {o : Options}
    (h : Options.read arguments = .ok o) : run files arguments = o.run files := by
  unfold run
  rw [h]

/-- A command line that can be read is carried out on whatever the files hold. -/
theorem carriesOut_run {files : Files} {arguments : List String} {o : Options}
    (h : Options.read arguments = .ok o) : CarriesOut files o (run files arguments) := by
  rw [run_eq_of_read h]
  have hexit : (o.run files).exitCode = 0 ∨
      (o.run files).exitCode = 1 ∧ (o.run files).output = "" := by
    cases hresult : (o.command.perform files o.input).result with
    | ok text =>
      rw [Options.run_of_ok hresult]
      exact .inl rfl
    | error e =>
      rw [Options.run_of_error hresult]
      exact .inr ⟨rfl, rfl⟩
  refine {
    onConsole := o.run_eq_runOnConsole files
    exits := hexit.imp_right And.left
    succeeds := exitCode_run_eq_zero_iff files o
    silent := ?_
    platforms := ?_
    check := fun hcheck => output_run_of_check hcheck files
    announces := ?_ }
  · intro hone
    rcases hexit with hzero | ⟨-, houtput⟩
    · rw [hzero] at hone
      cases hone
    · exact houtput
  · intro hplatforms files' arguments' input' h'
    rw [run_eq_of_read h', run_of_platforms hplatforms files files' input']
  · intro hcheck inv hload
    obtain ⟨lines, hlines, hevents⟩ := exists_filter_execute_check inv
    rw [run_of_check hcheck hload]
    refine ⟨rfl, lines, hlines, ?_, ?_⟩
    · rw [filter_report, filter_report, ← report_append, ← List.append_assoc, List.filter_append,
        hevents]
    · intro hverbosity
      have hreport : report .info (Command.execute inv .check).events =
          List.map shown (lines ++ [⟨.info, .command, summary inv⟩]) := by
        rw [report, hevents]
      rw [filter_report_of_rank_le (rank_info_le_level hverbosity), ← List.append_assoc,
        report_append, hreport]

/-- A file with a switch of a known platform and one of an unknown platform. -/
def twoPlatforms : Files := fun path =>
  if path = "f" then
    .ok "[ansible:sw0]\nansible_network_os = eos\n[ansible:sw1]\nansible_network_os = vyos\n"
  else .error .notFound

def twoPlatformsInventory : Inventory where
  switches := [{ name := "sw0", standard := .ofPairs [("ansible_network_os", "eos")] },
    { name := "sw1", standard := .ofPairs [("ansible_network_os", "vyos")] }]

/-- A check that shows the role of one switch, the warning about the other and the summary, one that
shows the warning alone, a lookup that fails, and `platforms` without its file. -/
theorem carriesOut_twoPlatforms :
    let check := run twoPlatforms ["--input", "f", "check"]
    let warnings := run twoPlatforms ["--input", "f", "-v", "warn", "check"]
    let lookup := run twoPlatforms ["--input", "f", "lookup", "baremetal", "--port-id", "p"]
    (check.exitCode = 0 ∧ check.output = "" ∧ check.events.filter (·.isWithin .info) =
      [⟨.info, .inventory, "Ansible Host List: sw0, sw1"⟩,
        ⟨.info, .command, "switch sw0 uses role network-runner/providers/eos"⟩,
        ⟨.warn, .command, "switch sw1 uses unsupported platform vyos"⟩,
        ⟨.info, .command, "inventory ok: 2 switches, 0 host port mappings, coordination via " ++
          "etcd://127.0.0.1:2379"⟩]) ∧
    (warnings.exitCode = 0 ∧ warnings.output = "" ∧
      warnings.events = [⟨.warn, .command, "switch sw1 uses unsupported platform vyos"⟩]) ∧
    (lookup.exitCode = 1 ∧ lookup.output = "") ∧
    run twoPlatforms ["platforms"] = run (fun _ => .error .notFound) ["--input", "g", "platforms"] := by
  intro check warnings lookup
  have hload : (Inventory.load twoPlatforms ["f"]).result = .ok twoPlatformsInventory := by rfl
  have hcheck : CarriesOut twoPlatforms ⟨["f"], none, .check⟩ check := carriesOut_run (by rfl)
  have hwarnings : CarriesOut twoPlatforms ⟨["f"], some "warn", .check⟩ warnings :=
    carriesOut_run (by rfl)
  have hlookup : CarriesOut twoPlatforms ⟨["f"], none, .lookup ⟨.baremetal none none "p"⟩⟩ lookup :=
    carriesOut_run (by rfl)
  have hplatforms : CarriesOut (fun _ => .error .notFound) ⟨["g"], none, .platforms⟩
      (run (fun _ => .error .notFound) ["--input", "g", "platforms"]) :=
    carriesOut_run (by rfl)
  obtain ⟨hzero, lines, hlines, -, hevents⟩ := hcheck.announces rfl _ hload
  have htold : lines = [⟨.info, .command, "switch sw0 uses role network-runner/providers/eos"⟩,
      ⟨.warn, .command, "switch sw1 uses unsupported platform vyos"⟩] := by
    obtain _ | ⟨hrole, _ | ⟨hrefused, ⟨⟩⟩⟩ := hlines
    rw [hrole.unique (.role (by rfl)), hrefused.unique (.refused (by rfl))]
    rfl
  have hfails : lookup.exitCode = 1 := by
    refine hlookup.exits.resolve_left fun hzero => ?_
    rcases hlookup.succeeds.mp hzero with hcommand | ⟨inv, hinv, hports⟩
    · cases hcommand
    · obtain rfl : twoPlatformsInventory = inv := Except.ok.inj (hload.symm.trans hinv)
      obtain ⟨ports, hports⟩ := hports _ rfl
      cases hports
  refine ⟨⟨hzero, hcheck.check rfl, ?_⟩,
    ⟨(hwarnings.announces rfl _ hload).1, hwarnings.check rfl, by rfl⟩, ?_, ?_⟩
  · rw [hevents nofun, htold]
    rfl
  · exact ⟨hfails, hlookup.silent hfails⟩
  · exact hplatforms.platforms rfl twoPlatforms ["platforms"] ["ml2_conf_ansible.ini"] (by rfl)

end SwitchInventory.CommandLine
