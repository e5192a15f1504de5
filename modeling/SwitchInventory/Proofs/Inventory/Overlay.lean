import SwitchInventory.Proofs.Inventory.Declaration

namespace SwitchInventory.Inventory

open SwitchInventory.Sequence

/-- What stands in `a` with what `b` declares in the place of it, and after it what is new in `b`.
The index is made anew. -/
def overlay (a b : Inventory) : Inventory where
  settings.coordinationUri? := b.settings.coordinationUri?.or a.settings.coordinationUri?
  portMappings.hosts := Keyed.overlay HostPorts.hostId a.portMappings.hosts b.portMappings.hosts
  switches := Keyed.overlay Switch.name a.switches b.switches
  macIndex := macIndexOf (Keyed.overlay Switch.name a.switches b.switches)

private theorem overlay_empty {a : Inventory} (ha : a.Canonical) : a.overlay {} = a := by
  obtain ⟨⟨uri⟩, ⟨hosts⟩, switches, index⟩ := a
  have hindex : index = macIndexOf switches := ha.macIndex
  simp [overlay, Keyed.overlay_nil, hindex]

/-- What is declared on top can be declared below before that is laid over. -/
theorem overlay_apply {a : Inventory} (ha : a.Canonical) (b : Inventory) (d : Declaration) :
    a.overlay (b.apply d) = (a.overlay b).apply d := by
  cases d with
  | coordination uri => rfl
  | mappings m =>
    have hhosts : Keyed.overlay HostPorts.hostId a.portMappings.hosts
        (b.portMappings.insertAll m.hosts).hosts =
          ((a.overlay b).portMappings.insertAll m.hosts).hosts := by
      rw [PortMappings.hosts_insertAll, PortMappings.hosts_insertAll]
      exact Keyed.overlay_foldl_put ha.nodup_hosts m.hosts b.portMappings.hosts
    simp only [Inventory.apply, overlay, hhosts]
  | switch s =>
    have hswitches := Keyed.overlay_put ha.nodup_switches s b.switches
    simp only [Inventory.apply, insertSwitch, overlay, hswitches]
  | nothing => rfl

/-- Declarations can be collected on their own first. -/
theorem applyAll_eq_overlay {a : Inventory} (ha : a.Canonical) (ds : List Declaration) :
    a.applyAll ds = a.overlay (applyAll {} ds) := by
  have h (b : Inventory) : (a.overlay b).applyAll ds = a.overlay (b.applyAll ds) := by
    induction ds generalizing b with
    | nil => rfl
    | cons d ds ih =>
      change ((a.overlay b).apply d).applyAll ds = a.overlay ((b.apply d).applyAll ds)
      rw [← overlay_apply ha, ih]
  have hempty := h {}
  rwa [overlay_empty ha] at hempty

/-- The declarations in the file at a path. -/
def fileDeclarations (files : Files) (path : String) : Except LoadError (List Declaration) := do
  let text ← (files path).mapError (.unreadable path)
  (declarations text).mapError (.malformed path)

private theorem fileDeclarations_of_error {files : Files} {path : String} {failure : ReadFailure}
    (h : files path = .error failure) :
    fileDeclarations files path = .error (.unreadable path failure) := by
  rw [fileDeclarations, h]
  rfl

private theorem fileDeclarations_of_ok {files : Files} {path text : String}
    (h : files path = .ok text) :
    fileDeclarations files path = (declarations text).mapError (.malformed path) := by
  rw [fileDeclarations, h]
  rfl

private theorem fileDeclarations_of_parse_error {files : Files} {path text : String}
    {error : FormatError} (h : files path = .ok text)
    (herror : (parse text).result = .error error) :
    fileDeclarations files path = .error (.malformed path error) := by
  rw [result_parse] at herror
  rw [fileDeclarations_of_ok h]
  cases hds : declarations text with
  | error e =>
    rw [hds] at herror
    cases herror
    rfl
  | ok ds =>
    rw [hds] at herror
    cases herror

theorem exists_fileDeclarations {files : Files} {path text : String} {inv : Inventory}
    (h : files path = .ok text) (hinv : (parse text).result = .ok inv) :
    ∃ ds, fileDeclarations files path = .ok ds ∧ inv = applyAll {} ds := by
  rw [result_parse] at hinv
  obtain ⟨ds, hds, heq⟩ := map_eq_ok_iff.mp hinv
  refine ⟨ds, ?_, heq.symm⟩
  rw [fileDeclarations_of_ok h, hds]
  rfl

theorem result_mergeFile (files : Files) (inv : Inventory) (path : String) :
    (inv.mergeFile files path).result = (fileDeclarations files path).map inv.applyAll := by
  unfold mergeFile
  rw [Logged.result_bind, Logged.result_log]
  change Logged.result (Logged.ofExcept ((files path).mapError _) >>= _) = _
  rw [Logged.result_bind, Logged.result_ofExcept]
  cases h : files path with
  | error failure =>
    rw [fileDeclarations_of_error h]
    rfl
  | ok text =>
    rw [fileDeclarations_of_ok h]
    change ((inv.merge text).mapError _).result = _
    rw [Logged.result_mapError, result_merge]
    cases declarations text <;> rfl

/-- What a file declares does not depend on the files before it. -/
theorem result_load (files : Files) (paths : List String) :
    (load files paths).result =
      (paths.mapM (fileDeclarations files)).map fun dss => applyAll {} dss.flatten := by
  have hstep : (fun (i : Inventory) path => (i.mergeFile files path).result) =
      fun i path => (fileDeclarations files path).map i.applyAll := by
    funext i path
    exact result_mergeFile files i path
  have hload : (paths.foldlM (mergeFile files) {}).result =
      (paths.mapM (fileDeclarations files)).map fun dss => applyAll {} dss.flatten := by
    rw [Logged.result_foldlM, hstep, foldlM_map]
    simp only [applyAll, List.foldl_flatten]
    rfl
  unfold load
  rw [Logged.result_bind, hload]
  cases paths.mapM (fileDeclarations files) <;> rfl

/-- Declaring file after file is laying the inventories of the files over each other. -/
theorem applyAll_flatten_eq_overlay (dss : List (List Declaration)) {a : Inventory}
    (ha : a.Canonical) : a.applyAll dss.flatten = (dss.map (applyAll {})).foldl overlay a := by
  induction dss generalizing a with
  | nil => rfl
  | cons ds dss ih =>
    rw [List.flatten_cons, applyAll_append, List.map_cons, List.foldl_cons, ← applyAll_eq_overlay ha]
    exact ih (ha.applyAll ds)

/-- The file at a path is readable and declares an inventory. -/
def Declares (files : Files) (path : String) (inv : Inventory) : Prop :=
  ∃ text, files path = .ok text ∧ (parse text).result = .ok inv

/-- The file at a path is unreadable or malformed. -/
inductive Fails (files : Files) (path : String) : LoadError → Prop where
  | unreadable {failure : ReadFailure} :
    files path = .error failure → Fails files path (.unreadable path failure)
  | malformed {text : String} {error : FormatError} :
    files path = .ok text → (parse text).result = .error error →
      Fails files path (.malformed path error)

theorem exists_declarations {files : Files} {paths : List String} {invs : List Inventory}
    (h : List.Forall₂ (Declares files) paths invs) :
    ∃ dss, List.Forall₂ (fun path ds => fileDeclarations files path = .ok ds) paths dss ∧
      invs = dss.map (applyAll {}) := by
  induction h with
  | nil => exact ⟨[], .nil, rfl⟩
  | cons hinv _ ih =>
    obtain ⟨text, htext, hparse⟩ := hinv
    obtain ⟨ds, hds, heq⟩ := exists_fileDeclarations htext hparse
    obtain ⟨dss, hdss, heqs⟩ := ih
    exact ⟨ds :: dss, .cons hds hdss, by rw [heq, heqs, List.map_cons]⟩

private theorem Fails.fileDeclarations {files : Files} {path : String} {error : LoadError}
    (h : Fails files path error) : fileDeclarations files path = .error error := by
  cases h with
  | unreadable h => exact fileDeclarations_of_error h
  | malformed h herror => exact fileDeclarations_of_parse_error h herror

private theorem Fails.path_eq {files : Files} {path : String} {error : LoadError}
    (h : Fails files path error) : error.path = path := by
  cases h <;> rfl

/-- Each file is laid over what the files before it declare. -/
theorem load_of_declares {files : Files} {paths : List String} {invs : List Inventory}
    (h : List.Forall₂ (Declares files) paths invs) :
    (load files paths).result = .ok (invs.foldl overlay {}) := by
  obtain ⟨dss, hdss, rfl⟩ := exists_declarations h
  rw [result_load, mapM_eq_ok_iff.mpr hdss, ← applyAll_flatten_eq_overlay dss canonical_empty]
  rfl

/-- The first file that is unreadable or malformed fails the same way as alone. -/
theorem load_of_fails {files : Files} {front : List String} {invs : List Inventory} {path : String}
    {error : LoadError} (hfront : List.Forall₂ (Declares files) front invs)
    (h : Fails files path error) (back : List String) :
    (load files (front ++ path :: back)).result = .error error := by
  obtain ⟨dss, hdss, -⟩ := exists_declarations hfront
  rw [result_load, mapM_append_cons_of_error hdss h.fileDeclarations]
  rfl

/-- Files that are loaded later are laid over the files before them. -/
theorem load_append {files : Files} {xs ys : List String} {a b : Inventory}
    (ha : (load files xs).result = .ok a) (hb : (load files ys).result = .ok b) :
    (load files (xs ++ ys)).result = .ok (a.overlay b) := by
  rw [result_load] at ha hb
  obtain ⟨dss, hdss, rfl⟩ := map_eq_ok_iff.mp ha
  obtain ⟨ess, hess, rfl⟩ := map_eq_ok_iff.mp hb
  have hcanon := canonical_empty.applyAll dss.flatten
  rw [result_load, List.mapM_append, hdss, ← applyAll_eq_overlay hcanon, ← applyAll_append,
    ← List.flatten_append]
  change Except.map _ (ys.mapM (Inventory.fileDeclarations files) >>= _) = _
  rw [hess]
  rfl

/-- Files that are readable and not malformed declare together what each of them declares, laid over
what those before it declare. The first other file fails the way it fails alone. -/
theorem load_eq_overlay (files : Files) :
    (∀ (paths : List String) (invs : List Inventory), List.Forall₂ (Declares files) paths invs →
      (load files paths).result = .ok (invs.foldl overlay {})) ∧
    (∀ (xs ys : List String) (a b : Inventory), (load files xs).result = .ok a →
      (load files ys).result = .ok b → (load files (xs ++ ys)).result = .ok (a.overlay b)) ∧
    ∀ (front : List String) (invs : List Inventory) (path : String) (error : LoadError)
      (back : List String), List.Forall₂ (Declares files) front invs → Fails files path error →
      (load files (front ++ path :: back)).result = .error error ∧ error.path = path := by
  refine ⟨?_, ?_, ?_⟩
  · intro paths invs h
    exact load_of_declares h
  · intro xs ys a b ha hb
    exact load_append ha hb
  · intro front invs path error back hfront h
    exact ⟨load_of_fails hfront h back, h.path_eq⟩

/-- A file, one that overrides it, and a malformed one. -/
def threeFiles : Files := fun path =>
  if path = "a" then .ok "[ansible:port_mappings]\nh = s::1\nk = s::2\n[ansible:s]\nmac = a\n"
  else if path = "b" then .ok "[ansible:port_mappings]\nh = t::9\n[ansible:t]\n[ansible:s]\nmac = b\n"
  else if path = "c" then .ok "[ansible:port_mappings]\nh = s:1\n"
  else .error .notFound

theorem load_threeFiles :
    (load threeFiles ["a", "b"]).result = .ok
      { portMappings := ⟨[⟨"h", [⟨"t", "9"⟩]⟩, ⟨"k", [⟨"s", "2"⟩]⟩]⟩
        switches := [⟨"s", ⟨[("mac", "b")], by decide⟩, .empty⟩, { name := "t" }]
        macIndex := [("B", "s")] } ∧
    (∃ a b, (load threeFiles ["a"]).result = .ok a ∧ (load threeFiles ["b"]).result = .ok b ∧
      (load threeFiles (["a"] ++ ["b"])).result = .ok (a.overlay b)) ∧
    (load threeFiles (["a"] ++ "c" :: ["d"])).result =
      .error (.malformed "c" ⟨.missingPortSeparator, "h = s:1", some 2⟩) := by
  have ha : Declares threeFiles "a"
      { portMappings := ⟨[⟨"h", [⟨"s", "1"⟩]⟩, ⟨"k", [⟨"s", "2"⟩]⟩]⟩
        switches := [⟨"s", ⟨[("mac", "a")], by decide⟩, .empty⟩]
        macIndex := [("A", "s")] } := ⟨_, rfl, rfl⟩
  have hb : Declares threeFiles "b"
      { portMappings := ⟨[⟨"h", [⟨"t", "9"⟩]⟩]⟩
        switches := [{ name := "t" }, ⟨"s", ⟨[("mac", "b")], by decide⟩, .empty⟩]
        macIndex := [("B", "s")] } := ⟨_, rfl, rfl⟩
  have hc : Fails threeFiles "c" (.malformed "c" ⟨.missingPortSeparator, "h = s:1", some 2⟩) :=
    .malformed rfl rfl
  obtain ⟨hall, happend, hfirst⟩ := load_eq_overlay threeFiles
  have hla := hall ["a"] _ (.cons ha .nil)
  have hlb := hall ["b"] _ (.cons hb .nil)
  refine ⟨(hall ["a", "b"] _ (.cons ha (.cons hb .nil))).trans rfl, ?_, ?_⟩
  · exact ⟨_, _, hla, hlb, happend _ _ _ _ hla hlb⟩
  · exact (hfirst ["a"] _ "c" _ ["d"] (.cons ha .nil) hc).1

end SwitchInventory.Inventory
