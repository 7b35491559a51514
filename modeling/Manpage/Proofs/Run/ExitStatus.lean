/-
# The exit status of a run

Five steps come before the first page: the configuration file is read, it is checked, the settings
are resolved, the applets are settled and the tool is located.  `Stops` says in which of them a run
ends and why; a run in which none fails begins its pages.  There is no third way
(`stops_or_begins`), and from what the steps come to the rest can be read off (`prepare_of_stops`,
`prepare_of_begins`).

The pages are made by as many workers as the settings ask for.  What a run may report is what these
workers may come to (`exists_run_iff`), and of that the exit status and the last words are true,
although what becomes of an applet may depend on who comes first (`Truthful`).

`run_exitStatus` puts this together: the exit status is two exactly when a step has failed, and then
nothing is changed or printed; otherwise it is zero or one, as all pages are in place or not, and
the last words name the applets that have none.
-/
import Manpage.Proofs.Applet.Listed
import Manpage.Proofs.Batch.Account
import Manpage.Proofs.Program.Pool
import Manpage.Proofs.Settings.Layers
import Manpage.Run

namespace Manpage

/-- Commands that leave the files as they are. -/
def Launcher.Quiet (launcher : Launcher) : Prop := ∀ files call, (launcher files call).2 = files

theorem Tool.quiet_helpSource {launcher : Launcher} (hquiet : launcher.Quiet) (tool : Text) :
    (helpSource launcher tool).Quiet := by
  intro applet files
  have hfiles := hquiet files ⟨tool, [applet, "--help".toList], plainOutput⟩
  rw [helpSource]
  split
  · next hcall =>
    rw [hcall] at hfiles
    exact hfiles
  · next hcall =>
    rw [hcall] at hfiles
    exact hfiles

theorem files_discover {launcher : Launcher} (hquiet : launcher.Quiet) (command : List Text)
    (files : Files) : (discover launcher command files).2 = files := by
  cases command with
  | nil => rfl
  | cons program args =>
    have hfiles := hquiet files ⟨program, args, []⟩
    rw [discover]
    split
    · next hcall =>
      rw [hcall] at hfiles
      exact hfiles
    · next hcall =>
      rw [hcall] at hfiles
      split
      · exact hfiles
      · exact hfiles

namespace Run

/-! ## 1. The steps before the pages -/

section Steps

variable (machine : Machine) (args : Arguments) (files : Files)

/-- The choices of the configuration file, if there is one. -/
inductive Loads : Choices → Prop
  | nothing : args.config = none → Loads .none
  | read {path : Text} {bytes : Bytes} {file : Choices} : args.config = some path →
      files.readBytes machine.cwd path = .ok bytes → ConfigFile.parse bytes = .ok file → Loads file

/-- The settings that a valid configuration file and the arguments come to. -/
inductive Settles : Settings → Prop
  | resolved {file : Choices} {settings : Settings} : Loads machine args files file →
      Settings.checkFile file = .ok () → Settings.resolve args.choices file = .ok settings →
      Settles settings

/-- The applets of the run: those that the arguments name, or else those that the command lists. -/
inductive Lists (settings : Settings) : List Text → Prop
  | named : args.applets ≠ [] → Lists settings (Applet.normalize args.applets)
  | discovered {names : List Text} : args.applets = [] →
      (discover machine.launcher settings.discovery files).1 = .ok names → Lists settings names

/-- Where the tool is. -/
def toolOf? (settings : Settings) : Option Text :=
  Tool.locate? files machine.cwd machine.cwdPath machine.searchPath settings.tool

/-- A step before the pages fails, and none before it. -/
inductive Stops : Fatal → Prop
  | unreadable {path : Text} {fault : SystemFault} : args.config = some path →
      files.readBytes machine.cwd path = .error fault → Stops (.unreadableConfig path fault)
  | malformed {path : Text} {bytes : Bytes} {misread : Json.Misread} : args.config = some path →
      files.readBytes machine.cwd path = .ok bytes → ConfigFile.parse bytes = .error misread →
      Stops (.malformedConfig path misread)
  | invalid {file : Choices} {fault : SettingsFault} : Loads machine args files file →
      Settings.checkFile file = .error fault → Stops (.badSettings fault)
  | unresolved {file : Choices} {fault : SettingsFault} : Loads machine args files file →
      Settings.checkFile file = .ok () → Settings.resolve args.choices file = .error fault →
      Stops (.badSettings fault)
  | undiscovered {settings : Settings} {failure : DiscoveryFailure} :
      Settles machine args files settings → args.applets = [] →
      (discover machine.launcher settings.discovery files).1 = .error failure →
      Stops (.noApplets failure)
  | missing {settings : Settings} {names : List Text} : Settles machine args files settings →
      Lists machine args files settings names → toolOf? machine files settings = none →
      Stops (.noTool settings.tool)

end Steps

variable {machine : Machine} {args : Arguments} {files : Files}

theorem stops_or_loads (machine : Machine) (args : Arguments) (files : Files) :
    (∃ fatal, Stops machine args files fatal) ∨ ∃ file, Loads machine args files file := by
  cases hconfig : args.config with
  | none => exact .inr ⟨_, .nothing hconfig⟩
  | some path =>
    cases hread : files.readBytes machine.cwd path with
    | error fault => exact .inl ⟨_, .unreadable hconfig hread⟩
    | ok bytes =>
      cases hparse : ConfigFile.parse bytes with
      | error misread => exact .inl ⟨_, .malformed hconfig hread hparse⟩
      | ok file => exact .inr ⟨file, .read hconfig hread hparse⟩

theorem stops_or_settles {file : Choices} (hloads : Loads machine args files file) :
    (∃ fatal, Stops machine args files fatal) ∨
      ∃ settings, Settles machine args files settings := by
  cases hcheck : Settings.checkFile file with
  | error fault => exact .inl ⟨_, .invalid hloads hcheck⟩
  | ok u =>
    cases hresolve : Settings.resolve args.choices file with
    | error fault => exact .inl ⟨_, .unresolved hloads hcheck hresolve⟩
    | ok settings => exact .inr ⟨settings, .resolved hloads hcheck hresolve⟩

theorem stops_or_lists {settings : Settings} (hsettles : Settles machine args files settings) :
    (∃ fatal, Stops machine args files fatal) ∨
      ∃ names, Lists machine args files settings names := by
  by_cases hnone : args.applets = []
  · cases hdiscover : (discover machine.launcher settings.discovery files).1 with
    | error failure => exact .inl ⟨_, .undiscovered hsettles hnone hdiscover⟩
    | ok names => exact .inr ⟨names, .discovered hnone hdiscover⟩
  · exact .inr ⟨_, .named hnone⟩

/-- Either a step fails or none does. -/
theorem stops_or_begins (machine : Machine) (args : Arguments) (files : Files) :
    (∃ fatal, Stops machine args files fatal) ∨
      ∃ settings names tool, Settles machine args files settings ∧
        Lists machine args files settings names ∧ toolOf? machine files settings = some tool := by
  rcases stops_or_loads machine args files with hstops | ⟨file, hloads⟩
  · exact .inl hstops
  rcases stops_or_settles hloads with hstops | ⟨settings, hsettles⟩
  · exact .inl hstops
  rcases stops_or_lists hsettles with hstops | ⟨names, hlists⟩
  · exact .inl hstops
  cases htool : toolOf? machine files settings with
  | none => exact .inl ⟨_, .missing hsettles hlists htool⟩
  | some tool => exact .inr ⟨settings, names, tool, hsettles, hlists, htool⟩

theorem Loads.settings_eq {file : Choices} (h : Loads machine args files file) :
    settings files machine.cwd args = (combine args.choices file).mapError .badSettings := by
  have hchoices : fileChoices files machine.cwd args = .ok file := by
    cases h with
    | nothing hconfig => rw [fileChoices, hconfig]
    | read hconfig hread hparse =>
      rw [fileChoices, hconfig]
      simp only [loadConfig, hread, hparse]
  rw [settings, hchoices]
  rfl

theorem Settles.settings_eq {s : Settings} (h : Settles machine args files s) :
    settings files machine.cwd args = .ok s := by
  obtain ⟨hloads, hcheck, hresolve⟩ := h
  rw [hloads.settings_eq, combine, hcheck]
  simp only [bind, Except.bind, hresolve, Except.mapError]

theorem Settles.jobs_ne {s : Settings} (h : Settles machine args files s) : s.jobs ≠ some 0 := by
  obtain ⟨-, -, hresolve⟩ := h
  exact (Settings.resolve_eq_ok_iff.mp hresolve).2.1

theorem prepare_of_settings_eq_error {fatal : Fatal}
    (h : settings files machine.cwd args = .error fatal) :
    prepare machine args files = .error (fatalReport fatal [] files) := by
  rw [prepare, h]

section Quiet

variable (hquiet : machine.launcher.Quiet)

include hquiet

theorem Lists.applets_eq {s : Settings} {names : List Text} (h : Lists machine args files s names) :
    ∃ events, applets machine args s files = (.ok (names, events), files) := by
  cases h with
  | named hsome => exact ⟨[], by rw [applets, if_neg hsome]⟩
  | discovered hnone hdiscover =>
    have hfiles := files_discover hquiet s.discovery files
    rw [applets, if_pos hnone]
    generalize discover machine.launcher s.discovery files = discovered at hdiscover hfiles
    obtain ⟨result, files'⟩ := discovered
    cases hdiscover
    cases hfiles
    exact ⟨_, rfl⟩

/-- A run that stops leaves the files as they were, prints nothing and says why it stopped. -/
theorem prepare_of_stops {fatal : Fatal} (h : Stops machine args files fatal) :
    ∃ events, prepare machine args files = .error (fatalReport fatal events files) := by
  cases h with
  | unreadable hconfig hread =>
    refine ⟨[], prepare_of_settings_eq_error ?_⟩
    rw [settings, fileChoices, hconfig]
    simp only [loadConfig, hread]
    rfl
  | malformed hconfig hread hparse =>
    refine ⟨[], prepare_of_settings_eq_error ?_⟩
    rw [settings, fileChoices, hconfig]
    simp only [loadConfig, hread, hparse]
    rfl
  | invalid hloads hcheck =>
    refine ⟨[], prepare_of_settings_eq_error ?_⟩
    rw [hloads.settings_eq, combine, hcheck]
    rfl
  | unresolved hloads hcheck hresolve =>
    refine ⟨[], prepare_of_settings_eq_error ?_⟩
    rw [hloads.settings_eq, combine, hcheck]
    simp only [bind, Except.bind, hresolve, Except.mapError]
  | @undiscovered s failure hsettles hnone hdiscover =>
    have hfiles := files_discover hquiet s.discovery files
    rw [prepare, hsettles.settings_eq]
    simp only [applets, if_pos hnone]
    generalize discover machine.launcher s.discovery files = discovered at hdiscover hfiles
    obtain ⟨result, files'⟩ := discovered
    cases hdiscover
    cases hfiles
    exact ⟨[], rfl⟩
  | missing hsettles hlists htool =>
    obtain ⟨events, happlets⟩ := hlists.applets_eq hquiet
    rw [toolOf?] at htool
    rw [prepare, hsettles.settings_eq]
    simp only [happlets, htool]
    exact ⟨_, rfl⟩

/-- A run that does not stop comes to its pages with the files as they were. -/
theorem prepare_of_begins {s : Settings} {names : List Text} {tool : Text}
    (hsettles : Settles machine args files s) (hlists : Lists machine args files s names)
    (htool : toolOf? machine files s = some tool) :
    ∃ events, prepare machine args files = .ok
      { site := ⟨machine.cwd, Tool.helpSource machine.launcher tool⟩
        batch := batchOf machine s names
        world := ⟨files, [], events⟩ } := by
  obtain ⟨events, happlets⟩ := hlists.applets_eq hquiet
  rw [toolOf?] at htool
  rw [prepare, hsettles.settings_eq]
  simp only [happlets, htool]
  exact ⟨_, rfl⟩

end Quiet

/-! ## 2. The workers -/

theorem run_of_prepare_eq_error {report : RunReport}
    (h : prepare machine args files = .error report) (schedule : List Tick) :
    run machine args files schedule = report := by
  rw [run, h]

theorem run_of_prepare_eq_ok {job : Job} (h : prepare machine args files = .ok job)
    (schedule : List Tick) :
    run machine args files schedule =
      batchReport
        (job.batch.runPooled job.site (job.batch.workers machine.processors) schedule job.world).1
        (job.batch.runPooled job.site (job.batch.workers machine.processors) schedule job.world).2 := by
  rw [run, h]

/-- What the works on the pages may come to when as many workers as the settings ask for go on in
whatever order. -/
def Works (machine : Machine) (settings : Settings) (names : List Text) (tool : Text) :
    World → List Outcome → World → Prop :=
  Worked ⟨machine.cwd, Tool.helpSource machine.launcher tool⟩
    (settings.jobs.getD machine.processors) (Batch.pieces (batchOf machine settings names) names)

/-- The trees that the works on the pages may pass through on their way. -/
def Passes (machine : Machine) (settings : Settings) (names : List Text) (tool : Text) :
    World → List Files → List Outcome → World → Prop :=
  Traced ⟨machine.cwd, Tool.helpSource machine.launcher tool⟩
    (names.map (Batch.work (batchOf machine settings names)))

theorem Works.exists_passes {s : Settings} {names : List Text} {tool : Text} {w w' : World}
    {outcomes : List Outcome} (h : Works machine s names tool w outcomes w') :
    ∃ trees, Passes machine s names tool w trees outcomes w' := by
  have hinterleaved := h.interleaved
  rw [Batch.map_program_pieces] at hinterleaved
  exact interleaved_iff_exists_traced.mp hinterleaved

/-- **The reports of a run are those of what its workers may come to.** -/
theorem exists_run_iff {s : Settings} {names : List Text} {tool : Text} {w : World}
    (hjobs : s.jobs ≠ some 0)
    (hprepare : prepare machine args files = .ok
      { site := ⟨machine.cwd, Tool.helpSource machine.launcher tool⟩
        batch := batchOf machine s names
        world := w }) (report : RunReport) :
    (∃ schedule, run machine args files schedule = report) ↔
      ∃ outcomes w', Works machine s names tool w outcomes w' ∧
        batchReport outcomes w' = report := by
  have hworkers : (batchOf machine s names).workers machine.processors
      = s.jobs.getD machine.processors := Batch.workers_of_jobs hjobs _
  have hpos : 0 < s.jobs.getD machine.processors :=
    hworkers ▸ Batch.workers_pos _ machine.processors_pos
  constructor
  · rintro ⟨schedule, rfl⟩
    rw [run_of_prepare_eq_ok hprepare, hworkers]
    exact ⟨_, _, Pool.worked_run hpos schedule _ w, rfl⟩
  · rintro ⟨outcomes, w', hworks, rfl⟩
    obtain ⟨schedule, hschedule⟩ := Worked.exists_schedule hworks
    refine ⟨schedule, ?_⟩
    rw [run_of_prepare_eq_ok hprepare, hworkers]
    exact congrArg (fun done => batchReport done.1 done.2) hschedule

/-! ## 3. What the report says of the pages -/

/-- The applets that a command lists are those of its output. -/
theorem exists_listing_of_discover {launcher : Launcher} {command names : List Text}
    (h : (discover launcher command files).1 = .ok names) :
    ∃ output, names = Applet.ofListing output := by
  cases command with
  | nil => cases h
  | cons program args =>
    rw [discover] at h
    split at h
    · cases h
    · next completed files' hcall =>
      split at h
      · next found hlisted =>
        cases h
        rw [listedBy] at hlisted
        split at hlisted
        · split at hlisted
          · cases hlisted
          · cases hlisted
            exact ⟨_, rfl⟩
        · cases hlisted
      · cases h

theorem Lists.settled {s : Settings} {names : List Text} (h : Lists machine args files s names) :
    Applet.Settled names := by
  cases h with
  | named hsome => exact .named args.applets
  | discovered hnone hdiscover =>
    obtain ⟨output, rfl⟩ := exists_listing_of_discover hdiscover
    exact .listed output

/-- What the report of a run says of its pages, and what is true of them. -/
structure Truthful (machine : Machine) (settings : Settings) (names : List Text) (tool : Text)
    (w : World) (outcomes : List Outcome) (w' : World) (report : RunReport) : Prop where
  /-- There is one outcome for each applet, in order. -/
  applets : outcomes.map Outcome.applet = names
  zero_iff : report.exitCode = 0 ↔ ∀ o ∈ outcomes, ∃ counts, o.result = .ok counts
  one_iff : report.exitCode = 1 ↔ ∃ o ∈ outcomes, ∃ failure, o.result = .error failure
  passes : ∃ trees, Passes machine settings names tool w trees outcomes w'
  /-- The page of an applet that has succeeded is in its place in the end.  It is made of what was
  found on the way there, whatever the way. -/
  inPlace : ∀ o ∈ outcomes, ∀ counts, o.result = .ok counts → ∃ page,
    report.files.stat machine.cwd (Path.join settings.outDir (o.applet ++ ".1".toList))
        = .ok (.file 0o644 (Utf8.encode page)) ∧
      ∀ trees, Passes machine settings names tool w trees outcomes w' →
        Batch.Composed ⟨machine.cwd, Tool.helpSource machine.launcher tool⟩
          ⟨settings.date.getD machine.month, names⟩ settings.includeDir (· ∈ trees) o.applet page
          counts
  /-- The last words name the applets that have failed, in order, with the paths of their pages. -/
  summary : report.exitCode = 1 → ∃ failed : List Text, failed.Sublist names ∧
    (∀ o ∈ outcomes, o.applet ∈ failed ↔ ∃ failure, o.result = .error failure) ∧
    report.lastWords = some ("mkman: ".toList ++ Text.ofNat failed.length ++ " of ".toList
      ++ Text.ofNat names.length ++ " applets failed: ".toList
      ++ Text.join [',', ' '] (failed.map fun name =>
          name ++ " (".toList ++ Path.join settings.outDir (name ++ ".1".toList) ++ [')']))

theorem exitCode_batchReport (outcomes : List Outcome) (w : World) :
    (batchReport outcomes w).exitCode = if Batch.succeeded outcomes then 0 else 1 := rfl

theorem lastWords_batchReport {outcomes : List Outcome} (h : Batch.succeeded outcomes = false)
    (w : World) : (batchReport outcomes w).lastWords = some (failureSummary outcomes) := by
  rw [batchReport, h]
  rfl

/-- Where the outcomes of a batch are accounted for, the summary names what has failed. -/
theorem failureSummary_eq {site : Site} {batch : Batch} {met : Files → Prop}
    {outcomes : List Outcome} {files : Files} (h : Batch.Account site batch met outcomes files) :
    failureSummary outcomes = "mkman: ".toList
      ++ Text.ofNat ((Batch.failures outcomes).map Outcome.applet).length ++ " of ".toList
      ++ Text.ofNat batch.applets.length ++ " applets failed: ".toList
      ++ Text.join [',', ' '] (((Batch.failures outcomes).map Outcome.applet).map fun name =>
          name ++ " (".toList ++ Path.join batch.outDir (name ++ ".1".toList) ++ [')']) := by
  have hentry : ∀ o ∈ Batch.failures outcomes, failedEntry o
      = o.applet ++ " (".toList ++ Path.join batch.outDir (o.applet ++ ".1".toList) ++ [')'] := by
    intro o ho
    rw [failedEntry, h.output o (List.mem_filter.mp ho).1]
    rfl
  rw [failureSummary, List.map_map, List.map_congr_left hentry, ← h.applets, List.length_map,
    List.length_map]
  rfl

/-- An applet is among the failures if its outcome is one. -/
theorem mem_failures_iff {outcomes : List Outcome}
    (hdistinct : (outcomes.map Outcome.applet).Nodup) {o : Outcome} (ho : o ∈ outcomes) :
    o.applet ∈ (Batch.failures outcomes).map Outcome.applet ↔
      ∃ failure, o.result = .error failure := by
  rw [← Outcome.isSuccess_eq_false_iff, List.mem_map]
  constructor
  · rintro ⟨o', ho', heq⟩
    obtain ⟨hmem, hfail⟩ := List.mem_filter.mp ho'
    -- no two outcomes are of the same applet
    obtain rfl := List.inj_on_of_nodup_map hdistinct hmem ho heq
    simpa using hfail
  · intro hfail
    exact ⟨o, List.mem_filter.mpr ⟨ho, by simp [hfail]⟩, rfl⟩

/-- **The report of what the workers come to is true.** -/
theorem truthful_batchReport (hquiet : machine.launcher.Quiet) {s : Settings} {names : List Text}
    {tool : Text} (hdistinct : names.Nodup) (hnormal : ∀ name ∈ names, Applet.IsNormal name)
    {w w' : World} {outcomes : List Outcome} (h : Works machine s names tool w outcomes w') :
    Truthful machine s names tool w outcomes w' (batchReport outcomes w') := by
  have haccount : ∀ trees, Passes machine s names tool w trees outcomes w' →
      Batch.Account ⟨machine.cwd, Tool.helpSource machine.launcher tool⟩
        (batchOf machine s names) (· ∈ trees) outcomes w'.files := fun _ hpasses =>
    Batch.account_of_traced (Tool.quiet_helpSource hquiet tool) _ hnormal hpasses
  obtain ⟨trees, hpasses⟩ := h.exists_passes
  have hpages := haccount trees hpasses
  have happlets : outcomes.map Outcome.applet = names := hpages.applets
  have hcode := exitCode_batchReport outcomes w'
  refine ⟨happlets, ?_, ?_, ⟨trees, hpasses⟩, fun o ho counts hok => ?_, fun hone => ?_⟩
  · rw [hcode, ← Batch.succeeded_iff]
    cases Batch.succeeded outcomes <;> simp
  · rw [hcode, ← Batch.succeeded_eq_false_iff]
    cases Batch.succeeded outcomes <;> simp
  · obtain ⟨page, hstands, -⟩ := hpages.exists_page hdistinct ho hok
    have hmem : o.applet ∈ names := happlets ▸ List.mem_map_of_mem ho
    refine ⟨page, hstands.stat (hnormal _ hmem), fun trees' hpasses' => ?_⟩
    -- the page is one whatever the way, for there is but one in its place
    obtain ⟨page', hstands', hcomposed⟩ :=
      (haccount trees' hpasses').exists_page hdistinct ho hok
    obtain rfl := hstands.eq hstands'
    exact hcomposed
  · have hfailed : Batch.succeeded outcomes = false := by
      rw [hcode] at hone
      split at hone
      · cases hone
      · next hnot => simpa using hnot
    refine ⟨(Batch.failures outcomes).map Outcome.applet, ?_, fun o ho => ?_, ?_⟩
    · rw [← happlets]
      exact List.filter_sublist.map _
    · exact mem_failures_iff (happlets ▸ hdistinct) ho
    · exact (lastWords_batchReport hfailed w').trans (congrArg some (failureSummary_eq hpages))

/-- **The exit status tells the truth.**  It is two exactly when a step before the pages fails, and
then the files are as they were, nothing has been printed, and the last words say what has failed.
Otherwise the applets have been settled and the tool has been located.  Then the run reports what its
workers may come to, and each such report is true of the pages. -/
theorem run_exitStatus {machine : Machine} (hquiet : machine.launcher.Quiet) (args : Arguments)
    (files : Files) :
    (∀ schedule, (run machine args files schedule).exitCode = 2 ↔
        ∃ fatal, Stops machine args files fatal) ∧
      (∀ fatal, Stops machine args files fatal → ∀ schedule,
        (run machine args files schedule).files = files ∧
          (run machine args files schedule).printed = [] ∧
          (run machine args files schedule).lastWords
            = some ("mkman: ".toList ++ fatal.message)) ∧
      ((∀ fatal, ¬Stops machine args files fatal) →
        ∃ settings names tool, Settles machine args files settings ∧
          Lists machine args files settings names ∧ toolOf? machine files settings = some tool) ∧
      ∀ settings names tool, Settles machine args files settings →
        Lists machine args files settings names → toolOf? machine files settings = some tool →
        ∃ events,
          (∀ report, (∃ schedule, run machine args files schedule = report) ↔
            ∃ outcomes w', Works machine settings names tool ⟨files, [], events⟩ outcomes w' ∧
              batchReport outcomes w' = report) ∧
          ∀ outcomes w', Works machine settings names tool ⟨files, [], events⟩ outcomes w' →
            Truthful machine settings names tool ⟨files, [], events⟩ outcomes w'
              (batchReport outcomes w') := by
  refine ⟨fun schedule => ⟨fun htwo => ?_, fun ⟨fatal, hstops⟩ => ?_⟩, fun fatal hstops schedule => ?_,
    fun hnone => ?_, fun settings names tool hsettles hlists htool => ?_⟩
  · refine (stops_or_begins machine args files).resolve_right ?_
    rintro ⟨settings, names, tool, hsettles, hlists, htool⟩
    obtain ⟨events, hprepare⟩ := prepare_of_begins hquiet hsettles hlists htool
    rw [run_of_prepare_eq_ok hprepare, exitCode_batchReport] at htwo
    split at htwo
    · cases htwo
    · cases htwo
  · obtain ⟨events, hprepare⟩ := prepare_of_stops hquiet hstops
    rw [run_of_prepare_eq_error hprepare]
    rfl
  · obtain ⟨events, hprepare⟩ := prepare_of_stops hquiet hstops
    rw [run_of_prepare_eq_error hprepare]
    exact ⟨rfl, rfl, rfl⟩
  · exact (stops_or_begins machine args files).resolve_left fun ⟨fatal, hstops⟩ =>
      hnone fatal hstops
  · obtain ⟨events, hprepare⟩ := prepare_of_begins hquiet hsettles hlists htool
    obtain ⟨given, rfl⟩ := hlists.settled.exists_args
    have hdistinct : (Applet.normalize given).Nodup :=
      Text.strictOrder_before.nodup (Applet.pairwise_normalize given)
    exact ⟨events, exists_run_iff hsettles.jobs_ne hprepare, fun outcomes w' hworks =>
      truthful_batchReport hquiet hdistinct
        (fun applet happlet => Applet.isNormal_of_mem_normalize happlet) hworks⟩

/-- A machine on which the tool knows the applets of two letters that begin with `q`, and no
command lists any. -/
def bench : Machine where
  cwd := []
  cwdPath := "/".toList
  searchPath := ["/bin".toList]
  launcher := fun files call =>
    (match call.args with
      | [['q', c], _] =>
        .ok ⟨.exited 0, Utf8.encode ("Usage: q".toList ++ c :: " <file> : ask\n".toList), []⟩
      | _ => .ok ⟨.exited 3, [], Utf8.encode "unknown\n".toList⟩, files)
  month := "May 2026".toList

def benchFiles : Files :=
  (Files.empty.put ["bin".toList] .directory).put ["bin".toList, "q".toList] (.file 0o755 [])

/-- The arguments that name applets and nothing else. -/
def naming (applets : List Text) : Arguments := ⟨applets, .none, none, 0⟩

/-- Two workers, and fragments that are looked for where the second page goes. -/
def disturbing : Arguments where
  applets := ["qc".toList, "qa".toList]
  choices := { Choices.none with includeDir := some "qc.1".toList, jobs := some 2 }
  config := none
  verbosity := 0

/-- The second page is made before the first is begun. -/
def secondFirst : List Tick := List.replicate 12 ⟨1, none⟩

/-- A run for each exit status.  Zero and one come of the same arguments: the page that is made first
is in the way of the other's fragments. -/
theorem run_exitStatus_bench :
    bench.launcher.Quiet ∧
      (∃ fatal, Stops bench (naming []) benchFiles fatal) ∧
      (run bench disturbing benchFiles).exitCode = 0 ∧
      (run bench disturbing benchFiles secondFirst).exitCode = 1 ∧
      (run bench disturbing benchFiles secondFirst).lastWords
        = some "mkman: 1 of 2 applets failed: qa (./qa.1)".toList ∧
      ∃ settings names tool w outcomes w', Truthful bench settings names tool w outcomes w'
        (run bench disturbing benchFiles secondFirst) := by
  have hquiet : bench.launcher.Quiet := fun _ _ => rfl
  have htwo : (run bench (naming []) benchFiles).exitCode = 2 := by decide +kernel
  have hone : (run bench disturbing benchFiles secondFirst).exitCode = 1 := by decide +kernel
  obtain ⟨hfatal, -, hbegins, htruthful⟩ := run_exitStatus hquiet disturbing benchFiles
  obtain ⟨settings, names, tool, hsettles, hlists, htool⟩ := hbegins fun fatal hstops => by
    have hcode := (hfatal secondFirst).mpr ⟨fatal, hstops⟩
    rw [hone] at hcode
    cases hcode
  obtain ⟨events, hreports, htrue⟩ := htruthful settings names tool hsettles hlists htool
  obtain ⟨outcomes, w', hworks, hreport⟩ := (hreports _).mp ⟨secondFirst, rfl⟩
  exact ⟨hquiet, ((run_exitStatus hquiet (naming []) benchFiles).1 []).mp htwo,
    by decide +kernel, hone, by decide +kernel, settings, names, tool, _, outcomes, w',
    hreport ▸ htrue outcomes w' hworks⟩

end Run

end Manpage
