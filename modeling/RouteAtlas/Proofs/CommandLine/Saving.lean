import RouteAtlas.CommandLine.Run
import RouteAtlas.Proofs.Disk

/-!
# What a run leaves on the disk

The document of a router file is complete, as a text, before the disk is written to, and writing it is
the last thing that can be refused. A run that fails therefore leaves every file as it was, and a run
that succeeds changes the target alone, which then holds the document. One line is still to be printed
when the document is on the disk. Where the standard output does not take that line, the run ends as a
failure after it has saved the document, and this is the only way in which a failing run changes a file.
-/

set_option autoImplicit false

namespace RouteAtlas.OpenApi

open Api

/-- Putting a document on a disk fails with every file as it was, or writes its text. -/
theorem place_cases (disk : Disk) (document : Json) (target : Path) :
    (∃ fault stop, place disk document target = (.error fault, stop) ∧ stop.files = disk.files) ∨
    ∃ stop segments, place disk document target = (.ok (), stop) ∧
      disk.Replaced stop target segments (Yaml.blockDocument (documentTree document)) := by
  rw [place]
  cases hparent : target.parent.fault? with
  | some fault => exact .inl ⟨_, _, rfl, rfl⟩
  | none =>
      cases hmake : disk.makeFolders target.parent with
      | error error => exact .inl ⟨_, _, rfl, rfl⟩
      | ok middle =>
          have hfiles := Disk.files_of_makeFolders hmake
          dsimp only
          cases hforeign : hasForeign document with
          | true => exact .inl ⟨_, _, rfl, hfiles⟩
          | false =>
              cases htarget : target.fault? with
              | some fault => exact .inl ⟨_, _, rfl, hfiles⟩
              | none =>
                  cases hwrite : middle.write target (Yaml.blockDocument (documentTree document)) with
                  | error error => exact .inl ⟨_, _, rfl, hfiles⟩
                  | ok stop =>
                      obtain ⟨segments, hreplaced⟩ := Disk.exists_replaced_of_write hwrite
                      exact .inr ⟨stop, segments, rfl, hreplaced.of_files_eq hfiles⟩

/-- Writing a document fails with every file as it was, or the target holds the built document. -/
theorem output_cases (disk : Disk) (document : Document) (info : Info) (destination : Path)
    (fileName : String) :
    ((∃ fault, (output disk document info destination fileName).outcome = .error fault) ∧
      (output disk document info destination fileName).disk.files = disk.files) ∨
    ∃ object segments, (buildDocument document info).1 = .ok object ∧
      (output disk document info destination fileName).outcome =
        .ok (destination / Path.ofString fileName) ∧
      disk.Replaced (output disk document info destination fileName).disk
        (destination / Path.ofString fileName) segments
        (Yaml.blockDocument (documentTree object)) := by
  rw [output]
  rcases hbuilt : buildDocument document info with ⟨built, events⟩
  cases built with
  | error misshape => exact .inl ⟨⟨_, rfl⟩, rfl⟩
  | ok object =>
      dsimp only [bind, Except.bind]
      cases hcheck : check object with
      | error misshape => exact .inl ⟨⟨_, rfl⟩, rfl⟩
      | ok findings =>
          dsimp only [pure, Except.pure]
          rcases place_cases disk object (destination / Path.ofString fileName) with
            ⟨fault, stop, hplace, hfiles⟩ | ⟨stop, segments, hplace, hreplaced⟩
          · rw [hplace]
            exact .inl ⟨⟨_, rfl⟩, hfiles⟩
          · rw [hplace]
            exact .inr ⟨object, segments, rfl, rfl, hreplaced⟩

end RouteAtlas.OpenApi

namespace RouteAtlas.CommandLine

open Api

/-! ## The document of a router file -/

/-- The text of the document that a router file gives under a configuration. -/
def Documents (root : String) (disk : Disk) (config : Config) (file : Path) (text : String) : Prop :=
  ∃ document object, (generated root disk config file).1 = .ok document ∧
    (OpenApi.buildDocument document (infoOf config)).1 = .ok object ∧
    text = Yaml.blockDocument (OpenApi.documentTree object)

/-- Where the document of a configuration goes. -/
def targetOf (config : Config) : Path := config.outputFolder / Path.ofString OpenApi.outputName

/-- The line that a run ends with. -/
def closingLine (target : Path) : String := "OpenAPI document saved to " ++ target.toString

/-- How writing the document of a router file ends: as a failure with every file as it was, or with
the document saved, and then as a success unless the standard output does not take the closing line. -/
inductive Ends (stream : OutputStream) (root : String) (disk : Disk) (config : Config) (file : Path)
    (outcome : Outcome) : Prop
  | failed (hexit : outcome.exitCode ≠ 0) (hfiles : outcome.disk.files = disk.files)
  | saved {segments : List Text} {text : String} (hdocument : Documents root disk config file text)
      (hreplaced : disk.Replaced outcome.disk (targetOf config) segments text)
      (hexit : outcome.exitCode = 0 ↔ stream.takes (closingLine (targetOf config)) = true)

theorem Outcome.exitCode_saying (outcome : Outcome) (stream : OutputStream) (text : String)
    (h : outcome.exitCode = 0) :
    (outcome.saying stream text).exitCode = 0 ↔ stream.takes text = true := by
  rw [Outcome.saying]
  cases htakes : stream.takes text with
  | true => simp [h]
  | false => simp

theorem Outcome.disk_saying (outcome : Outcome) (stream : OutputStream) (text : String) :
    (outcome.saying stream text).disk = outcome.disk := by
  rw [Outcome.saying]
  split
  · rfl
  · rfl

theorem failed_disk (disk : Disk) (output report : String) (failure : Failure) :
    (failed disk output report failure).exitCode ≠ 0 ∧
      (failed disk output report failure).disk = disk := by
  rw [failed]
  split
  · exact ⟨Nat.one_ne_zero, rfl⟩
  · exact ⟨Nat.one_ne_zero, rfl⟩

theorem ends_runAnnounced (stream : OutputStream) (root : String) (disk : Disk) (isVerbose : Bool)
    (config : Config) (file : Path) (scanning : String) :
    Ends stream root disk config file
      (runAnnounced stream root disk isVerbose config file scanning) := by
  rw [runAnnounced]
  rcases hgenerated : generated root disk config file with ⟨result, events⟩
  cases result with
  | error failure =>
      obtain ⟨hexit, hdisk⟩ := failed_disk disk scanning (logLines isVerbose events) failure
      exact .failed hexit (congrArg Disk.files hdisk)
  | ok document =>
      dsimp only
      rcases OpenApi.output_cases disk document (infoOf config) config.outputFolder
          OpenApi.outputName with
        ⟨⟨fault, houtcome⟩, hfiles⟩ | ⟨object, segments, hobject, houtcome, hreplaced⟩
      · rw [houtcome]
        cases fault with
        | unwritable target cause => exact .failed Nat.one_ne_zero hfiles
        | misshapen misshape => exact .failed Nat.one_ne_zero hfiles
        | path fault => exact .failed Nat.one_ne_zero hfiles
      · rw [houtcome]
        refine .saved ⟨document, object, ?_, hobject, rfl⟩ (?_ : disk.Replaced _ _ segments _) ?_
        · rw [hgenerated]
        · rw [Outcome.disk_saying]
          exact hreplaced
        · exact Outcome.exitCode_saying _ stream _ rfl

theorem ends_runGenerate (stream : OutputStream) (root : String) (disk : Disk) (isVerbose : Bool)
    (config : Config) (file : Path) :
    Ends stream root disk config file (runGenerate stream root disk isVerbose config file) := by
  rw [runGenerate]
  split
  · exact ends_runAnnounced stream root disk isVerbose config file _
  · exact .failed Nat.one_ne_zero rfl

/-! ## The command and its arguments -/

/-- The configuration and the router file that the arguments of a command lead to. -/
def Resolves (disk : Disk) (arguments : Arguments) (config : Config) (file : Path) : Prop :=
  arguments.has .help = false ∧
    ∃ router base, checkArguments disk arguments = .ok router ∧ baseConfig disk arguments = .ok base ∧
      config = override base arguments router ∧ config.routerFile = some file

theorem disk_runRoutes (stream : OutputStream) (root : String) (disk : Disk) (isVerbose : Bool)
    (config : Config) (file : Path) :
    (runRoutes stream root disk isVerbose config file).disk = disk := by
  rw [runRoutes]
  split
  · exact (failed_disk disk _ _ _).2
  · rfl

/-- A command leaves the disk alone, and then it fails or shows help, or it runs with the
configuration and the router file that its arguments lead to. -/
theorem runCommand_cases (stream : OutputStream) (root : String) (disk : Disk) (isVerbose : Bool)
    (command : Command) (arguments : Arguments) :
    ((runCommand stream root disk isVerbose command arguments).disk = disk ∧
      ((runCommand stream root disk isVerbose command arguments).exitCode = 0 →
        command = .generate → arguments.has .help = true)) ∨
    ∃ config file, Resolves disk arguments config file ∧ command = .generate ∧
      runCommand stream root disk isVerbose command arguments =
        runGenerate stream root disk isVerbose config file := by
  rw [runCommand]
  cases hhelp : arguments.has .help with
  | true => exact .inl ⟨rfl, fun _ _ => rfl⟩
  | false =>
      cases hcheck : checkArguments disk arguments with
      | error refusal =>
          cases refusal with
          | misuse misuse => exact .inl ⟨rfl, nofun⟩
          | path fault => exact .inl ⟨rfl, nofun⟩
      | ok router =>
          cases hbase : baseConfig disk arguments with
          | error fault =>
              dsimp only
              cases hmessage : fault.message? with
              | some message => exact .inl ⟨rfl, nofun⟩
              | none => exact .inl ⟨rfl, nofun⟩
          | ok base =>
              dsimp only
              cases hfile : (override base arguments router).routerFile with
              | none => exact .inl ⟨rfl, nofun⟩
              | some file =>
                  cases command with
                  | generate =>
                      exact .inr ⟨_, file, ⟨hhelp, router, base, hcheck, hbase, rfl, hfile⟩, rfl, rfl⟩
                  | routes => exact .inl ⟨disk_runRoutes stream root disk isVerbose _ file, nofun⟩

/-- An argument list calls a command with arguments of its own. -/
def Calls (arguments : List String) (command : Command) (own : Arguments) : Prop :=
  arguments.isEmpty = false ∧
    ∃ common name rest, readArguments commonSwitches false arguments = .ok common ∧
      common.has .help = false ∧ common.free = name :: rest ∧ Command.ofName? name = some command ∧
      readArguments command.switches true rest = .ok own

theorem Calls.execute_eq {arguments : List String} {command : Command} {own : Arguments}
    (h : Calls arguments command own) (stream : OutputStream) (root : String) (disk : Disk) :
    ∃ isVerbose, execute stream root disk arguments = runCommand stream root disk isVerbose command own := by
  obtain ⟨hsome, common, name, rest, hcommon, hhelp, hfree, hname, hown⟩ := h
  refine ⟨common.has .verbose, ?_⟩
  simp only [execute, hsome, hcommon, hhelp, hfree, hname, hown, Bool.false_eq_true, if_false]

theorem Calls.unique {arguments : List String} {command other : Command} {own otherOwn : Arguments}
    (h : Calls arguments command own) (hother : Calls arguments other otherOwn) :
    command = other ∧ own = otherOwn := by
  obtain ⟨_, common, name, rest, hcommon, _, hfree, hname, hown⟩ := h
  obtain ⟨_, common, name, rest, hcommon', _, hfree', hname', hown'⟩ := hother
  cases hcommon.symm.trans hcommon'
  cases hfree.symm.trans hfree'
  cases hname.symm.trans hname'
  cases hown.symm.trans hown'
  exact ⟨rfl, rfl⟩

theorem disk_unknownCommand (disk : Disk) (name : String) (rest : List String) :
    (unknownCommand disk name rest).disk = disk := by
  simp only [unknownCommand]
  split
  · split
    · rfl
    · split
      · rfl
      · rfl
  · rfl

/-- A run that calls no command leaves the disk alone. -/
theorem calls_or_disk_execute (stream : OutputStream) (root : String) (disk : Disk)
    (arguments : List String) :
    (∃ command own, Calls arguments command own) ∨
      (execute stream root disk arguments).disk = disk := by
  rw [execute]
  cases hsome : arguments.isEmpty with
  | true => exact .inr rfl
  | false =>
      cases hcommon : readArguments commonSwitches false arguments with
      | error misuse => exact .inr rfl
      | ok common =>
          dsimp only
          cases hhelp : common.has .help with
          | true => exact .inr rfl
          | false =>
              cases hfree : common.free with
              | nil => exact .inr rfl
              | cons name rest =>
                  dsimp only
                  cases hname : Command.ofName? name with
                  | none => exact .inr (disk_unknownCommand disk name rest)
                  | some command =>
                      dsimp only
                      cases hown : readArguments command.switches true rest with
                      | error misuse => exact .inr rfl
                      | ok own =>
                          exact .inl ⟨command, own, hsome, common, name, rest, hcommon, hhelp, hfree,
                            hname, hown⟩

/-- A run of a command with these arguments leaves this disk after it has saved the document: the
target holds its text, and every other file is as it was. -/
def Saves (root : String) (disk : Disk) (own : Arguments) (target : Path) (segments : List Text)
    (text : String) (stop : Disk) : Prop :=
  ∃ config file, Resolves disk own config file ∧ target = targetOf config ∧
    Documents root disk config file text ∧ disk.Replaced stop target segments text

/-- A run saves the document and succeeds exactly if the standard output takes its closing line, or it
leaves every file alone, and then it fails unless something else than a document was asked for. -/
theorem execute_cases (stream : OutputStream) (root : String) (disk : Disk) (arguments : List String) :
    ((execute stream root disk arguments).disk.files = disk.files ∧
      ((execute stream root disk arguments).exitCode = 0 → ∀ own, Calls arguments .generate own →
        own.has .help = true)) ∨
    ∃ own target segments text, Calls arguments .generate own ∧
      Saves root disk own target segments text (execute stream root disk arguments).disk ∧
      ((execute stream root disk arguments).exitCode = 0 ↔ stream.takes (closingLine target) = true) := by
  by_cases hcalls : ∃ command own, Calls arguments command own
  · obtain ⟨command, own, hcalls⟩ := hcalls
    obtain ⟨isVerbose, hrun⟩ := hcalls.execute_eq stream root disk
    rw [hrun]
    rcases runCommand_cases stream root disk isVerbose command own with
      ⟨hdisk, hexit⟩ | ⟨config, file, hresolves, rfl, hgenerate⟩
    · refine .inl ⟨congrArg Disk.files hdisk, fun hzero other hother => ?_⟩
      obtain ⟨hcommand, rfl⟩ := hcalls.unique hother
      exact hexit hzero hcommand
    · rw [hgenerate]
      cases ends_runGenerate stream root disk isVerbose config file with
      | failed hexit hfiles => exact .inl ⟨hfiles, fun hzero => absurd hzero hexit⟩
      | saved hdocument hreplaced hexit =>
          exact .inr ⟨own, _, _, _, hcalls, ⟨config, file, hresolves, rfl, hdocument, hreplaced⟩,
            hexit⟩
  · refine .inl ⟨?_, fun _ own hown => absurd ⟨_, own, hown⟩ hcalls⟩
    exact congrArg Disk.files ((calls_or_disk_execute stream root disk arguments).resolve_left hcalls)

/-- **What a run does to the files.** A failing run keeps every file as it was, unless it has saved a
document over another one and its standard output does not take the closing line; over a stream that takes
every line, a failing run keeps every file. A run of `generate` that succeeds, without a call for help, has
saved the document, and no other file has changed. -/
theorem run_keeps_files_iff (stream : OutputStream) (root : String) (disk : Disk)
    (arguments : List String) :
    ((run stream root disk arguments).exitCode ≠ 0 →
      (disk.Keeps (run stream root disk arguments).disk ↔
        ¬ ∃ own target segments text old, Calls arguments .generate own ∧
          Saves root disk own target segments text (run stream root disk arguments).disk ∧
          stream.takes (closingLine target) = false ∧
          disk.files.get? segments = some old ∧ old ≠ Disk.encode text.toList)) ∧
    ((run stream root disk arguments).exitCode = 0 → ∀ own, Calls arguments .generate own →
      own.has .help = false → ∃ target segments text,
        Saves root disk own target segments text (run stream root disk arguments).disk) := by
  have hdisk : (run stream root disk arguments).disk = (execute stream root disk arguments).disk := by
    simp only [run]
  have hcode : (run stream root disk arguments).exitCode = (execute stream root disk arguments).exitCode := by
    simp only [run]
  rw [hdisk, hcode]
  -- a file that was saved over another one is not kept, however the run ended
  have hover : disk.Keeps (execute stream root disk arguments).disk →
      ¬ ∃ own target segments text old, Calls arguments .generate own ∧
        Saves root disk own target segments text (execute stream root disk arguments).disk ∧
        stream.takes (closingLine target) = false ∧
        disk.files.get? segments = some old ∧ old ≠ Disk.encode text.toList := by
    rintro hkeeps ⟨own, target, segments, text, old, _, ⟨_, _, _, _, _, hreplaced⟩, _, hold, hne⟩
    exact hne (hreplaced.keeps_iff.1 hkeeps old hold)
  rcases execute_cases stream root disk arguments with
    ⟨hfiles, hhelp⟩ | ⟨own, target, segments, text, hcalls, hsaves, hexit⟩
  -- every file is as it was, so a run that succeeds has only shown help
  · refine ⟨fun _ => ⟨hover, fun _ => Disk.keeps_of_files_eq hfiles⟩, fun hzero own hown hasked => ?_⟩
    rw [hhelp hzero own hown] at hasked
    cases hasked
  -- the document is saved, so a run that fails could not print its closing line
  · constructor
    · intro hfails
      refine ⟨hover, fun hnone => ?_⟩
      have hrefused : stream.takes (closingLine target) = false :=
        Bool.eq_false_iff.2 fun htakes => hfails (hexit.2 htakes)
      obtain ⟨_, _, _, _, _, hreplaced⟩ := id hsaves
      refine hreplaced.keeps_iff.2 fun old hold => ?_
      by_contra hne
      exact hnone ⟨own, target, segments, text, old, hcalls, hsaves, hrefused, hold, hne⟩
    · intro _ other hother _
      obtain ⟨_, rfl⟩ := hcalls.unique hother
      exact ⟨target, segments, text, hsaves⟩

/-- A disk with a document, an empty router file, and settings that name the folder of the document
by way of one whose name is half a character. -/
def documented : Disk where
  files :=
    [(["main.ts".toList], ByteArray.empty),
     (["c.yaml".toList], "output_dir: \"x\\udc80/../out\"\n".toUTF8),
     (["out".toList, "openapi-docs.yml".toList], "old\n".toUTF8)]
  folders := []

/-- The arguments of a run with these settings. -/
def detour : List String := ["-v", "generate", "main.ts", "-c", "c.yaml"]

theorem detour_run :
    (run .strict "/w" documented detour).exitCode = 1 ∧
      (run .strict "/w" documented detour).disk.files.get? ["out".toList, "openapi-docs.yml".toList] ≠
        some "old\n".toUTF8 := by
  decide +kernel

theorem not_keeps_detour : ¬ documented.Keeps (run .strict "/w" documented detour).disk := by
  intro hkeeps
  apply detour_run.2
  apply hkeeps
  rfl

/-- The run by way of the folder has saved over the document, and one that names its folder as it is
saves it and succeeds. -/
theorem documented_runs :
    ((run .strict "/w" documented detour).exitCode ≠ 0 ∧
      ∃ own target segments text old, Calls detour .generate own ∧
        Saves "/w" documented own target segments text (run .strict "/w" documented detour).disk ∧
        OutputStream.strict.takes (closingLine target) = false ∧
        documented.files.get? segments = some old ∧ old ≠ Disk.encode text.toList) ∧
    ((run .strict "/w" documented ["generate", "main.ts", "-o", "out"]).exitCode = 0 ∧
      ∃ own target segments text, Calls ["generate", "main.ts", "-o", "out"] .generate own ∧
        Saves "/w" documented own target segments text
          (run .strict "/w" documented ["generate", "main.ts", "-o", "out"]).disk) := by
  constructor
  · have hexit : (run .strict "/w" documented detour).exitCode ≠ 0 := by
      rw [detour_run.1]
      exact Nat.one_ne_zero
    refine ⟨hexit, ?_⟩
    by_contra hnone
    exact not_keeps_detour (((run_keeps_files_iff .strict "/w" documented detour).1 hexit).2 hnone)
  · have hexit : (run .strict "/w" documented ["generate", "main.ts", "-o", "out"]).exitCode = 0 := by
      decide +kernel
    have hcalls : Calls ["generate", "main.ts", "-o", "out"] .generate
        { given := [⟨.output, "out"⟩], free := ["main.ts"] } :=
      ⟨rfl, { free := ["generate", "main.ts", "-o", "out"] }, _, _, rfl, rfl, rfl, rfl, rfl⟩
    obtain ⟨target, segments, text, hsaves⟩ :=
      (run_keeps_files_iff .strict "/w" documented ["generate", "main.ts", "-o", "out"]).2 hexit _ hcalls rfl
    exact ⟨hexit, _, target, segments, text, hcalls, hsaves⟩

/-- **A failing run that overwrites a document.** The document is replaced although the run fails. -/
theorem detour_overwrites :
    (run .strict "/w" documented detour).exitCode ≠ 0 ∧
      ¬ documented.Keeps (run .strict "/w" documented detour).disk := by
  constructor
  · rw [detour_run.1]
    exact Nat.one_ne_zero
  · exact not_keeps_detour

end RouteAtlas.CommandLine
