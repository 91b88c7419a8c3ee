import CompileCommands.Proofs.BuildLog.Margins
import CompileCommands.Proofs.Files.Writing
import CompileCommands.Proofs.Program.Endings
import CompileCommands.Proofs.Program.Sending

/-!
# All or nothing

A run that succeeds delivers the whole database to one place, and touches nothing else. A run that
fails touches no file. The place is the one on the command line, or else the one in the
configuration, or else the default one, and the database holds the records of all build logs as they
were before the run, even if its place is one of them.

A place may lead to a device. No file is touched then. If it is the device that stands for standard
output, the database is seen there, as if the place were a hyphen. And standard output may refuse a
part of the database. This is a failure, but the front of the database is out by then.

## Main definitions

* `Options.place`: where a run delivers.
* `Workspace.Delivers`: one text has been delivered, and nothing else has changed.
* `Workspace.CutOff`: standard output has taken the front of a text.

## Main results

* `Program.delivers_or_unchanged`: a run delivers the database or changes no file.
-/

namespace CompileCommands

/-- The place at which a run delivers the database, given its configuration. -/
def Options.place (options : Options) (config : Config) : String :=
  (options.output?.or config.output?).getD Settings.defaultOutput

namespace Workspace

/-- A text has been delivered at a place, and nothing else has changed. Standard output was empty
before. -/
inductive Delivers (before after : Workspace) (place text : String) : Prop
  /-- At a hyphen the text is all that is on standard output, and the files are as they were. -/
  | hyphen (hplace : place = "-") (houtput : after.output = text.toUTF8.data.toList)
    (hfiles : after.files = before.files)
  /-- At a file the text is its content, every other file is as it was, and nothing is on standard
  output. -/
  | file {location : Location} (hplace : place ≠ "-") (hdevice : before.device? place = none)
    (hover : before.files.Overwrites after.files place location text.toUTF8.data.toList)
    (houtput : after.output = [])
  /-- At a device the files are as they were, and nothing is on standard output, unless the device
  stands for it. -/
  | device {device : Device} (hplace : place ≠ "-") (hdevice : before.device? place = some device)
    (hfiles : after.files = before.files)
    (houtput : after.output = if device = .output then text.toUTF8.data.toList else [])

/-- Of a text that should have gone to standard output, the front is there, up to the limit. -/
structure CutOff (before after : Workspace) (place text : String) : Prop where
  /-- The place leads to standard output. -/
  leads : place = "-" ∨ before.device? place = some .output
  /-- The limit does not let all of the text pass. -/
  exists_limit : ∃ limit, before.outlet.limit? = some limit ∧
    limit < text.toUTF8.data.toList.length ∧ after.output = text.toUTF8.data.toList.take limit

/-! ### What writing to a place does -/

section Place

variable {before after : Workspace} {lines : List String} {place text : String}

/-- What is written to a place goes to standard output if the place is a hyphen, or if its device
stands for standard output. -/
theorem leadsOut_ofText_iff :
    before.LeadsOut (.ofText place) ↔ place = "-" ∨ before.device? place = some .output := by
  by_cases hplace : place = "-"
  · rw [hplace]
    exact ⟨fun _ => .inl rfl, fun _ => trivial⟩
  · have hfile : Destination.ofText place = .file place := if_neg hplace
    rw [hfile, or_iff_right hplace]
    rfl

/-- A text that has been written to a place has been delivered there. -/
theorem Sends.delivers (hfresh : before.output = [])
    (h : Sends (before.say lines) text.toUTF8.data.toList (.ofText place) (.ok ()) after)
    (more : List String) : before.Delivers (after.say more) place text := by
  generalize houtput : Destination.ofText place = output at h
  cases h with
  | taken hout =>
    rw [← houtput, leadsOut_ofText_iff] at hout
    have htaken : (before.say lines).output ++ text.toUTF8.data.toList =
        text.toUTF8.data.toList := by
      rw [output_say, hfresh, List.nil_append]
    by_cases hplace : place = "-"
    · exact .hyphen hplace htaken rfl
    · exact .device hplace (hout.resolve_left hplace) rfl (htaken.trans (if_pos rfl).symm)
  | stored hdevice hwrite =>
    obtain ⟨rfl, hplace⟩ := Destination.ofText_eq_file_iff.1 houtput
    obtain ⟨location, hover⟩ := FileTree.overwrites_of_write hwrite
    exact .file hplace hdevice hover hfresh
  | absorbed hdevice hne =>
    obtain ⟨rfl, hplace⟩ := Destination.ofText_eq_file_iff.1 houtput
    exact .device hplace hdevice rfl (hfresh.trans (if_neg hne).symm)

/-- A text that could not be written to a place has not left anything on standard output, or has
been cut off there. -/
theorem Sends.unchanged_or_cutOff {cause : FileError} (hfresh : before.output = [])
    (h : Sends (before.say lines) text.toUTF8.data.toList (.ofText place) (.error cause) after) :
    after.output = [] ∨ before.CutOff after place text := by
  have hlength : (before.say lines).output.length = 0 := by rw [output_say, hfresh, List.length_nil]
  rcases h.output_cases with hsame | ⟨limit, hout, hlimit, hlt, hfront⟩
  · exact .inl (hsame.trans hfresh)
  · rw [hlength, Nat.sub_zero] at hlt hfront
    rw [output_say, hfresh, List.nil_append] at hfront
    exact .inr ⟨leadsOut_ofText_iff.1 hout, limit, hlimit, hlt, hfront⟩

end Place

/-- The settings say that the database goes to the place that a run delivers at. -/
theorem settings_eq_ok {workspace : Workspace} {options : Options} {settings : Settings}
    (h : workspace.settings options = .ok settings) :
    ∃ config, workspace.config options.config? = .ok config ∧
      settings.output = .ofText (options.place config) := by
  rw [Workspace.settings] at h
  cases hconfig : workspace.config options.config? with
  | error failure =>
    rw [hconfig] at h
    cases h
  | ok config =>
    rw [hconfig] at h
    cases h
    exact ⟨config, rfl, rfl⟩

end Workspace

namespace Program

/-! ### Whole runs -/

variable {before after : Workspace} {options : Options}

/-- A run that ends well has delivered the database of its build logs. -/
theorem Ends.delivers (h : Ends before options (.ok ()) after) (hfresh : before.output = []) :
    ∃ config logs, before.config options.config? = .ok config ∧
      before.logs options.inputs = .ok logs ∧
      before.Delivers after (options.place config)
        (Database.print ⟨logs.flatMap BuildLog.records⟩) := by
  cases h with
  | written hsettings hlogs hparts hput =>
    obtain ⟨config, hconfig, houtput⟩ := Workspace.settings_eq_ok hsettings
    rw [BuildLog.ofParts_recordsByLog? hparts, houtput, Workspace.counted_eq_say] at hput
    exact ⟨config, _, hconfig, hlogs, (Workspace.sends_of_put_eq_ok hput).delivers hfresh _⟩

/-- A run that ends in a failure has left the files as they were, and standard output too, unless
the database has been cut off there. -/
theorem Ends.unchanged_or_cutOff {failure : Failure}
    (h : Ends before options (.error failure) after) (hfresh : before.output = []) :
    after.files = before.files ∧ (after.output = [] ∨
      ∃ config logs, before.config options.config? = .ok config ∧
        before.logs options.inputs = .ok logs ∧
        before.CutOff after (options.place config)
          (Database.print ⟨logs.flatMap BuildLog.records⟩)) := by
  cases h with
  | unsettled => exact ⟨rfl, .inl hfresh⟩
  | unread | blank => exact ⟨Workspace.files_started .., .inl hfresh⟩
  | unwritten hsettings hlogs hparts hput =>
    obtain ⟨config, hconfig, houtput⟩ := Workspace.settings_eq_ok hsettings
    rw [BuildLog.ofParts_recordsByLog? hparts, houtput, Workspace.counted_eq_say] at hput
    obtain ⟨_, hsends, -⟩ := Workspace.exists_sends_of_put_eq_error hput
    exact ⟨hsends.files_eq, (hsends.unchanged_or_cutOff hfresh).imp_right fun hcut =>
      ⟨config, _, hconfig, hlogs, hcut⟩⟩

end Program

end CompileCommands
