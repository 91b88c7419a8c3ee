import CompileCommands.Proofs.Files.Contents
import CompileCommands.Proofs.Program.Stages

/-!
# What becomes of a text that is written

A text that is written to a destination ends up in one of five ways. It may go to standard output,
by the name of the stream or by its device. There all of it may be taken, or a front only, and the
rest is refused. It may become the content of a file, or disappear in a device that is none of
standard output. Or the path that is given may be refused, and then nothing happens. So nothing but
a file or one of the two streams is ever touched, and a failure touches no file.

Which of these it is does not depend on the contents of the files, nor on what has been reported.

## Main definitions

* `Workspace.LeadsOut`: what is written to a destination goes to standard output.
* `Workspace.Sends`: the five ways.
* `Workspace.WritesAlike`: two workspaces in which everything that is written ends up alike.

## Main results

* `Workspace.sends_deliver`: the ways are all there are.
* `Workspace.Sends.output_cases`: what a failure leaves on standard output.
* `Workspace.WritesAlike.put_eq`: a database is written in both of two such workspaces, or in
  neither.
-/

namespace CompileCommands.Workspace

/-- What is written to a destination goes to standard output. -/
def LeadsOut (workspace : Workspace) : (output : Destination) → Prop
  | .stdout => True
  | .file path => workspace.device? path = some .output

/-- What may become of bytes that are written to a destination. -/
inductive Sends (before : Workspace) (bytes : List UInt8) :
    Destination → Except FileError Unit → Workspace → Prop
  /-- Standard output takes all of them. -/
  | taken {output : Destination} (hout : before.LeadsOut output)
    (hfits : ∀ limit ∈ before.outlet.limit?, bytes.length ≤ limit - before.output.length) :
    Sends before bytes output (.ok ()) { before with output := before.output ++ bytes }
  /-- Standard output takes a front and refuses the rest. -/
  | cutOff {output : Destination} {limit : Nat} (hout : before.LeadsOut output)
    (hlimit : before.outlet.limit? = some limit)
    (hlt : limit - before.output.length < bytes.length) :
    Sends before bytes output (.error before.outlet.refusal)
      { before with output := before.output ++ bytes.take (limit - before.output.length) }
  /-- They become the content of a file. -/
  | stored {path : String} {files : FileTree} (hdevice : before.device? path = none)
    (hwrite : before.files.write path bytes = .ok files) :
    Sends before bytes (.file path) (.ok ()) { before with files }
  /-- They disappear in a device, and may be seen on standard error. -/
  | absorbed {path : String} {device : Device} (hdevice : before.device? path = some device)
    (hne : device ≠ .output) :
    Sends before bytes (.file path) (.ok ())
      { before with errors := before.errors ++ device.echo bytes }
  /-- The path is refused. -/
  | refused {path : String} {cause : FileError} (hslot : before.files.slot path = .error cause) :
    Sends before bytes (.file path) (.error cause) before

variable {before after : Workspace} {bytes : List UInt8} {output : Destination}

/-- Standard output takes all of the bytes or a front. -/
private theorem sends_send (bytes : List UInt8) (hout : before.LeadsOut output) :
    Sends before bytes output (before.send bytes).1 (before.send bytes).2 := by
  rw [send]
  cases hlimit : before.outlet.limit? with
  | none => exact .taken hout fun limit h => by rw [hlimit] at h; cases h
  | some limit =>
    dsimp only
    by_cases hfits : bytes.length ≤ limit - before.output.length
    · rw [if_pos hfits, List.take_of_length_le hfits]
      refine .taken hout fun other h => ?_
      rw [hlimit] at h
      cases h
      exact hfits
    · rw [if_neg hfits]
      exact .cutOff hout hlimit (Nat.lt_of_not_le hfits)

/-- **The ways in which a text may end up.** -/
theorem sends_deliver (before : Workspace) (text : String) (output : Destination) :
    Sends before text.toUTF8.data.toList output (before.deliver text output).1
      (before.deliver text output).2 := by
  cases output with
  | stdout => exact sends_send _ trivial
  | file path =>
    rw [deliver, store]
    cases hwrite : before.files.write path text.toUTF8.data.toList with
    | error cause => exact .refused (FileTree.write_eq_error_iff.1 hwrite)
    | ok files =>
      dsimp only
      cases hdevice : before.device? path with
      | none => exact .stored hdevice hwrite
      | some device =>
        dsimp only
        cases device with
        | output => exact sends_send _ hdevice
        | null | input | errors => exact .absorbed hdevice (by decide)

section Put

variable {database : Database}

/-- A database that has been written has ended up in one of these ways. -/
theorem sends_of_put_eq_ok (h : before.put database output = (.ok (), after)) :
    Sends before database.print.toUTF8.data.toList output (.ok ()) after := by
  have hsends := before.sends_deliver database.print output
  rw [put] at h
  rcases hsent : before.deliver database.print output with ⟨_ | _, sent⟩
  · rw [hsent] at h
    cases h
  · rw [hsent] at hsends h
    cases h
    exact hsends

/-- And so has a database that could not be written, where the failure names its destination. -/
theorem exists_sends_of_put_eq_error {failure : Failure}
    (h : before.put database output = (.error failure, after)) :
    ∃ cause, Sends before database.print.toUTF8.data.toList output (.error cause) after ∧
      failure = .file output.place cause := by
  have hsends := before.sends_deliver database.print output
  rw [put] at h
  rcases hsent : before.deliver database.print output with ⟨cause | _, sent⟩
  · rw [hsent] at hsends h
    cases h
    exact ⟨cause, hsends, rfl⟩
  · rw [hsent] at h
    cases h

end Put

namespace Sends

/-- A failure leaves the files as they were. -/
theorem files_eq {cause : FileError} (h : Sends before bytes output (.error cause) after) :
    after.files = before.files := by
  cases h <;> rfl

/-- A failure is not reported yet. -/
theorem errors_eq_of_error {cause : FileError}
    (h : Sends before bytes output (.error cause) after) : after.errors = before.errors := by
  cases h <;> rfl

/-- Nothing is seen on standard error, unless its device is written to. -/
theorem errors_eq {result : Except FileError Unit} (h : Sends before bytes output result after)
    (hsilent : ∀ path, output = .file path → before.device? path ≠ some .errors) :
    after.errors = before.errors := by
  cases h with
  | taken | cutOff | stored | refused => rfl
  | @absorbed path device hdevice =>
    cases device with
    | errors => exact absurd hdevice (hsilent path rfl)
    | null | input | output => exact String.append_empty

/-- A failure leaves nothing on standard output, or a front of what should have gone there. -/
theorem output_cases {cause : FileError} (h : Sends before bytes output (.error cause) after) :
    after.output = before.output ∨
      ∃ limit, before.LeadsOut output ∧ before.outlet.limit? = some limit ∧
        limit - before.output.length < bytes.length ∧
        after.output = before.output ++ bytes.take (limit - before.output.length) := by
  cases h with
  | cutOff hout hlimit hlt => exact .inr ⟨_, hout, hlimit, hlt, rfl⟩
  | refused => exact .inl rfl

end Sends

/-! ### Workspaces in which everything ends up alike -/

/-- Standard output does not depend on the rest of a workspace. -/
theorem send_congr {workspace other : Workspace} (houtlet : workspace.outlet = other.outlet)
    (houtput : workspace.output = other.output) (bytes : List UInt8) :
    (workspace.send bytes).1 = (other.send bytes).1 ∧
      (workspace.send bytes).2.output = (other.send bytes).2.output := by
  rw [send, send, houtlet, houtput]
  cases other.outlet.limit? <;> exact ⟨rfl, rfl⟩

/-- What is written ends up alike in two workspaces: they have the same devices, and standard output
takes the same in both, while the files may differ in their contents. -/
structure WritesAlike (workspace other : Workspace) : Prop where
  /-- The files may differ in their contents only. -/
  sameShape : FileTree.SameShape workspace.files other.files
  /-- The devices are the same. -/
  devices_eq : workspace.devices = other.devices
  /-- Standard output takes the same. -/
  outlet_eq : workspace.outlet = other.outlet
  /-- The same has been written to standard output. -/
  output_eq : workspace.output = other.output

namespace WritesAlike

variable {workspace other : Workspace}

theorem device?_eq (h : workspace.WritesAlike other) (path : String) :
    workspace.device? path = other.device? path := by
  rw [device?, device?, h.sameShape.location?_eq, h.devices_eq]

private theorem deliver_eq (h : workspace.WritesAlike other) (text : String)
    (output : Destination) :
    (workspace.deliver text output).1 = (other.deliver text output).1 ∧
      (workspace.deliver text output).2.output = (other.deliver text output).2.output := by
  cases output with
  | stdout => exact send_congr h.outlet_eq h.output_eq _
  | file path =>
    rw [deliver, deliver, store, store, FileTree.write_eq_map_slot, FileTree.write_eq_map_slot,
      h.sameShape.slot_eq, h.device?_eq]
    cases other.files.slot path with
    | error cause => exact ⟨rfl, h.output_eq⟩
    | ok location =>
      cases other.device? path with
      | none => exact ⟨rfl, h.output_eq⟩
      | some device =>
        cases device with
        | output => exact send_congr h.outlet_eq h.output_eq _
        | null | input | errors => exact ⟨rfl, h.output_eq⟩

/-- A database is written in both of the workspaces, or it fails in both for the same reason, and
the same is on standard output afterwards. -/
theorem put_eq (h : workspace.WritesAlike other) (database : Database) (output : Destination) :
    (workspace.put database output).1 = (other.put database output).1 ∧
      (workspace.put database output).2.output = (other.put database output).2.output := by
  obtain ⟨hresult, houtput⟩ := h.deliver_eq database.print output
  exact ⟨congrArg (Except.mapError _) hresult, houtput⟩

/-- The same is on standard output once a database has been written in both of the workspaces. -/
theorem output_eq_of_put (h : workspace.WritesAlike other) {database : Database}
    {output : Destination} {result result' : Except Failure Unit} {after after' : Workspace}
    (hput : workspace.put database output = (result, after))
    (hput' : other.put database output = (result', after')) : after.output = after'.output := by
  have houtput := (h.put_eq database output).2
  rwa [hput, hput'] at houtput

end WritesAlike

end CompileCommands.Workspace
